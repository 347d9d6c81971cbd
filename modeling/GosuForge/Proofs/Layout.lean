import GosuForge.Layout.Writer

/-!
# Layouts of scripts

A script that comes back to the depth where it starts, and never above it, can be said by its
layout: its lines, each with its depth below the start.

* `Script.layout`, `Script.Balanced`: the layout, and coming back;
* `Writer.run_of_balanced`: running a balanced script appends its layout at the depth of the writer.
-/

namespace GosuForge

/-- Lines, each with its depth. -/
abbrev Layout := List (Nat × String)

namespace Layout

/-- The same lines some levels deeper. -/
def shift (levels : Nat) (l : Layout) : Layout := l.map fun (depth, text) => (depth + levels, text)

/-- The lines as they stand at a depth. -/
def linesAt (indentText : String) (depth : Nat) (l : Layout) : List String :=
  l.map fun (k, text) => Writer.lineAt indentText (depth + k) text

theorem shift_append (levels : Nat) (l l' : Layout) :
    shift levels (l ++ l') = shift levels l ++ shift levels l' := by
  simp [shift]

end Layout

namespace Script

/-- The lines of a script that starts at a depth. -/
def layoutFrom (depth : Nat) : Script → Layout
  | [] => []
  | .line text :: rest => (depth, text) :: layoutFrom depth rest
  | .indent :: rest => layoutFrom (depth + 1) rest
  | .outdent :: rest => layoutFrom (depth - 1) rest

/-- The depth after a script that starts at a depth, unless it comes above depth zero. -/
def depthAfter (depth : Nat) : Script → Option Nat
  | [] => some depth
  | .line _ :: rest => depthAfter depth rest
  | .indent :: rest => depthAfter (depth + 1) rest
  | .outdent :: rest => if depth = 0 then none else depthAfter (depth - 1) rest

abbrev layout (s : Script) : Layout := layoutFrom 0 s

/-- The script comes back to the depth where it starts, and never above it. -/
def Balanced (s : Script) : Prop := depthAfter 0 s = some 0

/-- The script ends one level below the depth where it starts, and never comes above that depth. -/
def Opens (s : Script) : Prop := depthAfter 0 s = some 1

theorem depthAfter_append (k : Nat) (s t : Script) :
    depthAfter k (s ++ t) = (depthAfter k s).bind fun k => depthAfter k t := by
  induction s generalizing k with
  | nil => rfl
  | cons move s ih =>
    cases move with
    | line text => exact ih k
    | indent => exact ih (k + 1)
    | outdent =>
      simp only [List.cons_append, depthAfter]
      split
      · rfl
      · exact ih (k - 1)

theorem layoutFrom_append {k k' : Nat} {s : Script} (h : depthAfter k s = some k') (t : Script) :
    layoutFrom k (s ++ t) = layoutFrom k s ++ layoutFrom k' t := by
  induction s generalizing k with
  | nil =>
    cases h
    rfl
  | cons move s ih =>
    cases move with
    | line text => exact congrArg ((k, text) :: ·) (ih h)
    | indent => exact ih h
    | outdent =>
      simp only [depthAfter] at h
      split at h
      · cases h
      · exact ih h

/-- A script does the same some levels deeper. -/
theorem depthAfter_add {k k' : Nat} {s : Script} (h : depthAfter k s = some k') (levels : Nat) :
    depthAfter (k + levels) s = some (k' + levels) ∧
      layoutFrom (k + levels) s = (layoutFrom k s).shift levels := by
  induction s generalizing k with
  | nil =>
    cases h
    exact ⟨rfl, rfl⟩
  | cons move s ih =>
    cases move with
    | line text =>
      obtain ⟨hd, hl⟩ := ih h
      exact ⟨hd, congrArg ((k + levels, text) :: ·) hl⟩
    | indent =>
      rw [depthAfter, layoutFrom, Nat.add_right_comm]
      exact ih h
    | outdent =>
      rw [depthAfter] at h
      split at h
      · cases h
      · rename_i hk
        rw [depthAfter, if_neg (by omega), layoutFrom, layoutFrom, Nat.sub_add_comm (by omega)]
        exact ih h

theorem layoutFrom_map_line (depth : Nat) (lines : List String) :
    layoutFrom depth (lines.map .line) = lines.map fun text => (depth, text) := by
  induction lines with
  | nil => rfl
  | cons line lines ih => exact congrArg ((depth, line) :: ·) ih

namespace Balanced

variable {s t : Script}

theorem depthAfter (h : Balanced s) (depth : Nat) : depthAfter depth s = some depth := by
  simpa using (depthAfter_add h depth).1

theorem layoutFrom (h : Balanced s) (depth : Nat) : layoutFrom depth s = s.layout.shift depth := by
  simpa using (depthAfter_add h depth).2

theorem nil : Balanced [] := rfl

theorem line (text : String) : Balanced [.line text] := rfl

theorem append (hs : Balanced s) (ht : Balanced t) : Balanced (s ++ t) := by
  rw [Balanced, depthAfter_append, hs, Option.bind_some, ht]

theorem layout_append (hs : Balanced s) (t : Script) : layout (s ++ t) = s.layout ++ layout t :=
  layoutFrom_append hs t

theorem flatten : ∀ scripts : List Script, (∀ s ∈ scripts, Balanced s) → Balanced scripts.flatten
  | [], _ => nil
  | s :: scripts, h =>
    (h s List.mem_cons_self).append
      (flatten scripts fun t ht => h t (List.mem_cons_of_mem _ ht))

/-- Lines alone are balanced. -/
theorem map_line {α : Type} (text : α → String) (xs : List α) :
    Balanced (xs.map fun x => Move.line (text x)) := by
  induction xs with
  | nil => exact nil
  | cons x xs ih => exact ih

end Balanced

namespace Opens

variable {s t : Script}

theorem append (hs : Opens s) (ht : Balanced t) : Opens (s ++ t) := by
  rw [Opens, depthAfter_append, hs, Option.bind_some, ht.depthAfter 1]

theorem layout_append (hs : Opens s) (t : Script) : layout (s ++ t) = s.layout ++ layoutFrom 1 t :=
  layoutFrom_append hs t

end Opens

theorem Balanced.append_opens {s t : Script} (hs : Balanced s) (ht : Opens t) : Opens (s ++ t) := by
  rw [Opens, depthAfter_append, hs, Option.bind_some, ht]

end Script

namespace Writer

/-- A script that starts `k` levels below the depth `base` and ends `k'` levels below it. -/
theorem run_of_depthAfter {k k' : Nat} {s : Script} (h : s.depthAfter k = some k') {w : Writer}
    {base : Nat} (hw : w.depth = base + k) :
    w.run s = .ok { w with
      depth := base + k'
      lines := w.lines ++ (s.layoutFrom k).linesAt w.indentText base } := by
  induction s generalizing k w with
  | nil =>
    cases h
    simp [run, Script.layoutFrom, Layout.linesAt, ← hw]
  | cons move s ih =>
    cases move with
    | line text =>
      have hs := ih h (w := { w with lines := w.lines ++ [lineAt w.indentText w.depth text] }) hw
      simpa [run, perform, bind, Except.bind, Script.layoutFrom, Layout.linesAt, hw] using hs
    | indent =>
      have hs := ih h (w := { w with depth := w.depth + 1 }) (by simp only; omega)
      simpa [run, perform, bind, Except.bind, Script.layoutFrom] using hs
    | outdent =>
      simp only [Script.depthAfter] at h
      split at h
      · cases h
      · have hs := ih h (w := { w with depth := w.depth - 1 }) (by simp only; omega)
        have hd : w.depth ≠ 0 := by omega
        simpa [run, perform, bind, Except.bind, Script.layoutFrom, hd] using hs

theorem run_of_balanced {s : Script} (h : s.Balanced) (w : Writer) :
    w.run s = .ok { w with lines := w.lines ++ s.layout.linesAt w.indentText w.depth } :=
  run_of_depthAfter h rfl

end Writer

end GosuForge

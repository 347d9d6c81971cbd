import GosuForge.Proofs.Layout

/-!
# Braces and indentation

Braces are written as text, and the depth of a line is kept apart from them. In a nested layout the two
agree: a line that ends with an opening brace is closed by a brace of its own at the same depth, and
all between the two is one level deeper.

* `Layout.Nested`: how such layouts are built;
* `Layout.Nested.standsAfter`: the depth of a line is how many braces are open there;
* `Script.Nests`, `Script.OpensBody`: scripts with such layouts, and scripts that open a body.
-/

namespace GosuForge

namespace Text

/-- The text ends with an opening brace. -/
def OpensBrace (text : String) : Prop := text.toList.getLast? = some '\x7b'

instance : DecidablePred OpensBrace := fun _ => inferInstanceAs (Decidable (_ = _))

def closingBrace : String := "\x7d"

theorem not_opensBrace_closingBrace : ¬ OpensBrace closingBrace := by decide

theorem not_opensBrace_empty : ¬ OpensBrace "" := by decide

theorem ne_closingBrace {text : String} (opens : OpensBrace text) : text ≠ closingBrace := by
  rintro rfl
  exact not_opensBrace_closingBrace opens

theorem OpensBrace.append {t : String} (opens : OpensBrace t) (s : String) : OpensBrace (s ++ t) := by
  rw [OpensBrace, String.toList_append, List.getLast?_append, opens, Option.some_or]

end Text

open Text (OpensBrace closingBrace ne_closingBrace)

namespace Layout

/-- How many lines end with an opening brace. -/
def openers (l : Layout) : Nat := l.countP fun (_, text) => OpensBrace text

/-- How many lines are a closing brace. -/
def closers (l : Layout) : Nat := l.countP fun (_, text) => text = closingBrace

theorem openers_append (l l' : Layout) : openers (l ++ l') = openers l + openers l' :=
  List.countP_append

theorem closers_append (l l' : Layout) : closers (l ++ l') = closers l + closers l' :=
  List.countP_append

theorem openers_cons (k : Nat) (text : String) (l : Layout) :
    openers ((k, text) :: l) = openers l + if OpensBrace text then 1 else 0 := by
  simp [openers, List.countP_cons]

theorem closers_cons (k : Nat) (text : String) (l : Layout) :
    closers ((k, text) :: l) = closers l + if text = closingBrace then 1 else 0 := by
  simp [closers, List.countP_cons]

/-- After some lines of a layout of a depth, a line stands where their braces say: no more braces are
closed up to it than were opened, and unless it is empty it is as many levels deep as there are fewer. -/
def StandsAfter (depth : Nat) (before : Layout) (k : Nat) (text : String) : Prop :=
  closers (before ++ [(k, text)]) ≤ depth + openers before ∧
    (text ≠ "" → k + closers (before ++ [(k, text)]) = depth + openers before)

theorem StandsAfter.append {depth n k : Nat} {before : Layout} {text : String}
    (h : StandsAfter (depth + n) before k text) (front : Layout)
    (opened : openers front = closers front + n) :
    StandsAfter depth (front ++ before) k text := by
  obtain ⟨bound, stands⟩ := h
  rw [StandsAfter, List.append_assoc, closers_append, openers_append]
  refine ⟨by omega, fun some => ?_⟩
  have := stands some
  omega

/-- A line that closes no brace may be the first. -/
theorem standsAfter_nil {depth : Nat} {text : String} (other : text ≠ closingBrace) :
    StandsAfter depth [] depth text := by
  simp [StandsAfter, openers, closers, other]

/-- A brace closes the line before it that is still open. -/
theorem standsAfter_closing (depth : Nat) : StandsAfter (depth + 1) [] depth closingBrace := by
  simp [StandsAfter, openers, closers]

/-- A line of a body and of what follows is one of the inner ones, or it is the brace that closes them,
or it comes after that. -/
theorem mem_body {inner rest before after : Layout} {closing line : Nat × String}
    (e : inner ++ closing :: rest = before ++ line :: after) :
    (∃ more, inner = before ++ line :: more) ∨ (before = inner ∧ line = closing) ∨
      ∃ more, before = inner ++ closing :: more ∧ rest = more ++ line :: after := by
  rcases List.append_eq_append_iff.mp e with ⟨_ | ⟨first, more⟩, rfl, e'⟩ | ⟨_ | ⟨first, more⟩, rfl, e'⟩
  · exact .inr (.inl ⟨List.append_nil _, (List.cons.inj e').1.symm⟩)
  · obtain ⟨rfl, behind⟩ := List.cons.inj e'
    exact .inr (.inr ⟨more, rfl, behind⟩)
  · exact .inr (.inl ⟨(List.append_nil _).symm, (List.cons.inj e').1⟩)
  · obtain ⟨rfl, -⟩ := List.cons.inj e'
    exact .inl ⟨more, rfl⟩

/-- Lines of which those that end with an opening brace are closed at the same depth, in nesting order.
Empty lines stand anywhere. -/
inductive Nested : Nat → Layout → Prop
  | nil {depth : Nat} : Nested depth []
  | empty {depth k : Nat} {rest : Layout} : Nested depth rest → Nested depth ((k, "") :: rest)
  | line {depth : Nat} {text : String} {rest : Layout} : ¬ OpensBrace text → text ≠ closingBrace →
      Nested depth rest → Nested depth ((depth, text) :: rest)
  | body {depth : Nat} {text : String} {inner rest : Layout} : OpensBrace text →
      Nested (depth + 1) inner → Nested depth rest →
      Nested depth ((depth, text) :: (inner ++ (depth, closingBrace) :: rest))

namespace Nested

variable {depth : Nat} {l l' : Layout}

theorem append (h : Nested depth l) (h' : Nested depth l') : Nested depth (l ++ l') := by
  induction h with
  | nil => exact h'
  | empty _ ih => exact .empty (ih h')
  | line other plain _ ih => exact .line other plain (ih h')
  | body opens inner _ _ ih =>
    rw [List.cons_append, List.append_assoc, List.cons_append]
    exact .body opens inner (ih h')

theorem openers_eq_closers (h : Nested depth l) : l.openers = l.closers := by
  induction h with
  | nil => rfl
  | empty _ ih => simpa [openers_cons, closers_cons, closingBrace, Text.not_opensBrace_empty] using ih
  | line other plain _ ih => simpa [openers_cons, closers_cons, other, plain] using ih
  | body opens _ _ ihi ih =>
    have other := ne_closingBrace opens
    simp only [openers_cons, closers_cons, openers_append, closers_append, if_pos opens,
      if_neg other, if_neg Text.not_opensBrace_closingBrace, if_pos]
    omega

/-- The depth of a line is how many braces are open there. -/
theorem standsAfter (h : Nested depth l) {before after : Layout} {k : Nat} {text : String}
    (e : l = before ++ (k, text) :: after) : StandsAfter depth before k text := by
  induction h generalizing before after with
  | nil => cases before <;> cases e
  | empty _ ih =>
    cases before with
    | nil =>
      cases e
      exact ⟨by simp [openers, closers, closingBrace], fun some => absurd rfl some⟩
    | cons first before =>
      cases e
      exact (ih rfl).append (n := 0) [_]
        (by simp [openers, closers, closingBrace, Text.not_opensBrace_empty])
  | line other plain _ ih =>
    cases before with
    | nil =>
      cases e
      exact standsAfter_nil plain
    | cons first before =>
      cases e
      exact (ih rfl).append (n := 0) [_] (by simp [openers, closers, other, plain])
  | @body depth opening inner rest opens nested _ ihi ih =>
    have other := ne_closingBrace opens
    have opened : openers [(depth, opening)] = closers [(depth, opening)] + 1 := by
      simp [openers, closers, opens, other]
    cases before with
    | nil =>
      cases e
      exact standsAfter_nil other
    | cons first before =>
      rw [List.cons_append, List.cons.injEq] at e
      obtain ⟨rfl, e⟩ := e
      have closed : openers ([(depth, opening)] ++ inner) =
          closers ([(depth, opening)] ++ inner) + 1 := by
        rw [openers_append, closers_append, nested.openers_eq_closers, opened, Nat.add_right_comm]
      rcases mem_body e with ⟨more, inside⟩ | ⟨rfl, closing⟩ | ⟨more, rfl, behind⟩
      · exact (ihi inside).append [_] opened
      · cases closing
        simpa using (standsAfter_closing k).append _ closed
      · have balanced : openers ([(depth, opening)] ++ inner ++ [(depth, closingBrace)]) =
            closers ([(depth, opening)] ++ inner ++ [(depth, closingBrace)]) := by
          rw [openers_append, closers_append, closed]
          simp [openers, closers, Text.not_opensBrace_closingBrace]
        simpa using (ih behind).append (n := 0) _ balanced

end Nested

end Layout

namespace Script

/-- From each depth the script comes back to it, with nested lines. -/
def Nests (s : Script) : Prop :=
  ∀ depth, depthAfter depth s = some depth ∧ (layoutFrom depth s).Nested depth

namespace Nests

variable {s t : Script}

theorem nil : Nests [] := fun _ => ⟨rfl, .nil⟩

theorem empty : Nests [.line ""] := fun _ => ⟨rfl, .empty .nil⟩

theorem line {text : String} (other : ¬ OpensBrace text) (plain : text ≠ closingBrace) :
    Nests [.line text] := fun _ => ⟨rfl, .line other plain .nil⟩

theorem append (hs : Nests s) (ht : Nests t) : Nests (s ++ t) := by
  intro depth
  obtain ⟨back, lines⟩ := hs depth
  obtain ⟨back', lines'⟩ := ht depth
  rw [depthAfter_append, layoutFrom_append back, back]
  exact ⟨back', lines.append lines'⟩

theorem flatten {scripts : List Script} (h : ∀ s ∈ scripts, Nests s) : Nests scripts.flatten := by
  induction scripts with
  | nil => exact nil
  | cons s scripts ih =>
    obtain ⟨first, others⟩ := List.forall_mem_cons.mp h
    exact first.append (ih others)

/-- What stands between a line and its brace is one level deeper. -/
theorem body {text : String} (opens : OpensBrace text) (h : Nests s) :
    Nests ([.line text, .indent] ++ s ++ [.outdent, .line closingBrace]) := by
  intro depth
  obtain ⟨back, lines⟩ := h (depth + 1)
  have start : depthAfter depth [.line text, .indent] = some (depth + 1) := rfl
  have opened : depthAfter depth ([.line text, .indent] ++ s) = some (depth + 1) := by
    rw [depthAfter_append, start, Option.bind_some, back]
  rw [depthAfter_append, opened, layoutFrom_append opened, layoutFrom_append start]
  exact ⟨rfl, .body opens lines .nil⟩

theorem emptyBody {text : String} (opens : OpensBrace text) :
    Nests [.line text, .line closingBrace] :=
  fun _ => ⟨rfl, .body opens .nil .nil⟩

/-- So it is after an empty line that stands at the depth of the first one. -/
theorem spacedBody {text : String} (opens : OpensBrace text) (h : Nests s) :
    Nests ([.line text, .line "", .indent] ++ s ++ [.outdent, .line closingBrace]) := by
  intro depth
  obtain ⟨back, lines⟩ := h (depth + 1)
  have start : depthAfter depth [.line text, .line "", .indent] = some (depth + 1) := rfl
  have opened : depthAfter depth ([.line text, .line "", .indent] ++ s) = some (depth + 1) := by
    rw [depthAfter_append, start, Option.bind_some, back]
  rw [depthAfter_append, opened, layoutFrom_append opened, layoutFrom_append start]
  exact ⟨rfl, .body opens (.empty lines) .nil⟩

end Nests

/-- The script opens a body and says what stands first in it. -/
def OpensBody (s : Script) : Prop :=
  ∃ front line inner, s = front ++ ([.line line, .line "", .indent] ++ inner) ∧
    OpensBrace line ∧ Nests front ∧ Nests inner

namespace OpensBody

variable {s t : Script}

theorem append (hs : OpensBody s) (ht : Nests t) : OpensBody (s ++ t) := by
  obtain ⟨front, line, inner, rfl, opens, hf, hi⟩ := hs
  exact ⟨front, line, inner ++ t, by simp, opens, hf, hi.append ht⟩

theorem closed (hs : OpensBody s) : Nests (s ++ [.outdent, .line closingBrace]) := by
  obtain ⟨front, line, inner, rfl, opens, hf, hi⟩ := hs
  rw [List.append_assoc]
  exact hf.append (hi.spacedBody opens)

end OpensBody

end Script

end GosuForge

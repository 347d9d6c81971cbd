import GosuForge.Proofs.Layout
import GosuForge.Proofs.Lines
import Mathlib.Data.List.Forall2

/-!
# Comments left out

A script without its comments has the lines that are left when each block of the script with them is
deleted, from the line that starts it through the next one that ends it.

* `Text.withoutBlocks`: deletes blocks of lines;
* `Layout.withoutComments`, `Text.withoutComments`: the blocks of comments in a layout, and in lines as
  they are written;
* `Script.Uncommented`: the second script is the first one without comments;
* `Script.Uncommented.layout_eq`, `Script.Uncommented.linesAt_eq`: deleting the blocks yields its lines.
-/

namespace GosuForge

namespace Text

/-! ## Lines that start and end comments -/

theorem blank_copies {s : String} (h : ∀ c ∈ s.toList, isBlank c = true) (n : Nat) :
    ∀ c ∈ (copies s n).toList, isBlank c = true := by
  induction n with
  | zero => exact nofun
  | succ n ih =>
    intro c hc
    rw [copies, String.toList_append] at hc
    exact (List.mem_append.mp hc).elim (h c) (ih c)

/-- A line of a comment never looks like the end of it. -/
theorem trim_inner_ne (line : String) : trim (" * " ++ line) ≠ "*/" := by
  intro e
  have e := congrArg String.toList e
  have start : dropBlanks (" * " ++ line).toList = '*' :: ' ' :: line.toList := by
    rw [String.toList_append]
    rfl
  rw [trim, String.toList_ofList, trimChars, start] at e
  have inside : (dropBlanks ('*' :: ' ' :: line.toList).reverse).reverse <+:
      ('*' :: ' ' :: line.toList).reverse.reverse :=
    List.reverse_prefix.mpr (List.dropWhile_suffix isBlank)
  rw [e, List.reverse_reverse] at inside
  simp at inside

/-! ## Blocks of lines -/

/-- Leaves out the lines from one that starts a block through the next one that ends it. -/
def withoutBlocks {α : Type} (starts ends : α → Bool) : Bool → List α → List α
  | _, [] => []
  | true, line :: rest => withoutBlocks starts ends (!ends line) rest
  | false, line :: rest =>
    if starts line then withoutBlocks starts ends true rest
    else line :: withoutBlocks starts ends false rest

/-- The lines without the comments, where blank characters at their ends do not count. -/
def withoutComments (lines : List String) : List String :=
  withoutBlocks (fun line => trim line == "/**") (fun line => trim line == "*/") false lines

end Text

/-- The layout without the comments. -/
def Layout.withoutComments (l : Layout) : Layout :=
  Text.withoutBlocks (fun (_, text) => text == "/**") (fun (_, text) => text == " */") false l

namespace Script

/-- The second script is the first one without its comments, and has no line that starts one. -/
inductive Uncommented : Script → Script → Prop
  | nil : Uncommented [] []
  | move {move : Move} {s s' : Script} : (∀ text, move = .line text → Text.trim text ≠ "/**") →
      Uncommented s s' → Uncommented (move :: s) (move :: s')
  | comment {lines : List String} {s s' : Script} : Uncommented s s' →
      Uncommented (.line "/**" :: (lines.map (fun line => .line (" * " ++ line))
        ++ .line " */" :: s)) s'

namespace Uncommented

variable {s s' t t' : Script}

theorem append (hs : Uncommented s s') (ht : Uncommented t t') :
    Uncommented (s ++ t) (s' ++ t') := by
  induction hs with
  | nil => exact ht
  | move other _ ih => exact .move other ih
  | comment _ ih =>
    rw [List.cons_append, List.append_assoc, List.cons_append]
    exact .comment ih

theorem flatten {scripts scripts' : List Script} (h : List.Forall₂ Uncommented scripts scripts') :
    Uncommented scripts.flatten scripts'.flatten := by
  induction h with
  | nil => exact .nil
  | cons first _ ih => exact first.append ih

/-- Comments are as deep as what they stand before. -/
theorem depthAfter_eq (h : Uncommented s s') (k : Nat) : s'.depthAfter k = s.depthAfter k := by
  induction h generalizing k with
  | nil => rfl
  | @move step s s' _ _ ih =>
    cases step with
    | line text => exact ih k
    | indent => exact ih (k + 1)
    | outdent => rw [Script.depthAfter, Script.depthAfter, ih]
  | @comment lines s s' _ ih =>
    rw [Script.depthAfter]
    induction lines with
    | nil => exact ih k
    | cons line lines inner => exact inner

theorem balanced (h : Uncommented s s') (hs : s.Balanced) : s'.Balanced :=
  (h.depthAfter_eq 0).trans hs

/-- What lines are told apart by finds the starts and the ends of comments, and no others. -/
structure Finds {α : Type} (starts ends : α → Bool) (shown : Nat × String → α) : Prop where
  start : ∀ k, starts (shown (k, "/**")) = true
  other : ∀ k text, Text.trim text ≠ "/**" → starts (shown (k, text)) = false
  inner : ∀ k line, ends (shown (k, " * " ++ line)) = false
  last : ∀ k, ends (shown (k, " */")) = true

/-- Deleting the blocks that are found yields the lines of the script without comments. -/
theorem withoutBlocks_eq {α : Type} {starts ends : α → Bool} {shown : Nat × String → α}
    (finds : Finds starts ends shown) (h : Uncommented s s') (k : Nat) :
    Text.withoutBlocks starts ends false ((layoutFrom k s).map shown) =
      (layoutFrom k s').map shown := by
  induction h generalizing k with
  | nil => rfl
  | @move step s s' other _ ih =>
    cases step with
    | line text =>
      rw [layoutFrom, layoutFrom, List.map_cons, List.map_cons, Text.withoutBlocks,
        finds.other k text (other text rfl), if_neg Bool.false_ne_true, ih]
    | indent => exact ih (k + 1)
    | outdent => exact ih (k - 1)
  | @comment lines s s' _ ih =>
    rw [layoutFrom, List.map_cons, Text.withoutBlocks, finds.start, if_pos rfl]
    induction lines with
    | nil =>
      rw [List.map_nil, List.nil_append, layoutFrom, List.map_cons, Text.withoutBlocks, finds.last]
      exact ih k
    | cons line lines inner =>
      rw [List.map_cons, List.cons_append, layoutFrom, List.map_cons, Text.withoutBlocks, finds.inner]
      exact inner

theorem layout_eq (h : Uncommented s s') : s'.layout = s.layout.withoutComments := by
  have finds : Finds (fun (_, text) => text == "/**") (fun (_, text) => text == " */") id :=
    { start := fun _ => rfl
      other := fun k text other => by
        refine beq_eq_false_iff_ne.mpr ?_
        rintro rfl
        exact other (by decide)
      inner := fun k line => by
        refine beq_eq_false_iff_ne.mpr fun e => Text.trim_inner_ne line ?_
        exact (congrArg Text.trim e).trans (by decide)
      last := fun _ => rfl }
  simpa [Layout.withoutComments] using (h.withoutBlocks_eq finds 0).symm

/-- So it does in lines as they are written, if the indentation is blank. -/
theorem linesAt_eq (h : Uncommented s s') {indentText : String}
    (blank : ∀ c ∈ indentText.toList, Text.isBlank c = true) (depth : Nat) :
    s'.layout.linesAt indentText depth =
      Text.withoutComments (s.layout.linesAt indentText depth) := by
  have shown (k : Nat) {text : String} (some : text ≠ "") :
      Text.trim (Writer.lineAt indentText (depth + k) text) = Text.trim text := by
    rw [Writer.lineAt, if_neg some, Text.trim_append (Text.blank_copies blank _)]
  have finds : Finds (fun line => Text.trim line == "/**") (fun line => Text.trim line == "*/")
      fun (k, text) => Writer.lineAt indentText (depth + k) text :=
    { start := fun k => by
        rw [shown k (by decide)]
        decide
      other := fun k text other => by
        refine beq_eq_false_iff_ne.mpr ?_
        by_cases some : text = ""
        · subst some
          exact other
        · rwa [shown k some]
      inner := fun k line => by
        have some : " * " ++ line ≠ "" := by simp
        rw [shown k some]
        exact beq_eq_false_iff_ne.mpr (Text.trim_inner_ne line)
      last := fun k => by
        rw [shown k (by decide)]
        decide }
  exact (h.withoutBlocks_eq finds 0).symm

end Uncommented

end Script

end GosuForge

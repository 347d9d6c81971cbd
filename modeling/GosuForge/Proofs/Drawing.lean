import GosuForge.Console.Table
import GosuForge.Proofs.Outcome
import GosuForge.Proofs.Path

/-!
# Texts that are shown

What is wrong with a text for the console is its markup: reading it, and laying it out in a table, may
fail but never cancels what is going on.

* `Outcome.Uncancelled`: steps that do not end as cancelled;
* `Markup.uncancelled_plain`, `Markup.uncancelled_title`, `Table.uncancelled_lines`: what is shown;
* `Style.normalForm_progress`: the tag of a progress line is no style, and is taken as it stands.
-/

namespace GosuForge

namespace Outcome

variable {α β : Type}

/-- A step that does not end as cancelled. -/
def Uncancelled (x : Except Fault α) : Prop := ∀ reason, x ≠ .error (.cancelled reason)

namespace Uncancelled

theorem ok (a : α) : Uncancelled (.ok a) := nofun

theorem error {fault : Fault} (h : ∀ reason, fault ≠ .cancelled reason) :
    Uncancelled (.error fault : Except Fault α) := by
  intro reason e
  cases e
  exact h reason rfl

theorem ite {p : Prop} [Decidable p] {x y : Except Fault α} (hx : Uncancelled x)
    (hy : Uncancelled y) : Uncancelled (if p then x else y) := by
  split
  · exact hx
  · exact hy

theorem bind {x : Except Fault α} {f : α → Except Fault β} (hx : Uncancelled x)
    (hf : ∀ a, Uncancelled (f a)) : Uncancelled (x >>= f) := by
  intro reason h
  rcases bind_eq_error.mp h with h | ⟨a, -, h⟩
  · exact hx reason h
  · exact hf a reason h

theorem map {x : Except Fault α} (hx : Uncancelled x) (f : α → β) : Uncancelled (x.map f) := by
  intro reason h
  cases x with
  | error fault =>
    cases h
    exact hx reason rfl
  | ok a => cases h

theorem mapError {ε : Type} (x : Except ε α) {f : ε → Fault}
    (hf : ∀ fault reason, f fault ≠ .cancelled reason) : Uncancelled (x.mapError f) := by
  intro reason h
  cases x with
  | error fault =>
    cases fault' : f fault <;> rw [Except.mapError, fault'] at h <;> cases h
    exact hf fault reason fault'
  | ok a => cases h

theorem forM {f : α → Except Fault PUnit} {xs : List α} (hf : ∀ a, Uncancelled (f a)) :
    Uncancelled (xs.forM f) := by
  induction xs with
  | nil => exact ok _
  | cons a xs ih => exact (hf a).bind fun _ => ih

theorem mapM {f : α → Except Fault β} {xs : List α} (hf : ∀ a, Uncancelled (f a)) :
    Uncancelled (xs.mapM f) := by
  induction xs with
  | nil => exact ok _
  | cons a xs ih =>
    rw [List.mapM_cons]
    exact (hf a).bind fun _ => ih.bind fun _ => ok _

end Uncancelled

end Outcome

open Outcome

/-! ## Styles -/

namespace Style

theorem uncancelled_areShares (cs : List Char) : Uncancelled (areShares cs) := by
  have share (cs : List Char) : Uncancelled (readShare cs) := by
    intro reason
    unfold readShare
    split <;> nofun
  unfold areShares
  split
  · exact .ok _
  · split
    · exact (share _).bind fun _ => (share _).bind fun _ => (share _).bind fun _ => .ok _
    · exact .ok _

theorem uncancelled_color? (word : String) : Uncancelled (color? word) := by
  refine .bind ?_ fun _ => .ok _
  unfold isColor
  split
  · exact .ok _
  · dsimp only
    split
    · exact .ok _
    · split
      · exact .ok _
      · exact uncancelled_areShares _
      · exact .ok _

theorem uncancelled_ofWords (s : Style) (words : List String) : Uncancelled (ofWords s words) := by
  fun_induction ofWords s words with
  -- A colour is read only after `on`, or where no attribute has the word.
  | case3 _ _ _ _ _ ih =>
    refine (uncancelled_color? _).bind fun found => ?_
    cases found with
    | none => exact .ok _
    | some color => exact ih color
  | case10 _ _ _ _ _ _ _ _ _ _ ih =>
    refine (uncancelled_color? _).bind fun found => ?_
    cases found with
    | none => exact .ok _
    | some color => exact ih color
  | case5 _ _ _ _ _ _ _ ih => exact ih
  | case8 _ _ _ _ _ ih => exact ih
  | case9 _ _ _ _ _ _ _ _ _ _ _ ih => exact ih
  | case1 | case2 | case4 | case6 | case7 => exact .ok _

theorem uncancelled_ofText? (text : String) : Uncancelled (ofText? text) := by
  unfold ofText?
  split
  · exact .ok _
  · exact uncancelled_ofWords _ _

theorem uncancelled_normalForm (text : String) : Uncancelled (normalForm text) := by
  refine (uncancelled_ofText? text).bind fun style => ?_
  cases style <;> exact .ok _

end Style

/-! ## Markup -/

namespace Markup

theorem uncancelled_openAfter (place : Nat) (t : Tag) (tags : List OpenTag) :
    Uncancelled (openAfter place t tags) := by
  unfold openAfter
  split
  · exact (Style.uncancelled_normalForm _).bind fun _ => .ok _
  · dsimp only
    -- A tag that is found open may be closed or not, however it was looked for.
    split
    · refine (Uncancelled.ok _).bind fun found => ?_
      cases found with
      | none => exact .error nofun
      | some pair => exact .ite (.ok _) (.error nofun)
    · refine (Style.uncancelled_normalForm _).bind fun _ => (Uncancelled.ok _).bind fun found => ?_
      cases found with
      | none => exact .error nofun
      | some pair => exact .ite (.ok _) (.error nofun)

theorem uncancelled_shown (place : Nat) (tags : List OpenTag) (pieces : List Piece) :
    Uncancelled (shown place tags pieces) := by
  induction pieces generalizing place tags with
  | nil => exact .ok _
  | cons piece rest ih =>
    cases piece with
    | text cs => exact (ih _ _).bind fun _ => .ok _
    | tag content =>
      exact (uncancelled_openAfter _ _ _).bind fun _ => (ih _ _).bind fun _ => .ok _

theorem uncancelled_read (s : String) : Uncancelled (read s) := by
  unfold read
  dsimp only
  split
  · exact uncancelled_shown _ _ _
  · exact .ok _

theorem uncancelled_checkStyles (cs : List Char) (spans : List Span) :
    Uncancelled (checkStyles cs spans) :=
  .forM fun s => (Style.uncancelled_ofText? s.style).map _

theorem uncancelled_plain (s : String) : Uncancelled (plain s) :=
  (uncancelled_read s).bind fun _ => (uncancelled_checkStyles _ _).bind fun _ => .ok _

theorem uncancelled_title (s : String) : Uncancelled (title s) :=
  (uncancelled_read s).bind fun _ => (uncancelled_checkStyles _ _).bind fun _ => .ok _

end Markup

theorem Table.uncancelled_lines (columns : List Column) : Uncancelled (Table.lines columns) := by
  have cell (s : String) : Uncancelled (Cell.read s) := (Markup.uncancelled_read s).map _
  have shown (width : Nat) (c : Cell) : Uncancelled (c.shown width) :=
    .bind (.forM fun style => (Style.uncancelled_ofText? style).map _) fun _ => .ok _
  refine .bind (.mapM fun column => .bind (.mapM cell) fun _ => .ok _) fun _ => ?_
  refine .bind (.mapM fun n => .bind (.mapM fun _ => (shown _ _).bind fun _ => .ok _) fun _ => ?_)
    fun _ => .ok _
  exact .ok _

/-! ## A tag that is no style -/

namespace Style

/-- No colour has a name with a point. -/
theorem not_mem_colorNames {word : String} (point : '.' ∈ word.toList) :
    colorNames.any (fun line => (Text.split ' ' line).contains word) = false := by
  have pointless : ∀ line ∈ colorNames, ∃ cs, line = String.ofList cs ∧ '.' ∉ cs := by
    rw [colorNames]
    repeat refine List.forall_mem_cons.mpr ⟨⟨_, rfl, by decide⟩, ?_⟩
    exact fun line none => absurd none List.not_mem_nil
  rw [List.any_eq_false]
  intro line hl named
  obtain ⟨part, hp, e⟩ := List.mem_map.mp (List.contains_iff_mem.mp named)
  obtain ⟨cs, rfl, without⟩ := pointless line hl
  rw [String.toList_ofList] at hp
  refine without (Text.mem_of_mem_splitChars hp ?_)
  rw [← String.toList_ofList (l := part), e]
  exact point

/-- A text that begins with a word of no meaning is no style. -/
theorem ofWords_unknown {s : Style} {word : String} {rest : List String}
    (special : Text.lower word ∉ ["on", "not", "link"])
    (noAttribute : StyleAttribute.ofWord? (Text.lower word) = none)
    (noColor : color? (Text.lower word) = .ok none) : ofWords s (word :: rest) = .ok none := by
  simp only [List.mem_cons, List.not_mem_nil, or_false, not_or] at special
  unfold ofWords
  split
  case h_7 =>
    rw [noAttribute]
    show color? (Text.lower word) >>= _ = _
    rw [noColor]
    rfl
  all_goals simp_all

theorem normalForm_progress :
    normalForm "progress.description" = .ok "progress.description" := by
  have lower : Text.lower "progress.description" = "progress.description" := by decide +kernel
  have trim : Text.trim "progress.description" = "progress.description" := by decide +kernel
  have words : wordsOf "progress.description" = ["progress.description"] := by decide +kernel
  have noAttribute : StyleAttribute.ofWord? "progress.description" = none := by decide +kernel
  have color : color? "progress.description" = .ok none := by
    have point : '.' ∈ "progress.description".toList := by decide +kernel
    rw [color?, lower, isColor, not_mem_colorNames point]
    rfl
  have style : ofText? "progress.description" = .ok none := by
    rw [ofText?, trim, if_neg (by decide), words]
    exact ofWords_unknown (lower ▸ by decide) (lower ▸ noAttribute) (lower ▸ color)
  rw [normalForm, style, trim, lower]
  rfl

end Style

end GosuForge

import GosuForge.Console.Markup
import GosuForge.Proofs.Lines
import GosuForge.Proofs.Outcome
import Mathlib.Data.List.TakeDrop
import Mathlib.Data.List.TakeWhile

/-!
# The end of a shown text

A question mark at the end of a text belongs to no tag and to no code of a picture, so the last line
that a console shows of such a text ends with it, too.

* `Markup.mark_shownChars`, `Markup.mark_pieces`: the mark among pictures, and among pieces of markup;
* `Markup.mark_lastLine?`: the last line of what is shown.
-/

namespace GosuForge

/-- The characters of a question end with a question mark. -/
def Text.EndsInMark (cs : List Char) : Prop := cs.getLast? = some '?'

instance : DecidablePred Text.EndsInMark := fun _ => inferInstanceAs (Decidable (_ = _))

open Text (EndsInMark)

namespace Text

variable {cs ds : List Char}

theorem EndsInMark.ne_nil (h : EndsInMark cs) : cs ≠ [] := by
  rintro rfl
  cases h

theorem EndsInMark.append (h : EndsInMark ds) (cs : List Char) : EndsInMark (cs ++ ds) := by
  rw [EndsInMark, List.getLast?_append, h, Option.some_or]

theorem EndsInMark.of_append (h : EndsInMark (cs ++ ds)) (some : ds ≠ []) : EndsInMark ds := by
  rw [EndsInMark, List.getLast?_append, List.getLast?_eq_some_getLast some, Option.some_or] at h
  rw [EndsInMark, List.getLast?_eq_some_getLast some, h]

/-- The mark is in the second of two parts if the first does not end with one. -/
theorem EndsInMark.right (h : EndsInMark (cs ++ ds)) (other : ¬ EndsInMark cs) : EndsInMark ds := by
  refine h.of_append fun empty => ?_
  rw [empty, List.append_nil] at h
  exact other h

theorem EndsInMark.tail {c : Char} (h : EndsInMark (c :: cs)) (other : c ≠ '?') :
    EndsInMark cs :=
  have h : EndsInMark ([c] ++ cs) := h
  h.right fun e => other (Option.some.inj e)

theorem EndsInMark.of_cons {c : Char} (h : EndsInMark (c :: cs)) (some : cs ≠ []) : EndsInMark cs :=
  have h : EndsInMark ([c] ++ cs) := h
  h.of_append some

theorem EndsInMark.cons (h : EndsInMark cs) (c : Char) : EndsInMark (c :: cs) := h.append [c]

/-- The last part of a text ends as the text does, unless a separator ends it. -/
theorem EndsInMark.splitChars (h : EndsInMark cs) (sep : Char) (other : sep ≠ '?') :
    ∃ parts last, splitChars sep cs = parts ++ [last] ∧ EndsInMark last := by
  induction cs with
  | nil => cases h
  | cons c cs ih =>
    rw [Text.splitChars]
    by_cases hc : c = sep
    · rw [if_pos hc]
      obtain ⟨parts, last, e, hl⟩ := ih (h.tail (hc ▸ other))
      exact ⟨[] :: parts, last, by rw [e]; rfl, hl⟩
    · rw [if_neg hc]
      cases cs with
      | nil => exact ⟨[], [c], rfl, h⟩
      | cons d ds =>
        obtain ⟨parts, last, e, hl⟩ := ih h
        rw [e]
        cases parts with
        | nil => exact ⟨[], c :: last, rfl, hl.cons c⟩
        | cons part parts => exact ⟨(c :: part) :: parts, last, rfl, hl⟩

end Text

namespace Emoji

/-- A code of a picture ends with a colon. -/
theorem exists_of_codeAt? {cs code form after : List Char}
    (h : codeAt? cs = some (code, form, after)) : ∃ inside, cs = inside ++ ':' :: after := by
  induction cs generalizing code with
  | nil => cases h
  | cons c rest ih =>
    rw [codeAt?] at h
    split at h
    · rename_i ending form' found
      cases h
      have known := List.mem_of_find?_eq_some found
      have fits := List.find?_some found
      obtain ⟨after, e⟩ := List.isPrefixOf_iff_prefix.mp fits
      rw [← e, List.drop_left]
      simp only [endings, List.mem_cons, List.not_mem_nil, or_false, Prod.mk.injEq] at known
      rcases known with ⟨rfl, -⟩ | ⟨rfl, -⟩ | ⟨rfl, -⟩
      · exact ⟨[], rfl⟩
      · exact ⟨"-emoji".toList, rfl⟩
      · exact ⟨"-text".toList, rfl⟩
    · split at h
      · cases h
      · obtain ⟨⟨code', form', after'⟩, found, e⟩ := Option.map_eq_some_iff.mp h
        cases e
        obtain ⟨inside, e⟩ := ih found
        exact ⟨c :: inside, by rw [e]; rfl⟩

theorem mark_shownChars {fuel : Nat} {cs : List Char} (h : EndsInMark cs) :
    EndsInMark (shownChars fuel cs) := by
  fun_induction shownChars fuel cs with
  | case1 cs => exact h
  | case2 => cases h
  | case3 fuel rest none ih => exact (ih (h.tail (by decide))).cons ':'
  | case4 fuel rest code form after found picture ih =>
    obtain ⟨inside, rfl⟩ := exists_of_codeAt? found
    have whole : EndsInMark ((':' :: inside ++ [':']) ++ after) := by simpa using h
    refine (ih (whole.right fun e => ?_)).append _
    rw [EndsInMark, List.getLast?_append] at e
    cases e
  | case5 fuel c rest _ ih =>
    by_cases empty : rest = []
    · subst empty
      have done : shownChars fuel [] = [] := by cases fuel <;> rfl
      rw [done]
      exact h
    · exact (ih (h.of_cons empty)).cons c

end Emoji

namespace Markup

theorem mark_bare {cs : List Char} (h : EndsInMark cs) : EndsInMark (bare cs) := by
  have shown : EndsInMark (Emoji.shown cs) := Emoji.mark_shownChars h
  obtain ⟨before, e⟩ := List.getLast?_eq_some_iff.mp shown
  rw [bare, e, List.filter_append]
  have kept : EndsInMark (['?'].filter fun c => !isControl c) := by rfl
  exact kept.append _

theorem mark_unescape {cs : List Char} (h : EndsInMark cs) : EndsInMark (unescape cs) := by
  fun_induction unescape cs with
  | case1 rest ih =>
    exact (ih ((h.tail (by decide)).tail (by decide))).cons '['
  | case2 c rest _ ih =>
    by_cases empty : rest = []
    · subst empty
      exact h
    · exact (ih (h.of_cons empty)).cons c
  | case3 => cases h

theorem untilClose_eq {cs inside after : List Char} (h : untilClose cs = some (inside, after)) :
    cs = inside ++ ']' :: after := by
  fun_induction untilClose cs generalizing inside with
  | case1 => cases h
  | case2 rest =>
    cases h
    rfl
  | case3 => cases h
  | case4 c rest _ _ ih =>
    obtain ⟨⟨inside', after'⟩, found, e⟩ := Option.map_eq_some_iff.mp h
    cases e
    rw [ih found]
    rfl

/-- A tag ends with a bracket. -/
theorem exists_of_tagAt? {cs content after : List Char} (h : tagAt? cs = some (content, after)) :
    ∃ before, cs = (before ++ [']']) ++ after := by
  unfold tagAt? at h
  split at h
  · rename_i c rest
    split at h
    · obtain ⟨⟨inside, after'⟩, found, e⟩ := Option.map_eq_some_iff.mp h
      cases e
      exact ⟨'[' :: c :: inside, by rw [untilClose_eq found]; simp⟩
    · cases h
  · cases h

/-- The parts of a text around the end of a run of backslashes. -/
theorem span_slashes {cs slashes after : List Char} (h : cs.span (· = '\\') = (slashes, after)) :
    cs = slashes ++ after ∧ ¬ EndsInMark slashes := by
  rw [List.span_eq_takeWhile_dropWhile, Prod.mk.injEq] at h
  obtain ⟨rfl, rfl⟩ := h
  refine ⟨(List.takeWhile_append_dropWhile ..).symm, fun e => ?_⟩
  have slash := List.mem_takeWhile_imp (List.mem_of_getLast? e)
  simp at slash

theorem mark_flush {read : List Char} (h : EndsInMark read.reverse) :
    ∃ pieces last, flush read = pieces ++ [.text last] ∧ EndsInMark last := by
  have some : read ≠ [] := fun empty => h.ne_nil (by rw [empty]; rfl)
  refine ⟨[], read.reverse, ?_, h⟩
  rw [flush, if_neg (by simpa using some)]
  rfl

/-- What ends a text that ends with a mark is a piece that does, and no tag. -/
theorem mark_piecesFrom {read : List Char} {fuel : Nat} {cs : List Char} (hf : cs.length ≤ fuel)
    (h : EndsInMark (read.reverse ++ cs)) :
    ∃ pieces last, piecesFrom read fuel cs = pieces ++ [.text last] ∧ EndsInMark last := by
  fun_induction piecesFrom read fuel cs with
  | case1 read cs =>
    rw [List.length_eq_zero_iff.mp (Nat.le_zero.mp hf), List.append_nil] at h
    exact mark_flush h
  | case2 read fuel =>
    rw [List.append_nil] at h
    exact mark_flush h
  | case3 read fuel c rest slashes tagged split content after found ih =>
    obtain ⟨before, rfl⟩ := exists_of_tagAt? found
    obtain ⟨e, -⟩ := span_slashes split
    have length := congrArg List.length e
    simp only [List.length_cons, List.length_append] at length hf
    have whole : EndsInMark ((read.reverse ++ slashes ++ before ++ [']']) ++ after) := by
      rw [e] at h
      simpa using h
    have marked : EndsInMark after := by
      refine whole.right fun e => ?_
      rw [EndsInMark, List.getLast?_append] at e
      cases e
    obtain ⟨pieces, last, e, hl⟩ := ih (by omega) marked
    exact ⟨_, last, by rw [e, ← List.append_assoc], hl⟩
  | case4 read fuel c rest slashes tagged split none empty ih =>
    refine ih (Nat.le_of_succ_le_succ hf) ?_
    simpa using h
  | case5 read fuel c rest slashes tagged split none some ih =>
    obtain ⟨e, unmarked⟩ := span_slashes split
    have some : slashes ≠ [] := by simpa using some
    have length := congrArg List.length e
    have := List.length_pos_iff.mpr some
    simp only [List.length_cons, List.length_append] at length hf
    have marked : EndsInMark tagged := by
      rw [e, ← List.append_assoc] at h
      exact h.right fun e => unmarked (e.of_append some)
    exact ih (by omega) (marked.append _)

theorem mark_pieces {cs : List Char} (h : EndsInMark cs) :
    ∃ before last, pieces cs = before ++ [.text last] ∧ EndsInMark last :=
  mark_piecesFrom (Nat.le_succ _) h

theorem mark_shown {place : Nat} {tags : List OpenTag} {pieces : List Piece} {last : List Char}
    (hl : EndsInMark last) {cs : List Char} {spans : List Span}
    (h : shown place tags (pieces ++ [.text last]) = .ok (cs, spans)) : EndsInMark cs := by
  induction pieces generalizing place tags cs spans with
  | nil =>
    cases h
    rw [List.append_nil]
    exact mark_bare (mark_unescape hl)
  | cons piece pieces ih =>
    cases piece with
    | text text =>
      obtain ⟨⟨others, spans'⟩, hrest, e⟩ := Outcome.bind_eq_ok.mp h
      cases e
      exact (ih hrest).append _
    | tag content =>
      obtain ⟨⟨tags', closed⟩, -, h⟩ := Outcome.bind_eq_ok.mp h
      obtain ⟨⟨others, spans'⟩, hrest, e⟩ := Outcome.bind_eq_ok.mp h
      cases e
      exact ih hrest

theorem mark_read {s : String} {cs : List Char} {spans : List Span} (hs : EndsInMark s.toList)
    (h : read s = .ok (cs, spans)) : EndsInMark cs := by
  rw [read] at h
  split at h
  · obtain ⟨before, last, e, hl⟩ := mark_pieces hs
    rw [e] at h
    exact mark_shown hl h
  · cases h
    exact mark_bare hs

theorem mark_expandParts {column : Nat} {parts : List (List Char)} {last : List Char}
    (hl : EndsInMark last) : EndsInMark (expandParts column (parts ++ [last])) := by
  induction parts generalizing column with
  | nil => exact hl
  | cons part parts ih =>
    cases parts with
    | nil => exact ih.append _
    | cons next parts => exact ih.append _

theorem mark_expandTabs {line : List Char} (h : EndsInMark line) : EndsInMark (expandTabs line) := by
  obtain ⟨parts, last, e, hl⟩ := h.splitChars '\t' (by decide)
  rw [expandTabs, e]
  exact mark_expandParts hl

/-- The last line that a console shows of a text. -/
def lastLine? (s : String) : Option String :=
  (plain s).toOption.bind fun text => (Text.splitLines text).getLast?

/-- A text that ends with a question mark is shown with one at the end of its last line. -/
theorem mark_lastLine? {s line : String} (hs : EndsInMark s.toList)
    (h : lastLine? s = some line) : EndsInMark line.toList := by
  obtain ⟨text, shown, hline⟩ := Option.bind_eq_some_iff.mp h
  cases hp : plain s with
  | error fault =>
    rw [hp] at shown
    cases shown
  | ok text' =>
    rw [hp] at shown
    cases shown
    obtain ⟨⟨cs, spans⟩, hread, hp⟩ := Outcome.bind_eq_ok.mp hp
    obtain ⟨-, -, hp⟩ := Outcome.bind_eq_ok.mp hp
    cases hp
    obtain ⟨parts, part, e, hpart⟩ := (mark_read hs hread).splitChars '\n' (by decide)
    rw [e, List.map_append, List.map_singleton, Text.joinLines] at hline
    obtain ⟨before, joined⟩ := Text.toList_join_append "\n"
      (parts.map fun line => String.ofList (expandTabs line)) (String.ofList (expandTabs part))
    rw [Text.splitLines, Text.split, joined, String.toList_ofList] at hline
    obtain ⟨lines, last, e, hl⟩ :=
      ((mark_expandTabs hpart).append before).splitChars '\n' (by decide)
    rw [e, List.map_append, List.map_singleton, List.getLast?_concat] at hline
    cases hline
    rwa [String.toList_ofList]

end Markup

end GosuForge

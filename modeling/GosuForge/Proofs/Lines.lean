import GosuForge.Proofs.Path
import GosuForge.Text.Blank
import Mathlib.Data.List.DropRight
import Mathlib.Data.List.Infix

/-!
# Lines and blanks of texts

A text is made of lines, and of what is left of it between the blanks at its two ends.

* `Text.splitLines_append`: where two texts meet, the last line of the first one goes on;
* `Text.holds_iff_lines`, `Text.holds_trim`: a word without line feeds or blanks stands in a text
  just if it stands in one of its lines, and just if it stands in the trimmed text;
* `Text.exists_lines_trimStart`, `Text.exists_lines_trimEnd`: the lines of a text without the
  blanks at its start, and without those at its end.
-/

namespace GosuForge

namespace Text

/-! ## Parts between separators -/

theorem splitChars_eq_splitOn (sep : Char) (cs : List Char) :
    splitChars sep cs = cs.splitOn sep := by
  induction cs with
  | nil => rfl
  | cons c cs ih =>
    rw [splitChars, ih]
    simp only [List.splitOn, List.splitOnP_cons_eq_if_modifyHead, beq_iff_eq]
    split
    · rfl
    · cases h : cs.splitOnP (· == sep) with
      | nil => exact absurd h (List.splitOnP_ne_nil _ _)
      | cons part parts => rfl

theorem splitChars_ne_nil (sep : Char) (cs : List Char) : splitChars sep cs ≠ [] := by
  rw [splitChars_eq_splitOn]
  exact List.splitOnP_ne_nil _ _

theorem splitLines_ne_nil (s : String) : splitLines s ≠ [] := by
  simpa [splitLines, split] using splitChars_ne_nil '\n' s.toList

theorem exists_last_line (s : String) : ∃ front last, splitLines s = front ++ [last] :=
  (List.eq_nil_or_concat' (splitLines s)).resolve_left (splitLines_ne_nil s)

theorem splitChars_append_cons (sep : Char) (cs ds : List Char) :
    splitChars sep (cs ++ sep :: ds) = splitChars sep cs ++ splitChars sep ds := by
  simp only [splitChars_eq_splitOn, List.splitOn]
  exact List.splitOnP_append_cons cs ds (beq_self_eq_true sep)

/-- Where two lists meet, the last part of the first goes on with the first part of the second. -/
theorem splitChars_append {sep : Char} {cs ds : List Char} {front rest : List (List Char)}
    {last first : List Char} (hc : splitChars sep cs = front ++ [last])
    (hd : splitChars sep ds = first :: rest) :
    splitChars sep (cs ++ ds) = front ++ (last ++ first) :: rest := by
  induction cs generalizing front last with
  | nil =>
    obtain ⟨rfl, rfl⟩ : front = [] ∧ last = [] := by
      cases front <;> simp_all [splitChars]
    exact hd
  | cons c cs ih =>
    rw [List.cons_append, splitChars]
    rw [splitChars] at hc
    split at hc
    · rename_i here
      cases front with
      | nil => simp [splitChars_ne_nil] at hc
      | cons part front =>
        obtain ⟨rfl, hcs⟩ := List.cons.inj hc
        rw [if_pos here, ih hcs]
        rfl
    · rename_i other
      rw [if_neg other]
      cases hcs : splitChars sep cs with
      | nil => exact absurd hcs (splitChars_ne_nil sep cs)
      | cons part parts =>
        rw [hcs] at hc
        cases front with
        | nil =>
          obtain ⟨rfl, rfl⟩ := List.cons.inj hc
          have joined := @ih [] part hcs
          rw [joined]
          rfl
        | cons part' front =>
          obtain ⟨rfl, rfl⟩ := List.cons.inj hc
          have joined := @ih (part :: front) last hcs
          rw [joined]
          rfl

/-- No part has a separator in it. -/
theorem not_mem_of_mem_splitChars {sep : Char} {cs part : List Char}
    (hp : part ∈ splitChars sep cs) : sep ∉ part := by
  induction cs generalizing part with
  | nil =>
    rw [splitChars, List.mem_singleton] at hp
    rw [hp]
    exact List.not_mem_nil
  | cons c cs ih =>
    obtain ⟨first, parts, hcs⟩ := List.exists_cons_of_ne_nil (splitChars_ne_nil sep cs)
    simp only [splitChars, hcs] at hp
    rw [hcs] at ih
    split at hp
    · rcases List.mem_cons.mp hp with rfl | hp
      · exact List.not_mem_nil
      · exact ih hp
    · rename_i other
      rcases List.mem_cons.mp hp with rfl | hp
      · exact List.not_mem_cons_of_ne_of_not_mem (Ne.symm other) (ih List.mem_cons_self)
      · exact ih (List.mem_cons_of_mem _ hp)

theorem not_mem_of_mem_splitLines {s line : String} (h : line ∈ splitLines s) :
    '\n' ∉ line.toList := by
  obtain ⟨part, hp, rfl⟩ := List.mem_map.mp h
  rw [String.toList_ofList]
  exact not_mem_of_mem_splitChars hp

theorem splitLines_of_not_mem {s : String} (h : '\n' ∉ s.toList) : splitLines s = [s] := by
  simp [splitLines, split, splitChars_of_not_mem h]

/-- Where two texts meet, the last line of the first goes on with the first line of the second. -/
theorem splitLines_append {s t : String} {front rest : List String} {last first : String}
    (hs : splitLines s = front ++ [last]) (ht : splitLines t = first :: rest) :
    splitLines (s ++ t) = front ++ (last ++ first) :: rest := by
  obtain ⟨fronts, lasts, es, rfl, hlast⟩ := List.map_eq_append_iff.mp hs
  obtain ⟨last', rfl, rfl⟩ := List.map_eq_singleton_iff.mp hlast
  obtain ⟨first', rest', et, rfl, rfl⟩ := List.map_eq_cons_iff.mp ht
  rw [splitLines, split, String.toList_append, splitChars_append es et]
  simp

theorem joinLines_splitLines (s : String) : joinLines (splitLines s) = s := by
  rw [← String.toList_inj, joinLines, toList_join, splitLines, split, List.map_map]
  have unchanged : String.toList ∘ String.ofList = id := by
    funext cs
    simp
  rw [unchanged, List.map_id, splitChars_eq_splitOn]
  exact List.intercalate_splitOn '\n'

theorem toList_join_append (sep : String) (texts : List String) (last : String) :
    ∃ before, (join sep (texts ++ [last])).toList = before ++ last.toList := by
  induction texts with
  | nil => exact ⟨[], rfl⟩
  | cons text texts ih =>
    obtain ⟨before, e⟩ := ih
    cases texts with
    | nil => exact ⟨text.toList ++ sep.toList, by simp [join]⟩
    | cons next texts =>
      rw [List.cons_append] at e
      refine ⟨text.toList ++ sep.toList ++ before, ?_⟩
      rw [List.cons_append, List.cons_append, join, String.toList_append, String.toList_append, e,
        List.append_assoc, List.append_assoc, List.append_assoc]

/-! ## Words in a text -/

/-- Whether a word stands in a text. -/
def Holds (text word : String) : Prop := word.toList <:+: text.toList

instance (text word : String) : Decidable (Holds text word) :=
  inferInstanceAs (Decidable (_ <:+: _))

theorem startsWith_iff {start s : String} :
    startsWith start s = true ↔ start.toList <+: s.toList := List.isPrefixOf_iff_prefix

/-- What is not part of a word parts the places where it may stand. -/
theorem infix_append_cons_iff {α : Type} {word xs ys : List α} {x : α} (hx : x ∉ word) :
    word <:+: xs ++ x :: ys ↔ word <:+: xs ∨ word <:+: ys := by
  constructor
  · rintro ⟨before, after, e⟩
    rcases List.append_eq_append_iff.mp e with ⟨bs, rfl, -⟩ | ⟨bs, front, back⟩
    · exact .inl ⟨before, bs, rfl⟩
    · rcases List.cons_eq_append_iff.mp back with ⟨rfl, -⟩ | ⟨bs, rfl, rfl⟩
      · exact .inl ⟨before, [], by simpa using front⟩
      · -- The separator stands before the word or in it.
        rcases List.append_eq_append_iff.mp front with ⟨cs, rfl, inside⟩ | ⟨cs, rfl, inside⟩
        · exact absurd (inside ▸ List.mem_append_right _ List.mem_cons_self) hx
        · rcases List.cons_eq_append_iff.mp inside with ⟨rfl, rfl⟩ | ⟨cs, rfl, rfl⟩
          · exact absurd List.mem_cons_self hx
          · exact .inr ⟨cs, after, rfl⟩
  · rintro (inside | inside)
    · exact inside.trans (List.prefix_append _ _).isInfix
    · exact inside.trans ((List.suffix_cons _ _).trans (List.suffix_append _ _)).isInfix

theorem infix_iff_parts {sep : Char} {word cs : List Char} (h : sep ∉ word) :
    word <:+: cs ↔ ∃ part ∈ splitChars sep cs, word <:+: part := by
  induction hn : cs.length using Nat.strongRecOn generalizing cs with
  | ind n ih =>
    by_cases hs : sep ∈ cs
    · obtain ⟨xs, ys, rfl, hx⟩ := List.eq_append_cons_of_mem hs
      have shorter : ys.length < n := by
        simp only [List.length_append, List.length_cons] at hn
        omega
      rw [infix_append_cons_iff h, ih ys.length shorter rfl, splitChars_append_cons,
        splitChars_of_not_mem hx]
      simp
    · rw [splitChars_of_not_mem hs]
      simp

/-- A word without line feeds stands in a text if it stands in one of its lines. -/
theorem holds_iff_lines {s word : String} (h : '\n' ∉ word.toList) :
    Holds s word ↔ ∃ line ∈ splitLines s, Holds line word := by
  rw [Holds, infix_iff_parts h]
  simp [Holds, splitLines, split]

theorem infix_append_left_iff {α : Type} {word xs ys : List α} (h : ∀ x ∈ xs, x ∉ word) :
    word <:+: xs ++ ys ↔ word <:+: ys := by
  induction xs with
  | nil => rfl
  | cons x xs ih =>
    obtain ⟨first, others⟩ := List.forall_mem_cons.mp h
    have parted : word <:+: x :: (xs ++ ys) ↔ word <:+: [] ∨ word <:+: xs ++ ys :=
      @infix_append_cons_iff α word [] (xs ++ ys) x first
    rw [List.cons_append, parted, ih others, List.infix_nil]
    constructor
    · rintro (rfl | inside)
      · exact List.nil_infix
      · exact inside
    · exact .inr

theorem infix_append_right_iff {α : Type} {word xs ys : List α} (h : ∀ y ∈ ys, y ∉ word) :
    word <:+: xs ++ ys ↔ word <:+: xs := by
  rw [← List.reverse_infix, List.reverse_append, infix_append_left_iff, List.reverse_infix]
  simpa using h

/-- No character of a text is one of a word. -/
def Apart (s word : String) : Prop := ∀ c ∈ s.toList, c ∉ word.toList

instance (s word : String) : Decidable (Apart s word) := List.decidableBAll _ s.toList

theorem holds_append_left {before s word : String} (h : Apart before word) :
    Holds (before ++ s) word ↔ Holds s word := by
  rw [Holds, String.toList_append]
  exact infix_append_left_iff h

/-! ## Blanks at the ends -/

def AllBlank (s : String) : Prop := ∀ c ∈ s.toList, isBlank c = true

def BlankFree (s : String) : Prop := ∀ c ∈ s.toList, isBlank c = false

instance : DecidablePred AllBlank := fun s => List.decidableBAll _ s.toList

instance : DecidablePred BlankFree := fun s => List.decidableBAll _ s.toList

def trimStart (s : String) : String := String.ofList (dropBlanks s.toList)

def trimEnd (s : String) : String := String.ofList (s.toList.rdropWhile isBlank)

theorem trim_eq (s : String) : trim s = trimEnd (trimStart s) := by
  rw [trim, trimEnd, trimStart, String.toList_ofList]
  rfl

theorem exists_trimStart (s : String) : ∃ before, AllBlank before ∧ s = before ++ trimStart s := by
  refine ⟨String.ofList (s.toList.takeWhile isBlank), fun c hc => ?_, ?_⟩
  · rw [String.toList_ofList] at hc
    exact List.mem_takeWhile_imp hc
  · rw [trimStart, dropBlanks, ← String.ofList_append, List.takeWhile_append_dropWhile,
      String.ofList_toList]

theorem exists_trimEnd (s : String) : ∃ after, AllBlank after ∧ s = trimEnd s ++ after := by
  refine ⟨String.ofList (s.toList.rtakeWhile isBlank), fun c hc => ?_, ?_⟩
  · rw [String.toList_ofList] at hc
    exact List.mem_rtakeWhile_imp hc
  · rw [trimEnd, ← String.ofList_append, List.rdropWhile_append_rtakeWhile, String.ofList_toList]

/-- Indentation by blank characters is no part of the trimmed text. -/
theorem trim_append {blanks : String} (h : AllBlank blanks) (s : String) :
    trim (blanks ++ s) = trim s := by
  have dropped : dropBlanks (blanks.toList ++ s.toList) = dropBlanks s.toList :=
    List.dropWhile_append_of_pos h
  rw [trim, trim, String.toList_append, trimChars, trimChars, dropped]

theorem mem_dropBlanks {c : Char} (hc : isBlank c = false) {cs : List Char} (h : c ∈ cs) :
    c ∈ dropBlanks cs := by
  induction cs with
  | nil => cases h
  | cons d cs ih =>
    rw [dropBlanks, List.dropWhile_cons]
    split
    · rename_i blank
      rcases List.mem_cons.mp h with rfl | h
      · rw [hc] at blank
        cases blank
      · exact ih h
    · exact h

/-- What is not blank stays. -/
theorem mem_trim {c : Char} (hc : isBlank c = false) {s : String} (h : c ∈ s.toList) :
    c ∈ (trim s).toList := by
  rw [trim, String.toList_ofList, trimChars, List.mem_reverse]
  exact mem_dropBlanks hc (List.mem_reverse.mpr (mem_dropBlanks hc h))

theorem AllBlank.trim {s : String} (h : AllBlank s) : trim s = "" := by
  have all : dropBlanks s.toList = [] := List.dropWhile_eq_nil_iff.mpr h
  rw [Text.trim, trimChars, all]
  rfl

/-- A text that does not start with a blank has blanks only at its end. -/
theorem trim_of_head {s : String} (h : ∀ c ∈ s.toList.head?, isBlank c = false) :
    trim s = trimEnd s := by
  have start : trimStart s = s := by
    rw [trimStart, dropBlanks]
    cases hs : s.toList with
    | nil => simpa using hs.symm
    | cons c cs =>
      have plain : isBlank c = false := h c (by simp [hs])
      rw [List.dropWhile_cons, plain, if_neg Bool.false_ne_true, ← hs, String.ofList_toList]
  rw [trim_eq, start]

theorem trim_eq_empty_iff {s : String} (h : ∀ c ∈ s.toList.head?, isBlank c = false) :
    trim s = "" ↔ s = "" := by
  constructor
  · intro e
    by_contra some
    obtain ⟨c, cs, hs⟩ := List.exists_cons_of_ne_nil (mt String.toList_eq_nil_iff.mp some)
    have kept := mem_trim (h c (by simp [hs])) (by simp [hs] : c ∈ s.toList)
    simp [e] at kept
  · rintro rfl
    rfl

/-- A word without blanks does not reach into the blanks behind a text. -/
theorem startsWith_append {start s after : String} (plain : BlankFree start)
    (blank : AllBlank after) : startsWith start (s ++ after) = startsWith start s := by
  rw [Bool.eq_iff_iff, startsWith_iff, startsWith_iff, String.toList_append]
  constructor
  · rintro ⟨behind, e⟩
    rcases List.append_eq_append_iff.mp e with ⟨cs, hs, -⟩ | ⟨cs, hstart, hafter⟩
    · exact ⟨cs, hs.symm⟩
    · cases cs with
      | nil => simp [hstart]
      | cons c cs =>
        have inWord := plain c (by simp [hstart])
        have inBlanks := blank c (by simp [hafter])
        rw [inWord] at inBlanks
        cases inBlanks
  · exact fun h => h.trans (List.prefix_append _ _)

/-- A word without blanks stands in a text just if it stands in what is left of it. -/
theorem holds_trim {s word : String} (h : BlankFree word) :
    Holds (trim s) word ↔ Holds s word := by
  have apart {blanks : String} (blank : AllBlank blanks) : Apart blanks word := by
    intro c hc inside
    exact Bool.noConfusion ((blank c hc).symm.trans (h c inside))
  obtain ⟨before, hb, start⟩ := exists_trimStart s
  obtain ⟨after, ha, stop⟩ := exists_trimEnd (trimStart s)
  rw [← trim_eq] at stop
  conv => rhs; rw [start, stop]
  rw [Holds, Holds, String.toList_append, String.toList_append,
    infix_append_left_iff (apart hb), infix_append_right_iff (apart ha)]

/-- The parts of a blank text are blank. -/
theorem allBlank_of_mem_splitLines {s line : String} (h : AllBlank s) (hl : line ∈ splitLines s) :
    AllBlank line := by
  obtain ⟨part, hp, rfl⟩ := List.mem_map.mp hl
  intro c hc
  rw [String.toList_ofList] at hc
  exact h c (mem_of_mem_splitChars hp hc)

/-- The first line of a text that does not start with a blank. -/
theorem exists_first_line {s : String} (h : ∀ c ∈ s.toList.head?, isBlank c = false) :
    ∃ first rest, splitLines s = first :: rest ∧ first.toList.head? = s.toList.head? ∧
      (first = "" → rest = []) := by
  rw [splitLines, split]
  cases hs : s.toList with
  | nil => exact ⟨"", [], rfl, rfl, fun _ => rfl⟩
  | cons c cs =>
    have plain : isBlank c = false := by
      rw [hs] at h
      exact h c rfl
    have inLine : c ≠ '\n' := by
      rintro rfl
      exact absurd plain (by decide)
    cases hp : splitChars '\n' cs with
    | nil => exact absurd hp (splitChars_ne_nil _ _)
    | cons part parts =>
      refine ⟨String.ofList (c :: part), parts.map String.ofList, ?_, ?_, ?_⟩
      · rw [splitChars, if_neg inLine, hp]
        rfl
      · simp
      · intro e
        simp at e

/-- Without the blanks at its start a text has lost some blank lines and the indentation of the next
one. -/
theorem exists_lines_trimStart (s : String) :
    ∃ blanks indent first rest, splitLines s = blanks ++ (indent ++ first) :: rest ∧
      splitLines (trimStart s) = first :: rest ∧ (∀ line ∈ blanks, AllBlank line) ∧
      AllBlank indent ∧ (∀ c ∈ first.toList.head?, isBlank c = false) ∧
      (first = "" → rest = []) := by
  obtain ⟨before, blank, start⟩ := exists_trimStart s
  have plain : ∀ c ∈ (trimStart s).toList.head?, isBlank c = false := by
    intro c hc
    rw [trimStart, String.toList_ofList] at hc
    have some : dropBlanks s.toList ≠ [] := by
      intro e
      simp [e] at hc
    rw [List.head?_eq_some_head some, Option.mem_some_iff] at hc
    rw [← hc]
    exact List.head_dropWhile_not isBlank some
  obtain ⟨first, rest, lines, head, single⟩ := exists_first_line plain
  obtain ⟨blanks, indent, hbefore⟩ := exists_last_line before
  have allBlank : ∀ line ∈ blanks ++ [indent], AllBlank line := fun line hl =>
    allBlank_of_mem_splitLines blank (by rwa [hbefore])
  refine ⟨blanks, indent, first, rest, ?_, lines, fun line hl => ?_, ?_, ?_, single⟩
  · conv => lhs; rw [start]
    exact splitLines_append hbefore lines
  · exact allBlank line (List.mem_append_left _ hl)
  · exact allBlank indent (by simp)
  · rwa [head]

theorem trimEnd_append {s after : String} (h : AllBlank after) :
    trimEnd (s ++ after) = trimEnd s := by
  have blank : ∀ c ∈ after.toList.reverse, isBlank c = true :=
    fun c hc => h c (List.mem_reverse.mp hc)
  rw [trimEnd, String.toList_append, List.rdropWhile, List.reverse_append,
    List.dropWhile_append_of_pos blank]
  rfl

/-- The last line of a text that does not end with a blank does not end with one. -/
theorem trimEnd_last {s last : String} {front : List String}
    (h : splitLines (trimEnd s) = front ++ [last]) : trimEnd last = last := by
  obtain ⟨before, e⟩ := toList_join_append "\n" front last
  have whole : (trimEnd s).toList = before ++ last.toList := by
    rw [← e, ← h]
    exact congrArg String.toList (joinLines_splitLines _).symm
  rw [← String.toList_inj, trimEnd, String.toList_ofList, List.rdropWhile_eq_self_iff]
  intro some
  have nonempty : s.toList.rdropWhile isBlank ≠ [] := by
    intro none
    rw [trimEnd, String.toList_ofList, none] at whole
    exact some (List.append_eq_nil_iff.mp whole.symm).2
  have plain := List.rdropWhile_last_not isBlank s.toList nonempty
  rw [trimEnd, String.toList_ofList] at whole
  simp only [whole, List.getLast_append_of_ne_nil _ some] at plain
  exact plain

/-- Without the blanks at its end a text has lost some blank lines and the blanks behind the line
before them. -/
theorem exists_lines_trimEnd (s : String) :
    ∃ front last after blanks, splitLines s = front ++ (last ++ after) :: blanks ∧
      splitLines (trimEnd s) = front ++ [last] ∧ (∀ line ∈ blanks, AllBlank line) ∧
      AllBlank after ∧ trimEnd (last ++ after) = last := by
  obtain ⟨behind, blank, stop⟩ := exists_trimEnd s
  obtain ⟨front, last, lines⟩ := exists_last_line (trimEnd s)
  cases hb : splitLines behind with
  | nil => exact absurd hb (splitLines_ne_nil behind)
  | cons after blanks =>
    have allBlank : ∀ line ∈ after :: blanks, AllBlank line := fun line hl =>
      allBlank_of_mem_splitLines blank (hb ▸ hl)
    refine ⟨front, last, after, blanks, ?_, lines, fun line hl => ?_, ?_, ?_⟩
    · conv => lhs; rw [stop]
      exact splitLines_append lines hb
    · exact allBlank line (List.mem_cons_of_mem _ hl)
    · exact allBlank after List.mem_cons_self
    · rw [trimEnd_append (allBlank after List.mem_cons_self)]
      exact trimEnd_last lines

end Text
end GosuForge

import GosuForge.Proofs.CommentBlocks
import GosuForge.Proofs.CommentText
import GosuForge.Proofs.Declaration
import GosuForge.Proofs.Inspection

/-!
# Where a comment ends

What is in a comment is written as it is given. A text that holds `*/` ends the comment before the
line that is meant to end it, and the rest of the comment is read as code. Which texts go into the
comments of a declaration is told in `Proofs.WrittenComments`.

* `Text.EndsAtLast`: the first of some lines to hold `*/` is the last one;
* `Documentation.MadeOf`: the texts that go into the text of a comment;
* `Documentation.block_endsAtLast`: a comment ends with its last line just if none of them holds
  `*/`.
-/

namespace GosuForge

namespace Text

/-- The first line that holds the end of a comment is the last one. -/
def EndsAtLast (lines : List String) : Prop :=
  lines.findIdx (fun line => decide (Holds line "*/")) + 1 = lines.length

instance (lines : List String) : Decidable (EndsAtLast lines) :=
  inferInstanceAs (Decidable (_ = _))

theorem endsAtLast_concat {inner : List String} {last : String} (h : Holds last "*/") :
    EndsAtLast (inner ++ [last]) ↔ ∀ line ∈ inner, ¬ Holds line "*/" := by
  have found : [last].findIdx (fun line => decide (Holds line "*/")) = 0 := by
    simp [List.findIdx_cons, h]
  rw [EndsAtLast, List.findIdx_append, found, List.length_append, List.length_singleton]
  split
  · rename_i early
    have earlier : ∃ line ∈ inner, Holds line "*/" := by
      simpa using List.findIdx_lt_length.mp early
    have apart : ¬ ∀ line ∈ inner, ¬ Holds line "*/" := by
      simpa using earlier
    exact iff_of_false (by omega) apart
  · rename_i late
    have none : ∀ line ∈ inner, ¬ Holds line "*/" := by
      simpa [List.findIdx_lt_length] using late
    exact iff_of_true (by omega) none

/-- Indentation holds no word without blanks. -/
theorem holds_lineAt {indentText word : String} (blank : AllBlank indentText)
    (plain : BlankFree word) (depth : Nat) (line : String) :
    Holds (Writer.lineAt indentText depth line) word ↔ Holds line word := by
  rw [Writer.lineAt]
  split
  · rename_i empty
    rw [empty]
  · have apart : Apart (copies indentText depth) word := by
      intro c hc inside
      have blank := blank_copies blank depth c hc
      rw [plain c inside] at blank
      cases blank
    exact holds_append_left apart

end Text

open Text (AllBlank Apart BlankFree Holds EndsAtLast)

namespace Documentation

/-- The texts of parameters and a result that go into their tags. -/
def tagTexts (m : Model) (params : List Element) (result : Option Element) : List String :=
  params.flatMap (fun p => [m.display p.name, m.display p.documentation])
    ++ result.toList.map fun p => m.display p.documentation

/-- A text of a comment, and the texts that go into it: a documentation or the like alone, the
documentation of a declaration with the author, or the documentation of an operation without its
tags, and the texts of its parameters. -/
inductive MadeOf (m : Model) (g : GosuSettings) : List String → Value → Prop
  | alone (s : String) : MadeOf m g [s] (.str s)
  | declaration {e : Element} {doc : String} : withAuthor g e = .ok doc →
      MadeOf m g (m.display e.documentation :: authors g) (.str doc)
  | operation {e : Element} {parameters : List Element} {doc : String} :
      Member.parametersOf m e = .ok parameters →
      ofMethod m e (Member.inputs parameters) (Member.result? parameters) = .ok doc →
      MadeOf m g (ownLines (m.display e.documentation)
        ++ tagTexts m (Member.inputs parameters) (Member.result? parameters)) (.str doc)

variable {m : Model} {g : GosuSettings}

/-- A comment ends with its last line just if its text holds no end of a comment. -/
theorem blockLines_endsAtLast {indentText : String}
    (blank : AllBlank indentText) (depth : Nat) (s : String) :
    EndsAtLast ((blockLines s).map (Writer.lineAt indentText depth)) ↔ ¬ Holds s "*/" := by
  have plain : BlankFree "*/" := by decide
  have shown := Text.holds_lineAt blank plain depth
  have first : ¬ Holds "/**" "*/" := by decide
  have last : Holds (Writer.lineAt indentText depth " */") "*/" := (shown _).mpr (by decide)
  have inner (line : String) : Holds (" * " ++ line) "*/" ↔ Holds line "*/" := by
    have start : ¬ "*/".toList <:+: [' ', '*'] := by decide
    have parted : "*/".toList <:+: [' ', '*'] ++ ' ' :: line.toList ↔ _ :=
      Text.infix_append_cons_iff (by decide)
    rw [or_iff_right start] at parted
    rw [Holds, String.toList_append]
    exact parted
  have trimmed : Holds s "*/" ↔ ∃ line ∈ Text.splitLines (Text.trim s), Holds line "*/" := by
    rw [← Text.holds_trim plain, Text.holds_iff_lines (by decide)]
  rw [blockLines, List.map_append, List.map_singleton, Text.endsAtLast_concat last, trimmed]
  simp [shown, first, inner]

/-- The words of tags hold no end of a comment. -/
theorem holds_tagLines (params : List Element) (result : Option Element) :
    (∃ line ∈ tagLines m params result, Holds line "*/") ↔
      ∃ part ∈ tagTexts m params result, Holds part "*/" := by
  have param (p : Element) :
      Holds ("@param " ++ m.display p.name ++ " " ++ m.display p.documentation) "*/" ↔
        Holds (m.display p.name) "*/" ∨ Holds (m.display p.documentation) "*/" := by
    have apart : Apart "@param " "*/" := by decide
    have whole : ("@param " ++ m.display p.name ++ " " ++ m.display p.documentation).toList =
        "@param ".toList ++
          ((m.display p.name).toList ++ ' ' :: (m.display p.documentation).toList) := by
      simp
    rw [Holds, whole, Text.infix_append_left_iff apart]
    exact Text.infix_append_cons_iff (by decide)
  have returned (p : Element) : Holds ("@return " ++ m.display p.documentation) "*/" ↔
      Holds (m.display p.documentation) "*/" :=
    Text.holds_append_left (by decide)
  have params_iff : (∃ part ∈ params.flatMap fun p => [m.display p.name, m.display p.documentation],
      Holds part "*/") ↔
        ∃ p ∈ params, Holds (m.display p.name) "*/" ∨ Holds (m.display p.documentation) "*/" := by
    simp only [List.mem_flatMap, List.mem_cons, List.not_mem_nil, or_false]
    grind
  rw [tagTexts]
  simp only [List.mem_append, or_and_right, exists_or, params_iff]
  cases result <;> simp [tagLines, param, returned, or_and_right, exists_or]

/-- Nothing that is put between the texts holds the end of a comment. -/
theorem MadeOf.holds_iff {parts : List String} {text : Value} (h : MadeOf m g parts text)
    {s : String}
    (hs : text = .str s) : Holds s "*/" ↔ ∃ part ∈ parts, Holds part "*/" := by
  have feed : '\n' ∉ "*/".toList := by decide
  have plain : BlankFree "*/" := by decide
  cases h with
  | alone =>
    cases hs
    simp
  | @declaration e _ h =>
    cases hs
    obtain ⟨own, hown, rfl⟩ := withAuthor_eq_ok h
    have signed (author : String) : Holds ("@author " ++ author) "*/" ↔ Holds author "*/" :=
      Text.holds_append_left (by decide)
    have shown : m.display e.documentation = own := by rw [hown]; rfl
    rw [Text.holds_append_fed feed, Text.holds_trim plain, List.exists_mem_cons_iff, shown]
    simp [signed]
  | @operation e parameters _ hps h =>
    cases hs
    obtain ⟨own, hown, made⟩ := exists_of_ofMethod h
    have shown : m.display e.documentation = own := by rw [hown]; rfl
    have tags := @holds_tagLines m (Member.inputs parameters) (Member.result? parameters)
    have some : "*/" ≠ "" := by decide
    rw [made, Text.holds_fed feed some, shown]
    simp only [List.mem_append, or_and_right, exists_or, tags]

/-- **A comment ends with its last line if and only if none of the texts that go into it holds
`*/`**, at whatever depth it is written. -/
theorem block_endsAtLast {parts : List String} {text : Value} (h : MadeOf m g parts text)
    {indentText : String} (blank : AllBlank indentText) (depth : Nat) :
    block g text = [] ∨ (EndsAtLast ((block g text).layout.linesAt indentText depth) ↔
      ∀ part ∈ parts, ¬ Holds part "*/") := by
  rcases block_cases g text with none | ⟨s, hs, -, -, e⟩
  · exact .inl none
  · refine .inr ?_
    have lines : (block g text).layout.linesAt indentText depth =
        (blockLines s).map (Writer.lineAt indentText depth) := by
      simp [e, Script.layoutFrom_map_line, Layout.linesAt]
    rw [lines, blockLines_endsAtLast blank depth s, h.holds_iff hs]
    simp

/-- A class with a documentation. -/
def classOf (documentation : String) : Element :=
  { Element.newNamed "C" none (.classifier (.new .classSort)) with
    documentation := .str documentation }

/-- The usual settings with an author. -/
def signed : GosuSettings :=
  { GosuSettings.standard with
    general := { GosuSettings.standard.general with author := .str "the team" } }

/-- An operation with a stale tag, a parameter and a result. -/
def adding : Model :=
  ⟨#[{ Element.newNamed "add" none (.operation [1, 2]) with
        documentation := .str "Adds up.\n@param old stale" },
     { Element.newNamed "term" (some 0) (.parameter .untyped .input) with
        documentation := .str "How much." },
     { Element.newNamed "" (some 0) (.parameter .untyped .result) with
        documentation := .str "The sum." }]⟩

/-- The comments of a class with an author, and of an operation with its tags. -/
theorem block_endsAtLast_standard :
    (∃ doc, MadeOf ⟨#[]⟩ signed ["Keeps data.", "the team"] (.str doc) ∧
      EndsAtLast ((block signed (.str doc)).layout.linesAt "    " 1)) ∧
    ∃ doc, MadeOf adding .standard ["Adds up.", "term", "How much.", "The sum."] (.str doc) ∧
      EndsAtLast ((block .standard (.str doc)).layout.linesAt "    " 2) := by
  have blank : AllBlank "    " := by decide
  constructor
  · have made : MadeOf ⟨#[]⟩ signed ["Keeps data.", "the team"]
        (.str "Keeps data.\n@author the team") :=
      .declaration (e := classOf "Keeps data.") rfl
    refine ⟨_, made, ?_⟩
    rcases block_endsAtLast made blank 1 with none | ends
    · cases none
    · exact ends.mpr (by decide)
  · have made : MadeOf adding .standard ["Adds up.", "term", "How much.", "The sum."]
        (.str "\nAdds up.\n@param term How much.\n@return The sum.") :=
      @MadeOf.operation adding _ (adding.get 0) [adding.get 1, adding.get 2] _ rfl rfl
    refine ⟨_, made, ?_⟩
    rcases block_endsAtLast made blank 2 with none | ends
    · cases none
    · exact ends.mpr (by decide)

/-- What follows the end of a comment in a documentation is read as code. -/
theorem comment_ends_inside : ∃ doc,
    withAuthor .standard (classOf "a */ b") = .ok doc ∧
    (block .standard (.str doc)).layout.linesAt "    " 0 = ["/**", " * a */ b", " */"] ∧
    ¬ EndsAtLast ((block .standard (.str doc)).layout.linesAt "    " 0) := by
  exact ⟨"a */ b", rfl, by decide, by decide⟩

end Documentation

end GosuForge

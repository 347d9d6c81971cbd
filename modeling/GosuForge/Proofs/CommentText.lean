import GosuForge.Gosu.Declaration
import GosuForge.Proofs.Layout
import GosuForge.Proofs.Lines
import GosuForge.Proofs.Outcome

/-!
# Texts of comments

A comment has a line for each line of its text. The text for an operation consists of the lines of
its documentation that are no tags, and of tags for its parameters.

* `Documentation.block_eq`: the lines of a comment;
* `Documentation.ownLines`, `Documentation.tagLines`: what the comment of an operation consists of;
* `Documentation.ofMethod_eq`: its text, `Text.splitLines_fed`: the lines of that text;
* `Documentation.withAuthor_eq_ok`: the text for a declaration.
-/

namespace GosuForge

namespace Text

/-- The lines with a line feed before each. -/
def fed (lines : List String) : String := lines.foldr (fun line text => "\n" ++ line ++ text) ""

theorem splitLines_fed {lines : List String} (h : ∀ line ∈ lines, '\n' ∉ line.toList) :
    splitLines (fed lines) = "" :: lines := by
  induction lines with
  | nil => rfl
  | cons line lines ih =>
    obtain ⟨first, others⟩ := List.forall_mem_cons.mp h
    have feed : splitLines "\n" = [""] ++ [""] := rfl
    have started : splitLines ("\n" ++ line) = [""] ++ [line] := by
      simpa using splitLines_append feed (splitLines_of_not_mem first)
    simpa [fed] using splitLines_append started (ih others)

/-- A word without line feeds stands in what comes before the lines or in one of them. -/
theorem holds_append_fed {word : String} (h : '\n' ∉ word.toList) (s : String)
    (lines : List String) :
    Holds (s ++ fed lines) word ↔ Holds s word ∨ ∃ line ∈ lines, Holds line word := by
  induction lines generalizing s with
  | nil => simp [fed]
  | cons line lines ih =>
    have lead : Holds (s ++ fed (line :: lines)) word ↔
        Holds s word ∨ Holds (line ++ fed lines) word := by
      have parts : (s ++ fed (line :: lines)).toList =
          s.toList ++ '\n' :: (line ++ fed lines).toList := by simp [fed]
      rw [Holds, parts, infix_append_cons_iff h]
      rfl
    rw [lead, ih line, List.exists_mem_cons_iff]

theorem holds_fed {word : String} (h : '\n' ∉ word.toList) (some : word ≠ "")
    (lines : List String) :
    Holds (fed lines) word ↔ ∃ line ∈ lines, Holds line word := by
  have nowhere : ¬ Holds "" word := by simpa [Holds] using some
  have whole := holds_append_fed h "" lines
  rwa [String.empty_append, or_iff_right nowhere] at whole

end Text

namespace Documentation

/-- The lines of a comment for a text. -/
def blockLines (s : String) : List String :=
  "/**" :: (Text.splitLines (Text.trim s)).map (" * " ++ ·) ++ [" */"]

theorem block_eq {g : GosuSettings} (wanted : g.general.docComments.truthy = true) {s : String}
    (some : s ≠ "") : block g (.str s) = (blockLines s).map .line := by
  simp [block, wanted, some, blockLines, Function.comp_def]

/-- There is no comment where none is wanted, for an empty text and for what is no text. -/
theorem block_cases (g : GosuSettings) (text : Value) :
    block g text = [] ∨ ∃ s, text = .str s ∧ s ≠ "" ∧ g.general.docComments.truthy = true ∧
      block g text = (blockLines s).map .line := by
  by_cases wanted : g.general.docComments.truthy = true
  · cases text with
    | str s =>
      by_cases some : s = ""
      · exact .inl (by simp [block, some])
      · exact .inr ⟨s, rfl, some, wanted, block_eq wanted some⟩
    | _ => exact .inl (by simp [block])
  · exact .inl (by simp [block, wanted])

theorem exists_of_trimmed {e : Element} {doc : String} (h : trimmed e = .ok doc) :
    ∃ s, e.documentation = .str s ∧ doc = Text.trim s := by
  unfold trimmed at h
  split at h
  · exact ⟨_, ‹_›, (Except.ok.inj h).symm⟩
  · cases h

/-! ## Declarations -/

/-- The author, if there is one. -/
def authors (g : GosuSettings) : List String :=
  if g.general.author.truthy then [g.general.author.display] else []

theorem withAuthor_eq_ok {g : GosuSettings} {e : Element} {doc : String}
    (h : withAuthor g e = .ok doc) : ∃ s, e.documentation = .str s ∧
      doc = Text.trim s ++ Text.fed ((authors g).map ("@author " ++ ·)) := by
  obtain ⟨own, hown, h⟩ := Outcome.bind_eq_ok.mp h
  obtain ⟨s, hs, rfl⟩ := exists_of_trimmed hown
  refine ⟨s, hs, ?_⟩
  split at h
  · rename_i unsigned
    cases h
    have none : authors g = [] := by simpa [authors] using unsigned
    simp [none, Text.fed]
  · rename_i signed
    split at h
    · rename_i author ha
      cases h
      have one : authors g = [author] := by simp_all [authors, Value.display]
      rw [one, String.append_assoc]
      congr 1
      simp [Text.fed, ← String.toList_inj]
    · cases h

/-! ## Operations -/

/-- The lines of a documentation that are no tags. -/
def ownLines (s : String) : List String :=
  (Text.splitLines (Text.trim s)).filter fun line => !isTag line

/-- The tags for parameters and a result. -/
def tagLines (m : Model) (params : List Element) (result : Option Element) : List String :=
  params.map (fun p => "@param " ++ m.display p.name ++ " " ++ m.display p.documentation)
    ++ (result.map fun p => "@return " ++ m.display p.documentation).toList

theorem ofMethod_eq {m : Model} {e : Element} {s : String} (h : e.documentation = .str s)
    (params : List Element) (result : Option Element) :
    ofMethod m e params result = .ok (Text.fed (ownLines s ++ tagLines m params result)) := by
  have trimmed_eq : trimmed e = .ok (Text.trim s) := by
    simp [trimmed, h]
  have tags : (params.map (paramLine m) ++ (result.map (returnLine m)).toList) =
      (tagLines m params result).map ("\n" ++ ·) := by
    have param (p : Element) : paramLine m p = "\n" ++ ("@param " ++ m.display p.name ++ " "
        ++ m.display p.documentation) := by
      simp [paramLine, ← String.toList_inj]
    have returned (p : Element) :
        returnLine m p = "\n" ++ ("@return " ++ m.display p.documentation) := by
      simp [returnLine, ← String.toList_inj]
    cases result <;> simp [tagLines, param, returned]
  rw [ofMethod, trimmed_eq]
  change Except.ok _ = _
  rw [List.append_assoc, tags, ← List.map_append, List.foldr_map]
  rfl

theorem exists_of_ofMethod {m : Model} {e : Element} {params : List Element}
    {result : Option Element} {doc : String} (h : ofMethod m e params result = .ok doc) :
    ∃ s, e.documentation = .str s ∧ doc = Text.fed (ownLines s ++ tagLines m params result) := by
  obtain ⟨own, hown, -⟩ := Outcome.bind_eq_ok.mp h
  obtain ⟨s, hs, -⟩ := exists_of_trimmed hown
  refine ⟨s, hs, ?_⟩
  rw [ofMethod_eq hs] at h
  exact (Except.ok.inj h).symm

end Documentation

end GosuForge

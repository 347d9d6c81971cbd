import GosuForge.Proofs.CommentBlocks
import GosuForge.Proofs.CommentText
import GosuForge.Proofs.Function
import Mathlib.Data.List.ModifyLast

/-!
# Tags in the comment of an operation

The documentation of an operation loses its tags, and gets new ones from the parameters. Lines are
told to be tags before the text is trimmed, so that a line that looks like a tag behind its
indentation is kept; if it comes first among those that are left, then it loses its indentation
and is a tag after all.

* `Documentation.shownTags`: the tags in a comment;
* `Documentation.resurfacing?`: the line that becomes a tag;
* `Documentation.exists_lines_started`, `Documentation.tags_of_lines`: the tags of a trimmed text;
* `Member.method_tags`: the tags in the comment of an operation.
-/

namespace GosuForge

open Text (AllBlank trim trimEnd)

namespace Documentation

/-! ## Lines that are tags -/

theorem isTag_append {s after : String} (h : AllBlank after) : isTag (s ++ after) = isTag s := by
  rw [isTag, isTag, Text.startsWith_append (by decide) h, Text.startsWith_append (by decide) h]

theorem isTag_of_allBlank {s : String} (h : AllBlank s) : isTag s = false := by
  have behind := isTag_append (s := "") h
  rwa [String.empty_append] at behind

theorem not_allBlank_of_isTag {s : String} (h : isTag s = true) : ¬ AllBlank s := fun blank => by
  rw [isTag_of_allBlank blank] at h
  cases h

/-- A tag starts with its mark. -/
theorem head_of_isTag {s : String} (h : isTag s = true) : s.toList.head? = some '@' := by
  rw [isTag, Bool.or_eq_true, Text.startsWith_iff, Text.startsWith_iff] at h
  rcases h with ⟨behind, e⟩ | ⟨behind, e⟩ <;>
  · rw [← e]
    rfl

theorem plain_of_isTag {s : String} (h : isTag s = true) :
    ∀ c ∈ s.toList.head?, Text.isBlank c = false := by
  rw [head_of_isTag h]
  rintro _ ⟨⟩
  decide

theorem eq_empty_of_isTag {indent s : String} (blank : AllBlank indent)
    (h : isTag (indent ++ s) = true) : indent = "" := by
  by_contra some
  obtain ⟨c, cs, hc⟩ := List.exists_cons_of_ne_nil (mt String.toList_eq_nil_iff.mp some)
  have plain := plain_of_isTag h c (by simp [hc])
  rw [blank c (by simp [hc])] at plain
  cases plain

theorem trim_of_isTag {s after : String} (blank : AllBlank after) (h : isTag s = true) :
    trim (s ++ after) = trim s := by
  have longer : isTag (s ++ after) = true := (isTag_append blank).trans h
  rw [Text.trim_of_head (plain_of_isTag longer), Text.trim_of_head (plain_of_isTag h),
    Text.trimEnd_append blank]

theorem isTag_trimEnd (s : String) : isTag (trimEnd s) = isTag s := by
  obtain ⟨after, blank, e⟩ := Text.exists_trimEnd s
  conv => rhs; rw [e, isTag_append blank]

theorem isTag_of_mem_tagLines (m : Model) (params : List Element) (result : Option Element) :
    ∀ line ∈ tagLines m params result, isTag line = true := by
  intro line hl
  rw [isTag, Bool.or_eq_true, Text.startsWith_iff, Text.startsWith_iff]
  rcases List.mem_append.mp hl with hl | hl
  · obtain ⟨p, -, rfl⟩ := List.mem_map.mp hl
    refine .inl ?_
    rw [String.append_assoc, String.append_assoc, String.toList_append]
    exact (by decide : "@param".toList <+: "@param ".toList).trans (List.prefix_append _ _)
  · obtain ⟨p, -, rfl⟩ := Option.map_eq_some_iff.mp (Option.mem_toList.mp hl)
    refine .inr ?_
    rw [String.toList_append]
    exact (by decide : "@return".toList <+: "@return ".toList).trans (List.prefix_append _ _)

theorem not_mem_of_mem_tagLines {m : Model} {params : List Element} {result : Option Element}
    (hp : ∀ p ∈ params, '\n' ∉ (m.display p.name).toList ∧
      '\n' ∉ (m.display p.documentation).toList)
    (hr : ∀ p ∈ result, '\n' ∉ (m.display p.documentation).toList) :
    ∀ line ∈ tagLines m params result, '\n' ∉ line.toList := by
  intro line hl
  rcases List.mem_append.mp hl with hl | hl
  · obtain ⟨p, hparam, rfl⟩ := List.mem_map.mp hl
    simp [hp p hparam]
  · obtain ⟨p, hresult, rfl⟩ := Option.map_eq_some_iff.mp (Option.mem_toList.mp hl)
    simp [hr p hresult]

/-! ## The line that becomes a tag -/

/-- The first of some lines that is not blank, if it is a tag without its indentation. -/
def resurfacing? (lines : List String) : Option String :=
  ((lines.map trim).find? (· != "")).filter isTag

theorem find?_trim_of_allBlank {lines : List String} (h : ∀ line ∈ lines, AllBlank line) :
    (lines.map trim).find? (· != "") = none := by
  rw [List.find?_eq_none]
  intro line hl
  obtain ⟨blank, hb, rfl⟩ := List.mem_map.mp hl
  simp [(h blank hb).trim]

theorem resurfacing?_of_allBlank {lines : List String} (h : ∀ line ∈ lines, AllBlank line) :
    resurfacing? lines = none := by
  rw [resurfacing?, find?_trim_of_allBlank h]
  rfl

theorem resurfacing?_cons_empty (lines : List String) :
    resurfacing? ("" :: lines) = resurfacing? lines := by
  have empty : trim "" = "" := by decide
  simp [resurfacing?, empty]

/-- It comes behind blank lines, and from behind its indentation. -/
theorem resurfacing?_append {blanks rest : List String} {indent first : String}
    (hb : ∀ line ∈ blanks, AllBlank line) (blank : AllBlank indent)
    (plain : ∀ c ∈ first.toList.head?, Text.isBlank c = false) (last : first = "" → rest = []) :
    (resurfacing? (blanks ++ (indent ++ first) :: rest)).toList =
      ([first].filter isTag).map trim := by
  by_cases empty : first = ""
  · have all : ∀ line ∈ blanks ++ (indent ++ first) :: rest, AllBlank line := by
      simpa [last empty, empty, or_imp, forall_and] using ⟨hb, blank⟩
    rw [resurfacing?_of_allBlank all, empty]
    rfl
  · have skipped := find?_trim_of_allBlank hb
    have shown : trim (indent ++ first) = trim first := Text.trim_append blank first
    have some : trim first ≠ "" := mt (Text.trim_eq_empty_iff plain).mp empty
    have tag : isTag (trim first) = isTag first := by rw [Text.trim_of_head plain, isTag_trimEnd]
    have found : ((blanks ++ (indent ++ first) :: rest).map trim).find? (· != "") =
        .some (trim first) := by
      simp [List.find?_append, skipped, shown, some]
    rw [resurfacing?, found]
    cases ht : isTag first <;> simp [Option.filter, tag, ht]

/-! ## The lines of a trimmed text -/

variable {own tags : List String}

/-- Without the blanks at its start a text keeps its tags, and the line before them may be one. -/
theorem exists_lines_started {s : String} (hs : Text.splitLines s = own ++ tags)
    (ho : ∀ line ∈ own, isTag line = false) (ht : ∀ tag ∈ tags, isTag tag = true) :
    ∃ before, Text.splitLines (Text.trimStart s) = before ++ tags ∧
      (before.filter isTag).map trim = (resurfacing? own).toList := by
  obtain ⟨blanks, indent, first, rest, lines, started, hb, blank, plain, last⟩ :=
    Text.exists_lines_trimStart s
  -- The first line that is left stands among the tags, or before them.
  have amongTags (more : List String) (hblanks : blanks = own ++ more)
      (htags : tags = more ++ (indent ++ first) :: rest) :
      ∃ before, Text.splitLines (Text.trimStart s) = before ++ tags ∧
        (before.filter isTag).map trim = (resurfacing? own).toList := by
    have none : more = [] := List.eq_nil_iff_forall_not_mem.mpr fun line hl =>
      not_allBlank_of_isTag (ht line (by simp [htags, hl])) (hb line (by simp [hblanks, hl]))
    have tag : isTag (indent ++ first) = true := ht _ (by simp [htags])
    refine ⟨[], ?_, ?_⟩
    · rw [started, htags, none, eq_empty_of_isTag blank tag, String.empty_append]
      rfl
    · rw [resurfacing?_of_allBlank fun line hl => hb line (by simp [hblanks, hl])]
      rfl
  rcases List.append_eq_append_iff.mp (hs.symm.trans lines) with
    ⟨more, hblanks, htags⟩ | ⟨more, hown, hrest⟩
  · exact amongTags more hblanks htags
  · rcases List.cons_eq_append_iff.mp hrest with ⟨rfl, htags⟩ | ⟨behind, rfl, rfl⟩
    · exact amongTags [] (by simpa using hown.symm) htags
    · have others : behind.filter isTag = [] :=
        List.filter_eq_nil_iff.mpr fun line hl => by simp [ho line (by simp [hown, hl])]
      have alone : first = "" → behind = [] :=
        fun empty => (List.append_eq_nil_iff.mp (last empty)).1
      refine ⟨first :: behind, started, ?_⟩
      rw [hown, resurfacing?_append hb blank plain alone]
      cases tag : isTag first <;> simp [tag, others]

/-- Without the blanks at its end it keeps them too, but for what is behind the last of them. -/
theorem tags_of_lines {s : String} {before : List String} (hs : Text.splitLines s = before ++ tags)
    (ht : ∀ tag ∈ tags, isTag tag = true) :
    ∃ stale, (Text.splitLines (trimEnd s)).filter isTag = stale ++ tags.modifyLast trimEnd ∧
      stale.map trim = (before.filter isTag).map trim := by
  obtain ⟨front, last, after, blanks, lines, stopped, hb, blank, trimmed⟩ :=
    Text.exists_lines_trimEnd s
  rw [stopped]
  have lines := hs.symm.trans lines
  have sameTag : isTag last = isTag (last ++ after) := (isTag_append blank).symm
  rcases List.eq_nil_or_concat' tags with rfl | ⟨others, tag, rfl⟩
  · refine ⟨(front ++ [last]).filter isTag, (List.append_nil _).symm, ?_⟩
    have noTags : blanks.filter isTag = [] :=
      List.filter_eq_nil_iff.mpr fun line hl => by simp [isTag_of_allBlank (hb line hl)]
    rw [List.append_nil] at lines
    rw [lines, List.filter_append, List.filter_append, List.filter_cons, List.filter_cons, noTags]
    cases tag : isTag last
    · simp [← sameTag, tag]
    · simp [← sameTag, tag, trim_of_isTag blank tag]
  · have closing : blanks = [] := by
      rcases List.eq_nil_or_concat' blanks with none | ⟨others', line, rfl⟩
      · exact none
      · rw [← List.append_assoc, ← List.cons_append, ← List.append_assoc] at lines
        have same : tag = line := by simpa using (List.append_inj' lines rfl).2
        exact absurd (hb line (by simp)) (not_allBlank_of_isTag (ht line (by simp [same])))
    rw [closing, ← List.append_assoc] at lines
    obtain ⟨hfront, htag⟩ := List.append_inj' lines rfl
    obtain rfl : tag = last ++ after := by simpa using htag
    have allTags : others.filter isTag = others :=
      List.filter_eq_self.mpr fun line hl => ht line (by simp [hl])
    have isLast : isTag last = true := sameTag.trans (ht _ (by simp))
    refine ⟨before.filter isTag, ?_, rfl⟩
    rw [List.modifyLast_concat, trimmed, ← hfront]
    simp [allTags, isLast]

/-! ## The tags of a comment -/

/-- What stands behind the star of a line of a comment. -/
def content? : Move → Option String
  | .line text =>
    if Text.startsWith " * " text then some (String.ofList (text.toList.drop 3)) else none
  | _ => none

/-- The tags in a comment. -/
def shownTags (s : Script) : List String := (s.filterMap content?).filter isTag

@[simp] theorem content?_inner (line : String) : content? (.line (" * " ++ line)) = some line := by
  have starred : Text.startsWith " * " (" * " ++ line) = true := by
    rw [Text.startsWith_iff, String.toList_append]
    exact List.prefix_append _ _
  have behind : (" * " ++ line).toList.drop 3 = line.toList := by
    rw [String.toList_append]
    rfl
  rw [content?, if_pos starred, behind, String.ofList_toList]

theorem contents_blockLines (s : String) :
    ((blockLines s).map .line).filterMap content? = Text.splitLines (trim s) := by
  have first : content? (.line "/**") = none := by decide
  have last : content? (.line " */") = none := by decide
  simp [blockLines, first, last, Function.comp_def]

/-- The comment of lines and tags has the tags, and in front of them the line that becomes one. -/
theorem shownTags_fed {g : GosuSettings} (wanted : g.general.docComments.truthy = true)
    (unbroken : ∀ line ∈ own ++ tags, '\n' ∉ line.toList) (ho : ∀ line ∈ own, isTag line = false)
    (ht : ∀ tag ∈ tags, isTag tag = true) :
    ∃ stale, shownTags (block g (.str (Text.fed (own ++ tags)))) =
        stale ++ tags.modifyLast trimEnd ∧
      stale.map trim = (resurfacing? own).toList := by
  by_cases none : own ++ tags = []
  · obtain ⟨rfl, rfl⟩ := List.append_eq_nil_iff.mp none
    have unwritten : block g (.str (Text.fed ([] ++ []))) = [] := by simp [block, Text.fed]
    exact ⟨[], by rw [unwritten]; rfl, rfl⟩
  · have some : Text.fed (own ++ tags) ≠ "" := by
      obtain ⟨line, lines, e⟩ := List.exists_cons_of_ne_nil none
      simp [e, Text.fed]
    have lines : Text.splitLines (Text.fed (own ++ tags)) = ("" :: own) ++ tags :=
      Text.splitLines_fed unbroken
    have untagged : ∀ line ∈ "" :: own, isTag line = false :=
      List.forall_mem_cons.mpr ⟨by decide, ho⟩
    obtain ⟨before, started, stale⟩ := exists_lines_started lines untagged ht
    rw [shownTags, block_eq wanted some, contents_blockLines, Text.trim_eq,
      ← resurfacing?_cons_empty, ← stale]
    exact tags_of_lines started ht

end Documentation

open Documentation Inspection

namespace Member

variable {m : Model} {g : GosuSettings} {e : Element}

/-- What is written for a named operation starts with its comment. -/
theorem exists_comment_of_method {withoutBody withoutParameters : Bool} {f : Script}
    (named : e.isNamed = true)
    (h : (method g e withoutBody withoutParameters).answerIn m = .ok f) :
    ∃ parameters doc code, parametersOf m e = .ok parameters ∧
      ofMethod m e (inputs parameters) (result? parameters) = .ok doc ∧
      f = block g (.str doc) ++ code := by
  rw [method, named] at h
  simp only [Bool.not_true, Bool.false_eq_true, if_false] at h
  rw [answerIn_get_bind] at h
  obtain ⟨parameters, hparameters, h⟩ := answerIn_lift_bind_eq_ok.mp h
  obtain ⟨doc, hdoc, h⟩ := answerIn_lift_bind_eq_ok.mp h
  have commented : ∃ code, f = block g (.str doc) ++ code := by
    refine Yields.holds (p := fun f => ∃ code, f = block g (.str doc) ++ code) ?_ h
    refine .after fun texts => .after fun between => .after fun type => .after fun line => ?_
    split
    · exact .pure ⟨_, rfl⟩
    · refine .after fun stub => .after fun returned => .pure ?_
      simp only [List.append_assoc]
      exact ⟨_, rfl⟩
  obtain ⟨code, rfl⟩ := commented
  exact ⟨parameters, doc, code, hparameters, hdoc, rfl⟩

/-- The comment of documentation and parameters. -/
theorem shownTags_of_parts {parameters : List Element}
    (wanted : g.general.docComments.truthy = true)
    (unbroken : ∀ p ∈ parameters, '\n' ∉ (m.display p.name).toList ∧
      '\n' ∉ (m.display p.documentation).toList) (documentation : String) :
    ∃ stale, shownTags (block g (.str (Text.fed (ownLines documentation ++
        tagLines m (inputs parameters) (result? parameters))))) = stale ++
        (tagLines m (inputs parameters) (result? parameters)).modifyLast trimEnd ∧
      stale.map trim = (resurfacing? (ownLines documentation)).toList := by
  have own (line : String) (hl : line ∈ ownLines documentation) :
      '\n' ∉ line.toList ∧ isTag line = false := by
    obtain ⟨hl, kept⟩ := List.mem_filter.mp hl
    exact ⟨Text.not_mem_of_mem_splitLines hl, by simpa using kept⟩
  have tags := isTag_of_mem_tagLines m (inputs parameters) (result? parameters)
  have feeds : ∀ line ∈ tagLines m (inputs parameters) (result? parameters), '\n' ∉ line.toList :=
    not_mem_of_mem_tagLines (fun p hp => unbroken p (List.mem_of_mem_filter hp))
      (fun p hp => (unbroken p (List.mem_of_find?_eq_some hp)).2)
  refine shownTags_fed wanted (fun line hl => ?_) (fun line hl => (own line hl).2) tags
  exact (List.mem_append.mp hl).elim (fun hl => (own line hl).1) (feeds line)

/-- **The tags in the comment of an operation are those made from its parameters, and before them
at most one line of its documentation**: the first one that is no tag and not blank, if without
its indentation it looks like a tag. The names and documentations of the parameters hold no line
feeds. -/
theorem method_tags {parameters : List Element} {documentation : String}
    (wanted : g.general.docComments.truthy = true)
    (documented : e.documentation = .str documentation)
    (hps : parametersOf m e = .ok parameters)
    (unbroken : ∀ p ∈ parameters, '\n' ∉ (m.display p.name).toList ∧
      '\n' ∉ (m.display p.documentation).toList) :
    ∃ doc stale, ofMethod m e (inputs parameters) (result? parameters) = .ok doc ∧
      (∀ withoutBody withoutParameters f, e.isNamed = true →
        (method g e withoutBody withoutParameters).answerIn m = .ok f →
          ∃ code, f = block g (.str doc) ++ code) ∧
      shownTags (block g (.str doc)) = stale ++
        (tagLines m (inputs parameters) (result? parameters)).modifyLast trimEnd ∧
      stale.map trim = (resurfacing? (ownLines documentation)).toList ∧
      (shownTags (block g (.str doc)) =
          (tagLines m (inputs parameters) (result? parameters)).modifyLast trimEnd ↔
        resurfacing? (ownLines documentation) = none) := by
  have made := ofMethod_eq (m := m) documented (inputs parameters) (result? parameters)
  have tagged := shownTags_of_parts wanted unbroken documentation
  generalize Text.fed (ownLines documentation ++
    tagLines m (inputs parameters) (result? parameters)) = doc at made tagged
  obtain ⟨stale, shown, resurfaced⟩ := tagged
  refine ⟨doc, stale, made, ?_, shown, resurfaced, ?_⟩
  · intro withoutBody withoutParameters f named h
    obtain ⟨parameters', doc', code, hps', made', rfl⟩ := exists_comment_of_method named h
    cases hps.symm.trans hps'
    cases made.symm.trans made'
    exact ⟨code, rfl⟩
  · rw [shown, List.append_left_eq_self, ← Option.toList_eq_nil_iff, ← resurfaced,
      List.map_eq_nil_iff]

/-- An operation with a parameter and a result. -/
def totalling : Model :=
  ⟨#[{ Element.newNamed "total" none (.operation [1, 2]) with
        documentation := .str "Sum it up.\n@param old stale\n@return stale" },
     { Element.newNamed "qty" (some 0) (.parameter .untyped .input) with
        documentation := .str "How many." },
     { Element.newNamed "" (some 0) (.parameter .untyped .result) with
        documentation := .str "The total. " }]⟩

theorem method_tags_totalling : ∃ doc f code,
    (method .standard (totalling.get 0) true false).answerIn totalling = .ok f ∧
    f = block .standard (.str doc) ++ code ∧
    shownTags (block .standard (.str doc)) = ["@param qty How many.", "@return The total."] := by
  have unbroken : ∀ p ∈ [totalling.get 1, totalling.get 2],
      '\n' ∉ (totalling.display p.name).toList ∧
        '\n' ∉ (totalling.display p.documentation).toList := by
    decide
  obtain ⟨f, written⟩ :
      ∃ f, (method .standard (totalling.get 0) true false).answerIn totalling = .ok f :=
    ⟨_, rfl⟩
  have hps : parametersOf totalling (totalling.get 0) = .ok [totalling.get 1, totalling.get 2] :=
    rfl
  obtain ⟨doc, -, -, comment, -, -, tags⟩ := method_tags (g := .standard) rfl rfl hps unbroken
  obtain ⟨code, begun⟩ := comment true false f rfl written
  exact ⟨doc, f, code, written, begun, tags.mpr (by decide)⟩

/-- An operation whose documentation has a tag, a line that looks like one behind its indentation,
and a sentence. -/
def running : Element :=
  { Element.newNamed "run" none (.operation []) with
    documentation := .str "@return old\n @param x stale\nRuns." }

/-- The stale tag is in the comment, although the operation has no parameter. -/
theorem stale_tag_shown : ∃ doc,
    ofMethod ⟨#[]⟩ running [] none = .ok doc ∧
    (method .standard running false false).answerIn ⟨#[]⟩ =
      .ok (block .standard (.str doc) ++ [.line "public function run() \x7b", .indent,
        .line "// TODO implement here", .outdent, .line "\x7d"]) ∧
    shownTags (block .standard (.str doc)) = ["@param x stale"] ∧
    tagLines ⟨#[]⟩ [] none = [] := by
  exact ⟨_, rfl, rfl, by decide, rfl⟩

end Member

end GosuForge

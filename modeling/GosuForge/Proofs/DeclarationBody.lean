import GosuForge.Proofs.DeclarationFunctions

/-!
# What a declaration is made of

Every form but that of an enumeration is written in the same order: comment, opening line, constructor
of a class, variables of the attributes, variables of the ends of associations, functions of the own
operations, stubs, and what is nested.

* `DeclarationForm.keyword`, `DeclarationForm.modifiers`, `DeclarationForm.documentation`,
  `DeclarationForm.relatedWords`: what the forms have in the comment and the opening line;
* `Declaration.Body`, `Declaration.exists_body`: the parts of a declaration that was written;
* `Declaration.exists_literals`: an enumeration has nothing but its literals.
-/

namespace GosuForge

open Inspection

namespace DeclarationForm

/-- The word for the form in a declaration. -/
def keyword : DeclarationForm → String
  | classForm => "class"
  | enhancement => "enhancement"
  | interface => "interface"
  | enumeration => "enum"
  | annotationForm => "annotation"

/-- The modifiers on the opening line. Only classes and annotations are abstract if an operation is. -/
def modifiers (m : Model) (form : DeclarationForm) (e : Element) : Except Fault (List Modifier) :=
  match form with
  | classForm => Modifier.ofClassifier m e
  | enhancement => .ok (Modifier.ofElement e)
  | interface => .ok (Modifier.ofVisibility e)
  | enumeration => .ok []
  | annotationForm => Modifier.ofClassifier m e

/-- The text of the comment, with the author in some forms. -/
def documentation (g : GosuSettings) (form : DeclarationForm) (e : Element) : Except Fault Value :=
  match form with
  | classForm => (Documentation.withAuthor g e).map .str
  | enhancement => (Documentation.withAuthor g e).map .str
  | interface => .ok e.documentation
  | enumeration => .ok e.documentation
  | annotationForm => (Documentation.withAuthor g e).map .str

/-- What stands behind the name on the opening line: the elements that are extended and realized. -/
def relatedWords (r : Repository) (m : Model) (form : DeclarationForm) (id : ElementId) :
    Except Fault (List Value) :=
  match form with
  | classForm => do
    let superClasses ← r.superClasses m id
    let extended ← Declaration.firstTarget m "extends " superClasses
    let interfaces ← r.superInterfaces m id
    let implemented ← Declaration.allTargets m "implements " interfaces
    .ok (extended ++ implemented)
  | enhancement => do
    let superClasses ← r.superClasses m id
    Declaration.firstTarget m ": " superClasses
  | interface => do
    let superClasses ← r.superClasses m id
    Declaration.allTargets m "extends " superClasses
  | enumeration => .ok []
  | annotationForm => .ok []

end DeclarationForm

namespace Declaration

/-- The line that a declaration opens with, behind its comment. -/
def openingLine (modifiers : List Modifier) (form : DeclarationForm) (name : String)
    (related : List String) : String :=
  Text.join " " (Modifier.words modifiers ++ [form.keyword, name] ++ related) ++ " \x7b"

/-- The parts of a declaration that is written around what is nested in it. -/
structure Body (r : Repository) (g : GosuSettings) (m : Model) (form : DeclarationForm)
    (id : ElementId) where
  doc : Value
  modifiers : List Modifier
  name : String
  related : List String
  attributes : List Script
  ends : List Script
  own : List Script
  /-- The model when the stubs are looked for, and the operations that they are for. -/
  seen : Model
  groups : List (List ElementId)
  stubs : List Script
  doc_eq : form.documentation g (m.get id) = .ok doc
  modifiers_eq : form.modifiers m (m.get id) = .ok modifiers
  name_eq : (m.get id).name = .str name
  related_eq : form.relatedWords r m id = .ok (related.map .str)
  attributes_written :
    List.Forall₂ (Member.WrittenVariable g m) (m.attributesOf id) attributes
  ends_written : List.Forall₂ (Member.WrittenVariable g m)
    ((r.memberEnds m form id).map AssociationSide.far) ends
  own_written : List.Forall₂ (fun o f =>
    Member.WrittenFunction g m (form.givesBody (m.get o)) form.givesParameters o f)
    (m.operationsOf id) own
  grown : m.GrowsTo seen
  groups_eq : stubGroups r m seen form id = .ok groups
  stubs_written : WrittenStubs g m groups.flatten stubs

namespace Body

variable {r : Repository} {g : GosuSettings} {m : Model} {form : DeclarationForm} {id : ElementId}

/-- The constructor of a class; no other form has one. -/
def constructor (_ : Body r g m form id) : Script :=
  if form = .classForm then Member.constructor g (m.get id) ++ [.line ""] else []

/-- The functions: those of the own operations, then the stubs. -/
def functions (b : Body r g m form id) : List Script := b.own ++ b.stubs

/-- The declaration up to what is nested in it. -/
def script (b : Body r g m form id) : Script :=
  Documentation.block g b.doc ++
    [.line (openingLine b.modifiers form b.name b.related), .line "", .indent] ++ b.constructor ++
    spaced (b.attributes ++ b.ends ++ b.functions)

/-- Only the attributes and the ends of associations declare variables. -/
theorem not_declaresVariable (b : Body r g m form id) :
    ∀ f ∈ b.functions, ¬ Member.DeclaresVariable g f := by
  intro f hf
  rcases List.mem_append.mp hf with hf | hf
  · obtain ⟨o, -, written⟩ := Outcome.exists_of_forall₂ b.own_written.flip f hf
    exact Member.not_declaresVariable written.isFunction
  · obtain ⟨o, -, written⟩ := Outcome.exists_of_forall₂ b.stubs_written.flip f hf
    exact Member.not_declaresVariable written.isFunction

end Body

section

variable {r : Repository} {g : GosuSettings} {m : Model} {id : ElementId}

theorem head_eq_ok (form : DeclarationForm) {modifiers : List Modifier} {e : Element}
    {related : List Value} {opening : Script}
    (h : head (keywords modifiers) form.keyword e related = .ok opening) :
    ∃ name texts, e.name = .str name ∧ related = texts.map .str ∧
      opening = [.line (openingLine modifiers form name texts), .line "", .indent] := by
  obtain ⟨line, hline, h⟩ := Outcome.bind_eq_ok.mp h
  rw [List.append_assoc] at hline
  obtain ⟨texts, htexts, rfl⟩ := phrase_keywords hline
  obtain ⟨_, texts, rfl, hkeyword, htexts⟩ := List.map_eq_cons_iff.mp htexts.symm
  obtain ⟨name, texts, rfl, hname, hrelated⟩ := List.map_eq_cons_iff.mp htexts
  obtain rfl := Value.str.inj hkeyword
  refine ⟨name, texts, hname.symm, hrelated.symm, ?_⟩
  rw [openingLine, List.append_assoc]
  exact (Except.ok.inj h).symm

/-- The variables of a body. -/
abbrev Fields (r : Repository) (g : GosuSettings) (m : Model) (form : DeclarationForm)
    (id : ElementId) (s : Script) : Prop :=
  ∃ attributes ends, s = spaced (attributes ++ ends) ∧
    List.Forall₂ (Member.WrittenVariable g m) (m.attributesOf id) attributes ∧
    List.Forall₂ (Member.WrittenVariable g m)
      ((r.memberEnds m form id).map AssociationSide.far) ends

/-- The functions of the own operations in a body. -/
abbrev OwnOperations (g : GosuSettings) (m : Model) (form : DeclarationForm) (id : ElementId)
    (s : Script) : Prop :=
  ∃ fs, s = spaced fs ∧ List.Forall₂ (fun o f =>
    Member.WrittenFunction g m (form.givesBody (m.get o)) form.givesParameters o f)
    (m.operationsOf id) fs

/-- The stubs of a body, which are looked for after the own operations were written. -/
abbrev Stubs (r : Repository) (g : GosuSettings) (m : Model) (form : DeclarationForm)
    (id : ElementId) (s : Script) : Prop :=
  ∃ seen groups fs, m.GrowsTo seen ∧ stubGroups r m seen form id = .ok groups ∧ s = spaced fs ∧
    WrittenStubs g m groups.flatten fs

/-- What is opened and filled is a body. -/
theorem exists_body_of_parts (form : DeclarationForm) {doc : Value} {modifiers : List Modifier}
    {related : List Value} {opening fields own stubs : Script}
    (hdoc : form.documentation g (m.get id) = .ok doc)
    (hmodifiers : form.modifiers m (m.get id) = .ok modifiers)
    (hrelated : form.relatedWords r m id = .ok related)
    (hopening : head (keywords modifiers) form.keyword (m.get id) related = .ok opening)
    (hfields : Fields r g m form id fields) (hown : OwnOperations g m form id own)
    (hstubs : Stubs r g m form id stubs) :
    ∃ b : Body r g m form id, b.script = Documentation.block g doc ++ opening ++
      (if form = .classForm then Member.constructor g (m.get id) ++ [.line ""] else []) ++
      (fields ++ (own ++ stubs)) := by
  obtain ⟨name, texts, hname, rfl, rfl⟩ := head_eq_ok form hopening
  obtain ⟨attributes, ends, rfl, hattributes, hends⟩ := hfields
  obtain ⟨ownFunctions, rfl, hown⟩ := hown
  obtain ⟨seen, groups, stubFunctions, grown, hgroups, rfl, hstubs⟩ := hstubs
  refine ⟨⟨doc, modifiers, name, texts, attributes, ends, ownFunctions, seen, groups, stubFunctions,
    hdoc, hmodifiers, hname, hrelated, hattributes, hends, hown, grown, hgroups, hstubs⟩, ?_⟩
  rw [Body.script, Body.functions, spaced_append (attributes ++ ends), spaced_append ownFunctions]
  rfl

/-- A form without stubs. -/
theorem Stubs.none {form : DeclarationForm} (h : stubGroups r m m form id = .ok []) :
    Stubs r g m form id [] :=
  ⟨m, [], [], .refl m, h, rfl, .nil⟩

theorem inheritedOperations_eq_ok {seen : Model} {superClasses : List (Option ElementId)}
    {ids : List ElementId} (hs : r.superClasses m id = .ok superClasses)
    (hids : operationsOf seen (superClasses.head?.getD none) = .ok ids) :
    inheritedOperations r m seen id =
      .ok (ids.filter fun o => Modifier.isAbstract (seen.get o)) :=
  Outcome.bind_eq_ok.mpr ⟨superClasses, hs, Outcome.bind_eq_ok.mpr ⟨ids, hids, rfl⟩⟩

variable {o : Script}

theorem classScript_body (h : (classScript r g id).answerIn m = .ok o) :
    ∃ b : Body r g m .classForm id, b.script = o := by
  rw [classScript, answerIn_get_bind] at h
  obtain ⟨doc, hdoc, h⟩ := answerIn_lift_bind_eq_ok.mp h
  obtain ⟨modifiers, hmodifiers, h⟩ := answerIn_lift_bind_eq_ok.mp h
  obtain ⟨superClasses, hsuper, h⟩ := answerIn_lift_bind_eq_ok.mp h
  obtain ⟨extended, hextended, h⟩ := answerIn_lift_bind_eq_ok.mp h
  obtain ⟨interfaces, hinterfaces, h⟩ := answerIn_lift_bind_eq_ok.mp h
  obtain ⟨implemented, himplemented, h⟩ := answerIn_lift_bind_eq_ok.mp h
  obtain ⟨opening, hopening, h⟩ := answerIn_lift_bind_eq_ok.mp h
  obtain ⟨fields, hfields, h⟩ := (members_stays .classForm).answerIn_bind_eq_ok h
  obtain ⟨own, after, hown, grown, h⟩ := (operations_keeps g id).exists_grown h
  obtain ⟨inherited, after', hinherited, grown', h⟩ := (inheritedStubs_keeps ..).exists_grown h
  obtain ⟨stubs, _, hstubs, h⟩ := answerIn_bind_eq_ok h
  cases h
  obtain ⟨ids, fs, hids, -, rfl, hfs⟩ := inheritedStubs_written grown hinherited
  obtain ⟨groups, fs', hgroups, rfl, hfs'⟩ := interfaceStubs_written (grown.trans grown') hstubs
  -- What is extended and realized was read for the opening line, so it is as it was.
  rw [operationsOf_of_firstTarget grown hextended] at hids
  have hgroups := mapM_operationsOf_of_allTargets (grown.trans grown') himplemented hgroups
  have both : stubGroups r m m .classForm id =
      .ok (ids.filter (fun o => Modifier.isAbstract (m.get o)) :: groups) :=
    Outcome.bind_eq_ok.mpr ⟨_, inheritedOperations_eq_ok hsuper hids,
      Outcome.bind_eq_ok.mpr ⟨interfaces, hinterfaces, Outcome.bind_eq_ok.mpr ⟨groups, hgroups, rfl⟩⟩⟩
  have related : DeclarationForm.classForm.relatedWords r m id = .ok (extended ++ implemented) :=
    Outcome.bind_eq_ok.mpr ⟨superClasses, hsuper, Outcome.bind_eq_ok.mpr ⟨extended, hextended,
      Outcome.bind_eq_ok.mpr ⟨interfaces, hinterfaces,
        Outcome.bind_eq_ok.mpr ⟨implemented, himplemented, rfl⟩⟩⟩⟩
  obtain ⟨b, hb⟩ := exists_body_of_parts .classForm (Outcome.map_eq_ok.mpr ⟨doc, hdoc, rfl⟩)
    hmodifiers related hopening hfields (operations_written hown)
    ⟨m, _, fs ++ fs', .refl m, both, (spaced_append ..).symm, List.rel_append hfs hfs'⟩
  refine ⟨b, hb.trans ?_⟩
  rw [if_pos rfl]
  simp only [List.append_assoc]

theorem enhancementScript_body (h : (enhancementScript r g id).answerIn m = .ok o) :
    ∃ b : Body r g m .enhancement id, b.script = o := by
  rw [enhancementScript, answerIn_get_bind] at h
  obtain ⟨doc, hdoc, h⟩ := answerIn_lift_bind_eq_ok.mp h
  obtain ⟨superClasses, hsuper, h⟩ := answerIn_lift_bind_eq_ok.mp h
  obtain ⟨extended, hextended, h⟩ := answerIn_lift_bind_eq_ok.mp h
  obtain ⟨opening, hopening, h⟩ := answerIn_lift_bind_eq_ok.mp h
  obtain ⟨fields, hfields, h⟩ := (members_stays .enhancement).answerIn_bind_eq_ok h
  obtain ⟨own, _, hown, h⟩ := answerIn_bind_eq_ok h
  cases h
  obtain ⟨b, hb⟩ := exists_body_of_parts .enhancement (Outcome.map_eq_ok.mpr ⟨doc, hdoc, rfl⟩) rfl
    (Outcome.bind_eq_ok.mpr ⟨superClasses, hsuper, hextended⟩) hopening hfields
    (operations_written hown) (.none rfl)
  refine ⟨b, hb.trans ?_⟩
  rw [if_neg nofun]
  simp only [List.append_assoc, List.append_nil]

theorem interfaceScript_body (h : (interfaceScript r g id).answerIn m = .ok o) :
    ∃ b : Body r g m .interface id, b.script = o := by
  rw [interfaceScript, answerIn_get_bind] at h
  obtain ⟨superClasses, hsuper, h⟩ := answerIn_lift_bind_eq_ok.mp h
  obtain ⟨extended, hextended, h⟩ := answerIn_lift_bind_eq_ok.mp h
  obtain ⟨opening, hopening, h⟩ := answerIn_lift_bind_eq_ok.mp h
  obtain ⟨fields, hfields, h⟩ := (members_stays .interface).answerIn_bind_eq_ok h
  obtain ⟨own, _, hown, h⟩ := answerIn_bind_eq_ok h
  cases h
  obtain ⟨b, hb⟩ := exists_body_of_parts .interface rfl rfl
    (Outcome.bind_eq_ok.mpr ⟨superClasses, hsuper, hextended⟩) hopening hfields
    (signatures_written true hown) (.none rfl)
  refine ⟨b, hb.trans ?_⟩
  rw [if_neg nofun]
  simp only [List.append_assoc, List.append_nil]

theorem annotationScript_body (h : (annotationScript r g id).answerIn m = .ok o) :
    ∃ b : Body r g m .annotationForm id, b.script = o := by
  rw [annotationScript, answerIn_get_bind] at h
  obtain ⟨doc, hdoc, h⟩ := answerIn_lift_bind_eq_ok.mp h
  obtain ⟨modifiers, hmodifiers, h⟩ := answerIn_lift_bind_eq_ok.mp h
  obtain ⟨opening, hopening, h⟩ := answerIn_lift_bind_eq_ok.mp h
  obtain ⟨fields, hfields, h⟩ := (members_stays .annotationForm).answerIn_bind_eq_ok h
  obtain ⟨own, seen, hown, grown, h⟩ := (signatures_keeps ..).exists_grown h
  obtain ⟨superClasses, hsuper, h⟩ := answerIn_lift_bind_eq_ok.mp h
  obtain ⟨inherited, _, hinherited, h⟩ := answerIn_bind_eq_ok h
  cases h
  obtain ⟨ids, fs, hids, same, rfl, hfs⟩ := inheritedStubs_written grown hinherited
  have abstract : ids.filter (fun o => Modifier.isAbstract (m.get o)) =
      ids.filter fun o => Modifier.isAbstract (seen.get o) :=
    List.filter_congr fun o ho => by rw [same o ho]
  have groups : stubGroups r m seen .annotationForm id =
      .ok [ids.filter fun o => Modifier.isAbstract (seen.get o)] :=
    Outcome.bind_eq_ok.mpr ⟨_, inheritedOperations_eq_ok hsuper hids, rfl⟩
  rw [abstract] at hfs
  obtain ⟨b, hb⟩ := exists_body_of_parts .annotationForm (Outcome.map_eq_ok.mpr ⟨doc, hdoc, rfl⟩)
    hmodifiers rfl hopening hfields (signatures_written false hown)
    ⟨seen, _, fs, grown, groups, rfl, by simpa using hfs⟩
  refine ⟨b, hb.trans ?_⟩
  rw [if_neg nofun]
  simp only [List.append_assoc, List.append_nil]

/-- A declaration that is written around what is nested in it has a body, and ends with what is nested.
Writing the body lets no more than lists grow. -/
theorem exists_body {form : DeclarationForm} {nested : Inspection Script} {s : Script}
    (hf : form ≠ .enumeration) (h : (scriptFor r g form id nested).answerIn m = .ok s) :
    ∃ (b : Body r g m form id) (inner : Script) (m' : Model), m.GrowsTo m' ∧
      nested.answerIn m' = .ok inner ∧ s = b.script ++ inner ++ close := by
  have around {own : Inspection Script} (keeps : Keeps own)
      (body : ∀ o, own.answerIn m = .ok o → ∃ b : Body r g m form id, b.script = o)
      (h : (around own nested).answerIn m = .ok s) :
      ∃ (b : Body r g m form id) (inner : Script) (m' : Model), m.GrowsTo m' ∧
        nested.answerIn m' = .ok inner ∧ s = b.script ++ inner ++ close := by
    obtain ⟨o, m', hown, grown, h⟩ := keeps.exists_grown h
    obtain ⟨inner, _, hinner, h⟩ := answerIn_bind_eq_ok h
    cases h
    obtain ⟨b, rfl⟩ := body o hown
    exact ⟨b, inner, m', grown, hinner, rfl⟩
  cases form with
  | classForm => exact around (classScript_keeps r g id) (fun _ => classScript_body) h
  | enhancement => exact around (enhancementScript_keeps r g id) (fun _ => enhancementScript_body) h
  | interface => exact around (interfaceScript_keeps r g id) (fun _ => interfaceScript_body) h
  | annotationForm => exact around (annotationScript_keeps r g id) (fun _ => annotationScript_body) h
  | enumeration => exact absurd rfl hf

theorem literalLines_eq_ok {ids : List ElementId} {script : Script}
    (h : literalLines m ids = .ok script) :
    ∃ lines, script = lines.map Move.line ∧
      List.Forall₂ (fun id line => ∃ name, (m.get id).name = .str name ∧
        (line = name ∨ line = name ++ ",")) ids lines := by
  induction ids generalizing script with
  | nil =>
    cases h
    exact ⟨[], rfl, .nil⟩
  | cons id rest ih =>
    obtain ⟨e, he, h⟩ := Outcome.bind_eq_ok.mp h
    obtain rfl := Model.read_eq_ok he
    split at h
    · rename_i name hname
      obtain ⟨others, hothers, h⟩ := Outcome.bind_eq_ok.mp h
      obtain ⟨lines, rfl, written⟩ := ih hothers
      cases h
      refine ⟨_ :: lines, rfl, .cons ⟨name, hname, ?_⟩ written⟩
      split
      · exact .inl rfl
      · exact .inr rfl
    · cases h

/-- An enumeration has a line for each of its literals and nothing else. -/
theorem exists_literals {s : Script} (h : enumerationScript m g id = .ok s) :
    ∃ lines, List.Forall₂ (fun id line => ∃ name, (m.get id).name = .str name ∧
        (line = name ∨ line = name ++ ",")) (m.literalsOf id) lines ∧
      s = Documentation.block g (m.get id).documentation ++
        [.line (openingLine [] .enumeration (m.display (m.get id).name) []), .indent] ++
          lines.map Move.line ++ close := by
  obtain ⟨literals, hliterals, h⟩ := Outcome.bind_eq_ok.mp h
  obtain ⟨script, hlines, h⟩ := Outcome.bind_eq_ok.mp h
  cases h
  obtain ⟨lines, rfl, written⟩ := literalLines_eq_ok hlines
  refine ⟨lines, ?_, ?_⟩
  · rwa [← Members.orNone_eq_ok hliterals] at written
  · have line (name : String) : openingLine [] .enumeration name [] = "enum " ++ name ++ " \x7b" := by
      simp [openingLine, Text.join, Modifier.words, DeclarationForm.keyword]
    rw [line]

/-- Whatever the form, a declaration opens with a line of its keyword and its name. -/
theorem exists_opening {form : DeclarationForm} {nested : Inspection Script} {s : Script}
    {name : String} (h : (scriptFor r g form id nested).answerIn m = .ok s)
    (hname : (m.get id).name = .str name) :
    ∃ doc modifiers related rest, s = Documentation.block g doc ++
      .line (openingLine modifiers form name related) :: rest := by
  by_cases hf : form = .enumeration
  · subst hf
    rw [scriptFor, answerIn_get_bind, answerIn_lift] at h
    obtain ⟨lines, -, rfl⟩ := exists_literals h
    rw [hname]
    exact ⟨(m.get id).documentation, [], [], .indent :: lines.map Move.line ++ close, by simp; rfl⟩
  · obtain ⟨b, inner, _, -, -, rfl⟩ := exists_body hf h
    have same : b.name = name := Value.str.inj (b.name_eq.symm.trans hname)
    refine ⟨b.doc, b.modifiers, b.related, .line "" :: .indent :: (b.constructor ++
      spaced (b.attributes ++ b.ends ++ b.functions) ++ inner ++ close), ?_⟩
    simp [Body.script, same]

end

end Declaration

end GosuForge

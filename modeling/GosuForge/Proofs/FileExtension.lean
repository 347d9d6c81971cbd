import GosuForge.Proofs.DeclarationBody
import GosuForge.Proofs.GrowingPlan
import GosuForge.Proofs.Memory

/-!
# The extensions of files

The form of a declaration is picked by what an element is and then by its stereotype; the extension of
its file is picked by the stereotype alone.

* `SourceFile.Declares`: a file with a declaration that opens with a line;
* `SourceFile.ExtensionAgrees`: the name of a file tells an enhancement from any other declaration;
* `SourceFile.extensionAgrees_iff`: where it does so;
* `Workbench.extension_agrees_iff`: the same of every file that a run writes.
-/

namespace GosuForge

open Inspection

/-! ## Names of files -/

namespace DeclarationForm

theorem of?_eq_enhancement {e : Element} : of? e = some enhancement ↔
    e.sort? = some .classSort ∧ hasStereotype e enhancementStereotype = true := by
  have notBoth (h : hasStereotype e enhancementStereotype = true) :
      hasStereotype e annotationStereotype = false := by
    unfold hasStereotype at h ⊢
    split at h
    · rw [eq_of_beq h]
      decide
    · cases h
  rw [of?]
  constructor
  · intro h
    split at h
    · split at h
      · cases h
      · split at h
        · exact ⟨‹_›, ‹_›⟩
        · cases h
    all_goals cases h
  · rintro ⟨sort, stereotype⟩
    rw [sort]
    simp only [notBoth stereotype, stereotype, Bool.false_eq_true, if_false, if_true]

end DeclarationForm

namespace SourceFile

/-- The name of a file has the extension of enhancements just where the declaration is one. -/
def ExtensionAgrees (g : GosuSettings) (form : DeclarationForm) (name fileName : String) : Prop :=
  (fileName = name ++ g.enhancementExtension ↔ form = .enhancement) ∧
  (form ≠ .enhancement → fileName = name ++ g.sourceExtension)

/-- The extension agrees with the declaration unless an element that is no class has the stereotype of
enhancements. -/
theorem extensionAgrees_iff {g : GosuSettings} {e : Element} {form : DeclarationForm}
    {name fileName' : String} (differ : g.sourceExtension ≠ g.enhancementExtension)
    (hform : DeclarationForm.of? e = some form) (hname : e.name = .str name)
    (h : fileName g e = .ok fileName') :
    ExtensionAgrees g form name fileName' ↔
      (DeclarationForm.hasStereotype e DeclarationForm.enhancementStereotype = true →
        e.sort? = some .classSort) := by
  have apart : name ++ g.sourceExtension ≠ name ++ g.enhancementExtension := by
    simpa using differ
  have enhances : form = .enhancement ↔ e.sort? = some .classSort ∧
      DeclarationForm.hasStereotype e DeclarationForm.enhancementStereotype = true := by
    rw [← DeclarationForm.of?_eq_enhancement, hform, Option.some.injEq]
  rw [fileName, hname] at h
  rw [ExtensionAgrees, Ne, enhances, ← Except.ok.inj h]
  by_cases stereotype :
    DeclarationForm.hasStereotype e DeclarationForm.enhancementStereotype = true
  · rw [if_pos stereotype]
    constructor
    · intro agrees _
      exact (agrees.1.mp rfl).1
    · intro sort
      have both := And.intro (sort stereotype) stereotype
      exact ⟨⟨fun _ => both, fun _ => rfl⟩, fun other => absurd both other⟩
  · rw [if_neg stereotype]
    constructor
    · intro _ other
      exact absurd other stereotype
    · intro _
      exact ⟨⟨fun same => absurd same apart, fun both => absurd both.2 stereotype⟩, fun _ => rfl⟩

/-! ## What a file begins with -/

/-- A file is made of a header and a declaration: a comment, the line that the declaration opens with,
and whatever follows. -/
def Declares (g : GosuSettings) (template : Option Template) (opening content : String) : Prop :=
  ∃ (doc : Value) (comment after : List String) (packageName : String) (uses : List Value)
    (composed : String),
    Documentation.block g doc = comment.map Move.line ∧
    compose template packageName uses (Text.joinLines (comment ++ opening :: after)) = .ok composed ∧
    endLines g.general.lineEnding composed = .ok content

theorem exists_comment (g : GosuSettings) (doc : Value) :
    ∃ comment : List String, Documentation.block g doc = comment.map Move.line := by
  unfold Documentation.block
  split
  · exact ⟨[], rfl⟩
  · split
    · rename_i text
      split
      · exact ⟨[], rfl⟩
      · refine ⟨"/**" :: (Text.splitLines (Text.trim text)).map (" * " ++ ·) ++ [" */"], ?_⟩
        simp
    · exact ⟨[], rfl⟩

theorem linesAt_zero (indentText : String) (texts : List String) :
    (Script.layout (texts.map Move.line)).linesAt indentText 0 = texts := by
  induction texts with
  | nil => rfl
  | cons text texts ih =>
    have first : Writer.lineAt indentText 0 text = text := by
      rw [Writer.lineAt]
      split
      · exact Eq.symm ‹_›
      · exact String.empty_append
    exact congr (congrArg List.cons first) ih

/-- The lines of a script that begins with some lines. -/
theorem lines_of_run {s : Script} {indentText : String} {w : Writer} (balanced : s.Balanced)
    (h : (Writer.new indentText).run s = .ok w) (texts : List String) (rest : Script)
    (e : s = texts.map Move.line ++ rest) : ∃ after, w.lines = texts ++ after := by
  have alone := Script.Balanced.map_line id texts
  rw [Writer.run_of_balanced balanced] at h
  rw [← Except.ok.inj h, e]
  refine ⟨(Script.layout rest).linesAt indentText 0, ?_⟩
  have begun : Script.layout (texts.map Move.line ++ rest) =
      Script.layout (texts.map Move.line) ++ Script.layout rest := alone.layout_append rest
  rw [begun]
  simp only [Writer.new, List.nil_append, Layout.linesAt, List.map_append]
  exact congrArg (· ++ _) (linesAt_zero indentText texts)

/-- The file of an element with a name begins with the line of its declaration. -/
theorem declares_of_render? {r : Repository} {g : GosuSettings} {template : Option Template}
    {root : Option ElementId} {id : ElementId} {m : Model} {content : String}
    (h : (render? r g template root id).answerIn m = .ok (some content)) :
    ∃ form, DeclarationForm.of? (m.get id) = some form ∧ ∀ name, (m.get id).name = .str name →
      ∃ modifiers related,
        Declares g template (Declaration.openingLine modifiers form name related) content := by
  rw [render?, answerIn_get_bind] at h
  dsimp only at h
  split at h
  · cases h
  · rename_i form hform
    split at h
    · cases h
    · obtain ⟨indentText, -, h⟩ := answerIn_lift_bind_eq_ok.mp h
      obtain ⟨s, _, hs, h⟩ := answerIn_bind_eq_ok h
      obtain ⟨writer, hwriter, h⟩ := answerIn_lift_bind_eq_ok.mp h
      obtain ⟨path, -, h⟩ := answerIn_lift_bind_eq_ok.mp h
      obtain ⟨packageName, -, h⟩ := answerIn_lift_bind_eq_ok.mp h
      obtain ⟨composed, hcomposed, h⟩ := answerIn_lift_bind_eq_ok.mp h
      obtain ⟨ended, hended, h⟩ := answerIn_lift_bind_eq_ok.mp h
      cases h
      refine ⟨form, hform, fun name hname => ?_⟩
      have balanced := (Declaration.script_balanced r g form id).holds hs
      rw [Declaration.script, answerIn_get_bind] at hs
      obtain ⟨doc, modifiers, related, rest, rfl⟩ := Declaration.exists_opening hs hname
      obtain ⟨comment, hcomment⟩ := exists_comment g doc
      obtain ⟨after, hlines⟩ := lines_of_run balanced hwriter
        (comment ++ [Declaration.openingLine modifiers form name related]) rest
        (by rw [hcomment]; simp)
      rw [Writer.text, hlines, List.append_assoc] at hcomposed
      exact ⟨modifiers, related, doc, comment, after, packageName, _, composed, hcomment, hcomposed,
        hended⟩

/-- The step of a declaration: its file stands in the directory, with its name and extension. -/
theorem declares_of_declarationStep? {g : Generator} {r : Repository} {root : Option ElementId}
    {directory path : Path} {id : ElementId} {m : Model} {content : String}
    (h : (Plan.declarationStep? g r root directory id).answerIn m =
      .ok (some (.file path content))) :
    ∃ form name fileName' modifiers related, DeclarationForm.of? (m.get id) = some form ∧
      (m.get id).name = .str name ∧ fileName g.settings (m.get id) = .ok fileName' ∧
      path = directory.join fileName' ∧
      Declares g.settings g.header (Declaration.openingLine modifiers form name related) content := by
  obtain ⟨m', step⟩ : ∃ m', (Plan.declarationStep? g r root directory id).runIn m =
      (.ok (some (.file path content)), m') := ⟨_, Prod.ext h rfl⟩
  obtain ⟨written, after, hr, step⟩ := runIn_bind_eq_ok step
  have grown := (Plan.render?_keeps r g.settings g.header root id).growsTo m
  rw [hr] at grown
  cases written with
  | none => cases step
  | some written =>
    dsimp only at step
    rw [runIn_bind_of_ok _ (runIn_get after)] at step
    obtain ⟨fileName', hfileName, step⟩ := runIn_lift_bind_eq_ok step
    cases step
    obtain ⟨form, hform, declares⟩ := declares_of_render? (congrArg Prod.fst hr)
    rw [grown.get_eq_of_form (.inl hform)] at hfileName
    obtain ⟨name, hname⟩ : ∃ name, (m.get id).name = .str name := by
      unfold fileName at hfileName
      split at hfileName
      · exact ⟨_, ‹_›⟩
      · cases hfileName
    obtain ⟨modifiers, related, declares⟩ := declares name hname
    exact ⟨form, name, fileName', modifiers, related, hform, hname, hfileName, rfl, declares⟩

end SourceFile

namespace Workbench

variable {σ : Type}

/-- What is made was asked for. -/
theorem mem_calls_of_made {j : Journal} {step : Step} (h : step ∈ j.made) : step ∈ j.calls := by
  obtain ⟨⟨asked, outcome⟩, hmem, h⟩ := List.mem_filterMap.mp h
  refine List.mem_map.mpr ⟨(asked, outcome), hmem, ?_⟩
  dsimp only at h
  split at h
  · exact Option.some.inj h
  · cases h

/-- A file that a run makes is that of a declaration that it reaches. -/
theorem exists_visit_of_made {w : Workbench} {d : Design} {root : ElementId} {directory : Path}
    {storage : Storage σ} {state : σ} {path : Path} {content : String}
    (h : .file path content ∈ (w.recorded d root directory storage state).2.made) :
    ∃ v m, d.model.Reached root directory v ∧ d.model.GrowsTo m ∧
      (Plan.declarationStep? w.generator d.relationships (some root) v.directory v.id).answerIn m =
        .ok (some (.file path content)) := by
  obtain ⟨planned, hp, hs⟩ := Plan.exists_of_mem_calls (mem_calls_plan (mem_calls_of_made h))
  exact Plan.exists_visit_of_mem_walk (.refl _) .root hp hs

/-- **Names of files tell enhancements.** Where the two extensions differ, each file that a run writes, at
whatever destination, is that of a declaration that it reaches. The name of the file tells whether that
declaration opens as an enhancement, unless an element that is no class has the stereotype of
enhancements: its file has their extension, and it is declared as what it is. -/
theorem extension_agrees_iff (w : Workbench) (d : Design) (root : ElementId) (directory : Path)
    (storage : Storage σ) (state : σ)
    (differ : w.generator.settings.sourceExtension ≠ w.generator.settings.enhancementExtension) :
    ∀ file ∈ (w.recorded d root directory storage state).2.made.filterMap Step.entry?,
      ∃ v form name fileName modifiers related, d.model.Reached root directory v ∧
        DeclarationForm.of? (d.model.get v.id) = some form ∧
        (d.model.get v.id).name = .str name ∧
        SourceFile.fileName w.generator.settings (d.model.get v.id) = .ok fileName ∧
        file.1 = v.directory.join fileName ∧
        SourceFile.Declares w.generator.settings w.generator.header
          (Declaration.openingLine modifiers form name related) file.2 ∧
        (SourceFile.ExtensionAgrees w.generator.settings form name fileName ↔
          (DeclarationForm.hasStereotype (d.model.get v.id) DeclarationForm.enhancementStereotype =
            true → (d.model.get v.id).sort? = some .classSort)) := by
  intro file hfile
  obtain ⟨step, hstep, hentry⟩ := List.mem_filterMap.mp hfile
  obtain ⟨path, content⟩ := file
  cases step with
  | directory path => cases hentry
  | file path content =>
    cases hentry
    obtain ⟨v, m, reached, grown, answered⟩ := exists_visit_of_made hstep
    obtain ⟨form, name, fileName, modifiers, related, hform, hname, hfileName, rfl, declares⟩ :=
      SourceFile.declares_of_declarationStep? answered
    have same := grown.get_eq_of_form (.inr hform)
    rw [same] at hform hname hfileName
    exact ⟨v, form, name, fileName, modifiers, related, reached, hform, hname, hfileName, rfl, declares,
      SourceFile.extensionAgrees_iff differ hform hname hfileName⟩

/-- A package with a class and an enhancement. -/
def tools : Design where
  model := ⟨#[.newNamed "tools" none (.package [1, 2]),
    .newNamed "Hammer" (some 0) (.classifier (.new .classSort)),
    .newNamed "Grip" (some 0) (.classifier { Classifier.new .classSort with
      stereotype := .str DeclarationForm.enhancementStereotype })]⟩
  relationships := []

/-- Only a class has the stereotype, so the names of both files agree with what is in them. -/
theorem extension_agrees_tools :
    standard.generator.settings.sourceExtension ≠ standard.generator.settings.enhancementExtension ∧
    ((standard.recorded tools 0 .here Storage.accepting ()).2.made.filterMap Step.file?) =
      [.ofString "tools/Hammer.gs", .ofString "tools/Grip.gsx"] ∧
    ∀ file ∈ (standard.recorded tools 0 .here Storage.accepting ()).2.made.filterMap Step.entry?,
      ∃ form name fileName modifiers related,
        SourceFile.Declares standard.generator.settings standard.generator.header
          (Declaration.openingLine modifiers form name related) file.2 ∧
        SourceFile.ExtensionAgrees standard.generator.settings form name fileName := by
  have differ : standard.generator.settings.sourceExtension ≠
      standard.generator.settings.enhancementExtension := by decide
  refine ⟨differ, by decide +kernel, fun file hfile => ?_⟩
  obtain ⟨v, form, name, fileName, modifiers, related, -, hform, -, -, -, declares, agrees⟩ :=
    extension_agrees_iff standard tools 0 .here Storage.accepting () differ file hfile
  refine ⟨form, name, fileName, modifiers, related, declares, agrees.mpr fun _ => ?_⟩
  match hid : v.id with
  | 0 =>
    rw [hid] at hform
    cases hform
  | 1 => rfl
  | 2 => rfl
  | _ + 3 =>
    rw [hid] at hform
    cases hform

/-- An interface with the stereotype of enhancements. -/
def stereotyped : Value :=
  .obj [("name", .str "I"), ("kind", .str "interface"),
    ("stereotype", .str DeclarationForm.enhancementStereotype)]

/-- The file of such an interface has the extension of enhancements. -/
theorem interface_as_enhancement : ∃ loaded, LoadedModel.ofDocument stereotyped = .ok loaded ∧
    standard.generator.settings.sourceExtension ≠ standard.generator.settings.enhancementExtension ∧
    (standard.recorded loaded.design loaded.root .here Storage.accepting ()).1.success = true ∧
    (standard.recorded loaded.design loaded.root .here Storage.accepting ()).2.made.filterMap
        Step.entry? =
      [(.ofString "I.gsx", "\nuses java.util.*;\n\npublic interface I \x7b\n\n\x7d")] ∧
    ¬ SourceFile.ExtensionAgrees standard.generator.settings .interface "I" "I.gsx" := by
  refine ⟨_, rfl, by decide, by decide +kernel, by decide +kernel, fun agrees => ?_⟩
  have other : "I.gsx" = "I.gs" := agrees.2 nofun
  exact absurd other (by decide)

end Workbench

end GosuForge

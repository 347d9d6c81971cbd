import GosuForge.Proofs.Run

/-!
# Settings that write alike

What a run makes depends on the settings only through the scripts of declarations, their layout and the
names of files.

* `GosuSettings.WriteAlike`: settings that agree in all of this;
* `Plan.make_of_writeAlike`, `Workbench.run_of_writeAlike`: plans and runs with such settings are the same.
-/

namespace GosuForge

namespace Declaration

variable {r : Repository} {g h : GosuSettings}

/-- Settings that write every declaration alike also write alike what is nested in one. -/
theorem nestedScript_congr (same : ∀ form id nested, scriptFor r h form id nested =
    scriptFor r g form id nested) (fuel : Nat) (id : ElementId) :
    nestedScript r h fuel id = nestedScript r g fuel id := by
  induction fuel generalizing id with
  | zero => rfl
  | succ fuel ih => simp only [nestedScript, ownedScript, same, ih]

theorem script_congr (same : ∀ form id nested, scriptFor r h form id nested =
    scriptFor r g form id nested) (form : DeclarationForm) (id : ElementId) :
    script r h form id = script r g form id := by
  simp only [script, same, nestedScript_congr same]

end Declaration

/-- Settings of which nothing else is read when files are made. -/
structure GosuSettings.WriteAlike (g h : GosuSettings) : Prop where
  scriptFor : ∀ (r : Repository) (form : DeclarationForm) (id : ElementId)
    (nested : Inspection Script),
    Declaration.scriptFor r h form id nested = Declaration.scriptFor r g form id nested
  indentText : h.indentText = g.indentText
  uses : h.uses = g.uses
  lineEnding : h.general.lineEnding = g.general.lineEnding
  sourceExtension : h.sourceExtension = g.sourceExtension
  enhancementExtension : h.enhancementExtension = g.enhancementExtension

/-- The generator with other settings. -/
def Generator.withSettings (g : Generator) (settings : GosuSettings) : Generator :=
  { g with settings }

namespace GosuSettings.WriteAlike

variable {g h : GosuSettings} (alike : g.WriteAlike h) (r : Repository)

include alike

theorem script (form : DeclarationForm) (id : ElementId) :
    Declaration.script r h form id = Declaration.script r g form id :=
  Declaration.script_congr (alike.scriptFor r) form id

theorem render? (template : Option Template) (root : Option ElementId) (id : ElementId) :
    SourceFile.render? r h template root id = SourceFile.render? r g template root id := by
  simp only [SourceFile.render?, alike.script, alike.indentText, alike.uses, alike.lineEnding]

theorem fileName (e : Element) : SourceFile.fileName h e = SourceFile.fileName g e := by
  simp only [SourceFile.fileName, alike.sourceExtension, alike.enhancementExtension]

end GosuSettings.WriteAlike

variable {g : Generator} {settings : GosuSettings} (alike : g.settings.WriteAlike settings)

include alike

theorem Plan.walk_of_writeAlike (r : Repository) (root : Option ElementId) (fuel : Nat) :
    walk (g.withSettings settings) r root fuel = walk g r root fuel := by
  have steps : declarationSteps (g.withSettings settings) r root = declarationSteps g r root := by
    funext path m id
    simp only [declarationSteps, declarationStep?, Generator.withSettings, alike.render?,
      alike.fileName]
  induction fuel with
  | zero => rfl
  | succ fuel ih =>
    funext path m id
    simp only [walk, ih, steps]

theorem Plan.make_of_writeAlike (d : Design) (root : Option ElementId) (path : Path)
    (id : ElementId) :
    make (g.withSettings settings) d root path id = make g d root path id := by
  rw [make, make, walk_of_writeAlike alike]

/-- A run with settings that write alike reports the same, and leaves the same behind. -/
theorem Workbench.run_of_writeAlike {σ : Type} (d : Design) (root : ElementId) (path : Path)
    (storage : Storage σ) (state : σ) :
    ((new (g.withSettings settings)).run d root path storage state).1 =
        ((new g).run d root path storage state).1 ∧
      ((new (g.withSettings settings)).run d root path storage state).2.2.2 =
        ((new g).run d root path storage state).2.2.2 := by
  have plans : (new (g.withSettings settings)).plan d root path = (new g).plan d root path :=
    Plan.make_of_writeAlike alike d (some root) path root
  have reports (root : Element) (outcome : Except Fault Unit) (p : Progress) :
      (g.withSettings settings).report root path outcome p = g.report root path outcome p := by
    simp only [Generator.report, Generator.summary, Generator.withSettings, alike.sourceExtension]
  rw [run_eq, run_eq, plans]
  exact ⟨reports _ _ _, rfl⟩

end GosuForge

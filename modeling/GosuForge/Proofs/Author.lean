import GosuForge.Proofs.WriteAlike

/-!
# Authors that do not count

An author is written into the documentation of declarations if it counts as given. Whatever else is
in its place, nothing that a run makes depends on it.

* `GosuSettings.signed`: settings with another author;
* `Declaration.scriptFor_signed`, `Workbench.run_signed`: declarations and runs with an author that does
  not count are those without one.
-/

namespace GosuForge

/-- The settings with another author. -/
def GosuSettings.signed (g : GosuSettings) (author : Value) : GosuSettings :=
  { g with general := g.general.set author .author }

def Generator.signed (g : Generator) (author : Value) : Generator :=
  { g with settings := g.settings.signed author }

variable {author : Value} (counts : author.truthy = false)

include counts

theorem Documentation.withAuthor_signed {g : GosuSettings} (none : g.general.author.truthy = false)
    (e : Element) : withAuthor (g.signed author) e = withAuthor g e := by
  simp [withAuthor, GosuSettings.signed, Settings.set, counts, none]

namespace Declaration

variable {g : GosuSettings} (none : g.general.author.truthy = false) (r : Repository)

include none

/-- Only documentation that is written for a declaration names an author. -/
theorem scriptFor_signed (form : DeclarationForm) (id : ElementId) (nested : Inspection Script) :
    scriptFor r (g.signed author) form id nested = scriptFor r g form id nested := by
  cases form with
  | classForm =>
    simp only [scriptFor, classScript, Documentation.withAuthor_signed counts none]
    rfl
  | enhancement =>
    simp only [scriptFor, enhancementScript, Documentation.withAuthor_signed counts none]
    rfl
  | annotationForm =>
    simp only [scriptFor, annotationScript, Documentation.withAuthor_signed counts none]
    rfl
  | interface => rfl
  | enumeration => rfl

end Declaration

theorem GosuSettings.writeAlike_signed {g : GosuSettings}
    (none : g.general.author.truthy = false) : g.WriteAlike (g.signed author) where
  scriptFor := Declaration.scriptFor_signed counts none
  indentText := rfl
  uses := rfl
  lineEnding := rfl
  sourceExtension := rfl
  enhancementExtension := rfl

/-- A run with an author that does not count reports the same, and leaves the same behind. -/
theorem Workbench.run_signed {σ : Type} {g : Generator}
    (none : g.settings.general.author.truthy = false) (d : Design) (root : ElementId) (path : Path)
    (storage : Storage σ) (state : σ) :
    ((new (g.signed author)).run d root path storage state).1 =
        ((new g).run d root path storage state).1 ∧
      ((new (g.signed author)).run d root path storage state).2.2.2 =
        ((new g).run d root path storage state).2.2.2 :=
  run_of_writeAlike (GosuSettings.writeAlike_signed counts none) d root path storage state

end GosuForge

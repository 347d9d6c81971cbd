import GosuForge.Generation.Run

/-!
# Workbenches

A `Workbench` is a generator that is used more than once. It remembers the root that package names
are counted from and what has been made since it was last cleared; a whole run clears it first.
-/

namespace GosuForge

structure Workbench where
  generator : Generator
  root : Option ElementId
  progress : Progress

namespace Workbench

def new (generator : Generator) : Workbench := ⟨generator, none, .none⟩

/-- Forgets what was made, and sets the root. -/
def reset (w : Workbench) (root : Option ElementId) : Workbench :=
  { w with root, progress := .none }

/-- Generates an element, which becomes the root if there is none. -/
def generate {σ : Type} (w : Workbench) (d : Design) (id : ElementId) (path : Path)
    (storage : Storage σ) (state : σ) : Except Fault Unit × Workbench × Model × σ :=
  let root := w.root.getD id
  let (outcome, m, progress, state) :=
    (Plan.make w.generator d (some root) path id).perform storage d.model w.progress state
  (outcome, { w with root := some root, progress }, m, state)

/-- A whole run from `root` on, and its report. -/
def run {σ : Type} (w : Workbench) (d : Design) (root : ElementId) (path : Path)
    (storage : Storage σ) (state : σ) : GenerationResult × Workbench × Model × σ :=
  let (outcome, w, m, state) := (w.reset (some root)).generate d root path storage state
  (w.generator.report (m.get root) path outcome w.progress, w, m, state)

/-- The file of a declaration with the root of the workbench. -/
def render? (w : Workbench) (r : Repository) (id : ElementId) : Inspection (Option String) :=
  SourceFile.render? r w.generator.settings w.generator.header w.root id

/-- The lines of a script at a depth of indentation. -/
def layOut (w : Workbench) (depth : Nat) (script : Inspection Script) :
    Inspection (List String) := do
  let indentText ← w.generator.settings.indentText
  let script ← script
  let writer ← { Writer.new indentText with depth }.run script
  pure writer.lines

end Workbench

end GosuForge

import GosuForge.Gosu.SourceFile
import GosuForge.Path

/-!
# Plans

A plan lists what a run has to do, in order: a directory for every named package, before what the
package owns, and a file for every named declaration in it. A step that cannot be made because a
declaration cannot be written is the fault in its place, and the last one.

`Plan.make` walks the tree of named packages; what is not named is passed over with all it owns. With
each step comes the model after it (see `Inspection`).
-/

namespace GosuForge

inductive Step
  | directory (path : Path)
  | file (path : Path) (content : String)
  deriving DecidableEq, Repr

/-- A generator of a language, ready to run: its settings and the template of its file header. -/
structure Generator where
  language : String
  settings : GosuSettings
  header : Option Template

/-- A step or the fault in its place, and the model once it is made. -/
structure PlannedStep where
  step : Except Fault Step
  after : Model

abbrev Plan := List PlannedStep

namespace Plan

/-- The file of a declaration in a directory; nothing for an element that has none. -/
def declarationStep? (g : Generator) (r : Repository) (root : Option ElementId) (path : Path)
    (id : ElementId) : Inspection (Option Step) := do
  match ← SourceFile.render? r g.settings g.header root id with
  | none => pure none
  | some content => do
    let m ← get
    let name ← SourceFile.fileName g.settings (m.get id)
    pure (some (.file (path.join name) content))

def declarationSteps (g : Generator) (r : Repository) (root : Option ElementId) (path : Path)
    (m : Model) (id : ElementId) : Plan :=
  match (declarationStep? g r root path id).runIn m with
  | (.error fault, m) => [⟨.error fault, m⟩]
  | (.ok none, _) => []
  | (.ok (some step), m) => [⟨.ok step, m⟩]

/-- Plans one after the other, each from the model after the one before, up to the first that ends in
a fault. -/
def chain (plan : Model → ElementId → Plan) (m : Model) : List ElementId → Plan
  | [] => []
  | id :: rest =>
    let steps := plan m id
    match steps.getLast? with
    | none => chain plan m rest
    | some last =>
      match last.step with
      | .error _ => steps
      | .ok _ => steps ++ chain plan last.after rest

/-- The plan for the tree of packages below an element, down to the depth `fuel`. -/
def walk (g : Generator) (r : Repository) (root : Option ElementId) :
    Nat → Path → Model → ElementId → Plan
  | 0, _, m, _ => [⟨.error .nestingTooDeep, m⟩]
  | fuel + 1, path, m, id =>
    match m.read id with
    | .error fault => [⟨.error fault, m⟩]
    | .ok e =>
      if !e.isNamed then if e.hasOwnKind then [] else [⟨.error .noSuchMember, m⟩]
      else if e.isPackage then
        match e.name with
        | .str name =>
          ⟨.ok (.directory (path.join name)), m⟩ ::
            match Members.given e.owned? with
            | .error fault => [⟨.error fault, m⟩]
            | .ok owned => chain (walk g r root fuel (path.join name)) m owned
        | _ => [⟨.error .wrongType, m⟩]
      else declarationSteps g r root path m id

/-- The plan for an element in the directory `path`, with package names counted from `root`. -/
def make (g : Generator) (d : Design) (root : Option ElementId) (path : Path) (id : ElementId) :
    Plan :=
  walk g d.relationships root d.model.depth path d.model id

end Plan

end GosuForge

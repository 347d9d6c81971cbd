import GosuForge.Model.Basic

/-!
# References

A reference names an element by its id, else by its qualified name, else by its simple name if only
one element has it. Of several elements with one qualified name the first in the tree is meant. A
`ReferenceIndex` holds the names of a tree; they must be texts.
-/

namespace GosuForge

structure ReferenceIndex where
  ids : List (Value × ElementId)
  qualified : List (String × ElementId)
  simple : List (String × ElementId)
  deriving Repr

namespace ReferenceIndex

/-- The qualified and the simple name of an element. -/
def namesOf (m : Model) (id : ElementId) : Except Fault (String × String) := do
  let qualified ← m.qualifiedName id
  match (m.get id).name with
  | .str simple => .ok (qualified, simple)
  | _ => .error .wrongType

def ofTree (m : Model) (root : ElementId) (ids : List (Value × ElementId)) :
    Except Fault ReferenceIndex := do
  let below ← m.elementsBelow root
  let names ← below.mapM (namesOf m)
  .ok ⟨ids, (names.map (·.1)).zip below, (names.map (·.2)).zip below⟩

def byId (index : ReferenceIndex) (reference : Value) : Option ElementId :=
  (index.ids.find? fun (id, _) => id.sameKey reference).map (·.2)

def bySimpleName (index : ReferenceIndex) (name : String) : Option ElementId :=
  match index.simple.filter fun (n, _) => n == name with
  | [(_, id)] => some id
  | _ => none

def byName (index : ReferenceIndex) (reference : Value) : Option ElementId :=
  match reference with
  | .str name => (index.qualified.lookup name).or (index.bySimpleName name)
  | _ => none

/-- The element that a reference names; a list or object is no reference. -/
def lookup (index : ReferenceIndex) (reference : Value) : Except Fault (Option ElementId) :=
  if reference.isKey then .ok ((index.byId reference).or (index.byName reference))
  else .error .wrongType

/-- The element that a reference names, which must be there. -/
def resolve (index : ReferenceIndex) (reference : Value) (missing : ModelDefect) :
    Except Fault ElementId := do
  match ← index.lookup reference with
  | some id => .ok id
  | none => .error (.model missing)

end ReferenceIndex

end GosuForge

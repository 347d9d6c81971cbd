import GosuForge.Model.Element
import GosuForge.Fault

/-!
# Models

A `Model` holds elements by number. From an element one goes up to the elements that enclose it and
down the tree of those that it owns.

* `Model.read`: an element that can be asked for something;
* `Model.keep`, `Model.resolve`: lists that may grow while the model is looked at (`Inspection`);
* `Model.packagePath`: the names of the enclosing elements, up to a root;
* `Model.qualifiedName`: all of them and the element's own, joined by points;
* `Model.elementsBelow`: a tree from the top down, each element before those that it owns.
-/

namespace GosuForge

namespace Members

/-- The elements where there must be some list of them. -/
def given : Option Members → Except Fault (List ElementId)
  | none => .error .noSuchMember
  | some ms =>
    match ms.ids? with
    | some ids => .ok ids
    | none => .error .wrongType

/-- The elements where there may be no list of them at all. -/
def orNone : Option Members → Except Fault (List ElementId)
  | none => .ok []
  | ms => given ms

end Members

structure Model where
  elements : Array Element
  deriving Inhabited

namespace Model

def empty : Model := ⟨#[]⟩

def get (m : Model) (id : ElementId) : Element := m.elements.getD id default

def size (m : Model) : Nat := m.elements.size

def push (m : Model) (e : Element) : Model := ⟨m.elements.push e⟩

def set (m : Model) (id : ElementId) (e : Element) : Model := ⟨m.elements.setIfInBounds id e⟩

/-- The number that the next element gets. -/
def next (m : Model) : ElementId := m.size

/-- A value to be stored in the model. Lists are kept, so that they can grow. -/
def keep (m : Model) (v : Value) : Value × Model :=
  match v with
  | .arr _ => (.kept m.next, m.push (.new (.stray v)))
  | v => (v, m)

/-- The value with a kept list as it is now. -/
def resolve (m : Model) (v : Value) : Value :=
  match v with
  | .kept id =>
    match (m.get id).content with
    | .stray list => list
    | _ => v
  | v => v

/-- The element, unless other data stands in its place. -/
def read (m : Model) (id : ElementId) : Except Fault Element :=
  match (m.get id).content with
  | .stray _ => .error .noSuchMember
  | _ => .ok (m.get id)

/-- An element cannot be asked for a deed if a field stands in its place. -/
def askFor (m : Model) (id : ElementId) (deed : Deed) : Except Fault Unit :=
  if (m.get id).hides deed then .error .wrongType else .ok ()

/-- What an element stands at, which must have a place for it; data there is no element. -/
def referenceOf (m : Model) (id : ElementId) : Except Fault (Option ElementId) :=
  match (m.get id).reference? with
  | some reference => .ok reference.id?
  | none => .error .noSuchMember

/-- Parents of parents, nearest first, at most `fuel` of them. -/
def ancestorsFrom (m : Model) (parent : Option ElementId) : Nat → List ElementId
  | 0 => []
  | fuel + 1 =>
    match parent with
    | none => []
    | some id => id :: ancestorsFrom m (m.get id).parent fuel

/-- What encloses an element, nearest first. -/
def ancestors (m : Model) (id : ElementId) : List ElementId :=
  m.ancestorsFrom (m.get id).parent m.size

/-- The elements of a list up to and with `last`, or all of them. -/
def upTo (last : Option ElementId) : List ElementId → List ElementId
  | [] => []
  | id :: rest => if some id = last then [id] else id :: upTo last rest

/-- The names of elements. -/
def namesOf (m : Model) (ids : List ElementId) : Except Fault (List Value) :=
  ids.mapM fun id => (m.read id).map (·.name)

/-- Names of the elements that enclose `id`, outermost first, from `root` on if it is among them;
none if `id` is itself the root. -/
def packagePath (m : Model) (id : ElementId) (root : Option ElementId) :
    Except Fault (List Value) :=
  if some id = root then .ok [] else (m.namesOf (upTo root (m.ancestors id))).map List.reverse

/-- Only texts can be joined. -/
def joinNames (sep : String) (names : List Value) : Except Fault String := do
  let texts ← names.mapM fun v =>
    match v with
    | .str s => .ok s
    | _ => .error Fault.wrongType
  .ok (Text.join sep texts)

/-- What encloses an element, nearest first; all of it must be elements. -/
def enclosing (m : Model) (id : ElementId) : Except Fault (List ElementId) := do
  m.askFor id .listEnclosing
  let _ ← m.namesOf (m.ancestors id)
  .ok (m.ancestors id)

def qualifiedName (m : Model) (id : ElementId) : Except Fault String := do
  let enclosing ← m.enclosing id
  let names ← m.namesOf (id :: enclosing)
  joinNames "." names.reverse

/-- Walks in order, each from where it begins, up to the first that meets a fault: what was met, and
the fault. -/
def walkAll (walk : ElementId → List ElementId × Option Fault) :
    List ElementId → List ElementId × Option Fault
  | [] => ([], none)
  | id :: rest =>
    match walk id with
    | (met, some fault) => (met, some fault)
    | (met, none) =>
      match walkAll walk rest with
      | (further, fault) => (met ++ further, fault)

/-- The tree that an element owns, each element before those that it owns, down to the depth `fuel`
and up to the first that owns something that cannot be walked over. -/
def walk (m : Model) : Nat → ElementId → List ElementId × Option Fault
  | 0, _ => ([], some .nestingTooDeep)
  | fuel + 1, id =>
    match Members.orNone (m.get id).owned? with
    | .error fault => ([id], some fault)
    | .ok owned =>
      match walkAll (walk m fuel) owned with
      | (met, fault) => (id :: met, fault)

/-- A tree without repetition is less deep than the model is large. -/
def depth (m : Model) : Nat := m.size + 1

/-- The tree below an element, each element before those that it owns. -/
def elementsBelow (m : Model) (id : ElementId) : Except Fault (List ElementId) :=
  match m.walk m.depth id with
  | (ids, none) => .ok ids
  | (_, some fault) => .error fault

/-- The named packages and declarations of a tree. -/
def generatable (m : Model) (id : ElementId) : Except Fault (List ElementId) := do
  let (ids, fault) := m.walk m.depth id
  let elements ← ids.mapM fun id => (m.read id).map fun e => (id, e)
  match fault with
  | some fault => .error fault
  | none => .ok ((elements.filter fun (_, e) => e.isNamed && e.isGeneratable).map (·.1))

/-- The list that takes what is made a part of an element: attributes, operations and the literals of
an enumeration have lists of their own. Elements that own nothing have none. -/
def listFor (owner child : Content) : Option String :=
  match owner, child with
  | .package _, _ => some "owned_elements"
  | .classifier _, .attribute _ => some "attributes"
  | .classifier _, .operation _ => some "operations"
  | .classifier body, .literal =>
    some (if body.sort = .enumeration then "literals" else "owned_elements")
  | .classifier _, _ => some "owned_elements"
  | _, _ => none

end Model

/-- What is asked of a model. Kept lists may be longer afterwards, even if there is no answer. -/
abbrev Inspection := EStateM Fault Model

namespace Inspection

instance : MonadLift (Except Fault) Inspection where
  monadLift outcome :=
    match outcome with
    | .ok x => pure x
    | .error fault => throw fault

/-- The answer, and the model after it. -/
def runIn {α : Type} (m : Model) (i : Inspection α) : Except Fault α × Model :=
  match EStateM.run i m with
  | .ok x m => (.ok x, m)
  | .error fault m => (.error fault, m)

/-- The answer on its own. -/
def answerIn {α : Type} (m : Model) (i : Inspection α) : Except Fault α := (i.runIn m).1

end Inspection

end GosuForge

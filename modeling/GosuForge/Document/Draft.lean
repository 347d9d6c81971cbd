import GosuForge.Model.Element
import GosuForge.Fault

/-!
# Drafts of models

A draft is a model document that has been read but not yet numbered: a tree of elements whose types
may still be references to be looked up. `Draft.ofValue` reads one and refuses documents with an
unknown visibility or direction, a type object without a reference, or an id that was given before.
-/

namespace GosuForge

/-- What every part of a document may say of itself. -/
structure Heading where
  name : Value
  documentation : Value
  visibility : Visibility
  flags : Flags
  deriving Repr, Inhabited

inductive DraftType
  | data (v : Value)
  | reference (r : Value)
  deriving Repr, Inhabited

structure DraftTyping where
  type : DraftType
  multiplicity : String
  isOrdered : Bool
  default : String
  deriving Repr, Inhabited

structure DraftAttribute where
  heading : Heading
  typing : DraftTyping
  deriving Repr, Inhabited

structure DraftParameter where
  heading : Heading
  typing : DraftTyping
  direction : Direction
  deriving Repr, Inhabited

structure DraftOperation where
  heading : Heading
  parameters : List DraftParameter
  deriving Repr, Inhabited

structure DraftClassifier where
  sort : ClassifierSort
  stereotype : Value
  attributes : List DraftAttribute
  operations : List DraftOperation
  literals : List Heading
  deriving Repr, Inhabited

inductive DraftBody
  | plain
  | package
  | classifier (body : DraftClassifier)
  deriving Repr, Inhabited

inductive Draft
  | node (heading : Heading) (id : Value) (body : DraftBody) (children : List Draft)
  deriving Repr, Inhabited

/-- What a document calls the kinds of elements. -/
inductive ElementKind
  | plain
  | package
  | classifier (sort : ClassifierSort)
  deriving DecidableEq, Repr

namespace ElementKind

def words : List (String × ElementKind) :=
  [("package", package), ("model", package), ("class", classifier .classSort),
   ("interface", classifier .interface), ("enumeration", classifier .enumeration),
   ("enum", classifier .enumeration), ("annotationType", classifier .annotationType),
   ("annotation", classifier .annotationType)]

/-- An unknown word is a plain element; a list or an object is no word. -/
def ofValue (v : Value) : Except Fault ElementKind :=
  match v with
  | .str s => .ok ((words.lookup s).getD plain)
  | v => if v.isKey then .ok plain else .error .wrongType

end ElementKind

namespace Draft

/-- The entries of a part of a document. -/
def entriesOf : Value → Except Fault Entries
  | .obj entries => .ok entries
  | _ => .error .noSuchMember

/-- The items of a part that is a list if it is there. -/
def itemsOf (entries : Entries) (key : String) : Except Fault (List Value) :=
  match (entries.getD key (.arr [])).items? with
  | some items => .ok items
  | none => .error .wrongType

/-- The text of an entry, empty if it does not count as given. -/
def textOf (entries : Entries) (key : String) : String :=
  ((entries.getD key (.str "")).orElse (.str "")).display

def flagOf (entries : Entries) (key : String) : Bool := (entries.getD key (.bool false)).truthy

def flagsOf (entries : Entries) : Flags where
  isStatic := flagOf entries "isStatic"
  isAbstract := flagOf entries "isAbstract"
  isLeaf := flagOf entries "isLeaf"
  isFinalSpecialization := flagOf entries "isFinalSpecialization"
  isReadOnly := flagOf entries "isReadOnly"

def headingOf (entries : Entries) : Except Fault Heading :=
  let name := (entries.getD "name" (.str "")).orElse (.str "")
  let visibility := entries.getD "visibility" (.str "public")
  match Visibility.ofValue? visibility with
  | none => .error (.model (.visibility visibility name))
  | some found => .ok
    { name
      documentation := (entries.getD "documentation" (.str "")).orElse (.str "")
      visibility := found
      flags := flagsOf entries }

def typeOf (entries : Entries) (owner : Value) : Except Fault DraftType :=
  match entries.getD "type" .null with
  | .obj type =>
    match Entries.get? type "$ref" with
    | some r => .ok (.reference r)
    | none => .error (.model (.typeWithoutReference owner))
  | v => .ok (.data v)

def typingOf (entries : Entries) (owner : Value) : Except Fault DraftTyping := do
  let type ← typeOf entries owner
  .ok ⟨type, textOf entries "multiplicity", flagOf entries "isOrdered",
    textOf entries "defaultValue"⟩

def attributeOf (v : Value) : Except Fault DraftAttribute := do
  let entries ← entriesOf v
  let heading ← headingOf entries
  let typing ← typingOf entries heading.name
  .ok ⟨heading, typing⟩

def parameterOf (v : Value) : Except Fault DraftParameter := do
  let entries ← entriesOf v
  let heading ← headingOf entries
  let typing ← typingOf entries heading.name
  let direction := entries.getD "direction" (.str "in")
  match Direction.ofValue? direction with
  | some found => .ok ⟨heading, typing, found⟩
  | none => .error (.model (.direction direction heading.name))

def operationOf (v : Value) : Except Fault DraftOperation := do
  let entries ← entriesOf v
  let heading ← headingOf entries
  let items ← itemsOf entries "parameters"
  let parameters ← items.mapM parameterOf
  .ok ⟨heading, parameters⟩

/-- A literal is a name or an object. -/
def literalOf (v : Value) : Except Fault Heading :=
  match v with
  | .str s => .ok ⟨.str s, .str "", .publicAccess, Flags.none⟩
  | v => do
    let entries ← entriesOf v
    headingOf entries

def classifierOf (sort : ClassifierSort) (entries : Entries) : Except Fault DraftClassifier := do
  let attributes ← itemsOf entries "attributes"
  let attributes ← attributes.mapM attributeOf
  let operations ← itemsOf entries "operations"
  let operations ← operations.mapM operationOf
  let literals ← if sort = .enumeration then itemsOf entries "literals" else .ok []
  let literals ← literals.mapM literalOf
  .ok ⟨sort, (entries.getD "stereotype" .null).orElse .null, attributes, operations, literals⟩

def bodyOf (kind : ElementKind) (entries : Entries) : Except Fault DraftBody :=
  match kind with
  | .plain => .ok .plain
  | .package => .ok .package
  | .classifier sort => (classifierOf sort entries).map .classifier

/-- Notes an id, which must be a key that was not given before; `null` is none. -/
def register (ids : List Value) (id : Value) : Except Fault (List Value) :=
  if id.isNull then .ok ids
  else if !id.isKey then .error .wrongType
  else if ids.any (·.sameKey id) then .error (.model (.duplicateId id))
  else .ok (ids ++ [id])

/-- Elements other than packages and classifiers own none. -/
def mayOwn : ElementKind → Bool
  | .plain => false
  | _ => true

mutual

/-- Reads an element, after elements with the given ids, as one of the kind given by `usual` if it
does not say its kind; with it come the ids known then. -/
def ofValue (usual : String) (ids : List Value) : Value → Except Fault (Draft × List Value)
  | .obj entries => do
    let kind ← ElementKind.ofValue (Entries.getD entries "kind" (.str usual))
    let heading ← headingOf entries
    let id := Entries.getD entries "id" .null
    let ids ← register ids id
    let body ← bodyOf kind entries
    if mayOwn kind then
      let (children, ids) ← childrenOf ids entries
      .ok (.node heading id body children, ids)
    else .ok (.node heading id body [], ids)
  | _ => .error .noSuchMember
termination_by structural v => v

/-- Reads the elements that an object lists as its own. -/
def childrenOf (ids : List Value) : List (String × Value) → Except Fault (List Draft × List Value)
  | [] => .ok ([], ids)
  | ("elements", v) :: _ => elementsOf ids v
  | _ :: rest => childrenOf ids rest
termination_by structural v => v

/-- Reads what a value yields as elements: nothing but the items of a list can be any. -/
def elementsOf (ids : List Value) : Value → Except Fault (List Draft × List Value)
  | .arr items => ofValues ids items
  | .str s => if s = "" then .ok ([], ids) else .error .noSuchMember
  | .obj entries => if entries.isEmpty then .ok ([], ids) else .error .noSuchMember
  | _ => .error .wrongType
termination_by structural v => v

def ofValues (ids : List Value) : List Value → Except Fault (List Draft × List Value)
  | [] => .ok ([], ids)
  | v :: rest => do
    let (draft, ids) ← ofValue "class" ids v
    let (drafts, ids) ← ofValues ids rest
    .ok (draft :: drafts, ids)
termination_by structural v => v

end

/-- Reads a whole document, whose root is a package if it does not say otherwise. -/
def ofDocument (document : Value) : Except Fault Draft :=
  match document with
  | .obj _ => (ofValue "package" [] document).map (·.1)
  | _ => .error (.model .notObject)

end Draft

end GosuForge

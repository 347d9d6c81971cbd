import GosuForge.Value.Basic

/-!
# Elements of a design model

An element is anything in a model that has a name: packages, classifiers, their members and
literals, and the ends of associations. Elements refer to each other by number; `parent` is the
element that owns this one.

What an element can be asked for hangs on what it is, but any field can be put on any element: one
that its content has no place for is kept in `further` and is found there as well. Accessors whose
names end in a question mark give nothing for what the element does not have.
-/

namespace GosuForge

abbrev ElementId := Nat

inductive Visibility
  | publicAccess
  | protectedAccess
  | privateAccess
  | packageAccess
  deriving DecidableEq, Repr, Inhabited

namespace Visibility

def all : List Visibility := [publicAccess, protectedAccess, privateAccess, packageAccess]

def word : Visibility → String
  | publicAccess => "public"
  | protectedAccess => "protected"
  | privateAccess => "private"
  | packageAccess => "package"

def ofValue? : Value → Option Visibility
  | .str s => all.find? (·.word == s)
  | _ => none

end Visibility

/-- Which way a parameter passes its value; the result of an operation is a parameter, too. -/
inductive Direction
  | input
  | output
  | both
  | result
  deriving DecidableEq, Repr, Inhabited

namespace Direction

def all : List Direction := [input, output, both, result]

def word : Direction → String
  | input => "in"
  | output => "out"
  | both => "inout"
  | result => "return"

def ofValue? : Value → Option Direction
  | .str s => all.find? (·.word == s)
  | _ => none

end Direction

structure Flags where
  isStatic : Bool
  isAbstract : Bool
  isLeaf : Bool
  isFinalSpecialization : Bool
  isReadOnly : Bool
  deriving DecidableEq, Repr, Inhabited

namespace Flags

def none : Flags := ⟨false, false, false, false, false⟩

end Flags

/-- A type is another element or whatever was written in its place. -/
inductive TypeRef
  | data (v : Value)
  | element (id : ElementId)
  deriving Repr, Inhabited

namespace TypeRef

def id? : TypeRef → Option ElementId
  | data _ => none
  | element id => some id

end TypeRef

/-- What stands where a list of elements has its place. -/
inductive Members
  | list (ids : List ElementId)
  /-- What is no list but yields elements, one after the other. -/
  | walkable (given : Value) (ids : List ElementId)
  | unwalkable (given : Value)
  deriving Repr, Inhabited

namespace Members

def ids? : Members → Option (List ElementId)
  | list ids => some ids
  | walkable _ ids => some ids
  | unwalkable _ => none

end Members

/-- What a field may be given. -/
inductive FieldValue
  | data (v : Value)
  | element (id : ElementId)
  | members (ms : Members)
  | visibility (v : Visibility)
  | direction (d : Direction)
  deriving Repr

namespace FieldValue

def value : FieldValue → Value
  | data v => v
  | _ => .null

def isTrue : FieldValue → Bool
  | data v => v.truthy
  | _ => true

def id? : FieldValue → Option ElementId
  | element id => some id
  | _ => none

def type : FieldValue → TypeRef
  | data v => .data v
  | element id => .element id
  | _ => .data .null

/-- What the value is where elements are expected: data yields none. -/
def toMembers : FieldValue → Members
  | members ms => ms
  | v => .unwalkable v.value

def direction? : FieldValue → Option Direction
  | direction d => some d
  | _ => none

end FieldValue

/-- Values of fields by name. -/
abbrev FieldValues := List (String × FieldValue)

/-- What is said of the values that a member holds. -/
structure Typing where
  type : TypeRef
  multiplicity : Value
  isOrdered : Value
  default : Value
  deriving Repr, Inhabited

namespace Typing

def untyped : Typing := ⟨.data .null, .str "", .bool false, .str ""⟩

end Typing

inductive ClassifierSort
  | classSort
  | interface
  | enumeration
  | annotationType
  deriving DecidableEq, Repr, Inhabited

/-- What a classifier owns, each list in order. Only enumerations have literals. -/
structure Classifier where
  sort : ClassifierSort
  stereotype : Value
  attributes : List ElementId
  operations : List ElementId
  owned : List ElementId
  literals : List ElementId
  deriving Repr, Inhabited

namespace Classifier

def new (sort : ClassifierSort) : Classifier := ⟨sort, .null, [], [], [], []⟩

end Classifier

inductive Content
  | plain
  | package (owned : List ElementId)
  | classifier (body : Classifier)
  | attribute (typing : Typing)
  | parameter (typing : Typing) (direction : Direction)
  | operation (parameters : List ElementId)
  | literal
  /-- The type of an end is the element that it stands at. -/
  | associationEnd (typing : Typing) (navigable : Value)
  /-- Data that stands where an element should be, and a list that is kept; neither can be asked for
  anything. -/
  | stray (v : Value)
  deriving Repr, Inhabited

/-- What an element can be asked to do. -/
inductive Deed
  | takePart
  | listEnclosing
  | listInputs
  | findResult
  deriving DecidableEq, Repr

namespace Deed

/-- The name of the field that takes the place of a deed. -/
def fieldName : Deed → String
  | takePart => "add"
  | listEnclosing => "ancestors"
  | listInputs => "non_return_parameters"
  | findResult => "return_parameter"

end Deed

structure Element where
  name : Value
  documentation : Value
  visibility : Visibility
  flags : Flags
  parent : Option ElementId
  content : Content
  /-- The fields that the content has no place for, and flags that were given as other values. -/
  further : FieldValues
  deriving Repr, Inhabited

namespace Element

def new (content : Content) : Element :=
  ⟨.str "", .str "", .publicAccess, Flags.none, none, content, []⟩

def isNamed (e : Element) : Bool := e.name.truthy

/-- An element is of the kind that its content says, unless it was given another one. -/
def hasOwnKind (e : Element) : Bool := (e.further.lookup "kind").isNone

/-- Whether a field stands in the place of a deed, so that it cannot be asked for. -/
def hides (e : Element) (deed : Deed) : Bool := (e.further.lookup deed.fieldName).isSome

def isPackage (e : Element) : Bool :=
  match e.content with
  | .package _ => e.hasOwnKind
  | _ => false

def sort? (e : Element) : Option ClassifierSort :=
  match e.content with
  | .classifier body => if e.hasOwnKind then some body.sort else none
  | _ => none

/-- Packages and declarations, and what was given another kind; members and plain elements are none
of them. -/
def isGeneratable (e : Element) : Bool := e.isPackage || e.sort?.isSome || !e.hasOwnKind

/-- The word for the kind of an element. -/
def kindWord (e : Element) : String :=
  match e.sort? with
  | some .classSort => "class"
  | some .interface => "interface"
  | some .enumeration => "enumeration"
  | some .annotationType => "annotationType"
  | none => if e.isPackage then "package" else "other"

/-- A list of elements: `usual` unless something was put in its place. -/
def members? (e : Element) (name : String) (usual : Option (List ElementId)) : Option Members :=
  match e.further.lookup name with
  | some v => some v.toMembers
  | none => usual.map .list

/-- Elements that a tree of owners is made of: packages and classifiers own others. -/
def owned? (e : Element) : Option Members :=
  e.members? "owned_elements"
    (match e.content with
    | .package owned => some owned
    | .classifier body => some body.owned
    | _ => none)

def attributes? (e : Element) : Option Members :=
  e.members? "attributes"
    (match e.content with
    | .classifier body => some body.attributes
    | _ => none)

def operations? (e : Element) : Option Members :=
  e.members? "operations"
    (match e.content with
    | .classifier body => some body.operations
    | _ => none)

def literals? (e : Element) : Option Members :=
  e.members? "literals"
    (match e.content with
    | .classifier body => if body.sort = .enumeration then some body.literals else none
    | _ => none)

/-- A datum: `usual` unless something was put in its place. -/
def datum? (e : Element) (name : String) (usual : Option Value) : Option Value :=
  match e.further.lookup name with
  | some v => some v.value
  | none => usual

def stereotype? (e : Element) : Option Value :=
  e.datum? "stereotype"
    (match e.content with
    | .classifier body => some body.stereotype
    | _ => none)

def typing? (e : Element) : Option Typing :=
  match e.content with
  | .attribute typing => some typing
  | .parameter typing _ => some typing
  | .associationEnd typing _ => some typing
  | _ => none

def multiplicity? (e : Element) : Option Value :=
  e.datum? "multiplicity" (e.typing?.map (·.multiplicity))

def isOrdered? (e : Element) : Option Value :=
  e.datum? "is_ordered" (e.typing?.map (·.isOrdered))

def default? (e : Element) : Option Value := e.datum? "default_value" (e.typing?.map (·.default))

def isEnd (e : Element) : Bool :=
  match e.content with
  | .associationEnd _ _ => true
  | _ => false

/-- The type of the element's values. An end stands at its type, whatever else it is given. -/
def type? (e : Element) : Option TypeRef :=
  match e.content, e.further.lookup "type" with
  | .associationEnd typing _, _ => some typing.type
  | _, some v => some v.type
  | _, none => e.typing?.map (·.type)

/-- What the element stands at if it has a place to stand at something. -/
def reference? (e : Element) : Option TypeRef :=
  match e.content with
  | .associationEnd typing _ => some typing.type
  | _ => (e.further.lookup "reference").map FieldValue.type

def navigable? (e : Element) : Option Value :=
  e.datum? "navigable"
    (match e.content with
    | .associationEnd _ navigable => some navigable
    | _ => none)

/-- The visibility, unless something else stands in its place. -/
def visibility? (e : Element) : Option Visibility :=
  if (e.further.lookup "visibility").isSome then none else some e.visibility

/-- The direction, or what stands in its place. -/
def direction? (e : Element) : Option FieldValue :=
  match e.further.lookup "direction", e.content with
  | some v, _ => some v
  | none, .parameter _ direction => some (.direction direction)
  | none, _ => none

end Element

end GosuForge

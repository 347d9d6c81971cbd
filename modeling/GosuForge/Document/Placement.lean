import GosuForge.Document.Draft
import GosuForge.Model.Basic

/-!
# Numbering drafts

A draft is numbered from the top down: an element, its attributes, its operations each with its
parameters, its literals, and then the elements that it owns. `place` gives the elements in the
order of their numbers, with references to types looked up by `resolve`.

* `Draft.size`: how many numbers a draft takes;
* `Draft.references`: the references to types, with the names of the elements that hold them;
* `Draft.identified`: the ids that were given, with the numbers they stand for.
-/

namespace GosuForge

/-- How references to types are looked up. -/
abbrev Resolver := Value → Option ElementId

namespace DraftTyping

def place (resolve : Resolver) (t : DraftTyping) : Typing where
  type :=
    match t.type with
    | .data v => .data v
    | .reference r =>
      match resolve r with
      | some id => .element id
      | none => .data .null
  multiplicity := .str t.multiplicity
  isOrdered := .bool t.isOrdered
  default := .str t.default

end DraftTyping

namespace Heading

def place (h : Heading) (parent : Option ElementId) (content : Content) : Element :=
  ⟨h.name, h.documentation, h.visibility, h.flags, parent, content, []⟩

end Heading

namespace DraftOperation

def size (o : DraftOperation) : Nat := 1 + o.parameters.length

/-- An operation at the number `next`, and its parameters after it. -/
def place (resolve : Resolver) (owner next : ElementId) (o : DraftOperation) : List Element :=
  o.heading.place (some owner) (.operation (List.range' (next + 1) o.parameters.length))
    :: o.parameters.map fun p =>
      p.heading.place (some next) (.parameter (p.typing.place resolve) p.direction)

def sizeAll : List DraftOperation → Nat
  | [] => 0
  | o :: rest => o.size + sizeAll rest

/-- The numbers of operations that stand one after the other from `next` on. -/
def numbers (next : ElementId) : List DraftOperation → List ElementId
  | [] => []
  | o :: rest => next :: numbers (next + o.size) rest

def placeAll (resolve : Resolver) (owner next : ElementId) : List DraftOperation → List Element
  | [] => []
  | o :: rest => o.place resolve owner next ++ placeAll resolve owner (next + o.size) rest

end DraftOperation

namespace DraftClassifier

def operationsSize (c : DraftClassifier) : Nat := DraftOperation.sizeAll c.operations

def size (c : DraftClassifier) : Nat := c.attributes.length + c.operationsSize + c.literals.length

/-- A classifier's members when the first of them has the number `next`. -/
def place (resolve : Resolver) (owner next : ElementId) (c : DraftClassifier) : List Element :=
  (c.attributes.map fun a => a.heading.place (some owner) (.attribute (a.typing.place resolve)))
    ++ DraftOperation.placeAll resolve owner (next + c.attributes.length) c.operations
    ++ c.literals.map fun h => h.place (some owner) .literal

/-- The lists of a classifier whose members are numbered from `next` on. -/
def body (next : ElementId) (owned : List ElementId) (c : DraftClassifier) : Classifier where
  sort := c.sort
  stereotype := c.stereotype
  attributes := List.range' next c.attributes.length
  operations := DraftOperation.numbers (next + c.attributes.length) c.operations
  owned := owned
  literals :=
    List.range' (next + c.attributes.length + c.operationsSize) c.literals.length

end DraftClassifier

namespace DraftBody

def size : DraftBody → Nat
  | plain => 0
  | package => 0
  | classifier c => c.size

def place (resolve : Resolver) (owner next : ElementId) : DraftBody → List Element
  | plain => []
  | package => []
  | classifier c => c.place resolve owner next

def content (next : ElementId) (owned : List ElementId) : DraftBody → Content
  | plain => .plain
  | package => .package owned
  | classifier c => .classifier (c.body next owned)

/-- References to types in the order in which they are looked up. -/
def references : DraftBody → List (Value × Value)
  | plain => []
  | package => []
  | classifier c =>
    let ofTyping (name : Value) (t : DraftTyping) : List (Value × Value) :=
      match t.type with
      | .reference r => [(r, name)]
      | .data _ => []
    c.attributes.flatMap (fun a => ofTyping a.heading.name a.typing)
      ++ c.operations.flatMap fun o =>
        o.parameters.flatMap fun p => ofTyping p.heading.name p.typing

end DraftBody

namespace Draft

mutual

def size : Draft → Nat
  | node _ _ body children => 1 + body.size + sizeAll children
termination_by structural d => d

def sizeAll : List Draft → Nat
  | [] => 0
  | d :: rest => size d + sizeAll rest
termination_by structural ds => ds

end

/-- The numbers of drafts that stand one after the other from `next` on. -/
def numbers (next : ElementId) : List Draft → List ElementId
  | [] => []
  | d :: rest => next :: numbers (next + d.size) rest

mutual

/-- The elements of a draft, the first of which gets the number `next`. -/
def place (resolve : Resolver) (parent : Option ElementId) (next : ElementId) :
    Draft → List Element
  | node heading _ body children =>
    let first := next + 1 + body.size
    heading.place parent (body.content (next + 1) (numbers first children))
      :: body.place resolve next (next + 1) ++ placeAll resolve (some next) first children
termination_by structural d => d

def placeAll (resolve : Resolver) (parent : Option ElementId) (next : ElementId) :
    List Draft → List Element
  | [] => []
  | d :: rest => place resolve parent next d ++ placeAll resolve parent (next + d.size) rest
termination_by structural ds => ds

end

mutual

def references : Draft → List (Value × Value)
  | node _ _ body children => body.references ++ referencesAll children
termination_by structural d => d

def referencesAll : List Draft → List (Value × Value)
  | [] => []
  | d :: rest => references d ++ referencesAll rest
termination_by structural ds => ds

end

mutual

/-- The ids in a draft whose first element has the number `next`. -/
def identified (next : ElementId) : Draft → List (Value × ElementId)
  | node _ id body children =>
    (if id.isNull then [] else [(id, next)]) ++ identifiedAll (next + 1 + body.size) children
termination_by structural d => d

def identifiedAll (next : ElementId) : List Draft → List (Value × ElementId)
  | [] => []
  | d :: rest => identified next d ++ identifiedAll (next + d.size) rest
termination_by structural ds => ds

end

/-- The model of a draft, with the root at number zero. -/
def toModel (resolve : Resolver) (d : Draft) : Model := ⟨(d.place resolve none 0).toArray⟩

end Draft

end GosuForge

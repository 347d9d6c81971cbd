import GosuForge.Document.Load

/-!
# The format of model documents

What a document holds and what must be true of it, said of the document alone.

* `DocumentPart`: a part of a document that becomes an element, and what is read in it;
* `Document.parts`: all such parts, each before those that it lists as its elements;
* `Document.Resolves`: a text names one of the parts;
* `Document.Documented`: there are texts, lists and objects where the format has them;
* `Document.Sound`: words are known, ids differ and references resolve.
-/

namespace GosuForge

namespace Value

def isText : Value → Bool
  | str _ => true
  | _ => false

def isObject : Value → Bool
  | obj _ => true
  | _ => false

/-- The entries of an object; nothing else has any. -/
def entries : Value → Entries
  | obj entries => entries
  | _ => []

def isListOf (p : Value → Bool) : Value → Bool
  | arr items => items.all p
  | _ => false

def isOneOf (words : List String) : Value → Bool
  | str s => words.contains s
  | _ => false

/-- A type is a word, or an object with a reference, which is a text if it is there. -/
def isType : Value → Bool
  | str _ => true
  | obj type => (Entries.get? type "$ref").all isText
  | _ => false

end Value

namespace Entries

/-- What stands under a key, if anything, is as `p` says. -/
def Fits (entries : Entries) (key : String) (p : Value → Bool) : Prop :=
  (entries.get? key).all p = true

instance (entries : Entries) (key : String) (p : Value → Bool) : Decidable (entries.Fits key p) :=
  inferInstanceAs (Decidable (_ = true))

def text? (entries : Entries) (key : String) : Option String :=
  match entries.get? key with
  | some (.str s) => some s
  | _ => none

/-- The object under a key, or an empty one. -/
def object (entries : Entries) (key : String) : Entries := (entries.getD key .null).entries

/-- The objects in the list under a key. -/
def objects (entries : Entries) (key : String) : List Entries :=
  match entries.get? key with
  | some (.arr items) => (items.filter Value.isObject).map Value.entries
  | _ => []

/-- The reference of a type that is given as an object. -/
def typeReference? (entries : Entries) : Option String := (entries.object "type").text? "$ref"

/-- The visibility, if there is one, is a known word. -/
def AccessKnown (entries : Entries) : Prop :=
  entries.Fits "visibility" (Value.isOneOf ["public", "protected", "private", "package"])

def DirectionKnown (entries : Entries) : Prop :=
  entries.Fits "direction" (Value.isOneOf ["in", "out", "inout", "return"])

/-- A type that is an object has a reference, which is as `p` says. -/
def TypeRefers (entries : Entries) (p : String → Prop) : Prop :=
  (entries.getD "type" .null).isObject = true →
    ∃ reference, entries.typeReference? = some reference ∧ p reference

end Entries

/-- A part of a document that becomes an element: its kind, what it says of itself, and the names of
the parts around it, nearest first. -/
structure DocumentPart where
  kind : ElementKind
  entries : Entries
  around : List String

namespace DocumentPart

def name (p : DocumentPart) : String := (p.entries.text? "name").getD ""

def id? (p : DocumentPart) : Option String := p.entries.text? "id"

def qualifiedName (p : DocumentPart) : String := Text.join "." (p.name :: p.around).reverse

def isClassifier (p : DocumentPart) : Bool :=
  match p.kind with
  | .classifier _ => true
  | _ => false

def attributes (p : DocumentPart) : List Entries :=
  if p.isClassifier then p.entries.objects "attributes" else []

def operations (p : DocumentPart) : List Entries :=
  if p.isClassifier then p.entries.objects "operations" else []

def parameters (p : DocumentPart) : List Entries :=
  p.operations.flatMap fun operation => operation.objects "parameters"

/-- The literals that are more than a name. -/
def literals (p : DocumentPart) : List Entries :=
  if p.kind = .classifier .enumeration then p.entries.objects "literals" else []

/-- Everything with a type. -/
def typed (p : DocumentPart) : List Entries := p.attributes ++ p.parameters

/-- Everything with a visibility. -/
def headed (p : DocumentPart) : List Entries :=
  p.entries :: (p.attributes ++ p.operations ++ p.parameters ++ p.literals)

/-- The references to types, in their order. -/
def references (p : DocumentPart) : List String := p.typed.filterMap Entries.typeReference?

/-- What is read in a part has the kinds of data of the format. Words that must be known ones, and
what counts as true or false, may be anything. -/
def Documented (p : DocumentPart) : Prop :=
  (∀ key ∈ ["kind", "id", "name"], p.entries.Fits key Value.isText) ∧
    (Draft.mayOwn p.kind = true → p.entries.Fits "elements" (Value.isListOf Value.isObject)) ∧
    (p.isClassifier = true → ∀ key ∈ ["attributes", "operations"],
      p.entries.Fits key (Value.isListOf Value.isObject)) ∧
    (∀ operation ∈ p.operations, operation.Fits "parameters" (Value.isListOf Value.isObject)) ∧
    (∀ e ∈ p.typed, e.Fits "type" Value.isType) ∧
    (p.kind = .classifier .enumeration →
      p.entries.Fits "literals" (Value.isListOf fun v => v.isText || v.isObject))

instance (p : DocumentPart) : Decidable p.Documented :=
  inferInstanceAs (Decidable (_ ∧ _ ∧ _ ∧ _ ∧ _ ∧ _))

/-- The words in a part are known ones, and its types refer to something. -/
structure WellSaid (p : DocumentPart) : Prop where
  access : ∀ e ∈ p.headed, e.AccessKnown
  types : ∀ e ∈ p.typed, e.TypeRefers fun _ => True
  directions : ∀ e ∈ p.parameters, e.DirectionKnown

end DocumentPart

namespace Document

/-- The kind that a part says it is of, where `usual` is the word of those that do not say it. -/
def kindOf (usual : String) (entries : Entries) : ElementKind :=
  (ElementKind.words.lookup ((entries.text? "kind").getD usual)).getD .plain

mutual

/-- A part with all those that it and its elements list, if it is an object. -/
def visited (usual : String) (around : List String) : Value → List DocumentPart
  | .obj entries =>
    let part : DocumentPart := ⟨kindOf usual entries, entries, around⟩
    part :: if Draft.mayOwn part.kind then visitedIn (part.name :: around) entries else []
  | _ => []
termination_by structural v => v

/-- The parts that entries list as elements. -/
def visitedIn (around : List String) : List (String × Value) → List DocumentPart
  | [] => []
  | ("elements", v) :: _ => visitedFrom around v
  | _ :: rest => visitedIn around rest
termination_by structural entries => entries

def visitedFrom (around : List String) : Value → List DocumentPart
  | .arr items => visitedAll around items
  | _ => []
termination_by structural v => v

def visitedAll (around : List String) : List Value → List DocumentPart
  | [] => []
  | v :: rest => visited "class" around v ++ visitedAll around rest
termination_by structural items => items

end

/-- The whole document is a part, and so is what packages and classifiers list as their elements. -/
def parts (document : Entries) : List DocumentPart := visited "package" [] (.obj document)

def relationships (document : Entries) : List Entries := document.objects "relationships"

def isAssociation (relationship : Entries) : Bool := relationship.text? "kind" == some "association"

/-- The two ends of an association. -/
def ends (relationship : Entries) : List Entries :=
  if isAssociation relationship then [relationship.object "end1", relationship.object "end2"]
  else []

/-- A text is the id or the qualified name of a part, or the name of just one. -/
def Resolves (document : Entries) (reference : String) : Prop :=
  (∃ p ∈ parts document, p.id? = some reference) ∨
    (∃ p ∈ parts document, p.qualifiedName = reference) ∨
    ∃ p, (parts document).filter (fun p => p.name == reference) = [p]

/-- What is read in a relationship has the kinds of data of the format. -/
def RelationshipDocumented (relationship : Entries) : Prop :=
  relationship.Fits "kind" Value.isText ∧
    (isAssociation relationship = true → ∀ key ∈ ["end1", "end2"],
      relationship.Fits key Value.isObject ∧
      (relationship.object key).Fits "reference" Value.isText) ∧
    (isAssociation relationship = false → ∀ key ∈ ["source", "target"],
      relationship.Fits key Value.isText)

instance (relationship : Entries) : Decidable (RelationshipDocumented relationship) :=
  inferInstanceAs (Decidable (_ ∧ _ ∧ _))

/-- Under the keys that are read there are texts, lists and objects as the format has them. -/
structure Documented (document : Entries) : Prop where
  parts : ∀ p ∈ parts document, p.Documented
  relationships : document.Fits "relationships" (Value.isListOf Value.isObject)
  eachRelationship : ∀ relationship ∈ Document.relationships document,
    RelationshipDocumented relationship

/-- Under a key stands a text that resolves. -/
def Refers (document entries : Entries) (key : String) : Prop :=
  ∃ reference, entries.text? key = some reference ∧ Resolves document reference

/-- A relationship is of a known kind and joins what its references name. -/
def Joins (document relationship : Entries) : Prop :=
  (relationship.text? "kind" = some "association" ∧
    ∀ e ∈ ends relationship, Refers document e "reference") ∨
  ∃ word ∈ ["generalization", "realization", "interfaceRealization"],
    relationship.text? "kind" = some word ∧ Refers document relationship "source" ∧
      Refers document relationship "target"

/-- What must be true of a document. -/
structure Sound (document : Entries) : Prop where
  visibilities : ∀ p ∈ parts document, ∀ e ∈ p.headed, e.AccessKnown
  endVisibilities : ∀ relationship ∈ relationships document, ∀ e ∈ ends relationship, e.AccessKnown
  directions : ∀ p ∈ parts document, ∀ e ∈ p.parameters, e.DirectionKnown
  ids : ((parts document).filterMap DocumentPart.id?).Nodup
  types : ∀ p ∈ parts document, ∀ e ∈ p.typed, e.TypeRefers (Resolves document)
  relationships : ∀ relationship ∈ relationships document, Joins document relationship

end Document

end GosuForge

import GosuForge.Model.Relationship

/-!
# Fields of elements

Elements are made and changed field by field, each field under its name. `Element.setField?` changes
the fields that an element has by what it is, `Element.set` any field of any element.
-/

namespace GosuForge

namespace FieldValue

/-- Fields that hold several elements. -/
def listNames : List String :=
  ["parameters", "literals", "attributes", "operations", "owned_elements"]

/-- Fields that hold one element. -/
def elementNames : List String := ["parent", "source", "target", "reference", "end1", "end2"]

/-- Puts data where elements should be. -/
def strays (m : Model) (vs : List Value) : List ElementId × Model :=
  (List.range' m.next vs.length, ⟨m.elements ++ (vs.map fun v => Element.new (.stray v)).toArray⟩)

/-- Reads data as the value of a field; visibilities and directions have words. Whatever is given
for elements stands in their place; nothing may be given for one element but for the ends of an
association. A list in the place of a name is kept. -/
def ofData (m : Model) (name : String) (v : Value) : Except Fault (FieldValue × Model) :=
  if name = "name" && v.truthy then
    let (v, m) := m.keep v
    .ok (.data v, m)
  else if name = "visibility" then
    match Visibility.ofValue? v with
    | some found => .ok (.visibility found, m)
    | none => .error .badValue
  else if name = "direction" then
    match Direction.ofValue? v with
    | some found => .ok (.direction found, m)
    | none => .error .badValue
  else if listNames.contains name then
    match v, v.items? with
    | .arr _, some items =>
      let (ids, m) := strays m items
      .ok (.members (.list ids), m)
    | _, some items =>
      let (ids, m) := strays m items
      .ok (.members (.walkable v ids), m)
    | _, none => .ok (.members (.unwalkable v), m)
  else if elementNames.contains name && !(v.isNull && name != "end1" && name != "end2") then
    .ok (.element m.next, m.push (.new (.stray v)))
  else .ok (.data v, m)

/-- Reads another element as the value of a field: it is none where several are expected. -/
def ofElement (name : String) (id : ElementId) : FieldValue :=
  if name = "type" || elementNames.contains name then .element id
  else if listNames.contains name then .members (.unwalkable (.kept id))
  else .data (.kept id)

end FieldValue

namespace Flags

/-- The flags under their names. -/
def named (f : Flags) : List (String × Bool) :=
  [("is_static", f.isStatic), ("is_abstract", f.isAbstract), ("is_leaf", f.isLeaf),
   ("is_final_specialization", f.isFinalSpecialization), ("is_read_only", f.isReadOnly)]

def setField? (f : Flags) (name : String) (b : Bool) : Option Flags :=
  match name with
  | "is_static" => some { f with isStatic := b }
  | "is_abstract" => some { f with isAbstract := b }
  | "is_leaf" => some { f with isLeaf := b }
  | "is_final_specialization" => some { f with isFinalSpecialization := b }
  | "is_read_only" => some { f with isReadOnly := b }
  | _ => Option.none

end Flags

namespace Typing

def setField? (t : Typing) (name : String) (v : FieldValue) : Option Typing :=
  match name with
  | "type" => some { t with type := v.type }
  | "multiplicity" => some { t with multiplicity := v.value }
  | "is_ordered" => some { t with isOrdered := v.value }
  | "default_value" => some { t with default := v.value }
  | _ => none

end Typing

namespace Classifier

def setField? (c : Classifier) (name : String) (v : FieldValue) : Option Classifier :=
  match name, v with
  | "attributes", .members (.list ids) => some { c with attributes := ids }
  | "operations", .members (.list ids) => some { c with operations := ids }
  | "owned_elements", .members (.list ids) => some { c with owned := ids }
  | "literals", .members (.list ids) =>
    if c.sort = .enumeration then some { c with literals := ids } else none
  | "stereotype", v => some { c with stereotype := v.value }
  | _, _ => none

/-- The fields of a classifier beside those of every element. -/
def fieldNames (sort : ClassifierSort) : List String :=
  ["attributes", "operations", "owned_elements", "stereotype"]
    ++ if sort = .enumeration then ["literals"] else []

end Classifier

namespace Content

/-- The content of new elements by what they are called. -/
def ofWord? (word : String) : Option Content :=
  match word with
  | "Element" => some .plain
  | "Package" => some (.package [])
  | "Class" => some (.classifier (.new .classSort))
  | "Interface" => some (.classifier (.new .interface))
  | "Enumeration" => some (.classifier (.new .enumeration))
  | "AnnotationType" => some (.classifier (.new .annotationType))
  | "Attribute" => some (.attribute .untyped)
  | "Parameter" => some (.parameter .untyped .input)
  | "Operation" => some (.operation [])
  | "EnumerationLiteral" => some .literal
  | "AssociationEnd" => some (.associationEnd .untyped (.bool false))
  | _ => none

/-- What an element with the content is called. -/
def word : Content → String
  | package _ => "Package"
  | classifier body =>
    match body.sort with
    | .classSort => "Class"
    | .interface => "Interface"
    | .enumeration => "Enumeration"
    | .annotationType => "AnnotationType"
  | .attribute _ => "Attribute"
  | parameter _ _ => "Parameter"
  | operation _ => "Operation"
  | literal => "EnumerationLiteral"
  | associationEnd _ _ => "AssociationEnd"
  | _ => "Element"

def typingFieldNames : List String := ["multiplicity", "is_ordered", "default_value"]

/-- The fields of an element with the content beside those of every element. -/
def fieldNames : Content → List String
  | package _ => ["owned_elements"]
  | classifier body => Classifier.fieldNames body.sort
  | .attribute _ => "type" :: typingFieldNames
  | parameter _ _ => "direction" :: "type" :: typingFieldNames
  | operation _ => ["parameters"]
  | associationEnd _ _ => "reference" :: "navigable" :: typingFieldNames
  | _ => []

def setField? (c : Content) (name : String) (v : FieldValue) : Option Content :=
  match c, v with
  | package _, .members (.list ids) =>
    if name = "owned_elements" then some (package ids) else none
  | classifier body, v => (body.setField? name v).map classifier
  | .attribute t, v => (t.setField? name v).map .attribute
  | operation _, .members (.list ids) => if name = "parameters" then some (operation ids) else none
  | parameter t _, .direction d => if name = "direction" then some (parameter t d) else none
  | parameter t direction, v => (t.setField? name v).map fun t => parameter t direction
  | associationEnd t navigable, v =>
    match name with
    | "reference" => some (associationEnd { t with type := v.type } navigable)
    | "navigable" => some (associationEnd t v.value)
    | "type" => none
    | _ => (t.setField? name v).map fun t => associationEnd t navigable
  | _, _ => none

end Content

namespace Element

/-- The element with one field changed; `none` if it has no such field. -/
def setField? (e : Element) (name : String) (v : FieldValue) : Option Element :=
  match name, v with
  | "name", _ => some { e with name := v.value }
  | "documentation", _ => some { e with documentation := v.value }
  | "visibility", .visibility found => some { e with visibility := found }
  | "parent", _ => some { e with parent := v.id? }
  | _, _ =>
    match e.flags.setField? name v.isTrue with
    | some flags => some { e with flags }
    | none => (e.content.setField? name v).map fun content => { e with content }

/-- Whether a value is one that its field can hold as it was given: a flag is only true or false. -/
def holds (e : Element) (name : String) (v : FieldValue) : Bool :=
  match e.flags.setField? name true, v with
  | some _, .data (.bool _) => true
  | some _, _ => false
  | none, _ => true

/-- The element with one field changed. What the content has no place for is put into `further`. -/
def set (e : Element) (name : String) (v : FieldValue) : Element :=
  let others := e.further.filter fun (other, _) => other != name
  match e.setField? name v with
  | some changed =>
    { changed with further := if e.holds name v then others else (name, v) :: others }
  | none => { e with further := (name, v) :: others }

/-- The fields of every element. -/
def fieldNames : List String :=
  ["name", "documentation", "visibility", "parent", "is_static", "is_abstract", "is_leaf",
   "is_final_specialization", "is_read_only"]

/-- A new element with the given fields, all of which must be its own. -/
def ofFields (content : Content) (fields : FieldValues) : Except Fault Element :=
  if fields.all fun (name, _) => (fieldNames ++ content.fieldNames).contains name then
    .ok (fields.foldl (fun e (name, v) => e.set name v) (.new content))
  else .error .wrongType

end Element

namespace Element

/-- The list of an element under its name. -/
def list? (e : Element) (name : String) : Option Members :=
  match name with
  | "attributes" => e.attributes?
  | "operations" => e.operations?
  | "literals" => e.literals?
  | _ => e.owned?

end Element

namespace Model

/-- Whether an element can be asked to take parts: packages and classifiers can. -/
def takesParts (m : Model) (id : ElementId) : Bool :=
  (m.get id).hides .takePart || (listFor (m.get id).content .plain).isSome

/-- Makes `child` a part of `owner`, at the end of the list for it. It is a part of it also if
something else stands in place of the list. -/
def attach (m : Model) (owner child : ElementId) : Except Fault Unit × Model :=
  match m.askFor owner .takePart, listFor (m.get owner).content (m.get child).content with
  | .error fault, _ => (.error fault, m)
  | _, none => (.error .noSuchMember, m)
  | _, some name =>
    let m := m.set child { m.get child with parent := some owner }
    match (m.get owner).list? name with
    | some (.list ids) =>
      (.ok (), m.set owner ((m.get owner).set name (.members (.list (ids ++ [child])))))
    | _ => (.error .noSuchMember, m)

end Model

/-- What relationships are called. -/
inductive RelationshipWord
  | generalization
  | realization
  | association
  deriving DecidableEq, Repr

namespace RelationshipWord

def ofText? (word : String) : Option RelationshipWord :=
  match word with
  | "generalization" => some generalization
  | "realization" => some realization
  | "association" => some association
  | _ => none

/-- Whether a relationship is of the kind. -/
def holds : RelationshipWord → Relationship → Bool
  | generalization => Relationship.isDirected .generalization
  | realization => Relationship.isDirected .realization
  | association => Relationship.isAssociation

def fieldNames : RelationshipWord → List String
  | association => ["name", "end1", "end2"]
  | _ => ["name", "source", "target"]

end RelationshipWord

namespace Relationship

/-- An association end that is given, or a new one. -/
def endOf (m : Model) (fields : FieldValues) (name : String) : ElementId × Model :=
  match (fields.lookup name).bind FieldValue.id? with
  | some id => (id, m)
  | none => (m.next, m.push (.new (.associationEnd .untyped (.bool false))))

/-- A relationship with the given fields, and the model with the ends that were made for it. -/
def ofFields (m : Model) (word : RelationshipWord) (fields : FieldValues) :
    Except Fault (Relationship × Model) :=
  if fields.any fun (name, _) => !word.fieldNames.contains name then .error .wrongType
  else
    let name := ((fields.lookup "name").map FieldValue.value).getD (.str "")
    let joined (key : String) : Option ElementId := (fields.lookup key).bind FieldValue.id?
    match word with
    | .generalization =>
      .ok (directed .generalization name (joined "source") (joined "target"), m)
    | .realization => .ok (directed .realization name (joined "source") (joined "target"), m)
    | .association =>
      let (end1, m) := endOf m fields "end1"
      let (end2, m) := endOf m fields "end2"
      .ok (association name end1 end2, m)

end Relationship

end GosuForge

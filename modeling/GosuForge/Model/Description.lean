import GosuForge.Model.Field
import GosuForge.Value.Display

/-!
# Descriptions of elements

`Model.display` is the text of a value where it is put into a sentence, as `Value.display` is, also of
what the model keeps. An element shows what it is called and all its fields, among them the elements
that it refers to; where these refer back to it, dots stand in its place.
-/

namespace GosuForge

namespace TypeRef

def toFieldValue : TypeRef → FieldValue
  | data v => .data v
  | element id => .element id

end TypeRef

namespace Typing

/-- What is said of the values beside their type. -/
def details (t : Typing) : FieldValues :=
  [("multiplicity", .data t.multiplicity), ("is_ordered", .data t.isOrdered),
   ("default_value", .data t.default)]

def fields (t : Typing) : FieldValues := ("type", t.type.toFieldValue) :: t.details

end Typing

namespace Content

def listField (name : String) (ids : List ElementId) : String × FieldValue :=
  (name, .members (.list ids))

/-- The fields of an element with the content beside those of every element, with their values. -/
def fields : Content → FieldValues
  | package owned => [listField "owned_elements" owned]
  | classifier body =>
    [listField "attributes" body.attributes, listField "operations" body.operations,
      listField "owned_elements" body.owned, ("stereotype", .data body.stereotype)]
      ++ if body.sort = .enumeration then [listField "literals" body.literals] else []
  | .attribute typing => typing.fields
  | parameter typing direction => typing.fields ++ [("direction", .direction direction)]
  | operation parameters => [listField "parameters" parameters]
  | associationEnd typing navigable =>
    ("reference", typing.type.toFieldValue) :: ("navigable", .data navigable) :: typing.details
  | _ => []

end Content

namespace Element

/-- The fields of an element with their values, but not its parent. -/
def fields (e : Element) : FieldValues :=
  let own := [("name", .data e.name), ("documentation", .data e.documentation),
      ("visibility", .visibility e.visibility)]
    ++ e.flags.named.map (fun (name, b) => (name, FieldValue.data (.bool b))) ++ e.content.fields
  own.map fun (name, v) => (name, (e.further.lookup name).getD v)

end Element

namespace FieldValue

/-- One of several words that a type has. -/
def describeWord (type word : String) : String :=
  "<" ++ type ++ "." ++ word.toUpper ++ ": '" ++ word ++ "'>"

/-- The text of a value, where elements have the given texts. -/
def describe (element : ElementId → String) : FieldValue → String
  | data (.kept id) => element id
  | data v => v.inner
  | .element id => element id
  | members (.list ids) => "[" ++ Text.join ", " (ids.map element) ++ "]"
  | members (.walkable v _) => v.inner
  | members (.unwalkable (.kept id)) => element id
  | members (.unwalkable v) => v.inner
  | visibility v => describeWord "Visibility" v.word
  | direction d => describeWord "ParameterDirection" d.word

end FieldValue

namespace Model

/-- The text of an element that stands inside the elements `around` it, down to the depth `fuel`. -/
def describe (m : Model) (around : List ElementId) : Nat → ElementId → String
  | 0, _ => "..."
  | fuel + 1, id =>
    let e := m.get id
    match e.content with
    | .stray v => v.inner
    | content =>
      if around.contains id then "..."
      else
        let fields := e.fields.map fun (name, v) =>
          name ++ "=" ++ v.describe (m.describe (id :: around) fuel)
        content.word ++ "(" ++ Text.join ", " fields ++ ")"

/-- The text of a value, also of what the model keeps. -/
def display (m : Model) (v : Value) : String :=
  match v with
  | .kept id => m.describe [] (m.size + 1) id
  | v => v.display

end Model

end GosuForge

import GosuForge.Storage.Fault
import GosuForge.Value.Display

/-!
# Defects of model documents

Why a document is not a model, and the sentence that says so.
-/

namespace GosuForge

inductive ModelDefect
  | notObject
  | visibility (value owner : Value)
  | direction (value owner : Value)
  | typeWithoutReference (owner : Value)
  | duplicateId (id : Value)
  | unresolvedType (reference owner : Value)
  | unresolvedEnd (reference : Value) (place : String)
  | relationshipKind (kind : Value)
  | relationshipWithout (kind key : String)
  | endWithoutReference
  | invalidJson (path : Path) (detail : String)
  | unreadable (path : Path) (fault : StorageFault)
  deriving Repr

namespace ModelDefect

/-- The sentence for a defect, without what the JSON reader had to say. -/
def headline : ModelDefect → String
  | notObject => "Model document must be a JSON object"
  | visibility value owner =>
    "Invalid visibility '" ++ value.display ++ "' on '" ++ owner.display ++ "'"
  | direction value owner =>
    "Invalid direction '" ++ value.display ++ "' on parameter '" ++ owner.display ++ "'"
  | typeWithoutReference owner => "Type of '" ++ owner.display ++ "' must use '$ref'"
  | duplicateId id => "Duplicate element id '" ++ id.display ++ "'"
  | unresolvedType reference owner =>
    "Unresolved reference '" ++ reference.display ++ "' in type of '" ++ owner.display ++ "'"
  | unresolvedEnd reference place =>
    "Unresolved reference '" ++ reference.display ++ "' in " ++ place
  | relationshipKind kind => "Unknown relationship kind '" ++ kind.display ++ "'"
  | relationshipWithout kind key => kind ++ " is missing " ++ Text.quoted key
  | endWithoutReference => "Association end is missing 'reference'"
  | invalidJson path _ => "Invalid JSON in model file " ++ path.toString
  | unreadable path fault => "Error reading model file " ++ path.toString ++ ": " ++ fault.text

def message : ModelDefect → String
  | invalidJson path detail => (invalidJson path detail).headline ++ ": " ++ detail
  | d => d.headline

end ModelDefect

end GosuForge

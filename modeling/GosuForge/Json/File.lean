import GosuForge.Fault
import GosuForge.Json.Reader

/-!
# JSON files

`Json.ofFile` reads the text of a file as JSON. Its line ends are read as line feeds; a file that is
no JSON is reported as its reader wants it, and one that goes beyond what is read of JSON is a fault
of its own.
-/

namespace GosuForge.Json

/-- The value that a file holds; `malformed` is the fault of a file that is no JSON, for a sentence
that says where it goes wrong. -/
def ofFile (malformed : String → Fault) (raw : String) : Except Fault Value :=
  let text := String.ofList (Text.unifyEndings raw.toList)
  match read text with
  | .ok v => .ok v
  | .error ⟨.malformed cause, rest⟩ => .error (malformed (placed cause text rest))
  | .error ⟨.longNumber, _⟩ => .error .badValue
  | .error ⟨.deepNesting, _⟩ => .error .nestingTooDeep

end GosuForge.Json

import GosuForge.Decimal.Shortest
import GosuForge.Text.Line
import GosuForge.Text.Quoted
import GosuForge.Value.Basic

/-!
# Writing JSON

`Json.compact` writes a value on one line, `Json.indented` with one item or entry a line, two spaces
deeper than the list or object it belongs to. Only controls, quotes and backslashes are escaped.
-/

namespace GosuForge.Json

def escapeChar (c : Char) : List Char :=
  match c with
  | '\x22' => ['\\', '\x22']
  | '\\' => ['\\', '\\']
  | '\n' => ['\\', 'n']
  | '\r' => ['\\', 'r']
  | '\t' => ['\\', 't']
  | '\x08' => ['\\', 'b']
  | '\x0c' => ['\\', 'f']
  | _ => if c.toNat < 0x20 then '\\' :: 'u' :: Text.hexDigits c.toNat 4 else [c]

def text (s : String) : String :=
  String.ofList ('\x22' :: s.toList.flatMap escapeChar ++ ['\x22'])

def number (x : Binary64) : String := x.textWith "Infinity" "NaN"

mutual

def compact : Value → String
  | .null => "null"
  | .bool b => if b then "true" else "false"
  | .int n => toString n
  | .float x => number x
  | .str s => text s
  | .arr items => "[" ++ Text.join ", " (compactItems items) ++ "]"
  | .obj entries => "\x7b" ++ Text.join ", " (compactEntries entries) ++ "\x7d"
  | .kept _ => "null"
termination_by structural x => x

def compactItems : List Value → List String
  | [] => []
  | v :: rest => compact v :: compactItems rest
termination_by structural x => x

def compactEntries : List (String × Value) → List String
  | [] => []
  | (key, v) :: rest => (text key ++ ": " ++ compact v) :: compactEntries rest
termination_by structural x => x

end

/-- Lines of a list or object `depth` levels deep between its brackets. -/
def block (depth : Nat) (opening closing : String) (lines : List String) : String :=
  let lead := "\n" ++ Text.copies "  " (depth + 1)
  opening ++ lead ++ Text.join ("," ++ lead) lines ++ "\n" ++ Text.copies "  " depth ++ closing

mutual

def indentedAt (depth : Nat) : Value → String
  | .null => "null"
  | .bool b => if b then "true" else "false"
  | .int n => toString n
  | .float x => number x
  | .str s => text s
  | .arr [] => "[]"
  | .arr (v :: rest) => block depth "[" "]" (indentedItems (depth + 1) (v :: rest))
  | .obj [] => "\x7b\x7d"
  | .obj (e :: rest) => block depth "\x7b" "\x7d" (indentedEntries (depth + 1) (e :: rest))
  | .kept _ => "null"
termination_by structural x => x

def indentedItems (depth : Nat) : List Value → List String
  | [] => []
  | v :: rest => indentedAt depth v :: indentedItems depth rest
termination_by structural x => x

def indentedEntries (depth : Nat) : List (String × Value) → List String
  | [] => []
  | (key, v) :: rest => (text key ++ ": " ++ indentedAt depth v) :: indentedEntries depth rest
termination_by structural x => x

end

def indented (v : Value) : String := indentedAt 0 v

end GosuForge.Json

import GosuForge.Decimal.Shortest
import GosuForge.Text.Line
import GosuForge.Text.Quoted
import GosuForge.Value.Basic

/-!
# Values in messages and templates

`Value.display` is the text of a value where it is put into a sentence: a text stands for itself,
and inside lists and objects texts are quoted. What a model keeps shows as dots.
-/

namespace GosuForge

namespace Value

mutual

/-- The text of a value inside another one. -/
def inner : Value → String
  | null => "None"
  | bool b => if b then "True" else "False"
  | int n => toString n
  | float x => x.text
  | str s => Text.quoted s
  | arr items => "[" ++ Text.join ", " (innerItems items) ++ "]"
  | obj entries => "\x7b" ++ Text.join ", " (innerEntries entries) ++ "\x7d"
  | kept _ => "..."
termination_by structural x => x

def innerItems : List Value → List String
  | [] => []
  | v :: rest => inner v :: innerItems rest
termination_by structural x => x

def innerEntries : List (String × Value) → List String
  | [] => []
  | (key, v) :: rest => (Text.quoted key ++ ": " ++ inner v) :: innerEntries rest
termination_by structural x => x

end

def display : Value → String
  | str s => s
  | v => v.inner

end Value

end GosuForge

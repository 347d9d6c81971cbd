import GosuForge.Fault

/-!
# Indented lines

A `Writer` collects lines at a depth of indentation. Text is laid out by a script of moves: write a
line, go one level deeper, come one level back. Coming back from depth zero is refused; an empty
line carries no indentation.
-/

namespace GosuForge

inductive Move
  | line (text : String)
  | indent
  | outdent
  deriving DecidableEq, Repr

abbrev Script := List Move

structure Writer where
  indentText : String
  depth : Nat
  lines : List String
  deriving DecidableEq, Repr

namespace Writer

def new (indentText : String) : Writer := ⟨indentText, 0, []⟩

/-- A line as it stands at a depth. -/
def lineAt (indentText : String) (depth : Nat) (text : String) : String :=
  if text = "" then "" else Text.copies indentText depth ++ text

def perform (w : Writer) : Move → Except Fault Writer
  | .line text => .ok { w with lines := w.lines ++ [lineAt w.indentText w.depth text] }
  | .indent => .ok { w with depth := w.depth + 1 }
  | .outdent =>
    if w.depth = 0 then .error .outdentBelowZero else .ok { w with depth := w.depth - 1 }

def run (w : Writer) : Script → Except Fault Writer
  | [] => .ok w
  | move :: rest => do
    let w ← w.perform move
    w.run rest

/-- All lines with `ending` between each two. -/
def text (w : Writer) (ending : String) : String := Text.join ending w.lines

end Writer

end GosuForge

import GosuForge.Console.Markup
import GosuForge.Text.Blank

/-!
# Tables

A table is shown under headings, each column as wide as the widest line of its heading and cells.
Widths are measured before tabs are expanded, and there more characters end a line than where the
cell is laid out; so a line may be too wide after all. Then it is broken before words, and a word
that is still too wide is cut off.

* `Cell.layOut`: the lines of a cell in a column of some width;
* `Table.lines`: the lines of a table. The styles that something is shown in must be readable.
-/

namespace GosuForge

/-- A column of a table, whose cells are texts with markup. -/
structure Column where
  heading : String
  cells : List String

/-- A text without its markup, and the parts of it that have a style. -/
structure Cell where
  text : List Char
  spans : List Markup.Span

/-- A character with the styles that it is shown in. -/
abbrev StyledChar := Char × List String

namespace Cell

def plain (s : String) : Cell := ⟨s.toList, []⟩

def read (s : String) : Except Fault Cell := (Markup.read s).map fun (text, spans) => ⟨text, spans⟩

/-- Characters that end a line where widths are measured. -/
def endsLine (c : Char) : Bool :=
  [0x0A, 0x0B, 0x0C, 0x0D, 0x1C, 0x1D, 0x1E, 0x85, 0x2028, 0x2029].contains c.toNat

/-- The width of the widest line. -/
def width (c : Cell) : Nat :=
  let lines := Text.splitChars '\n' (c.text.map fun c => if endsLine c then '\n' else c)
  (lines.map Console.textWidth).foldl max 0

def styledChars (c : Cell) : List StyledChar :=
  c.text.zipIdx.map fun (char, n) =>
    (char, (c.spans.filter fun s => s.start ≤ n && n < s.stop).map (·.style))

def chars (line : List StyledChar) : List Char := line.map (·.1)

def widthOf (line : List StyledChar) : Nat := Console.textWidth (chars line)

def splitLines : List StyledChar → List (List StyledChar)
  | [] => [[]]
  | c :: rest =>
    if c.1 = '\n' then [] :: splitLines rest
    else
      match splitLines rest with
      | [] => [[c]]
      | line :: lines => (c :: line) :: lines

/-- A line, the text since the last tab of which is `read`, last character first, and begins at a
column that eight divides. The blanks for a tab have its styles. -/
def expandTabs (read : List StyledChar) : List StyledChar → List StyledChar
  | [] => read.reverse
  | c :: rest =>
    if c.1 = '\t' then
      let reached := widthOf ((' ', c.2) :: read).reverse
      read.reverse ++ List.replicate ((8 - reached % 8) % 8 + 1) (' ', c.2) ++ expandTabs [] rest
    else expandTabs (c :: read) rest

def isBlank (c : StyledChar) : Bool := Text.isBlank c.1

/-- The words of a line, each with the blanks that follow it, and the first one also with those before
it; the fuel exceeds the length of the line. -/
def words : Nat → List StyledChar → List (List StyledChar)
  | 0, _ => []
  | _ + 1, [] => []
  | fuel + 1, cs =>
    let (margin, rest) := cs.span isBlank
    let (body, rest) := rest.span fun c => !isBlank c
    let (after, rest) := rest.span isBlank
    (margin ++ body ++ after) :: words fuel rest

/-- Breaks a line before words, where `line` is what the current line holds so far and `used` how
many columns the words in it take. -/
def fill (width used : Nat) (line : List StyledChar) :
    List (List StyledChar) → List (List StyledChar)
  | [] => [line]
  | word :: rest =>
    let needed := widthOf (word.reverse.dropWhile isBlank).reverse
    if line.isEmpty || used + needed ≤ width then
      fill width (used + widthOf word) (line ++ word) rest
    else line :: fill width (widthOf word) word rest

/-- Blanks at the end of a line that has more characters than columns are dropped as needed. -/
def dropExcess (width : Nat) (line : List StyledChar) : List StyledChar :=
  let blanks := (line.reverse.takeWhile isBlank).length
  line.take (line.length - min blanks (line.length - width))

def ellipsis : Char := '…'

/-- A line that is too wide is cut off, and shows so in its last column. -/
def cutOff (width : Nat) (line : List StyledChar) : List StyledChar :=
  if widthOf line ≤ width then line
  else
    let kept := Console.crop (width - 1) (chars line) ++ [ellipsis]
    kept.zip (line.map (·.2))

/-- The lines of a cell in a column of a width. -/
def layOut (width : Nat) (c : Cell) : List (List StyledChar) :=
  (splitLines c.styledChars).flatMap fun line =>
    let line := expandTabs [] line
    (fill width 0 [] (words (line.length + 1) line)).map fun line =>
      cutOff width (dropExcess width line)

/-- The styles that something is shown in. A text that stays in one piece also shows nothing in the
style of a part without characters, unless it stands behind where the text is cut off. -/
def shownStyles (c : Cell) (lines : List (List StyledChar)) : List String :=
  match lines with
  | [line] =>
    if c.text.contains '\t' then line.flatMap (·.2)
    else (c.spans.filter fun s => line.length = c.text.length || s.start < line.length).map (·.style)
  | lines => lines.flatten.flatMap (·.2)

/-- The lines of a cell, whose styles must be readable. -/
def shown (width : Nat) (c : Cell) : Except Fault (List (List Char)) := do
  let lines := c.layOut width
  (c.shownStyles lines).forM fun style => (Style.ofText? style).map fun _ => ()
  .ok (lines.map chars)

end Cell

namespace Table

def padded (width : Nat) (line : List Char) : String :=
  String.ofList (line ++ List.replicate (width - Console.textWidth line) ' ')

/-- The lines of a row, whose cells stand beside each other in columns of the given widths. -/
def rowLines (cells : List (Nat × List (List Char))) : List String :=
  let height := (cells.map fun (_, lines) => lines.length).foldl max 0
  (List.range height).map fun n =>
    "  " ++ Text.join "   " (cells.map fun (width, lines) => padded width (lines.getD n [])) ++ "  "

/-- The lines of a table from its headings on. -/
def lines (columns : List Column) : Except Fault (List String) := do
  let columns ← columns.mapM fun column => do
    let cells ← column.cells.mapM Cell.read
    let cells := Cell.plain column.heading :: cells
    .ok ((cells.map Cell.width).foldl max 0, cells)
  let height := (columns.map fun (_, cells) => cells.length).foldl max 0
  let rows ← (List.range height).mapM fun n => do
    let cells ← columns.mapM fun (width, cells) => do
      let lines ← (cells.getD n (Cell.plain "")).shown width
      .ok (width, lines)
    .ok (rowLines cells)
  .ok rows.flatten

end Table

end GosuForge

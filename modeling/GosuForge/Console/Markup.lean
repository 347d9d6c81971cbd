import GosuForge.Console.CellWidth
import GosuForge.Console.Emoji
import GosuForge.Console.Literal
import GosuForge.Console.Style
import GosuForge.Text.Alphanumeric

/-!
# Markup of console texts

Texts for the console may hold tags in square brackets that set a style until they are closed.
`Markup.read` takes the tags out and puts pictures in the place of their codes; a tag that closes
nothing is refused. A bracket is no tag unless a small letter or one of `#`, `/`, `@` follows it, and
a backslash before a tag keeps it as text. A tag is closed under any spelling of its style.

`Markup.plain` and `Markup.title` are what a console shows of a text. The styles that something is
shown in are read then; one that is no style does not matter, but its numbers must be numbers.
-/

namespace GosuForge.Markup

def beginsTag (c : Char) : Bool := ('a' ≤ c && c ≤ 'z') || c = '#' || c = '/' || c = '@'

/-- The text up to the first closing bracket, unless another bracket opens before it. -/
def untilClose : List Char → Option (List Char × List Char)
  | [] => none
  | ']' :: rest => some ([], rest)
  | '[' :: _ => none
  | c :: rest => (untilClose rest).map fun (inside, after) => (c :: inside, after)

/-- The content of the tag that a text begins with, and what follows the tag. -/
def tagAt? : List Char → Option (List Char × List Char)
  | '[' :: c :: rest =>
    if beginsTag c then (untilClose rest).map fun (inside, after) => (c :: inside, after) else none
  | _ => none

inductive Piece
  | text (cs : List Char)
  | tag (content : List Char)
  deriving DecidableEq, Repr

/-- The pieces that a tag after a run of backslashes makes: two of these show as one, and a single
one keeps the tag as text. -/
def tagPieces (slashes : Nat) (content : List Char) : List Piece :=
  (if slashes < 2 then [] else [.text (List.replicate (slashes / 2) '\\')])
    ++ [if slashes % 2 = 1 then .text ('[' :: content ++ [']']) else .tag content]

def flush (read : List Char) : List Piece := if read.isEmpty then [] else [.text read.reverse]

/-- The pieces of a text after what is read of it; the fuel exceeds its length. -/
def piecesFrom (read : List Char) : Nat → List Char → List Piece
  | 0, _ => flush read
  | _ + 1, [] => flush read
  | fuel + 1, c :: rest =>
    let (slashes, after) := (c :: rest).span (· = '\\')
    match tagAt? after with
    | some (content, after) =>
      flush read ++ tagPieces slashes.length content ++ piecesFrom [] fuel after
    | none =>
      if slashes.isEmpty then piecesFrom (c :: read) fuel rest
      else piecesFrom (slashes ++ read) fuel after

def pieces (cs : List Char) : List Piece := piecesFrom [] (cs.length + 1) cs

/-- A tag with a name and what is given after an equals sign. -/
structure Tag where
  name : String
  parameters : Option (List Char)
  deriving DecidableEq, Repr

namespace Tag

def ofContent (content : List Char) : Tag :=
  let (name, rest) := content.span (· ≠ '=')
  ⟨String.ofList name, rest.tail?⟩

/-- The style that a closing tag names; `some ""` if it closes whatever was opened last. -/
def closes? (t : Tag) : Option String :=
  match t.name.toList with
  | '/' :: name => some (Text.trim (String.ofList name))
  | _ => none

def isAction (t : Tag) : Bool := Text.startsWith "@" t.name

def isNameChar (c : Char) : Bool := Text.isAlphanumeric c || c = '_' || c = '.'

/-- The literal in the parameters of an action: what stands in parentheses after its name, or all
of them; a name alone has none. -/
def actionLiteral? (parameters : List Char) : Option (List Char) :=
  match parameters.dropWhile isNameChar with
  | [] => none
  | '(' :: rest =>
    if rest.getLast? = some ')' && !rest.contains '\n' then some ('(' :: rest) else some parameters
  | _ => some parameters

/-- Whether a tag may be closed: the parameters of an action must be a literal. -/
def isComplete (t : Tag) : Bool :=
  match t.isAction, t.parameters with
  | true, some parameters =>
    match actionLiteral? (Text.trimChars parameters) with
    | some cs => Literal.isValid cs
    | none => true
  | _, _ => true

end Tag

/-- A tag that is not closed yet, under the usual name of its style, and where it begins. -/
structure OpenTag where
  tag : Tag
  start : Nat
  deriving DecidableEq, Repr

/-- A part of a text with its style. -/
structure Span where
  start : Nat
  stop : Nat
  style : String
  deriving DecidableEq, Repr

namespace OpenTag

/-- The style of a tag: its name and what is given after it. -/
def span (t : OpenTag) (stop : Nat) : Span :=
  ⟨t.start, stop, match t.tag.parameters with
    | some parameters => t.tag.name ++ " " ++ String.ofList parameters
    | none => t.tag.name⟩

/-- The part of a text that a closed tag gives a style; an action gives none. -/
def closedSpans (t : OpenTag) (stop : Nat) : List Span := if t.tag.isAction then [] else [t.span stop]

end OpenTag

/-- Takes the innermost open tag of a name away. -/
def close (name : String) : List OpenTag → Option (OpenTag × List OpenTag)
  | [] => none
  | t :: rest =>
    if t.tag.name = name then some (t, rest)
    else (close name rest).map fun (found, others) => (found, t :: others)

/-- Characters that a console does not show. -/
def isControl (c : Char) : Bool := [0x07, 0x08, 0x0B, 0x0C, 0x0D].contains c.toNat

/-- A text where a backslash before an opening bracket is left out. -/
def unescape : List Char → List Char
  | '\\' :: '[' :: rest => '[' :: unescape rest
  | c :: rest => c :: unescape rest
  | [] => []

/-- A text without tags, with pictures in the place of codes. -/
def bare (cs : List Char) : List Char := (Emoji.shown cs).filter fun c => !isControl c

/-- The open tags after a tag that stands before the character number `place`, innermost first, and
the parts that are closed by it. -/
def openAfter (place : Nat) (t : Tag) (tags : List OpenTag) :
    Except Fault (List OpenTag × List Span) :=
  match t.closes? with
  | none => do
    let name ← Style.normalForm t.name
    .ok (⟨{ t with name }, place⟩ :: tags, [])
  | some style => do
    let found ←
      if style = "" then .ok (tags.head?.map fun t => (t, tags.drop 1))
      else do
        let name ← Style.normalForm style
        .ok (close name tags)
    match found with
    | some (closed, tags) =>
      if closed.tag.isComplete then .ok (tags, closed.closedSpans place) else .error .markup
    | none => .error .markup

/-- The characters of pieces that begin with the character number `place` and with the given tags
open, innermost first, and the parts that have a style. -/
def shown (place : Nat) (tags : List OpenTag) : List Piece → Except Fault (List Char × List Span)
  | [] => .ok ([], tags.map (·.span place))
  | .text cs :: rest => do
    let cs := bare (unescape cs)
    let (others, spans) ← shown (place + cs.length) tags rest
    .ok (cs ++ others, spans)
  | .tag content :: rest => do
    let (tags, closed) ← openAfter place (Tag.ofContent content) tags
    let (cs, spans) ← shown place tags rest
    .ok (cs, closed ++ spans)

/-- A text without its markup, and the parts of it that have a style. -/
def read (s : String) : Except Fault (List Char × List Span) :=
  let cs := s.toList
  if cs.contains '[' then shown 0 [] (pieces cs) else .ok (bare cs, [])

/-- The parts of a line between its tabs, the first of which begins at a column; each tab leads to
the next column that eight divides. -/
def expandParts (column : Nat) : List (List Char) → List Char
  | [] => []
  | [part] => part
  | part :: rest =>
    let reached := column + Console.textWidth (part ++ [' '])
    let gap := (8 - reached % 8) % 8
    part ++ List.replicate (gap + 1) ' ' ++ expandParts (reached + gap) rest

def expandTabs (line : List Char) : List Char := expandParts 0 (Text.splitChars '\t' line)

/-- Whether something is shown in the style of a part. A text that is shown in pieces, because there
is more than one line or a tab in it, shows nothing of parts that hold no more than line ends. -/
def Span.isShown (cs : List Char) (s : Span) : Bool :=
  !(cs.contains '\n' || cs.contains '\t')
    || ((cs.drop s.start).take (s.stop - s.start)).any (· ≠ '\n')

/-- The styles of the parts must be readable. -/
def checkStyles (cs : List Char) (spans : List Span) : Except Fault Unit :=
  (spans.filter (Span.isShown cs)).forM fun s => (Style.ofText? s.style).map fun _ => ()

/-- The text that a console shows. -/
def plain (s : String) : Except Fault String := do
  let (cs, spans) ← read s
  checkStyles cs spans
  .ok (Text.joinLines ((Text.splitChars '\n' cs).map fun line => String.ofList (expandTabs line)))

/-- A text as the title of a frame, which is a single line. -/
def title (s : String) : Except Fault String := do
  let (cs, spans) ← read s
  let cs := cs.map fun c => if c = '\n' then ' ' else c
  checkStyles cs spans
  .ok (String.ofList (expandTabs cs))

end GosuForge.Markup

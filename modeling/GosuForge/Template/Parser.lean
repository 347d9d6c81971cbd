import GosuForge.Template.Basic
import GosuForge.Text.Blank
import GosuForge.Text.Identifier

/-!
# Reading templates

Tags stand in double braces for values, in braces with percent signs for blocks, and in braces with
number signs for remarks. Line ends are read as line feeds, and one at the very end is dropped;
spaces and tabs between the start of a line and a block or remark vanish.
-/

namespace GosuForge.Template

inductive TagKind
  | output
  | block
  | remark
  deriving DecidableEq, Repr

inductive Token
  | text (s : List Char)
  | tag (kind : TagKind) (content : List Char)
  deriving DecidableEq, Repr

def TagKind.ofMark? : Char → Option TagKind
  | '\x7b' => some .output
  | '%' => some .block
  | '#' => some .remark
  | _ => none

def TagKind.closingMark : TagKind → Char
  | .output => '\x7d'
  | .block => '%'
  | .remark => '#'

/-- The content of a tag up to the mark before its closing brace, and what follows the tag. -/
def splitTag (mark : Char) : List Char → Option (List Char × List Char)
  | [] => none
  | [_] => none
  | c :: d :: rest =>
    if c = mark && d = '\x7d' then some ([], rest)
    else (splitTag mark (d :: rest)).map fun (content, after) => (c :: content, after)

/-- The tag that a text begins with, if it begins with one. -/
def tagAt? : List Char → Option (TagKind × List Char)
  | '\x7b' :: mark :: rest => (TagKind.ofMark? mark).map fun kind => (kind, rest)
  | _ => none

def flush (read : List Char) : List Token := if read.isEmpty then [] else [.text read.reverse]

/-- The tokens of a text after the characters already read; the fuel exceeds its length. -/
def tokens (read : List Char) : Nat → List Char → Except Fault (List Token)
  | 0, _ => .ok (flush read)
  | fuel + 1, cs =>
    match cs with
    | [] => .ok (flush read)
    | c :: rest =>
      match tagAt? cs with
      | none => tokens (c :: read) fuel rest
      | some (kind, inside) =>
        match splitTag kind.closingMark inside with
        | none => .error .templateSyntax
        | some (content, after) => do
          let others ← tokens [] fuel after
          .ok (flush read ++ .tag kind content :: others)

def isMargin (c : Char) : Bool := c = ' ' || c = '\t'

/-- Drops what is only spaces and tabs since the start of the last line. -/
def dropMargin (atStart : Bool) (s : List Char) : List Char :=
  let kept := s.reverse.dropWhile isMargin
  match kept with
  | [] => if atStart then [] else s
  | '\n' :: _ => kept.reverse
  | _ => s

/-- Drops the margins before blocks and remarks. -/
def dropMargins (atStart : Bool) : List Token → List Token
  | .text s :: .tag .output content :: rest =>
    .text s :: .tag .output content :: dropMargins false rest
  | .text s :: .tag kind content :: rest =>
    .text (dropMargin atStart s) :: .tag kind content :: dropMargins false rest
  | token :: rest => token :: dropMargins false rest
  | [] => []

/-- The marks of identifiers that came with the versions 12.0 to 14.0 of the character database. -/
def youngMarkRanges : List (Nat × Nat) :=
  [(0x898, 0x89F), (0x8CA, 0x8D2), (0xB55, 0xB55), (0xC3C, 0xC3C), (0xD81, 0xD81), (0xEBA, 0xEBA),
   (0x1715, 0x1715), (0x180F, 0x180F), (0x1ABF, 0x1ACE), (0x1DFA, 0x1DFA), (0xA82C, 0xA82C),
   (0x10EAB, 0x10EAC), (0x10F82, 0x10F85), (0x11070, 0x11070), (0x11073, 0x11074),
   (0x110C2, 0x110C2), (0x111CE, 0x111CF), (0x11930, 0x11935), (0x11937, 0x11938),
   (0x1193B, 0x1193E), (0x11940, 0x11940), (0x11942, 0x11943), (0x119D1, 0x119D7),
   (0x119DA, 0x119E0), (0x119E4, 0x119E4), (0x16F4F, 0x16F4F), (0x16F7F, 0x16F87),
   (0x16FE4, 0x16FE4), (0x16FF0, 0x16FF1), (0x1CF00, 0x1CF2D), (0x1CF30, 0x1CF46),
   (0x1E130, 0x1E136), (0x1E2AE, 0x1E2AE), (0x1E2EC, 0x1E2EF)]

def isYoungMark (c : Char) : Bool :=
  youngMarkRanges.any fun (first, last) => first ≤ c.toNat && c.toNat ≤ last

/-- Names are identifiers without young marks, but not the word for negation. -/
def isName (cs : List Char) : Bool :=
  Text.isIdentifier cs && !cs.any isYoungMark && cs != "not".toList

/-- The words of a tag. -/
def tagWords (content : List Char) : List (List Char) :=
  let parts := Text.splitChars ' ' (content.map fun c => if Text.isBlank c then ' ' else c)
  parts.filter fun word => !word.isEmpty

/-- What a block tag says. -/
inductive BlockTag
  | conditional (name : String)
  | repeated (item name : String)
  | endConditional
  | endRepeated
  deriving DecidableEq, Repr

def blockTag? (content : List Char) : Option BlockTag :=
  match (tagWords content).map String.ofList with
  | ["if", name] => if isName name.toList then some (.conditional name) else none
  | ["for", item, "in", name] =>
    if isName item.toList && isName name.toList then some (.repeated item name) else none
  | ["endif"] => some .endConditional
  | ["endfor"] => some .endRepeated
  | _ => none

/-- The text of a word that stands for a value of its own. -/
def literalText? (word : String) : Option String :=
  match word with
  | "true" => some "True"
  | "True" => some "True"
  | "false" => some "False"
  | "False" => some "False"
  | "none" => some "None"
  | "None" => some "None"
  | _ => none

/-- What a tag for a value puts into the text. -/
def outputPiece? (content : List Char) : Option TemplatePiece :=
  let name := Text.trimChars content
  if !isName name then none
  else
    match literalText? (String.ofList name) with
    | some s => some (.text s)
    | none => some (.output (String.ofList name))

/-- Blocks that are still open, innermost first, each with the pieces before it, last first. -/
abbrev OpenBlocks := List (BlockTag × List TemplatePiece)

/-- Builds the pieces from tokens; `done` are those of the innermost open block, last first. -/
def assemble (blocks : OpenBlocks) (done : List TemplatePiece) :
    List Token → Except Fault Template
  | [] => if blocks.isEmpty then .ok done.reverse else .error .templateSyntax
  | .text s :: rest =>
    assemble blocks (if s.isEmpty then done else .text (String.ofList s) :: done) rest
  | .tag .remark _ :: rest => assemble blocks done rest
  | .tag .output content :: rest =>
    match outputPiece? content with
    | some piece => assemble blocks (piece :: done) rest
    | none => .error .templateSyntax
  | .tag .block content :: rest =>
    match blockTag? content, blocks with
    | some (.conditional name), _ => assemble ((.conditional name, done) :: blocks) [] rest
    | some (.repeated item name), _ => assemble ((.repeated item name, done) :: blocks) [] rest
    | some .endConditional, (.conditional name, before) :: blocks =>
      assemble blocks (.conditional name done.reverse :: before) rest
    | some .endRepeated, (.repeated item name, before) :: blocks =>
      assemble blocks (.repeated item name done.reverse :: before) rest
    | _, _ => .error .templateSyntax

/-- Drops one line feed at the end. -/
def dropLastFeed (cs : List Char) : List Char :=
  if cs.getLast? = some '\n' then cs.dropLast else cs

def parse (text : String) : Except Fault Template := do
  let cs := dropLastFeed (Text.unifyEndings text.toList)
  let found ← tokens [] (cs.length + 1) cs
  assemble [] [] (dropMargins true found)

end GosuForge.Template

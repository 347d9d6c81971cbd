import GosuForge.Text.Digit
import GosuForge.Text.Line
import GosuForge.Value.Basic

/-!
# Reading JSON

`Json.read` reads one value from a text. A failure carries its cause and what was left to read,
from which its place is counted. Beside the standard's values, `NaN`, `Infinity` and `-Infinity` are
numbers; of two entries with the same key the later counts, in the place of the earlier. Whole
numbers of more than `Text.maxDigits` digits are refused, and so is what is nested deeper than
`maxDepth`.
-/

namespace GosuForge.Json

/-- Why a text cannot be read: it is no JSON, or beyond what is read of it. -/
inductive FailureCause
  | malformed (text : String)
  | longNumber
  | deepNesting
  deriving Repr, DecidableEq

structure Failure where
  cause : FailureCause
  rest : List Char
  deriving Repr, DecidableEq

def fail {α : Type} (cause : String) (rest : List Char) : Except Failure (α × List Char) :=
  .error ⟨.malformed cause, rest⟩

/-- How many lists and objects may stand inside each other. -/
def maxDepth : Nat := 985

def isSpace (c : Char) : Bool := c = ' ' || c = '\t' || c = '\n' || c = '\r'

def skipSpace (cs : List Char) : List Char := cs.dropWhile isSpace

/-- Four hexadecimal digits, which something must follow. -/
def hexUnit? : List Char → Option (Nat × List Char)
  | a :: b :: c :: d :: e :: rest => do
    let a ← Text.hexValue? a
    let b ← Text.hexValue? b
    let c ← Text.hexValue? c
    let d ← Text.hexValue? d
    some (((a * 16 + b) * 16 + c) * 16 + d, e :: rest)
  | _ => none

def isHighUnit (n : Nat) : Bool := 0xD800 ≤ n && n < 0xDC00

def isLowUnit (n : Nat) : Bool := 0xDC00 ≤ n && n < 0xE000

/-- The character of a unit that belongs to no pair. -/
def unitChar (n : Nat) : Char :=
  if isHighUnit n || isLowUnit n then '\ufffd' else Char.ofNat n

/-- The rest of an escape after its `u`. -/
def readUnit (cs : List Char) : Except Failure (Char × List Char) :=
  match hexUnit? cs with
  | none => fail "Invalid \\uXXXX escape" ('u' :: cs)
  | some (high, rest) =>
    if isHighUnit high then
      match rest with
      | '\\' :: 'u' :: more =>
        match hexUnit? more with
        | some (low, rest') =>
          if isLowUnit low then
            .ok (Char.ofNat (0x10000 + (high - 0xD800) * 0x400 + (low - 0xDC00)), rest')
          else .ok (unitChar high, rest)
        | none =>
          if more.length < 5 then .ok (unitChar high, rest)
          else fail "Invalid \\uXXXX escape" ('u' :: more)
      | _ => .ok (unitChar high, rest)
    else .ok (unitChar high, rest)

def escapes : List (Char × Char) :=
  [('\x22', '\x22'), ('\\', '\\'), ('/', '/'), ('b', '\x08'), ('f', '\x0c'), ('n', '\n'),
   ('r', '\r'), ('t', '\t')]

/-- Reads a text up to its closing quote; `opening` is the input from the opening quote on, and the
fuel exceeds the length of what is left. -/
def readText (opening read : List Char) :
    Nat → List Char → Except Failure (String × List Char)
  | 0, _ => fail "Unterminated string starting at" opening
  | fuel + 1, cs =>
    match cs with
    | [] => fail "Unterminated string starting at" opening
    | '\x22' :: rest => .ok (String.ofList read.reverse, rest)
    | ['\\'] => fail "Unterminated string starting at" opening
    | '\\' :: 'u' :: rest => do
      let (c, rest) ← readUnit rest
      readText opening (c :: read) fuel rest
    | '\\' :: e :: rest =>
      match escapes.lookup e with
      | some c => readText opening (c :: read) fuel rest
      | none => fail "Invalid \\escape" cs
    | c :: rest =>
      if c.toNat < 0x20 then fail "Invalid control character at" cs
      else readText opening (c :: read) fuel rest

def digitsOf (cs : List Char) : List Char × List Char := cs.span Char.isDigit

def natOf (digits : List Char) : Nat := digits.foldl (fun n c => 10 * n + (c.toNat - 0x30)) 0

/-- The digits after a point, if at least one follows it. -/
def readPlaces (cs : List Char) : List Char × List Char :=
  match cs with
  | '.' :: rest =>
    match digitsOf rest with
    | ([], _) => ([], cs)
    | (places, rest) => (places, rest)
  | _ => ([], cs)

def readPowerDigits (cs : List Char) : Option (Int × List Char) :=
  match cs with
  | '-' :: rest =>
    match digitsOf rest with
    | ([], _) => none
    | (ds, rest) => some (-(natOf ds : Int), rest)
  | '+' :: rest =>
    match digitsOf rest with
    | ([], _) => none
    | (ds, rest) => some (natOf ds, rest)
  | _ =>
    match digitsOf cs with
    | ([], _) => none
    | (ds, rest) => some (natOf ds, rest)

/-- A power of ten, if digits follow its letter. -/
def readPower (cs : List Char) : Option (Int × List Char) :=
  match cs with
  | 'e' :: rest => readPowerDigits rest
  | 'E' :: rest => readPowerDigits rest
  | _ => none

/-- The digits before the point: a zero alone, or digits that begin with another one. -/
def readWhole (cs : List Char) : Option (List Char × List Char) :=
  match cs with
  | '0' :: rest => some (['0'], rest)
  | c :: _ => if c.isDigit then some (digitsOf cs) else none
  | [] => none

/-- Reads a number; with a point or a power it is a binary one. -/
def readNumber? (cs : List Char) : Option (Value × List Char) := do
  let (negative, body) := match cs with
    | '-' :: rest => (true, rest)
    | _ => (false, cs)
  let (whole, rest) ← readWhole body
  let (places, rest) := readPlaces rest
  match readPower rest with
  | some (power, rest) =>
    let scale := power - (places.length : Int)
    some (.float (.ofDecimal negative (natOf (whole ++ places)) scale), rest)
  | none =>
    if places.isEmpty then
      let n : Int := natOf whole
      some (.int (if negative then -n else n), rest)
    else
      some (.float (.ofDecimal negative (natOf (whole ++ places)) (-(places.length : Int))), rest)

/-- How many digits the number that a text begins with has, if it is a whole one. -/
def wholeDigits (cs : List Char) : Nat :=
  match readWhole (if cs.head? = some '-' then cs.drop 1 else cs) with
  | some (digits, rest) =>
    if (readPlaces rest).1.isEmpty && (readPower rest).isNone then digits.length else 0
  | none => 0

/-- The words that stand for values. -/
def words : List (List Char × Value) :=
  [("null".toList, .null), ("true".toList, .bool true), ("false".toList, .bool false),
   ("NaN".toList, .float .nan), ("Infinity".toList, .float (.infinity false)),
   ("-Infinity".toList, .float (.infinity true))]

def readWord? (cs : List Char) : Option (Value × List Char) :=
  words.findSome? fun (word, v) =>
    if word.isPrefixOf cs then some (v, cs.drop word.length) else none

/-- A value that holds no other and is no text. -/
def readScalar (cs : List Char) : Except Failure (Value × List Char) :=
  match readWord? cs with
  | some found => .ok found
  | none =>
    if wholeDigits cs > Text.maxDigits then .error ⟨.longNumber, cs⟩
    else
      match readNumber? cs with
      | some found => .ok found
      | none => fail "Expecting value" cs

mutual

/-- Reads one value, in which lists and objects may go as deep as `depth`; the fuel exceeds twice the
length of the text. -/
def readValue (depth : Nat) : Nat → List Char → Except Failure (Value × List Char)
  | 0, cs => fail "Expecting value" cs
  | fuel + 1, cs =>
    match cs with
    | '\x22' :: rest => do
      let (s, rest) ← readText cs [] fuel rest
      .ok (.str s, rest)
    | '[' :: rest =>
      if depth = 0 then .error ⟨.deepNesting, cs⟩
      else
        match skipSpace rest with
        | ']' :: rest => .ok (.arr [], rest)
        | rest => do
          let (items, rest) ← readItems (depth - 1) fuel rest
          .ok (.arr items, rest)
    | '\x7b' :: rest =>
      if depth = 0 then .error ⟨.deepNesting, cs⟩
      else
        match skipSpace rest with
        | '\x7d' :: rest => .ok (.obj [], rest)
        | rest => do
          let (entries, rest) ← readEntries (depth - 1) [] fuel rest
          .ok (.obj entries, rest)
    | _ => readScalar cs
termination_by structural x => x

/-- Reads the items of a list up to its closing bracket. -/
def readItems (depth : Nat) : Nat → List Char → Except Failure (List Value × List Char)
  | 0, cs => fail "Expecting value" cs
  | fuel + 1, cs => do
    let (v, rest) ← readValue depth fuel cs
    match skipSpace rest with
    | ']' :: rest => .ok ([v], rest)
    | ',' :: rest => do
      let (vs, rest) ← readItems depth fuel (skipSpace rest)
      .ok (v :: vs, rest)
    | rest => fail "Expecting ',' delimiter" rest
termination_by structural x => x

/-- Reads the entries of an object up to its closing brace, after those already read. -/
def readEntries (depth : Nat) (entries : Entries) :
    Nat → List Char → Except Failure (Entries × List Char)
  | 0, cs => fail "Expecting value" cs
  | fuel + 1, cs =>
    match cs with
    | '\x22' :: rest => do
      let (key, rest) ← readText cs [] fuel rest
      match skipSpace rest with
      | ':' :: rest =>
        let (v, rest) ← readValue depth fuel (skipSpace rest)
        let entries := entries.put key v
        match skipSpace rest with
        | '\x7d' :: rest => .ok (entries, rest)
        | ',' :: rest => readEntries depth entries fuel (skipSpace rest)
        | rest => fail "Expecting ',' delimiter" rest
      | rest => fail "Expecting ':' delimiter" rest
    | _ => fail "Expecting property name enclosed in double quotes" cs
termination_by structural x => x

end

/-- Reads a text that is one value with space around it. -/
def readChars (cs : List Char) : Except Failure Value :=
  match cs with
  | '\ufeff' :: _ => .error ⟨.malformed "Unexpected UTF-8 BOM (decode using utf-8-sig)", cs⟩
  | _ => do
    let start := skipSpace cs
    let (v, rest) ← readValue maxDepth (2 * start.length + 1) start
    match skipSpace rest with
    | [] => .ok v
    | rest => .error ⟨.malformed "Extra data", rest⟩

def read (text : String) : Except Failure Value := readChars text.toList

/-- A cause with the place where it lies: line and column from one, and the number of characters
before it. -/
def placed (cause text : String) (rest : List Char) : String :=
  let cs := text.toList
  let before := cs.take (cs.length - rest.length)
  let line := before.count '\n' + 1
  let column := (before.reverse.takeWhile (· ≠ '\n')).length + 1
  cause ++ ": line " ++ toString line ++ " column " ++ toString column
    ++ " (char " ++ toString before.length ++ ")"

end GosuForge.Json

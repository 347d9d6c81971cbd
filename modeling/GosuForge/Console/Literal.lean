import GosuForge.Text.CharacterName
import GosuForge.Text.Decomposition
import GosuForge.Text.Identifier

/-!
# Literals

Values written out in a text: numbers, texts, `None`, `True` and `False`, tuples in parentheses, and
tables and sets in braces. `Literal.isValid` tells whether a text is one literal. A number may have
a sign, and a real number may have an imaginary one added to it or taken from it; the keys of tables
and the items of sets must not be tables or sets themselves. The empty set is written `set()`.
-/

namespace GosuForge.Literal

inductive Token
  | real
  | imaginary
  | text (isBytes : Bool)
  | word (s : String)
  | dots
  | mark (c : Char)
  deriving DecidableEq, Repr

def isWordChar (c : Char) : Bool := c.isAlphanum || c = '_' || c.toNat ≥ 0x80

def isOctal (c : Char) : Bool := '0' ≤ c && c ≤ '7'

def isBinary (c : Char) : Bool := c = '0' || c = '1'

def isHex (c : Char) : Bool := (Text.hexValue? c).isSome

/-- Digits with single underscores between them, and the rest. -/
def takeDigits (isDigit : Char → Bool) : List Char → List Char × List Char
  | '_' :: c :: rest =>
    if isDigit c then
      let (digits, after) := takeDigits isDigit rest
      (c :: digits, after)
    else ([], '_' :: c :: rest)
  | c :: rest =>
    if isDigit c then
      let (digits, after) := takeDigits isDigit rest
      (c :: digits, after)
    else ([], c :: rest)
  | [] => ([], [])

/-- Digits as before, which do not begin with an underscore. -/
def takeNumeral (isDigit : Char → Bool) (cs : List Char) : List Char × List Char :=
  if cs.head? = some '_' then ([], cs) else takeDigits isDigit cs

/-- A power of ten after its letter; nothing if no digits follow. -/
def dropPower (cs : List Char) : List Char × Bool :=
  match cs with
  | e :: rest =>
    if e.toLower ≠ 'e' then (cs, false)
    else
      let body := match rest with
        | '+' :: body => body
        | '-' :: body => body
        | body => body
      match takeNumeral Char.isDigit body with
      | ([], _) => (cs, false)
      | (_, after) => (after, true)
  | [] => ([], false)

/-- A number in another base than ten, after its letter. -/
def readBased (isDigit : Char → Bool) (cs : List Char) : Option (Token × List Char) :=
  match takeDigits isDigit cs with
  | ([], _) => none
  | (_, rest) => some (.real, rest)

/-- A number in base ten. One without a point, a power or the imaginary unit begins with a zero only
if it is zero. -/
def readDecimal (cs : List Char) : Option (Token × List Char) :=
  let (whole, rest) := takeNumeral Char.isDigit cs
  let (hasPoint, places, rest) := match rest with
    | '.' :: after =>
      let (places, after) := takeNumeral Char.isDigit after
      (true, places, after)
    | rest => (false, [], rest)
  if whole.isEmpty && places.isEmpty then none
  else
    let (rest, hasPower) := dropPower rest
    match rest with
    | 'j' :: after => some (.imaginary, after)
    | 'J' :: after => some (.imaginary, after)
    | rest =>
      if hasPoint || hasPower then some (.real, rest)
      else if whole.head? = some '0' then if whole.all (· = '0') then some (.real, rest) else none
      else if whole.length > Text.maxDigits then none
      else some (.real, rest)

def readNumber (cs : List Char) : Option (Token × List Char) := do
  let (token, rest) ← match cs with
    | '0' :: c :: rest =>
      match c.toLower with
      | 'x' => readBased isHex rest
      | 'o' => readBased isOctal rest
      | 'b' => readBased isBinary rest
      | _ => readDecimal cs
    | _ => readDecimal cs
  if rest.head?.any isWordChar then none else some (token, rest)

/-- How many hexadecimal digits an escape needs after its letter. -/
def escapeWidth (isBytes : Bool) (c : Char) : Nat :=
  match c with
  | 'x' => 2
  | 'u' => if isBytes then 0 else 4
  | 'U' => if isBytes then 0 else 8
  | _ => 0

/-- The code that hexadecimal digits stand for must be that of a character. -/
def isCode (digits : List Char) : Bool :=
  digits.length < 8 || (digits.take 2 == ['0', '0']
    && (digits.getD 2 '0' == '0' || (digits.getD 2 '0' == '1' && digits.getD 3 '0' == '0')))

/-- How a text is written: its quotes, and whether backslashes stand for themselves in it. -/
structure Quoting where
  closing : List Char
  isRaw : Bool
  isBytes : Bool
  deriving DecidableEq, Repr

/-- What follows the name of a character in braces. -/
def afterName? : List Char → Option (List Char)
  | '\x7b' :: cs =>
    let (name, rest) := cs.span (· ≠ '\x7d')
    if Text.isCharacterName name then rest.tail? else none
  | _ => none

/-- What follows a backslash, the character `c` behind it, and what belongs to the two. -/
def afterEscape? (q : Quoting) (c : Char) (rest : List Char) : Option (List Char) :=
  if q.isBytes && c.toNat ≥ 0x80 then none
  else if q.isRaw then some rest
  else if c = 'N' && !q.isBytes then afterName? rest
  else
    let width := escapeWidth q.isBytes c
    let digits := rest.take width
    if digits.length < width || !digits.all isHex || !isCode digits then none
    else some (rest.drop width)

/-- What follows a text after its closing quotes; the fuel exceeds the length. -/
def afterText (q : Quoting) : Nat → List Char → Option (List Char)
  | 0, _ => none
  | fuel + 1, cs =>
    if q.closing.isPrefixOf cs then some (cs.drop q.closing.length)
    else
      match cs with
      | [] => none
      | '\\' :: c :: rest => (afterEscape? q c rest).bind (afterText q fuel)
      | c :: rest =>
        if (c = '\n' && q.closing.length = 1) || (q.isBytes && c.toNat ≥ 0x80) then none
        else afterText q fuel rest

/-- The letters that may stand before a text, with what they say of it: raw, and bytes. -/
def textPrefixes : List (String × Bool × Bool) :=
  [("", false, false), ("u", false, false), ("r", true, false), ("b", false, true),
   ("br", true, true), ("rb", true, true)]

/-- A text that begins with the given letters and then its quotes. -/
def readText (letters : List Char) (cs : List Char) : Option (Token × List Char) := do
  let (isRaw, isBytes) ← textPrefixes.lookup (String.ofList (letters.map Char.toLower))
  let quote ← cs.head?
  let triple := List.replicate 3 quote
  let closing := if triple.isPrefixOf cs then triple else [quote]
  let rest ← afterText ⟨closing, isRaw, isBytes⟩ (cs.length + 1) (cs.drop closing.length)
  some (.text isBytes, rest)

def isQuote (c : Char) : Bool := c = '\x27' || c = '\x22'

def marks : List Char := ['(', ')', '\x7b', '\x7d', ',', ':', '+', '-']

/-- How many brackets may be open at once. -/
def maxDepth : Nat := 200

/-- The depth of brackets after a mark. -/
def depthAfter? (depth : Nat) (c : Char) : Option Nat :=
  if c = '(' || c = '\x7b' then if depth < maxDepth then some (depth + 1) else none
  else if c = ')' || c = '\x7d' then some (depth - 1) else some depth

def isMargin (c : Char) : Bool := c = ' ' || c = '\t' || c = '\x0c'

def dropComment (cs : List Char) : List Char := cs.dropWhile (· ≠ '\n')

/-- What follows the blanks and the joined line ends at the head of a line, and whether it is
indented. A form feed takes the blanks before it back, but not those before a joined line end. -/
def dropMargin (isFixed isIndented : Bool) : List Char → Bool × List Char
  | ' ' :: cs => dropMargin isFixed true cs
  | '\t' :: cs => dropMargin isFixed true cs
  | '\x0c' :: cs => dropMargin isFixed false cs
  | '\\' :: '\n' :: cs => dropMargin (isFixed || isIndented) isIndented cs
  | cs => (isFixed || isIndented, cs)

/-- A text without the lines at its head that are empty or hold no more than a comment; `none` if
the line after them is indented. The fuel exceeds the length. -/
def dropEmptyLines : Nat → List Char → Option (List Char)
  | 0, _ => none
  | fuel + 1, cs =>
    match dropMargin false false cs with
    | (_, '\n' :: rest) => dropEmptyLines fuel rest
    | (_, '#' :: rest) => dropEmptyLines fuel (dropComment rest)
    | (_, []) => some []
    | (isIndented, rest) => if isIndented then none else some rest

/-- The tokens of a text at a depth of brackets; outside of brackets nothing stands behind the end
of a line. The fuel exceeds the length. -/
def tokens (depth : Nat) : Nat → List Char → Option (List Token)
  | 0, _ => none
  | _ + 1, [] => some []
  | fuel + 1, c :: rest =>
    if isMargin c then tokens depth fuel rest
    else if c = '\n' then
      if depth > 0 then tokens depth fuel rest
      else if dropEmptyLines fuel rest = some [] then some [] else none
    else if c = '#' then tokens depth fuel (dropComment rest)
    else if c = '\\' && rest.head? = some '\n' then tokens depth fuel (rest.drop 1)
    else if ['.', '.', '.'].isPrefixOf (c :: rest) then
      (tokens depth fuel (rest.drop 2)).map (.dots :: ·)
    else if c.isDigit || c = '.' then do
      let (token, rest) ← readNumber (c :: rest)
      (tokens depth fuel rest).map (token :: ·)
    else if isQuote c then do
      let (token, rest) ← readText [] (c :: rest)
      (tokens depth fuel rest).map (token :: ·)
    else if isWordChar c then
      let (word, after) := (c :: rest).span isWordChar
      if after.head?.any isQuote then do
        let (token, rest) ← readText word after
        (tokens depth fuel rest).map (token :: ·)
      else (tokens depth fuel after).map (.word (String.ofList word) :: ·)
    else if marks.contains c then do
      let depth ← depthAfter? depth c
      (tokens depth fuel rest).map (.mark c :: ·)
    else none

/-- What a literal is, as far as it matters where it may stand. -/
inductive Kind
  | real
  | imaginary
  /-- A number with a sign. -/
  | signed (isReal : Bool)
  /-- A value that may be a key. -/
  | fixed
  | changeable
  deriving DecidableEq, Repr

/-- A number may be added to a real one or taken from it only if it is imaginary. -/
def isReal (k : Kind) : Bool := k == .real || k == .signed true

/-- Several values in parentheses. -/
def tupleKind (items : List Kind) : Kind := if items.contains .changeable then .changeable else .fixed

/-- The texts after a text, which must be of its sort. -/
def dropTexts (isBytes : Bool) : List Token → Option (List Token)
  | .text other :: rest => if other = isBytes then dropTexts isBytes rest else none
  | rest => some rest

def isSet (word : String) : Bool :=
  Text.isIdentifier word.toList && Text.decomposition word = "set".toList

/-- What follows the word `set`, which may stand in parentheses. -/
def afterSet : List Token → Option (List Token)
  | .word word :: rest => if isSet word then some rest else none
  | .mark '(' :: rest =>
    match afterSet rest with
    | some (.mark ')' :: rest) => some rest
    | _ => none
  | _ => none

/-- What follows the empty set: the word `set` and an empty pair of parentheses. -/
def afterEmptySet (ts : List Token) : Option (List Token) :=
  match afterSet ts with
  | some (.mark '(' :: .mark ')' :: rest) => some rest
  | _ => none

/-- What a word stands for. -/
def wordKind? (word : String) : Option Kind :=
  if ["None", "True", "False"].contains word then some .fixed else none

mutual

/-- Reads a value without a sign; the fuel exceeds twice the number of tokens. -/
def readPrimary : Nat → List Token → Option (Kind × List Token)
  | 0, _ => none
  | fuel + 1, ts =>
    match afterEmptySet ts, ts with
    | some rest, _ => some (.changeable, rest)
    | _, .real :: rest => some (.real, rest)
    | _, .imaginary :: rest => some (.imaginary, rest)
    | _, .text isBytes :: rest => (dropTexts isBytes rest).map fun rest => (.fixed, rest)
    | _, .dots :: rest => some (.fixed, rest)
    | _, .word word :: rest => (wordKind? word).map fun kind => (kind, rest)
    | _, .mark '(' :: .mark ')' :: rest => some (.fixed, rest)
    | _, .mark '(' :: rest => do
      let (items, rest) ← readItems fuel rest
      match items, rest with
      | ([kind], false), .mark ')' :: rest => some (kind, rest)
      | (kinds, _), .mark ')' :: rest => some (tupleKind kinds, rest)
      | _, _ => none
    | _, .mark '\x7b' :: .mark '\x7d' :: rest => some (.changeable, rest)
    | _, .mark '\x7b' :: rest =>
      match readItems fuel rest with
      | some ((kinds, _), .mark '\x7d' :: rest) =>
        if kinds.contains .changeable then none else some (.changeable, rest)
      | some (([key], false), .mark ':' :: rest) =>
        if key = .changeable then none
        else do
          let (_, rest) ← readValue fuel rest
          let rest ← readEntries fuel rest
          some (.changeable, rest)
      | _ => none
    | _, _ => none
termination_by structural x => x

/-- Reads a value with a sign or without, and an imaginary number joined to it. -/
def readValue : Nat → List Token → Option (Kind × List Token)
  | 0, _ => none
  | fuel + 1, ts => do
    let isSign (c : Char) : Bool := c = '+' || c = '-'
    let (kind, rest) ← match ts with
      | .mark c :: rest =>
        if isSign c then
          match readPrimary fuel rest with
          | some (.real, rest) => some (.signed true, rest)
          | some (.imaginary, rest) => some (.signed false, rest)
          | _ => none
        else readPrimary fuel ts
      | _ => readPrimary fuel ts
    match rest with
    | .mark c :: after =>
      if isSign c then
        match readPrimary fuel after with
        | some (.imaginary, rest) => if isReal kind then some (.fixed, rest) else none
        | _ => none
      else some (kind, rest)
    | _ => some (kind, rest)
termination_by structural x => x

/-- Reads values with commas between them; with them comes whether there was a comma. -/
def readItems : Nat → List Token → Option ((List Kind × Bool) × List Token)
  | 0, _ => none
  | fuel + 1, ts => do
    let (kind, rest) ← readValue fuel ts
    match rest with
    | .mark ',' :: [] => some (([kind], true), [])
    | .mark ',' :: .mark c :: after =>
      if c = ')' || c = '\x7d' then some (([kind], true), .mark c :: after)
      else do
        let ((kinds, _), rest) ← readItems fuel (.mark c :: after)
        some ((kind :: kinds, true), rest)
    | .mark ',' :: after => do
      let ((kinds, _), rest) ← readItems fuel after
      some ((kind :: kinds, true), rest)
    | rest => some (([kind], false), rest)
termination_by structural x => x

/-- Reads the entries of a table that follow a first one, and the closing brace. -/
def readEntries : Nat → List Token → Option (List Token)
  | 0, _ => none
  | fuel + 1, ts =>
    match ts with
    | .mark '\x7d' :: rest => some rest
    | .mark ',' :: .mark '\x7d' :: rest => some rest
    | .mark ',' :: rest => do
      let (key, rest) ← readValue fuel rest
      match rest with
      | .mark ':' :: rest =>
        if key = .changeable then none
        else do
          let (_, rest) ← readValue fuel rest
          readEntries fuel rest
      | _ => none
    | _ => none
termination_by structural x => x

end

/-- Whether a text is a literal, or several of them with commas between. Every line end counts as a
line feed. -/
def isValid (cs : List Char) : Bool :=
  if cs.contains '\x00' then false
  else
    let found := do
      let cs ← dropEmptyLines (cs.length + 1) (Text.unifyEndings cs)
      let ts ← tokens 0 (cs.length + 1) cs
      readItems (4 * ts.length + 4) ts
    match found with
    | some (_, []) => true
    | _ => false

end GosuForge.Literal

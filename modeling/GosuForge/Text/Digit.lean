import GosuForge.Text.Blank

/-!
# Digits

The decimal digits of every script count from its zero. `readInt?` reads an integer with an optional
sign and single underscores between digits; blanks around it do not matter. A number with more than
`maxDigits` digits, zeros at its head among them, is refused. Hexadecimal digits are those of ASCII.
-/

namespace GosuForge.Text

/-- The zeros beyond ASCII; each is followed by the other nine digits of its script. -/
def scriptZeros : List Nat :=
  [0x660, 0x6F0, 0x7C0, 0x966, 0x9E6, 0xA66, 0xAE6, 0xB66, 0xBE6, 0xC66, 0xCE6, 0xD66, 0xDE6,
   0xE50, 0xED0, 0xF20, 0x1040, 0x1090, 0x17E0, 0x1810, 0x1946, 0x19D0, 0x1A80, 0x1A90, 0x1B50,
   0x1BB0, 0x1C40, 0x1C50, 0xA620, 0xA8D0, 0xA900, 0xA9D0, 0xA9F0, 0xAA50, 0xABF0, 0xFF10, 0x104A0,
   0x10D30, 0x11066, 0x110F0, 0x11136, 0x111D0, 0x112F0, 0x11450, 0x114D0, 0x11650, 0x116C0,
   0x11730, 0x118E0, 0x11950, 0x11C50, 0x11D50, 0x11DA0, 0x16A60, 0x16AC0, 0x16B50, 0x1D7CE,
   0x1D7D8, 0x1D7E2, 0x1D7EC, 0x1D7F6, 0x1E140, 0x1E2F0, 0x1E950, 0x1FBF0]

def digitValue? (c : Char) : Option Nat :=
  if c.toNat < 0x80 then
    if c.isDigit then some (c.toNat - 0x30) else none
  else
    (scriptZeros.find? fun first => first ≤ c.toNat && c.toNat < first + 10).map (c.toNat - ·)

/-- Blanks around a number; in ASCII only the space and the controls from tab to CR. -/
def isNumberBlank (c : Char) : Bool :=
  if c.toNat < 0x80 then c = ' ' || (0x09 ≤ c.toNat && c.toNat ≤ 0x0D) else isBlank c

/-- Reads digits with single underscores between them, after the value read so far. -/
def readDigits? (value : Nat) : List Char → Option Nat
  | [] => some value
  | '_' :: c :: cs => do
    let d ← digitValue? c
    readDigits? (10 * value + d) cs
  | c :: cs => do
    let d ← digitValue? c
    readDigits? (10 * value + d) cs

def readNat? : List Char → Option Nat
  | [] => none
  | c :: cs => do
    let d ← digitValue? c
    readDigits? d cs

def readSigned? : List Char → Option Int
  | '-' :: cs => (readNat? cs).map fun n => -(n : Int)
  | '+' :: cs => (readNat? cs).map Int.ofNat
  | cs => (readNat? cs).map Int.ofNat

/-- The most digits that an integer may be written with. -/
def maxDigits : Nat := 4300

def countDigits (cs : List Char) : Nat := cs.countP fun c => (digitValue? c).isSome

def readInt? (s : String) : Option Int :=
  if countDigits s.toList > maxDigits then none
  else readSigned? ((s.toList.dropWhile isNumberBlank).reverse.dropWhile isNumberBlank).reverse

def hexValue? (c : Char) : Option Nat :=
  if c.isDigit then some (c.toNat - 0x30)
  else if 'a' ≤ c && c ≤ 'f' then some (c.toNat - 0x57)
  else if 'A' ≤ c && c ≤ 'F' then some (c.toNat - 0x37)
  else none

/-- The number that hexadecimal digits stand for. -/
def hexNumber (cs : List Char) : Nat := cs.foldl (fun n c => 16 * n + (hexValue? c).getD 0) 0

end GosuForge.Text

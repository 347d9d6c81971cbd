import GosuForge.Text.Digit
import GosuForge.Text.Line
import GosuForge.Text.NameTable

/-!
# Character names

`isCharacterName` tells whether a text names a character. The names in the table and those that end in
a code or a number count in small letters, too. An ideograph is named by its code, and a syllable of
Hangul by the sounds of its letters.
-/

namespace GosuForge.Text

/-- The last word of a name and the words before it. -/
def splitName (name : List Char) : List Char × List Char :=
  let backwards := name.reverse
  let last := (backwards.takeWhile (· ≠ ' ')).reverse
  (last, (backwards.drop (last.length + 1)).reverse)

/-- Whether a row of the table stands for a name. -/
def isInRow (first last : String) (row : String) : Bool :=
  match split '=' row with
  | [starts, lasts] => (split ',' starts).contains first && (split ' ' lasts).contains last
  | _ => false

/-- Names that end in the code of the character in hexadecimal digits. -/
def codedNames : List (String × Nat × Nat) :=
  [("CJK COMPATIBILITY IDEOGRAPH-", 0xF900, 0xFA6D), ("CJK COMPATIBILITY IDEOGRAPH-", 0xFA70, 0xFAD9),
   ("CJK COMPATIBILITY IDEOGRAPH-", 0x2F800, 0x2FA1D), ("NUSHU CHARACTER-", 0x1B170, 0x1B2FB),
   ("KHITAN SMALL SCRIPT CHARACTER-", 0x18B00, 0x18CD5)]

def isCoded (name : List Char) : Bool :=
  codedNames.any fun (start, first, last) =>
    let digits := name.drop start.length
    start.toList.isPrefixOf name && digits.head? != some '0'
      && digits.all (fun c => (hexValue? c).isSome)
      && first ≤ hexNumber digits && hexNumber digits ≤ last

/-- Names that end in a number from one on, with its least count of digits and the last number. -/
def numberedNames : List (String × Nat × Nat) :=
  [("TANGUT COMPONENT-", 3, 768), ("VARIATION SELECTOR-", 1, 256)]

def isNumbered (name : List Char) : Bool :=
  numberedNames.any fun (start, width, last) =>
    let digits := name.drop start.length
    start.toList.isPrefixOf name && (List.range last).any fun n =>
      let shown := (toString (n + 1)).toList
      digits == List.replicate (width - shown.length) '0' ++ shown

/-- The codes of the ideographs that are named by their code. -/
def ideographRanges : List (Nat × Nat) :=
  [(0x3400, 0x4DBF), (0x4E00, 0x9FFF), (0x20000, 0x2A6DF), (0x2A700, 0x2B738), (0x2B740, 0x2B81D),
   (0x2B820, 0x2CEA1), (0x2CEB0, 0x2EBE0), (0x30000, 0x3134A)]

/-- Four or five hexadecimal digits with capital letters that are the code of an ideograph. -/
def isIdeographCode (digits : List Char) : Bool :=
  (digits.length = 4 || digits.length = 5)
    && digits.all (fun c => (hexValue? c).isSome && !c.isLower)
    && ideographRanges.any fun (first, last) => first ≤ hexNumber digits && hexNumber digits ≤ last

/-- The sounds of the first consonants of a syllable; it may begin with its vowel. -/
def firstSounds : List String :=
  ["G", "GG", "N", "D", "DD", "R", "M", "B", "BB", "S", "SS", "", "J", "JJ", "C", "K", "T", "P", "H"]

def vowelSounds : List String :=
  ["A", "AE", "YA", "YAE", "EO", "E", "YEO", "YE", "O", "WA", "WAE", "OE", "YO", "U", "WEO", "WE",
   "WI", "YU", "EU", "YI", "I"]

/-- The sounds of the last consonants of a syllable; it may end with its vowel. -/
def lastSounds : List String :=
  ["", "G", "GG", "GS", "N", "NJ", "NH", "D", "L", "LG", "LM", "LB", "LS", "LT", "LP", "LH", "M",
   "B", "BS", "S", "SS", "NG", "J", "C", "K", "T", "P", "H"]

/-- What follows the longest of some sounds that a text begins with. -/
def afterSound? (sounds : List String) (cs : List Char) : Option (List Char) :=
  let lengths := (sounds.filter fun s => s.toList.isPrefixOf cs).map String.length
  lengths.max?.map fun n => cs.drop n

def isSyllable (cs : List Char) : Bool :=
  let rest := do
    let vowel ← afterSound? firstSounds cs
    let last ← afterSound? vowelSounds vowel
    afterSound? lastSounds last
  rest == some []

def syllableStart : List Char := "HANGUL SYLLABLE ".toList

def ideographStart : List Char := "CJK UNIFIED IDEOGRAPH-".toList

def isCharacterName (name : List Char) : Bool :=
  if syllableStart.isPrefixOf name then isSyllable (name.drop syllableStart.length)
  else if ideographStart.isPrefixOf name then isIdeographCode (name.drop ideographStart.length)
  else
    let capitals := name.map Char.toUpper
    let (last, first) := splitName capitals
    isCoded capitals || isNumbered capitals || (capitals.head? != some ' '
      && nameRows.any fun rows => rows.any (isInRow (String.ofList first) (String.ofList last)))

end GosuForge.Text

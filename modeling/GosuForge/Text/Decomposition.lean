import GosuForge.Text.DecompositionTable
import GosuForge.Text.Digit
import GosuForge.Text.Line

/-!
# Decomposition

Texts that spell the same characters in different forms, such as letters that are full-width, joined
or carry their accents, have one `decomposition`: the plain parts of their characters, with the marks
after a letter in a fixed order. A syllable of Hangul is made of two or three letters, which follow
from its code; the parts of other characters are in a table.
-/

namespace GosuForge.Text

/-- A run of characters, and what stands in the table for its first one. -/
structure CodeRun where
  first : Nat
  last : Nat
  codes : List Nat
  deriving DecidableEq, Repr

namespace CodeRun

def covers (r : CodeRun) (code : Nat) : Bool := r.first ≤ code && code ≤ r.last

def ofWord (word : String) : CodeRun :=
  let (ends, codes) := word.toList.span (· ≠ '=')
  let (first, last) := ends.span (· ≠ '-')
  ⟨hexNumber first, hexNumber (if last.isEmpty then first else last.drop 1),
    (splitChars '+' (codes.drop 1)).map hexNumber⟩

def ofTable (table : List String) : List CodeRun := table.flatMap fun row => (split ' ' row).map ofWord

end CodeRun

def partTable : List CodeRun := CodeRun.ofTable partRuns

def classTable : List CodeRun := CodeRun.ofTable classRuns

/-- The letters of a syllable of Hangul by its number: first consonant, vowel and last consonant. -/
def syllableParts (n : Nat) : List Nat :=
  [0x1100 + n / 588, 0x1161 + n % 588 / 28] ++ if n % 28 = 0 then [] else [0x11A7 + n % 28]

/-- The plain parts of a character; those that have none are their own part. -/
def parts (c : Char) : List Char :=
  let code := c.toNat
  if code < 0x80 then [c]
  else if 0xAC00 ≤ code && code ≤ 0xD7A3 then (syllableParts (code - 0xAC00)).map Char.ofNat
  else
    match partTable.find? (·.covers code) with
    | some r => r.codes.map fun first => Char.ofNat (first + (code - r.first))
    | none => [c]

/-- The class of a combining mark; zero for all other characters. -/
def markClass (c : Char) : Nat :=
  if c.toNat < 0x80 then 0
  else ((classTable.find? (·.covers c.toNat)).bind (·.codes.head?)).getD 0

/-- Puts a character behind the marks of lower classes that a text begins with. -/
def insertMark (c : Char) : List Char → List Char
  | [] => [c]
  | d :: ds =>
    if 0 < markClass d && markClass d < markClass c then d :: insertMark c ds else c :: d :: ds

def decomposition (s : String) : List Char := (s.toList.flatMap parts).foldr insertMark []

end GosuForge.Text

import GosuForge.Decimal.Binary64

/-!
# Shortest decimal text

`Binary64.shortest` gives the fewest decimal digits that read back as the same number, the nearest
such digits if there are several. `Binary64.text` writes them: positionally with at least one place
when the leading digit stands between the fourth place after the point and the sixteenth before it,
otherwise with an exponent of at least two digits.
-/

namespace GosuForge

namespace Binary64

/-- Whether `a · 10 ^ scale` compared to `b · 2 ^ exponent` is at most as large. -/
def decimalLe (a : Nat) (scale : Int) (b : Nat) (exponent : Int) : Bool :=
  let tens := Nat.pow 10 scale.natAbs
  let twos := Nat.pow 2 exponent.natAbs
  let left := if scale < 0 then a else a * tens
  let right := if exponent < 0 then b else b * twos
  left * (if exponent < 0 then twos else 1) ≤ right * (if scale < 0 then tens else 1)

def decimalEq (a : Nat) (scale : Int) (b : Nat) (exponent : Int) : Bool :=
  let tens := Nat.pow 10 scale.natAbs
  let twos := Nat.pow 2 exponent.natAbs
  let left := if scale < 0 then a else a * tens
  let right := if exponent < 0 then b else b * twos
  left * (if exponent < 0 then twos else 1) == right * (if scale < 0 then tens else 1)

/-- Whether `digits · 10 ^ scale` is read as `mantissa · 2 ^ exponent`: it lies between the two
midpoints, which belong to an even mantissa. Units are quarters of the last place. -/
def readsBack (mantissa : Nat) (exponent : Int) (digits : Nat) (scale : Int) : Bool :=
  let quarter := exponent - 2
  let low :=
    if mantissa = Nat.pow 2 (mantissaBits - 1) && exponent > minExponent then 4 * mantissa - 1
    else 4 * mantissa - 2
  let high := 4 * mantissa + 2
  let above := !decimalLe digits scale low quarter
  let below := decimalLe digits scale high quarter
  let atLow := decimalEq digits scale low quarter
  let atHigh := decimalEq digits scale high quarter
  if mantissa % 2 = 0 then (above || atLow) && below else above && below && !atHigh

/-- The floor of `mantissa · 2 ^ exponent / 10 ^ scale`. -/
def floorAt (mantissa : Nat) (exponent scale : Int) : Nat :=
  let num := mantissa * (if exponent < 0 then 1 else Nat.pow 2 exponent.natAbs)
    * (if scale < 0 then Nat.pow 10 scale.natAbs else 1)
  let den := (if exponent < 0 then Nat.pow 2 exponent.natAbs else 1)
    * (if scale < 0 then 1 else Nat.pow 10 scale.natAbs)
  num / den

/-- Whether the point `digits` is at most as far from the number as `digits + 1`. -/
def lowerIsNearer (mantissa : Nat) (exponent : Int) (digits : Nat) (scale : Int) : Bool :=
  let middle := 2 * digits + 1
  if decimalEq middle scale (2 * mantissa) exponent then digits % 2 = 0
  else !decimalLe middle scale (2 * mantissa) exponent

/-- The first of the grids `10 ^ scale`, `10 ^ (scale - 1)`, … with a point that reads back. -/
def shortestFrom (mantissa : Nat) (exponent scale : Int) : Nat → Nat × Int
  | 0 => (floorAt mantissa exponent scale, scale)
  | fuel + 1 =>
    let low := floorAt mantissa exponent scale
    let lowHit := low ≠ 0 && readsBack mantissa exponent low scale
    let highHit := readsBack mantissa exponent (low + 1) scale
    if lowHit && (!highHit || lowerIsNearer mantissa exponent low scale) then (low, scale)
    else if highHit then (low + 1, scale)
    else shortestFrom mantissa exponent (scale - 1) fuel

/-- A power of ten above every finite number; grids from here on down find the leading digit. -/
def coarsest (mantissa : Nat) (exponent : Int) : Int :=
  ((mantissa.log2 : Int) + exponent) * 30103 / 100000 + 2

/-- The fewest digits, and the power of ten that they count, of a positive number. -/
def shortest (mantissa : Nat) (exponent : Int) : Nat × Int :=
  shortestFrom mantissa exponent (coarsest mantissa exponent) 25

/-- The text of `digits` as a sequence of characters without trailing zeros, and the power of ten
of its last digit. -/
def dropZeros (digits : Nat) (scale : Int) : Nat → Nat × Int
  | 0 => (digits, scale)
  | fuel + 1 =>
    if digits ≠ 0 && digits % 10 = 0 then dropZeros (digits / 10) (scale + 1) fuel
    else (digits, scale)

def zeros (n : Nat) : List Char := List.replicate n '0'

/-- Digits with the point so placed that the first digit counts `10 ^ lead`. -/
def positional (digits : List Char) (lead : Int) : List Char :=
  if lead < 0 then '0' :: '.' :: zeros (lead.natAbs - 1) ++ digits
  else
    let whole := lead.natAbs + 1
    if digits.length ≤ whole then digits ++ zeros (whole - digits.length) ++ ['.', '0']
    else digits.take whole ++ '.' :: digits.drop whole

/-- One digit before the point, and the exponent with its sign and two digits or more. -/
def scientific (digits : List Char) (lead : Int) : List Char :=
  let power := (Nat.repr lead.natAbs).toList
  let power := if power.length < 2 then '0' :: power else power
  let places := match digits with
    | [] => []
    | [d] => [d]
    | d :: rest => d :: '.' :: rest
  places ++ 'e' :: (if lead < 0 then '-' else '+') :: power

def magnitudeText (mantissa : Nat) (exponent : Int) : List Char :=
  if mantissa = 0 then ['0', '.', '0']
  else
    let (digits, scale) := shortest mantissa exponent
    let (digits, scale) := dropZeros digits scale 400
    let cs := (Nat.repr digits).toList
    let lead := (cs.length : Int) - 1 + scale
    if -4 ≤ lead && lead < 16 then positional cs lead else scientific cs lead

/-- The text of a number; `infinite` and `undefined` are the words for what has no digits. -/
def textWith (infinite undefined : String) : Binary64 → String
  | finite negative mantissa exponent =>
    (if negative then "-" else "") ++ String.ofList (magnitudeText mantissa exponent)
  | infinity negative => (if negative then "-" else "") ++ infinite
  | nan => undefined

def text (x : Binary64) : String := textWith "inf" "nan" x

end Binary64

end GosuForge

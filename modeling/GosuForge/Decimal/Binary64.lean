/-!
# Binary numbers of double precision

A finite number is `± mantissa · 2 ^ exponent` with a mantissa below `2 ^ 53`, the exponent as small
as the mantissa allows and never below `-1074`. `ofDecimal` reads a decimal fraction: the nearest
such number, the one with the even mantissa of two equally near, and infinity beyond the range. Sums
are rounded in the same way.
-/

namespace GosuForge

inductive Binary64
  | finite (negative : Bool) (mantissa : Nat) (exponent : Int)
  | infinity (negative : Bool)
  | nan
  deriving DecidableEq, Repr

namespace Binary64

def mantissaBits : Nat := 53

def minExponent : Int := -1074

def maxExponent : Int := 971

/-- `num / den` rounded to an integer; a half goes to the even neighbour. -/
def roundDiv (num den : Nat) : Nat :=
  let quotient := num / den
  let twice := 2 * (num % den)
  if twice < den || (twice == den && quotient % 2 == 0) then quotient else quotient + 1

/-- The fraction `num / den` measured in units of `2 ^ exponent`, as a fraction again. -/
def inUnits (num den : Nat) (exponent : Int) : Nat × Nat :=
  let twos := Nat.pow 2 exponent.natAbs
  if exponent < 0 then (num * twos, den) else (num, den * twos)

/-- The exponent at which the positive fraction `num / den` has a full mantissa. -/
def exponentOf (num den : Nat) : Int :=
  let guess : Int := (num.log2 : Int) - (den.log2 : Int) - 52
  let (n, d) := inUnits num den guess
  let exponent := if n / d < Nat.pow 2 (mantissaBits - 1) then guess - 1 else guess
  if exponent < minExponent then minExponent else exponent

/-- The number nearest to the positive fraction `num / den`. -/
def ofFraction (negative : Bool) (num den : Nat) : Binary64 :=
  let exponent := exponentOf num den
  let (n, d) := inUnits num den exponent
  let mantissa := roundDiv n d
  let (mantissa, exponent) :=
    if mantissa = Nat.pow 2 mantissaBits then (Nat.pow 2 (mantissaBits - 1), exponent + 1)
    else (mantissa, exponent)
  if exponent > maxExponent then .infinity negative else .finite negative mantissa exponent

/-- The number nearest to `± digits · 10 ^ scale`. -/
def ofDecimal (negative : Bool) (digits : Nat) (scale : Int) : Binary64 :=
  if digits = 0 || 3 * scale + digits.log2 < -1080 then .finite negative 0 minExponent
  else if scale > 400 then .infinity negative
  else if scale < 0 then ofFraction negative digits (Nat.pow 10 scale.natAbs)
  else ofFraction negative (digits * Nat.pow 10 scale.natAbs) 1

def isZero : Binary64 → Bool
  | finite _ mantissa _ => mantissa == 0
  | _ => false

/-- The integer that the number equals, if it is one. -/
def toInt? : Binary64 → Option Int
  | finite negative mantissa exponent =>
    let signed (n : Nat) : Int := if negative then -(n : Int) else n
    let twos := Nat.pow 2 exponent.natAbs
    if exponent ≥ 0 then some (signed (mantissa * twos))
    else if mantissa % twos = 0 then some (signed (mantissa / twos))
    else none
  | _ => none

/-- Equality of values: the two zeros are equal, and what is not a number equals nothing. -/
def sameValue (x y : Binary64) : Bool :=
  match x, y with
  | nan, _ => false
  | _, nan => false
  | _, _ => x == y || (x.isZero && y.isZero)

/-- The number nearest to an integer; `none` beyond the range. -/
def ofInt? (n : Int) : Option Binary64 :=
  if n = 0 then some (finite false 0 minExponent)
  else
    match ofFraction (n < 0) n.natAbs 1 with
    | .infinity _ => none
    | x => some x

/-- How many times `2 ^ minExponent` a finite number is. -/
def units (negative : Bool) (mantissa : Nat) (exponent : Int) : Int :=
  let n : Int := mantissa * Nat.pow 2 (exponent - minExponent).toNat
  if negative then -n else n

/-- The number nearest to a sum. A sum of nothing is negative only if both numbers are. -/
def add (x y : Binary64) : Binary64 :=
  match x, y with
  | finite negative mantissa exponent, finite negative' mantissa' exponent' =>
    let sum := units negative mantissa exponent + units negative' mantissa' exponent'
    if sum = 0 then finite (negative && negative') 0 minExponent
    else ofFraction (sum < 0) sum.natAbs (Nat.pow 2 minExponent.natAbs)
  | infinity negative, infinity negative' =>
    if negative = negative' then infinity negative else nan
  | infinity negative, finite _ _ _ => infinity negative
  | finite _ _ _, infinity negative => infinity negative
  | _, _ => nan

end Binary64

end GosuForge

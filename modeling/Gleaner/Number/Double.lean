/-! # Double precision numbers

Doubles as exact values: a sign, a whole mantissa and a power of two. Reading a decimal and
converting a whole number both go through `Double.nearest`, which rounds an exact quotient to the
nearest double, a tie to the even mantissa. -/

namespace Gleaner

/-- A double precision number. A finite one is `± mantissa · 2 ^ exponent`. -/
inductive Double where
  | finite (negative : Bool) (mantissa : Nat) (exponent : Int)
  | infinite (negative : Bool)
  | nan
  deriving DecidableEq, Repr, Inhabited

namespace Double

/-- The least exponent of a finite double. -/
def minExponent : Int := -1074

/-- The greatest exponent of a finite double. -/
def maxExponent : Int := 971

/-- `2 ^ 52`: the least mantissa, unless the exponent is the least one. -/
def leastMantissa : Nat := 4503599627370496

/-- Zero, with a sign. -/
def zero (negative : Bool) : Double := .finite negative 0 minExponent

/-- The quotient rounded to the nearest whole number, a tie to the even one. -/
def roundDiv (num den : Nat) : Nat :=
  let q := num / den
  let r := num % den
  if 2 * r > den ∨ (2 * r = den ∧ q % 2 = 1) then q + 1 else q

/-- `num / den` over `2 ^ e`, as a quotient of whole numbers. -/
def scaled (num den : Nat) (e : Int) : Nat × Nat :=
  if 0 ≤ e then (num, den * Nat.pow 2 e.toNat) else (num * Nat.pow 2 (-e).toNat, den)

/-- The exponent of the binade that holds `num / den`, for 53 bits of mantissa. -/
def binade (num den : Nat) : Int :=
  let e : Int := (Nat.log2 num : Int) - Nat.log2 den - 52
  let (n, d) := scaled num den e
  max minExponent (if n / d < leastMantissa then e - 1 else e)

/-- The double nearest to `± num / den`. -/
def nearest (negative : Bool) (num den : Nat) : Double :=
  if num = 0 then zero negative
  else
    let e := binade num den
    let (n, d) := scaled num den e
    let m := roundDiv n d
    let (m, e) := if m = 2 * leastMantissa then (leastMantissa, e + 1) else (m, e)
    if e > maxExponent then .infinite negative else .finite negative m e

/-- The double nearest to `± digits · 10 ^ exponent`. -/
def ofDecimal (negative : Bool) (digits : Nat) (exponent : Int) : Double :=
  let size : Int := Nat.log2 digits
  if digits = 0 then zero negative
  else if size + 3 * exponent > 1100 ∧ exponent ≥ 0 then .infinite negative
  else if size + 3 * exponent < -1200 ∧ exponent < 0 then zero negative
  else if 0 ≤ exponent then nearest negative (digits * Nat.pow 10 exponent.toNat) 1
  else nearest negative digits (Nat.pow 10 (-exponent).toNat)

/-- The double nearest to a whole number, unless it is out of range. -/
def ofInt? (i : Int) : Option Double :=
  match nearest (i < 0) i.natAbs 1 with
  | .infinite _ => none
  | d => some d

/-- The number as a quotient of whole numbers, without its sign. -/
def ratio (mantissa : Nat) (exponent : Int) : Nat × Nat :=
  if 0 ≤ exponent then (mantissa * Nat.pow 2 exponent.toNat, 1) else (mantissa, Nat.pow 2 (-exponent).toNat)

/-- The whole part of `± mantissa · 2 ^ exponent`, rounded toward zero. -/
def truncate (negative : Bool) (mantissa : Nat) (exponent : Int) : Int :=
  let (n, d) := ratio mantissa exponent
  if negative then -((n / d : Nat) : Int) else (n / d : Nat)

/-- Whether the number equals zero. -/
def isZero : Double → Bool
  | .finite _ m _ => m = 0
  | _ => false

/-- Whether the number is greater than zero. -/
def isPositive : Double → Bool
  | .finite negative m _ => !negative && m ≠ 0
  | .infinite negative => !negative
  | .nan => false

/-- Whether the sign of the number is minus; a number that is not a number has none. -/
def isNegative : Double → Bool
  | .finite negative _ _ => negative
  | .infinite negative => negative
  | .nan => false

/-- A whole number with a sign, over another one. -/
def signedRatio (negative : Bool) (mantissa : Nat) (exponent : Int) : Int × Nat :=
  let (n, d) := ratio mantissa exponent
  (if negative then -n else n, d)

/-- Whether one number is less than another; what is not a number is neither. -/
def isLess : Double → Double → Bool
  | .finite s m e, .finite s' m' e' =>
    let (n, d) := signedRatio s m e
    let (n', d') := signedRatio s' m' e'
    n * d' < n' * d
  | .finite .., .infinite negative => !negative
  | .infinite negative, .finite .. => negative
  | .infinite negative, .infinite negative' => negative && !negative'
  | _, _ => false

/-- The number with its sign turned. -/
def neg : Double → Double
  | .finite negative m e => .finite (!negative) m e
  | .infinite negative => .infinite (!negative)
  | .nan => .nan

end Double

end Gleaner

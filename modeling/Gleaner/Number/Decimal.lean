import Gleaner.Number.Double

/-! # Decimal texts of doubles

The shortest decimal that reads back as the same double, and the decimal rounded to a number of
places or of significant digits. -/

namespace Gleaner

/-- The decimal digits of a number. -/
def digitsOf (n : Nat) : List Char := Nat.toDigits 10 n

/-- A decimal `digits · 10 ^ exponent`. -/
structure Decimal where
  digits : Nat
  exponent : Int
  deriving DecidableEq, Repr

namespace Decimal

/-- Trailing zeros of the digits moved into the exponent, at most `fuel` of them. -/
def dropZeros : Nat → Decimal → Decimal
  | 0, d => d
  | fuel + 1, d =>
    if d.digits ≠ 0 ∧ d.digits % 10 = 0 then dropZeros fuel ⟨d.digits / 10, d.exponent + 1⟩ else d

/-- The place of the decimal point: the number is `0.d₁d₂… · 10 ^ point`. -/
def point (d : Decimal) : Int := (digitsOf d.digits).length + d.exponent

end Decimal

namespace Double

/-- `c · 10 ^ s` and `x · 2 ^ e` as whole numbers over one denominator. -/
def overCommon (c : Nat) (s : Int) (x : Nat) (e : Int) : Nat × Nat :=
  (c * Nat.pow 10 s.toNat * Nat.pow 2 (-e).toNat,
    x * Nat.pow 2 e.toNat * Nat.pow 10 (-s).toNat)

/-- Whether `10 ^ p ≤ x · 2 ^ e`. -/
def powerAtMost (p : Int) (x : Nat) (e : Int) : Bool :=
  let (a, b) := overCommon 1 p x e
  a ≤ b

/-- The least `p` with `x · 2 ^ e < 10 ^ p`, searched upward from an underestimate. -/
def pointFrom (x : Nat) (e : Int) : Nat → Int → Int
  | 0, p => p
  | fuel + 1, p => if powerAtMost p x e then pointFrom x e fuel (p + 1) else p

/-- The place of the decimal point of `x · 2 ^ e`. -/
def pointOf (x : Nat) (e : Int) : Int :=
  pointFrom x e 8 (Int.fdiv (((Nat.log2 x : Int) + e) * 30103) 100000 - 2)

/-- The decimals that read back as `m · 2 ^ e`: those between `low` and `high` quarters of a unit
of the last binary place, ends included if `m` is even. -/
structure Interval where
  low : Nat
  high : Nat
  closed : Bool
  unit : Int

/-- The interval of the reals that round to `m · 2 ^ e`. -/
def interval (m : Nat) (e : Int) : Interval where
  low := if m = leastMantissa ∧ e > minExponent then 4 * m - 1 else 4 * m - 2
  high := 4 * m + 2
  closed := m % 2 = 0
  unit := e - 2

/-- Whether `c · 10 ^ s` lies in the interval. -/
def Interval.holds (i : Interval) (c : Nat) (s : Int) : Bool :=
  let (a, low) := overCommon c s i.low i.unit
  let (b, high) := overCommon c s i.high i.unit
  if i.closed then low ≤ a && b ≤ high else low < a && b < high

/-- The neighbour on the grid of `10 ^ s` that reads back, the nearer one first, of two that are
equally near the even one. -/
def onGrid? (m : Nat) (e s : Int) : Option Decimal :=
  let (one, x) := overCommon 1 s (4 * m) (e - 2)
  let c := x / one
  let nearer := if roundDiv x one = c then [c, c + 1] else [c + 1, c]
  (nearer.find? fun c => (interval m e).holds c s).map fun c => ⟨c, s⟩

/-- The first grid from `count` digits on that holds a decimal that reads back. -/
def shortestFrom (m : Nat) (e p : Int) : Nat → Nat → Decimal
  | 0, count => (onGrid? m e (p - count)).getD ⟨m, 0⟩
  | fuel + 1, count =>
    match onGrid? m e (p - count) with
    | some d => d
    | none => shortestFrom m e p fuel (count + 1)

/-- The shortest decimal that reads back as `m · 2 ^ e`, the nearest of those; an even last digit
settles a tie. -/
def shortest (m : Nat) (e : Int) : Decimal :=
  if m = 0 then ⟨0, 0⟩ else (shortestFrom m e (pointOf m e) 17 1).dropZeros 400

/-- The number of units of `10 ^ s` nearest to `m · 2 ^ e`, a tie to the even number. -/
def roundTo (m : Nat) (e s : Int) : Nat :=
  let (one, x) := overCommon 1 s m e
  roundDiv x one

end Double

/-- Digits with a decimal point before the last `places`. -/
def placePoint (digits : List Char) (places : Nat) : List Char × List Char :=
  let padded := List.replicate (places + 1 - digits.length) '0' ++ digits
  padded.splitAt (padded.length - places)

/-- An exponent of ten: the mark, a sign and at least two digits. -/
def exponentText (mark : Char) (x : Int) : List Char :=
  let ds := digitsOf x.natAbs
  mark :: (if x < 0 then '-' else '+') :: (if ds.length < 2 then '0' :: ds else ds)

/-- Digits with a point after the first. -/
def scientific (digits : List Char) (mark : Char) (x : Int) : List Char :=
  match digits with
  | [] => []
  | [d] => d :: exponentText mark x
  | d :: ds => d :: '.' :: (ds ++ exponentText mark x)

/-- A decimal written out in full: zeros to the point, then `.0` if it is whole. -/
def positional (d : Decimal) : List Char :=
  if 0 ≤ d.exponent then digitsOf d.digits ++ List.replicate d.exponent.toNat '0' ++ ['.', '0']
  else
    let (whole, part) := placePoint (digitsOf d.digits) (-d.exponent).toNat
    whole ++ '.' :: part

namespace Double

/-- The shortest text that reads back. Numbers from `10⁻⁴` up to `10¹⁶` are written out in full,
the others with an exponent. -/
def text : Double → String
  | .nan => "nan"
  | .infinite false => "inf"
  | .infinite true => "-inf"
  | .finite negative m e =>
    let d := shortest m e
    let body :=
      if m = 0 ∨ (-4 < d.point ∧ d.point ≤ 16) then positional d
      else scientific (digitsOf d.digits) 'e' (d.point - 1)
    .ofList (if negative then '-' :: body else body)

/-- The digits of `m · 2 ^ e` with a fixed number of places: whole part and places. -/
def fixedParts (m : Nat) (e : Int) (places : Nat) : List Char × List Char :=
  placePoint (digitsOf (roundTo m e (-(places : Int)))) places

/-- A number with a fixed number of places, a tie rounded to the even digit. -/
def fixed (places : Nat) : Double → String
  | .nan => "nan"
  | .infinite false => "inf"
  | .infinite true => "-inf"
  | .finite negative m e =>
    let (whole, part) := fixedParts m e places
    let body := if places = 0 then whole else whole ++ '.' :: part
    .ofList (if negative then '-' :: body else body)

end Double

end Gleaner

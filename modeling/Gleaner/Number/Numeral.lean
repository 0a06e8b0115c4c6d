import Gleaner.Number.Decimal
import Gleaner.Text.Basic
import Gleaner.Text.Property

/-! # Reading numerals

Whole numbers and doubles as texts: blanks around them, a sign, digits of any script, single
underscores between digits; for doubles also a point, an exponent, `inf` and `nan`. -/

namespace Gleaner.Numeral

/-- The most digits a whole number may be written with. -/
def digitLimit : Nat := 4300

/-- Why a text is no whole number. -/
inductive Fault where
  | malformed
  | tooLong (digits : Nat)
  deriving DecidableEq, Repr

/-- Above ASCII, decimal digits become ASCII digits and blanks become spaces. -/
def toAscii (s : List Char) : List Char :=
  s.map fun c =>
    if c.val < 128 then c
    else match Text.decimalValue? c with
      | some d => Char.ofNat (48 + d)
      | none => if Text.isBlank c then ' ' else c

/-- The blanks of ASCII without the separators. -/
def isAsciiSpace (c : Char) : Bool := c = ' ' || (9 ≤ c.toNat && c.toNat ≤ 13)

/-- The text without the ASCII blanks at its ends. -/
def trimAscii (s : List Char) : List Char :=
  ((s.dropWhile isAsciiSpace).reverse.dropWhile isAsciiSpace).reverse

/-- A sign, and the text after it. -/
def takeSign : List Char → Bool × List Char
  | '-' :: r => (true, r)
  | '+' :: r => (false, r)
  | s => (false, s)

/-- The number written by ASCII digits. -/
def digitsValue (s : List Char) : Nat := s.foldl (fun n c => 10 * n + (c.toNat - 48)) 0

/-- Whether every underscore stands between two digits, given the character before the text. -/
def underscoresOk (before : Char) : List Char → Bool
  | [] => before ≠ '_'
  | c :: r =>
    (if c = '_' then before.isDigit else before ≠ '_' || c.isDigit) && underscoresOk c r

/-- Reads a whole number. -/
def readInt (text : List Char) : Except Fault Int :=
  let (negative, s) := takeSign (trimAscii (toAscii text))
  let run := s.takeWhile fun c => c.isDigit || c = '_'
  let digits := run.filter (· ≠ '_')
  if ¬ underscoresOk ' ' run then .error .malformed
  else if digits.length > digitLimit then .error (.tooLong digits.length)
  else if s = [] ∨ s.length ≠ run.length then .error .malformed
  else
    let n : Int := digitsValue digits
    .ok (if negative then -n else n)

/-- Reads an exponent: a sign and digits, and nothing after them. -/
def readExponent? (s : List Char) : Option Int :=
  let (negative, ds) := takeSign s
  if ds ≠ [] ∧ ds.all Char.isDigit then
    let n : Int := digitsValue ds
    some (if negative then -n else n)
  else none

/-- Reads digits with an optional point and exponent. -/
def readDecimal? (s : List Char) : Option Decimal :=
  let whole := s.takeWhile Char.isDigit
  let r := s.dropWhile Char.isDigit
  let (places, r) := match r with
    | '.' :: r => (r.takeWhile Char.isDigit, r.dropWhile Char.isDigit)
    | _ => ([], r)
  if whole = [] ∧ places = [] then none
  else
    let exponent : Option Int := match r with
      | [] => some 0
      | c :: r => if c = 'e' ∨ c = 'E' then readExponent? r else none
    exponent.map fun x => ⟨digitsValue (whole ++ places), x - places.length⟩

/-- Reads a double. -/
def readDouble? (text : List Char) : Option Double :=
  let s := trimAscii (toAscii text)
  if ¬ underscoresOk ' ' s then none
  else
    let (negative, body) := takeSign (s.filter (· ≠ '_'))
    let word := body.map Char.toLower
    if word = "inf".toList ∨ word = "infinity".toList then some (.infinite negative)
    else if word = "nan".toList then some .nan
    else (readDecimal? body).map fun d => .ofDecimal negative d.digits d.exponent

end Gleaner.Numeral

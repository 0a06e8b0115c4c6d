import Gleaner.Template.Layout

/-! # Values by layout

A value as a layout asks for it: texts are cut and padded, whole numbers are written to a base, and
doubles with a fixed number of places, with an exponent, or in the shorter of the two. -/

namespace Gleaner.Template

/-! ## Texts -/

/-- A text by a layout. -/
def writeText (s : List Char) (spec : List Char) : Except TemplateFault (List Char) := do
  let l ← Layout.read "str" (some 's') spec
  let place := "string format specifier"
  if l.kind.any (· ≠ 's') then .error (Layout.unknownKind "str" (l.kind.getD 's'))
  else if l.sign = some ' ' then .error (.malformed s!"Space not allowed in {place}")
  else if l.sign.isSome then .error (.malformed s!"Sign not allowed in {place}")
  else if l.noNegativeZero then
    .error (.malformed s!"Negative zero coercion (z) not allowed in {place}")
  else if l.alternate then .error (.malformed s!"Alternate form (#) not allowed in {place}")
  else if l.align = some .inside then .error (.malformed s!"'=' alignment not allowed in {place}")
  else
    let shown := match l.precision with
      | some n => s.take n
      | none => s
    return l.pad .left [] shown

/-! ## Doubles -/

/-- Digits without the zeros at their end. -/
def dropLastZeros (s : List Char) : List Char := (s.reverse.dropWhile (· = '0')).reverse

/-- A fraction: a point and places, or nothing at all. -/
def fraction (alternate : Bool) (places : List Char) : List Char :=
  if places = [] then if alternate then ['.'] else [] else '.' :: places

/-- `m · 2 ^ e` to a number of significant digits: the digits and the place of the point, the
number being `d.ddd · 10 ^ point`. -/
def significant (m : Nat) (e : Int) (count : Nat) : List Char × Int :=
  if m = 0 then (List.replicate count '0', 0)
  else
    let top := Double.pointOf m e
    let n := Double.roundTo m e (top - count)
    if n = Nat.pow 10 count then (digitsOf (n / 10), top) else (digitsOf n, top - 1)

/-- With an exponent: the first digit, and the rest. -/
def withExponent (alternate : Bool) (mark : Char) (digits : List Char) (x : Int) :
    List Char × List Char :=
  (digits.take 1, fraction alternate (digits.drop 1) ++ exponentText mark x)

/-- In the shorter notation: significant digits, written out if the exponent is small. -/
def general (m : Nat) (e : Int) (count : Nat) (alternate whole : Bool) (mark : Char) :
    List Char × List Char :=
  let (digits, x) := significant m e count
  let limit : Int := if whole then (count : Int) - 1 else count
  let kept := if alternate then digits else dropLastZeros digits
  if -4 ≤ x ∧ x < limit then
    if x < 0 then
      (['0'], fraction alternate (List.replicate (-x - 1).toNat '0' ++ kept))
    else
      let n := x.toNat + 1
      let places := kept.drop n
      (digits.take n, if whole ∧ places = [] then ['.', '0'] else fraction alternate places)
  else withExponent alternate mark (digits.take 1 ++ kept.drop 1) x

/-- The shortest notation that reads back. -/
def shortestParts (d : Double) : List Char × List Char :=
  let text := d.text.toList
  (text.takeWhile Char.isDigit, text.dropWhile Char.isDigit)

/-- The number times a hundred. -/
def hundredfold : Double → Double
  | .finite negative m e =>
    let (n, d) := Double.ratio (m * 100) e
    Double.nearest negative n d
  | d => d

/-- A number without its sign by a layout: digits to be grouped, and the rest. -/
def doubleParts (l : Layout) (kind : Option Char) (d : Double) (m : Nat) (e : Int) :
    List Char × List Char :=
  let precision := l.precision.getD 6
  match kind with
  | none =>
    match l.precision with
    | none => shortestParts d
    | some p => general m e (max p 1) l.alternate true 'e'
  | some 'f' | some 'F' | some '%' =>
    let (whole, part) := Double.fixedParts m e precision
    (whole, fraction l.alternate part)
  | some 'e' =>
    let (digits, x) := significant m e (precision + 1)
    withExponent l.alternate 'e' digits x
  | some 'E' =>
    let (digits, x) := significant m e (precision + 1)
    withExponent l.alternate 'E' digits x
  | some 'G' => general m e (max precision 1) l.alternate false 'E'
  | _ => general m e (max precision 1) l.alternate false 'e'

/-- The kinds of notation of a double. -/
def doubleKinds : List (Option Char) :=
  none :: ("eEfFgGn%".toList.map some)

/-- A double by a layout that has been read. -/
def layDouble (l : Layout) (d : Double) : List Char :=
  let isUpper := l.kind.any Char.isUpper
  let rest := if l.kind = some '%' then ['%'] else []
  match if l.kind = some '%' then hundredfold d else d with
  | .finite negative m e =>
    let (digits, part) := doubleParts l l.kind (.finite false m e) m e
    let isZero := (digits ++ part.takeWhile fun c => c ≠ 'e' ∧ c ≠ 'E').all fun c =>
      c = '0' || c = '.'
    l.assemble (negative && !(l.noNegativeZero && isZero)) [] digits (part ++ rest) 3
  | .infinite negative =>
    l.assemble negative [] [] ((if isUpper then "INF" else "inf").toList ++ rest) 3
  | .nan => l.assemble false [] [] ((if isUpper then "NAN" else "nan").toList ++ rest) 3

/-- A double by a layout. -/
def writeDouble (d : Double) (spec : List Char) : Except TemplateFault (List Char) := do
  let l ← Layout.read "float" none spec
  if doubleKinds.contains l.kind then return layDouble l d
  else .error (Layout.unknownKind "float" (l.kind.getD ' '))

/-! ## Whole numbers -/

/-- The base of a kind of notation and its mark. -/
def baseOf : Char → Nat × List Char
  | 'b' => (2, ['0', 'b'])
  | 'o' => (8, ['0', 'o'])
  | 'x' => (16, ['0', 'x'])
  | 'X' => (16, ['0', 'X'])
  | _ => (10, [])

/-- A character by its number. -/
def layCharacter (l : Layout) (i : Int) : Except TemplateFault (List Char) :=
  let place := "with integer format specifier 'c'"
  if l.sign.isSome then .error (.malformed s!"Sign not allowed {place}")
  else if l.alternate then .error (.malformed s!"Alternate form (#) not allowed {place}")
  else if 0 ≤ i ∧ i < 0x110000 then return l.pad .left [] [Char.ofNat i.toNat]
  else .error .noCharacter

/-- A whole number by a layout. `valueKind` names the value's kind in messages. -/
def writeInt (valueKind : String) (i : Int) (spec : List Char) :
    Except TemplateFault (List Char) := do
  let l ← Layout.read valueKind (some 'd') spec
  let kind := l.kind.getD 'd'
  let place := "integer format specifier"
  if "eEfFgG%".toList.contains kind then
    match Double.ofInt? i with
    | some d => return layDouble l d
    | none => .error .tooLarge
  else if !"dnboxXc".toList.contains kind then .error (Layout.unknownKind valueKind kind)
  else if l.precision.isSome then .error (.malformed s!"Precision not allowed in {place}")
  else if l.noNegativeZero then
    .error (.malformed s!"Negative zero coercion (z) not allowed in {place}")
  else if kind = 'c' then layCharacter l i
  else
    let (base, mark) := baseOf kind
    let digits := Nat.toDigits base i.natAbs
    let digits := if kind = 'X' then digits.map Char.toUpper else digits
    return l.assemble (i < 0) (if l.alternate then mark else []) digits []
      (if base = 10 then 3 else 4)

/-- A value by a layout. -/
def write (v : Value) (spec : List Char) : Except TemplateFault (List Char) :=
  if spec = [] then .ok v.display.toList
  else match v with
    | .str s => writeText s.toList spec
    | .int i => writeInt "int" i spec
    | .bool b => writeInt "bool" (if b then 1 else 0) spec
    | .float d => writeDouble d spec
    | v => .error (.wrongKind s!"unsupported format string passed to {v.kindName}.__format__")

end Gleaner.Template

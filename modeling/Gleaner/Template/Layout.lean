import Gleaner.Error

/-! # Layouts

A layout says how a value is written inside a text: fill and width, sign, grouping, precision and
kind of notation. `Layout.read` reads its written form, such as `>8` or `+,.2f`. -/

namespace Gleaner.Template

/-- Where the padding goes. -/
inductive Alignment where
  | left
  | right
  | center
  /-- Between the sign and the digits. -/
  | inside
  deriving DecidableEq, Repr

/-- The alignment of a sign. -/
def Alignment.ofSign? : Char → Option Alignment
  | '<' => some left
  | '>' => some right
  | '^' => some center
  | '=' => some inside
  | _ => none

/-- How a value is written. -/
structure Layout where
  fill : Char := ' '
  align : Option Alignment := none
  sign : Option Char := none
  noNegativeZero : Bool := false
  alternate : Bool := false
  width : Option Nat := none
  grouping : Option Char := none
  precision : Option Nat := none
  kind : Option Char := none
  deriving DecidableEq, Repr

/-- No number in a template reaches `2 ^ 63`. -/
def numberLimit : Nat := 9223372036854775808

/-- The number that digits at the front of a text stand for, after others that stand for `n`, and
what follows them. -/
def readDigits (n : Nat) : List Char → Except TemplateFault (Nat × List Char)
  | [] => .ok (n, [])
  | c :: r =>
    match Text.decimalValue? c with
    | none => .ok (n, c :: r)
    | some d =>
      if 10 * n + d < numberLimit then readDigits (10 * n + d) r
      else .error (.malformed "Too many decimal digits in format string")

/-- A number at the front of a text, if there is one, and what follows it. -/
def readNumber? (s : List Char) : Except TemplateFault (Option Nat × List Char) :=
  if (s.head?.bind Text.decimalValue?).isNone then .ok (none, s)
  else (readDigits 0 s).map fun (n, rest) => (some n, rest)

namespace Layout

/-- A letter as messages show it. -/
def shownKind (c : Char) : String :=
  if 32 < c.toNat ∧ c.toNat < 128 then c.toString
  else "\\x" ++ .ofList (Nat.toDigits 16 c.toNat)

/-- The kinds that take a grouping by commas or underscores. -/
def groupedKinds : List (Option Char) :=
  [none, some 'd', some 'e', some 'f', some 'g', some 'E', some 'G', some '%', some 'F']

/-- Checks the grouping against the kind of notation. -/
def checkGrouping (l : Layout) (kind : Option Char) : Except TemplateFault Layout :=
  match l.grouping, kind with
  | none, _ => .ok l
  | some g, kind =>
    if groupedKinds.contains kind then .ok l
    else if g = '_' ∧ (kind.any fun c => "boxX".toList.contains c) then .ok l
    else
      let shown := (kind.map shownKind).getD ""
      .error (.malformed s!"Cannot specify '{g}' with '{shown}'.")

/-- Reads fill and alignment. -/
def readAlign (s : List Char) : Layout × List Char × Bool :=
  match s with
  | f :: a :: r =>
    match Alignment.ofSign? a, Alignment.ofSign? f with
    | some a, _ => ({ fill := f, align := some a }, r, true)
    | none, some a' => ({ align := some a' }, a :: r, false)
    | none, none => ({}, s, false)
  | [a] =>
    match Alignment.ofSign? a with
    | some a => ({ align := some a }, [], false)
    | none => ({}, s, false)
  | [] => ({}, [], false)

/-- Reads an optional character. -/
def readOne (p : Char → Bool) (s : List Char) : Option Char × List Char :=
  match s with
  | c :: r => if p c then (some c, r) else (none, s)
  | [] => (none, [])

/-- Reads the grouping. -/
def readGrouping (s : List Char) : Except TemplateFault (Option Char × List Char) :=
  match s with
  | ',' :: '_' :: _ | '_' :: ',' :: _ => .error (.malformed "Cannot specify both ',' and '_'.")
  | ',' :: r => .ok (some ',', r)
  | '_' :: r => .ok (some '_', r)
  | _ => .ok (none, s)

/-- Reads the precision. -/
def readPrecision (s : List Char) : Except TemplateFault (Option Nat × List Char) :=
  match s with
  | '.' :: r => do
    match ← readNumber? r with
    | (none, _) => .error (.malformed "Format specifier missing precision")
    | found => return found
  | _ => .ok (none, s)

/-- Reads a layout for a value of the given kind. Numbers are padded by zeros inside, unless an
alignment is given. -/
def read (valueKind : String) (defaultKind : Option Char) (text : List Char) :
    Except TemplateFault Layout := do
  let (l, s, filled) := readAlign text
  let (sign, s) := readOne (fun c => c = '+' || c = '-' || c = ' ') s
  let (z, s) := readOne (· = 'z') s
  let (alternate, s) := readOne (· = '#') s
  let (zero, s) := if filled then (none, s) else readOne (· = '0') s
  let l := if zero.isSome then
      { l with fill := '0', align := l.align <|>
          if valueKind = "str" then none else some .inside }
    else l
  let (width, s) ← readNumber? s
  let (grouping, s) ← readGrouping s
  let (precision, s) ← readPrecision s
  match s with
  | _ :: _ :: _ =>
    .error (.malformed
      s!"Invalid format specifier '{String.ofList text}' for object of type '{valueKind}'")
  | _ =>
    let kind := s.head?
    let l := { l with
      sign, noNegativeZero := z.isSome, alternate := alternate.isSome, width, grouping, precision,
      kind }
    checkGrouping l (kind <|> defaultKind)

/-- The failure of a kind of notation that a value does not have. -/
def unknownKind (valueKind : String) (c : Char) : TemplateFault :=
  .malformed s!"Unknown format code '{shownKind c}' for object of type '{valueKind}'"

/-- A text padded to the width, `default` saying where the padding goes. -/
def pad (l : Layout) (default : Alignment) (lead body : List Char) : List Char :=
  let missing := l.width.getD 0 - (lead.length + body.length)
  let fill := fun n => List.replicate n l.fill
  match l.align.getD default with
  | .left => lead ++ body ++ fill missing
  | .right => fill missing ++ lead ++ body
  | .center => fill (missing / 2) ++ lead ++ body ++ fill (missing - missing / 2)
  | .inside => lead ++ fill missing ++ body

/-- Digits in groups, counted from the end. -/
def groupDigits (sep : Char) (size : Nat) (digits : List Char) : List Char :=
  let rec go : Nat → List Char → List Char
    | _, [] => []
    | 0, c :: r => sep :: c :: go (size - 1) r
    | n + 1, c :: r => c :: go n r
  (go size digits.reverse).reverse

/-- Digits in groups with zeros in front, up to a length. -/
def groupTo (sep : Char) (size length : Nat) : Nat → List Char → List Char
  | 0, digits => groupDigits sep size digits
  | n + 1, digits =>
    let grouped := groupDigits sep size digits
    if length ≤ grouped.length then grouped else groupTo sep size length n ('0' :: digits)

/-- The sign of a number. -/
def signText (l : Layout) (negative : Bool) : List Char :=
  if negative then ['-']
  else match l.sign with
    | some '+' => ['+']
    | some ' ' => [' ']
    | _ => []

/-- A number from its parts: sign, mark of the base, digits to be grouped, and the rest. -/
def assemble (l : Layout) (negative : Bool) (mark digits rest : List Char) (size : Nat) :
    List Char :=
  let lead := l.signText negative ++ mark
  let digits := match l.grouping with
    | none => digits
    | some sep =>
      let least := if l.fill = '0' ∧ l.align = some .inside then
          l.width.getD 0 - (lead.length + rest.length)
        else 0
      groupTo sep size least least digits
  l.pad .right lead (digits ++ rest)

end Layout

end Gleaner.Template

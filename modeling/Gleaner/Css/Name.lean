import Gleaner.Text.Property

/-! # Names, strings and blanks of selectors

The smallest parts of written selectors: blanks and comments, names, strings in quotes, and the
escapes in names and strings. A reader takes its part off the front of a text, or fails. -/

namespace Gleaner.Css

/-- What a reader takes off the front of a text, and the rest. -/
abbrev Reader (α : Type) := List Char → Option (α × List Char)

/-- White space between the parts of a selector. -/
def isBlank (c : Char) : Bool := c = ' ' || c = '\t' || c = '\n' || c = '\r' || c = '\x0c'

/-- A line end. -/
def isLineEnd (c : Char) : Bool := c = '\n' || c = '\r' || c = '\x0c'

/-- The text without one blank at its front, a line end of two characters counting as one. -/
def dropBlank : List Char → List Char
  | '\r' :: '\n' :: r => r
  | c :: r => if isBlank c then r else c :: r
  | [] => []

/-- What follows the end of a comment. -/
def afterComment? : List Char → Option (List Char)
  | '*' :: '/' :: r => some r
  | _ :: r => afterComment? r
  | [] => none

/-- One blank or comment taken off the front. -/
def dropGap? : List Char → Option (List Char)
  | '/' :: '*' :: r => afterComment? r
  | c :: r => if isBlank c then some r else none
  | [] => none

/-- Drops blanks and comments, at most `n` of them, and tells whether a blank was among them. -/
def dropGaps : Nat → Bool → List Char → Bool × List Char
  | 0, blank, s => (blank, s)
  | n + 1, blank, s =>
    match dropGap? s with
    | some r => dropGaps n (blank || s.head?.any isBlank) r
    | none => (blank, s)

/-- The text without the blanks and comments at its front. -/
def skip (s : List Char) : List Char := (dropGaps s.length false s).2

/-- Whether a blank is among the blanks and comments at the front of a text. -/
def blankAhead (s : List Char) : Bool := (dropGaps s.length false s).1

/-- The characters by which a text is longer than its rest. -/
def taken (s rest : List Char) : List Char := s.take (s.length - rest.length)

/-! ## Escapes -/

/-- Hexadecimal digits at the front of a text, at most six. -/
def escapeDigits (s : List Char) : List Char :=
  (s.take 6).takeWhile fun c => (Text.hexValue? c).isSome

/-- What follows an escape whose backslash has been read. -/
def afterEscape? (s : List Char) : Option (List Char) :=
  match s with
  | [] => some []
  | c :: r =>
    let digits := escapeDigits s
    if digits ≠ [] then some (dropBlank (s.drop digits.length))
    else if isLineEnd c then none
    else some r

/-- The character of a code point; what is none is replaced. -/
def codeChar (n : Nat) : Char :=
  if n ≠ 0 ∧ n.isValidChar then Char.ofNat n else '\uFFFD'

/-- A text without its escapes, reading at most `n` parts. A number ends with a blank. In a string
an escaped line end is dropped. -/
def unescapeParts (inString : Bool) : Nat → List Char → List Char
  | 0, s => s
  | _, [] => []
  | _, ['\\'] => ['\uFFFD']
  | n + 1, '\\' :: c :: r =>
    let digits := escapeDigits (c :: r)
    let after := (c :: r).drop digits.length
    if digits ≠ [] ∧ dropBlank after ≠ after then
      codeChar (Text.hexNumber digits) :: unescapeParts inString n (dropBlank after)
    else if !isLineEnd c then c :: unescapeParts inString n r
    else if inString then unescapeParts inString n (dropBlank (c :: r))
    else '\\' :: c :: unescapeParts inString n r
  | n + 1, c :: r => c :: unescapeParts inString n r

/-- A name or a string without its escapes. -/
def unescape (inString : Bool) (s : List Char) : List Char := unescapeParts inString s.length s

/-! ## Names and strings -/

/-- A character that a name can start with. -/
def startsName (c : Char) : Bool :=
  ('A' ≤ c && c ≤ 'Z') || ('a' ≤ c && c ≤ 'z') || c = '_' || 0xa0 ≤ c.toNat

/-- A character that a name can go on with. -/
def continuesName (c : Char) : Bool := startsName c || c.isDigit || c = '-'

/-- What follows the rest of a name, at most `n` parts. -/
def afterNameParts : Nat → List Char → List Char
  | 0, s => s
  | n + 1, '\\' :: r =>
    match afterEscape? r with
    | some rest => afterNameParts n rest
    | none => '\\' :: r
  | n + 1, c :: r => if continuesName c then afterNameParts n r else c :: r
  | _, [] => []

/-- What follows the first part of a name. -/
def afterNameStart? : List Char → Option (List Char)
  | '\\' :: r => afterEscape? r
  | c :: r => if startsName c then some r else none
  | [] => none

/-- Reads a name as it is written. -/
def rawName? : Reader (List Char) := fun s => do
  let rest ← match s with
    | '-' :: '-' :: r => some r
    | '-' :: r => afterNameStart? r
    | s => afterNameStart? s
  let rest := afterNameParts rest.length rest
  return (taken s rest, rest)

/-- Reads a name. -/
def name? : Reader String := fun s =>
  (rawName? s).map fun (raw, rest) => (.ofList (unescape false raw), rest)

/-- What follows the closing quote of a string. -/
def afterString? (quote : Char) : List Char → Option (List Char)
  | '\\' :: '\r' :: '\n' :: r => afterString? quote r
  | '\\' :: _ :: r => afterString? quote r
  | c :: r =>
    if c = quote then some r
    else if c = '\\' || isLineEnd c then none
    else afterString? quote r
  | [] => none

/-- Reads a string or a name as it is written. -/
def rawValue? : Reader (List Char) := fun s =>
  match s with
  | '"' :: r => (afterString? '"' r).map fun rest => (taken s rest, rest)
  | '\x27' :: r => (afterString? '\x27' r).map fun rest => (taken s rest, rest)
  | _ => rawName? s

/-- The text of a string or a name as it is written. -/
def valueText (raw : List Char) : List Char :=
  match raw with
  | '"' :: r => unescape true r.dropLast
  | '\x27' :: r => unescape true r.dropLast
  | _ => unescape false raw

end Gleaner.Css

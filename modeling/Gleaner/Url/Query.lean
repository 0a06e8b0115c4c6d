import Gleaner.Text.Basic

/-! # Queries

The parameters of a query: names and values between `&` and `=`, with `+` for a space and bytes of
UTF-8 behind percent signs. -/

namespace Gleaner.Url

/-- The bytes of a character in UTF-8. -/
def utf8 (c : Char) : List Nat :=
  let n := c.toNat
  if n < 0x80 then [n]
  else if n < 0x800 then [0xc0 + n / 64, 0x80 + n % 64]
  else if n < 0x10000 then [0xe0 + n / 4096, 0x80 + n / 64 % 64, 0x80 + n % 64]
  else [0xf0 + n / 262144, 0x80 + n / 4096 % 64, 0x80 + n / 64 % 64, 0x80 + n % 64]

/-- What stands for bytes that are no text. -/
def replacement : Char := Char.ofNat 0xfffd

/-- How many bytes follow a lead byte, and the bounds of the first of them. -/
def leadByte? (b : Nat) : Option (Nat × Nat × Nat) :=
  if 0xc2 ≤ b ∧ b ≤ 0xdf then some (1, 0x80, 0xbf)
  else if b = 0xe0 then some (2, 0xa0, 0xbf)
  else if b = 0xed then some (2, 0x80, 0x9f)
  else if 0xe1 ≤ b ∧ b ≤ 0xef then some (2, 0x80, 0xbf)
  else if b = 0xf0 then some (3, 0x90, 0xbf)
  else if 0xf1 ≤ b ∧ b ≤ 0xf3 then some (3, 0x80, 0xbf)
  else if b = 0xf4 then some (3, 0x80, 0x8f)
  else none

/-- A sequence that has begun: how many bytes are due, the bounds of the next one, and the code
point so far. -/
structure Sequence where
  due : Nat
  lo : Nat
  hi : Nat
  code : Nat

/-- A byte outside any sequence: what it stands for, or the sequence it begins. -/
def firstByte (b : Nat) : List Char × Option Sequence :=
  if b < 0x80 then ([Char.ofNat b], none)
  else match leadByte? b with
    | some (due, lo, hi) =>
      let mark := if due = 1 then 0xc0 else if due = 2 then 0xe0 else 0xf0
      ([], some ⟨due, lo, hi, b - mark⟩)
    | none => ([replacement], none)

/-- Decodes bytes. A sequence that breaks off is replaced as a whole. -/
def decodeUtf8 : Option Sequence → List Nat → List Char
  | none, [] => []
  | some _, [] => [replacement]
  | none, b :: r =>
    let (out, next) := firstByte b
    out ++ decodeUtf8 next r
  | some q, b :: r =>
    if q.lo ≤ b ∧ b ≤ q.hi then
      let code := q.code * 64 + (b - 0x80)
      if q.due ≤ 1 then Char.ofNat code :: decodeUtf8 none r
      else decodeUtf8 (some ⟨q.due - 1, 0x80, 0xbf, code⟩) r
    else
      let (out, next) := firstByte b
      replacement :: (out ++ decodeUtf8 next r)

/-- The bytes an ASCII text stands for. -/
def unescapeBytes : List Char → List Nat
  | [] => []
  | '%' :: a :: b :: r =>
    match Text.hexValue? a, Text.hexValue? b with
    | some x, some y => (16 * x + y) :: unescapeBytes r
    | _, _ => '%'.toNat :: unescapeBytes (a :: b :: r)
  | c :: r => c.toNat :: unescapeBytes r

/-- The runs of ASCII and of other characters. -/
def asciiRuns : List Char → List (Bool × List Char)
  | [] => []
  | c :: r =>
    let ascii := c.val < 128
    match asciiRuns r with
    | (b, run) :: runs => if b = ascii then (b, c :: run) :: runs else (ascii, [c]) :: (b, run) :: runs
    | [] => [(ascii, [c])]

/-- A percent-encoded text decoded, each run of ASCII on its own. -/
def unescape (s : List Char) : List Char :=
  (asciiRuns s).flatMap fun (ascii, run) =>
    if ascii then decodeUtf8 none (unescapeBytes run) else run

/-- A name or a value of a query decoded. -/
def decodeField (s : List Char) : List Char :=
  unescape (s.map fun c => if c = '+' then ' ' else c)

/-- A percent sign and two hexadecimal digits in capitals. -/
def percent (b : Nat) : List Char := '%' :: (Text.hexDigits 2 b).map Char.toUpper

/-- A character that a query shows as itself. -/
def isUnreserved (c : Char) : Bool :=
  c.isAlphanum || c = '_' || c = '.' || c = '-' || c = '~'

/-- A name or a value of a query encoded. -/
def encodeField (s : List Char) : List Char :=
  s.flatMap fun c =>
    if isUnreserved c then [c] else if c = ' ' then ['+'] else (utf8 c).flatMap percent

/-- The names and values of a query from left to right. -/
def readPairs (query : List Char) : List (List Char × List Char) :=
  ((Text.splitOn '&' query).filter (· ≠ [])).map fun pair =>
    let (name, value) := Text.cutAt '=' pair
    (decodeField name, decodeField (value.getD []))

/-- A value put behind those that its name already has. -/
def addValue (params : List (List Char × List (List Char))) (name value : List Char) :
    List (List Char × List (List Char)) :=
  match params with
  | [] => [(name, [value])]
  | (n, vs) :: rest =>
    if n = name then (n, vs ++ [value]) :: rest else (n, vs) :: addValue rest name value

/-- The parameters of a query: each name once, where it first occurs, with all its values. -/
def readQuery (query : List Char) : List (List Char × List (List Char)) :=
  (readPairs query).foldl (fun params (n, v) => addValue params n v) []

/-- The query with the given parameters. -/
def renderQuery (params : List (List Char × List (List Char))) : List Char :=
  Text.join ['&'] (params.flatMap fun (n, vs) =>
    vs.map fun v => encodeField n ++ '=' :: encodeField v)

end Gleaner.Url

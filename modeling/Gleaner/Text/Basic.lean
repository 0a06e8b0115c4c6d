import Gleaner.Text.Property

/-! # Texts

Blanks and words, occurrences of one text in another and their replacement, and texts in quotes. -/

namespace Gleaner.Text

/-! ## Blank characters

The white space of Unicode: what is trimmed off the ends of a text, what separates words, and what
`\s` matches in a pattern. -/

/-- White space: the ASCII blanks, the four ASCII separators, and the spaces and line ends of the
other scripts. -/
def isBlank (c : Char) : Bool :=
  let n := c.toNat
  (9 ≤ n && n ≤ 13) || (28 ≤ n && n ≤ 32) || n == 0x85 || n == 0xa0 || n == 0x1680 ||
    (0x2000 ≤ n && n ≤ 0x200a) || n == 0x2028 || n == 0x2029 || n == 0x202f || n == 0x205f ||
    n == 0x3000

/-- The text without its leading blanks. -/
def trimStart (s : List Char) : List Char := s.dropWhile isBlank

/-- The text without its trailing blanks. -/
def trimEnd (s : List Char) : List Char := (s.reverse.dropWhile isBlank).reverse

/-- The text without the blanks at its ends. -/
def trim (s : List Char) : List Char := trimEnd (trimStart s)

/-- Whether a blank occurs in the text. -/
def hasBlank (s : List Char) : Bool := s.any isBlank

/-- The pieces of a text between single blanks, empty ones included. -/
def blankPieces : List Char → List (List Char)
  | [] => [[]]
  | c :: r =>
    if isBlank c then [] :: blankPieces r
    else match blankPieces r with
      | [] => [[c]]
      | p :: ps => (c :: p) :: ps

/-- The words of a text: its maximal runs of characters that are not blank. -/
def words (s : List Char) : List (List Char) := (blankPieces s).filter (· ≠ [])

/-- Every run of blanks becomes one space. -/
def collapse : List Char → List Char
  | [] => []
  | c :: r =>
    if isBlank c then
      match r with
      | [] => [' ']
      | d :: _ => if isBlank d then collapse r else ' ' :: collapse r
    else c :: collapse r

/-- `String` form of `trim`. -/
def trimmed (s : String) : String := .ofList (trim s.toList)

/-! ## Finding and replacing

Occurrences of one text in another, the part of a text before the first separator, and
replacement of every occurrence from the left. -/

/-- Whether `sub` occurs in the text. -/
def occursIn (sub : List Char) : List Char → Bool
  | [] => sub.isEmpty
  | c :: r => sub.isPrefixOf (c :: r) || occursIn sub r

/-- The text before the first occurrence of a character, and what follows it if it occurs. -/
def cutAt (sep : Char) (s : List Char) : List Char × Option (List Char) :=
  (s.takeWhile (· ≠ sep), match s.dropWhile (· ≠ sep) with | [] => none | _ :: r => some r)

/-- The text before the last occurrence of a character, and what follows it, if it occurs. -/
def cutAtLast? (sep : Char) (s : List Char) : Option (List Char × List Char) :=
  match cutAt sep s.reverse with
  | (_, none) => none
  | (after, some before) => some (before.reverse, after.reverse)

/-- Replacement from the left of a nonempty `old`, after `skip` characters that belong to an
occurrence already replaced. -/
def replaceFrom (old new : List Char) : Nat → List Char → List Char
  | _, [] => []
  | skip + 1, _ :: r => replaceFrom old new skip r
  | 0, c :: r =>
    if old.isPrefixOf (c :: r) then new ++ replaceFrom old new (old.length - 1) r
    else c :: replaceFrom old new 0 r

/-- Every occurrence of `old` replaced by `new`, from the left. The empty text occurs before every
character and at the end. -/
def replace (old new s : List Char) : List Char :=
  match old with
  | [] => new ++ s.flatMap fun c => c :: new
  | _ => replaceFrom old new 0 s

/-- The position of the last occurrence of a character. -/
def lastIndex? (c : Char) (s : List Char) : Option Nat :=
  match s.reverse.findIdx? (· == c) with
  | some i => some (s.length - 1 - i)
  | none => none

/-- The texts with a separator between neighbours. -/
def join (sep : List Char) (parts : List (List Char)) : List Char := sep.intercalate parts

/-- `String` form of `join`. -/
def joined (sep : String) (parts : List String) : String := sep.intercalate parts

/-! ## Quoted texts

A text in quotes, with everything that is not printable escaped. Single quotes are used unless the
text holds a single quote and no double quote. -/

/-- A hexadecimal digit. -/
def hexDigit (n : Nat) : Char := if n < 10 then Char.ofNat (48 + n) else Char.ofNat (87 + n)

/-- The last `width` hexadecimal digits of a number. -/
def hexDigits : Nat → Nat → List Char
  | 0, _ => []
  | width + 1, n => hexDigits width (n / 16) ++ [hexDigit (n % 16)]

/-- A character by the shortest hexadecimal escape that holds its number. -/
def codeEscape (c : Char) : List Char :=
  if c.toNat < 0x100 then '\\' :: 'x' :: hexDigits 2 c.toNat
  else if c.toNat < 0x10000 then '\\' :: 'u' :: hexDigits 4 c.toNat
  else '\\' :: 'U' :: hexDigits 8 c.toNat

/-- A character inside the given quotes. -/
def quotedChar (quote c : Char) : List Char :=
  if c = quote ∨ c = '\\' then ['\\', c]
  else if c = '\n' then ['\\', 'n']
  else if c = '\r' then ['\\', 'r']
  else if c = '\t' then ['\\', 't']
  else if isPrintable c then [c]
  else codeEscape c

/-- The quotes a text is put in. -/
def quoteFor (s : List Char) : Char :=
  if s.contains '\x27' && !s.contains '"' then '"' else '\x27'

/-- A text in quotes. -/
def quoted (s : String) : String :=
  let q := quoteFor s.toList
  .ofList (q :: (s.toList.flatMap (quotedChar q) ++ [q]))

end Gleaner.Text

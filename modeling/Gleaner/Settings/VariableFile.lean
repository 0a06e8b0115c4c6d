import Gleaner.Settings.Basic
import Gleaner.Text.Basic

/-! # Files of variables

A file of lines `NAME=value`, with comments, values in quotes and references to other variables. A
line that cannot be read is passed over. -/

namespace Gleaner.Settings.VariableFile

/-- White space inside a line. -/
def isLineBlank (c : Char) : Bool := Text.isBlank c && c ≠ '\n' && c ≠ '\r'

/-- The end of a line. -/
def isLineEnd (c : Char) : Bool := c = '\n' || c = '\r'

/-- A text without the blanks of a line at its front. -/
def skipBlanks (s : List Char) : List Char := s.dropWhile isLineBlank

/-- What follows the first line. -/
def afterLine (s : List Char) : List Char :=
  match s.dropWhile (!isLineEnd ·) with
  | '\r' :: '\n' :: r => r
  | _ :: r => r
  | [] => []

/-- The text of a value in quotes and what follows it. A backslash keeps a quote from closing, if
another one closes the value. -/
def readQuoted? (quote : Char) : List Char → Option (List Char × List Char)
  | [] => none
  | '\\' :: c :: r =>
    if c = quote then
      match readQuoted? quote r with
      | some (v, rest) => some ('\\' :: c :: v, rest)
      | none => some (['\\'], r)
    else (readQuoted? quote (c :: r)).map fun (v, rest) => ('\\' :: v, rest)
  | c :: r =>
    if c = quote then some ([], r)
    else (readQuoted? quote r).map fun (v, rest) => (c :: v, rest)

/-- The character of an escape. -/
def escapeOf? (quote c : Char) : Option Char :=
  if c = '\\' || c = '\x27' then some c
  else if quote = '\x27' then none
  else [('"', '"'), ('a', '\x07'), ('b', '\x08'), ('f', '\x0c'), ('n', '\n'), ('r', '\r'),
    ('t', '\t'), ('v', '\x0b')].lookup c

/-- A value in quotes with its escapes resolved. -/
def unescape (quote : Char) : List Char → List Char
  | '\\' :: c :: r =>
    match escapeOf? quote c with
    | some d => d :: unescape quote r
    | none => '\\' :: unescape quote (c :: r)
  | c :: r => c :: unescape quote r
  | [] => []

/-- A value without quotes, up to a comment that follows a blank. -/
def withoutComment : List Char → List Char
  | [] => []
  | c :: r =>
    if Text.isBlank c && (r.dropWhile Text.isBlank).head? = some '#' then []
    else c :: withoutComment r

/-- A comment at the end of a line passed over, if nothing else follows. -/
def endOfLine? (s : List Char) : Option (List Char) :=
  let s := skipBlanks s
  match s with
  | [] => some []
  | '#' :: _ => some (afterLine s)
  | c :: _ => if isLineEnd c then some (afterLine s) else none

/-- Reads a value. -/
def readValue? (s : List Char) : Option (List Char × List Char) :=
  match s with
  | '\x27' :: r => (readQuoted? '\x27' r).map fun (v, rest) => (unescape '\x27' v, rest)
  | '"' :: r => (readQuoted? '"' r).map fun (v, rest) => (unescape '"' v, rest)
  | _ =>
    let line := s.takeWhile (!isLineEnd ·)
    some (Text.trimEnd (withoutComment line), s.drop line.length)

/-- Reads a name, which may stand in quotes. -/
def readName? (s : List Char) : Option (List Char × List Char) :=
  match s with
  | '\x27' :: r =>
    let name := r.takeWhile (· ≠ '\x27')
    if name = [] || name.length = r.length then none else some (name, r.drop (name.length + 1))
  | _ =>
    let name := s.takeWhile fun c => c ≠ '=' && c ≠ '#' && !Text.isBlank c
    if name = [] then none else some (name, s.drop name.length)

/-- The word `export` taken off the front. -/
def dropExport (s : List Char) : List Char :=
  let word := "export".toList
  if word.isPrefixOf s && (s.drop word.length).head?.any isLineBlank then
    skipBlanks (s.drop word.length)
  else s

/-- Reads one variable, with no value if there is no equals sign. A comment is a line without a
variable. -/
def readBinding? (s : List Char) : Option (Option (List Char × Option (List Char)) × List Char) :=
  let s := dropExport s
  if s.head? = some '#' then (endOfLine? s).map fun rest => (none, rest)
  else do
    let (name, r) ← readName? s
    match skipBlanks r with
    | '=' :: r =>
      let (v, r) ← readValue? (skipBlanks r)
      let rest ← endOfLine? r
      return (some (name, some v), rest)
    | r =>
      let rest ← endOfLine? r
      return (some (name, none), rest)

/-- The variables of a file, at most `n`. -/
def readBindings : Nat → List Char → List (List Char × Option (List Char))
  | 0, _ => []
  | n + 1, s =>
    match s.dropWhile Text.isBlank with
    | [] => []
    | s =>
      match readBinding? s with
      | some (some b, rest) => b :: readBindings n rest
      | some (none, rest) => readBindings n rest
      | none => readBindings n (afterLine s)

/-- References `$\x7bNAME\x7d` and `$\x7bNAME:-default\x7d` replaced, reading at most `n` characters. -/
def resolve (known : List Char → Option (List Char)) : Nat → List Char → List Char
  | 0, s => s
  | _, [] => []
  | n + 1, '$' :: '\x7b' :: r =>
    let body := r.takeWhile (· ≠ '\x7d')
    let name := body.takeWhile (· ≠ ':')
    let default := body.drop name.length
    if body.length = r.length || !(default = [] || [':', '-'].isPrefixOf default) then
      '$' :: resolve known n ('\x7b' :: r)
    else
      (known name).getD (default.drop 2) ++ resolve known n (r.drop (body.length + 1))
  | n + 1, c :: r => c :: resolve known n r

/-- The variables of a file with the references in their values resolved: to variables before them
in the file, or to the environment. -/
def read (environment : Variables) (text : String) : Variables :=
  let s := text.toList
  (readBindings (s.length + 1) s).foldl (fun vars (name, value) =>
    match value with
    | none => vars
    | some v =>
      let known := fun n =>
        (((vars.reverse.lookup (String.ofList n)) <|> environment.lookup (String.ofList n)).map
          String.toList)
      vars ++ [(String.ofList name, String.ofList (resolve known v.length v))]) []

end Gleaner.Settings.VariableFile

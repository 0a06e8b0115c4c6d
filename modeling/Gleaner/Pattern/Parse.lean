import Gleaner.Number.Numeral
import Gleaner.Pattern.Basic

/-! # Reading patterns

Reads the text of a pattern. The text is first cut into tokens, a backslash and the character after
it being one token; the reader then descends through alternatives, sequences and groups. -/

namespace Gleaner.Pattern

/-- A character, or an escaped character. -/
inductive Token where
  | plain (c : Char)
  | escaped (c : Char)
  deriving DecidableEq, Repr

/-- Cuts a pattern into tokens. A backslash at the end escapes nothing and is refused. -/
def tokens? : List Char → Option (List Token)
  | [] => some []
  | ['\\'] => none
  | '\\' :: c :: r => (tokens? r).map (.escaped c :: ·)
  | c :: r => (tokens? r).map (.plain c :: ·)

/-- The rules in force at a place of a pattern. -/
structure Flags where
  ignoreCase : Bool := false
  multiline : Bool := false
  dotAll : Bool := false
  verbose : Bool := false
  ascii : Bool := false
  template : Bool := false
  deriving DecidableEq, Repr

/-- How letters are compared under the flags. -/
def Flags.fold (f : Flags) : Fold :=
  if f.ignoreCase then if f.ascii then .ascii else .full else .exact

/-- The state of the reader. -/
structure Scan where
  /-- What has not been read. -/
  rest : List Token
  /-- The number of the next group. -/
  nextGroup : Nat := 1
  /-- The named groups. -/
  names : List (String × Nat) := []
  /-- The closed groups, with the lengths they match. -/
  closed : List (Nat × Width) := []
  /-- Inside a look-behind, the number of the first group opened in it. -/
  behindFrom : Option Nat := none
  /-- The groups that conditions ask for by number. -/
  asked : List Nat := []
  /-- The letters of the flags that were raised for the whole pattern. -/
  raised : List Char := []

/-- A step of the reader. -/
abbrev Reader := StateT Scan (Except Fault)

namespace Reader

/-- Refuses the pattern. -/
def fail {α : Type} (fault : Fault := .malformed) : Reader α := throw fault

/-- The next token, left in place. -/
def peek? : Reader (Option Token) := return (← get).rest.head?

/-- The next token, taken. -/
def next? : Reader (Option Token) := do
  let s ← get
  set { s with rest := s.rest.tail }
  return s.rest.head?

/-- Takes the next token if it is the given character. -/
def accept (c : Char) : Reader Bool := do
  let s ← get
  if s.rest.head? = some (.plain c) then
    set { s with rest := s.rest.tail }
    return true
  return false

/-- Requires a character. -/
def expect (c : Char) : Reader Unit := do
  if !(← accept c) then fail

/-- Takes up to `n` characters of a class. -/
def takeUpTo (p : Char → Bool) : Nat → Reader (List Char)
  | 0 => return []
  | n + 1 => do
    match ← peek? with
    | some (.plain c) =>
      if p c then
        let _ ← next?
        return c :: (← takeUpTo p n)
      else return []
    | _ => return []

/-- Takes characters of a class while there are any. -/
def takeAll (p : Char → Bool) : Reader (List Char) := do
  takeUpTo p (← get).rest.length

end Reader

open Reader

/-- The characters of a token. -/
def Token.chars : Token → List Char
  | .plain c => [c]
  | .escaped c => ['\\', c]

/-- The text up to a character, which is taken too; the text is not empty. -/
def readUntil (stop : Char) : Reader (List Char) := do
  let s ← get
  let name := (s.rest.takeWhile (· ≠ .plain stop)).flatMap Token.chars
  match s.rest.dropWhile (· ≠ .plain stop) with
  | [] => fail
  | _ :: rest =>
    if name = [] then fail
    set { s with rest := rest }
    return name

/-- Exactly `n` hexadecimal digits, as a number. -/
def readHex (n : Nat) : Reader Nat := do
  let ds ← takeUpTo (fun c => (Text.hexValue? c).isSome) n
  if ds.length ≠ n then fail
  return Text.hexNumber ds

/-- An octal digit. -/
def isOctal (c : Char) : Bool := '0' ≤ c && c ≤ '7'

/-- The number written by octal digits. -/
def octalNumber (s : List Char) : Nat := s.foldl (fun n c => 8 * n + (c.toNat - 48)) 0

/-- The escapes that stand for one control character; `\b` is one of them only in a set. -/
def controlEscape? (c : Char) : Option Nat :=
  [('a', 7), ('f', 12), ('n', 10), ('r', 13), ('t', 9), ('v', 11), ('\\', 92)].lookup c

/-- The escapes that stand for a class of characters. -/
def classEscape? (ascii : Bool) (c : Char) : Option SetItem :=
  match c with
  | 'd' => some (.named .digit ascii false)
  | 'D' => some (.named .digit ascii true)
  | 's' => some (.named .space ascii false)
  | 'S' => some (.named .space ascii true)
  | 'w' => some (.named .word ascii false)
  | 'W' => some (.named .word ascii true)
  | _ => none

/-- The escapes that stand for a code point by number. -/
def readCodeEscape? (c : Char) : Reader (Option Nat) := do
  match c with
  | 'x' => return some (← readHex 2)
  | 'u' => return some (← readHex 4)
  | 'U' =>
    let n ← readHex 8
    if n > 0x10ffff then fail
    return some n
  | _ => return none

/-- An escape inside a set. -/
def readSetEscape (flags : Flags) (c : Char) : Reader SetItem := do
  if let some n := controlEscape? c then return .code n
  if c = 'b' then return .code 8
  if let some item := classEscape? flags.ascii c then return item
  if let some n ← readCodeEscape? c then return .code n
  if isOctal c then
    let ds ← takeUpTo isOctal 2
    let n := octalNumber (c :: ds)
    if n > 255 then fail
    return .code n
  if c.isAlphanum then fail
  return .code c.toNat

/-- One character or class of a set. -/
def readSetMember (flags : Flags) (t : Token) : Reader SetItem :=
  match t with
  | .plain c => return .code c.toNat
  | .escaped c => readSetEscape flags c

/-- The members of a set, up to its closing bracket. -/
def readSetItems (flags : Flags) : Nat → List SetItem → Reader (List SetItem)
  | 0, _ => fail
  | fuel + 1, items => do
    let some t ← next? | fail
    if t = .plain ']' ∧ items ≠ [] then return items
    let first ← readSetMember flags t
    if ← accept '-' then
      let some u ← next? | fail
      if u = .plain ']' then return items ++ [first, .code '-'.toNat]
      let last ← readSetMember flags u
      match first, last with
      | .code a, .code z =>
        if z < a then fail
        readSetItems flags fuel (items ++ [.range a z])
      | _, _ => fail
    else readSetItems flags fuel (items ++ [first])

/-- A set, after its opening bracket. -/
def readSet (flags : Flags) : Reader Node := do
  let negated ← accept '^'
  let items ← readSetItems flags ((← get).rest.length + 1) []
  return .set negated items flags.fold

/-- A single code point. -/
def codeNode (flags : Flags) (n : Nat) : Node := .set false [.code n] flags.fold

/-- A closed group, as a back reference may name it. -/
def checkGroup (index : Nat) : Reader Unit := do
  let s ← get
  if (s.closed.lookup index).isNone then fail
  if let some first := s.behindFrom then
    if first ≤ index then fail

/-- A back reference or an octal escape, after its first digit. -/
def readNumberEscape (flags : Flags) (c : Char) : Reader Node := do
  if c = '0' then
    let ds ← takeUpTo isOctal 2
    return codeNode flags (octalNumber ds)
  let second ← takeUpTo Char.isDigit 1
  match second with
  | [d] =>
    if isOctal c && isOctal d then
      if let [e] ← takeUpTo isOctal 1 then
        let n := octalNumber [c, d, e]
        if n > 255 then fail
        return codeNode flags n
  | _ => pure ()
  let index := Numeral.digitsValue (c :: second)
  if (← get).nextGroup ≤ index then fail
  checkGroup index
  return .back index flags.fold

/-- An escape outside sets. -/
def readEscape (flags : Flags) (c : Char) : Reader Node := do
  match c with
  | 'A' => return .anchor .start
  | 'Z' => return .anchor .textEnd
  | 'b' => return .anchor (.boundary flags.ascii false)
  | 'B' => return .anchor (.boundary flags.ascii true)
  | _ => pure ()
  if let some item := classEscape? flags.ascii c then return .set false [item] .exact
  if let some n := controlEscape? c then return codeNode flags n
  if let some n ← readCodeEscape? c then return codeNode flags n
  if c.isDigit then return ← readNumberEscape flags c
  if c.isAlpha then fail
  return codeNode flags c.toNat

/-- Whether a text can name a group. -/
def isGroupName (s : List Char) : Bool :=
  match s with
  | [] => false
  | c :: _ =>
    (c = '_' || (Text.isAlphanumeric c && !Text.isDigitLike c)) && s.all Text.isWordChar

/-- The greatest number of repetitions that can be asked for. -/
def repeatLimit : Nat := 4294967295

/-- The bounds inside braces, after the opening one; `none` if the brace stands for itself. -/
def readBounds? : Reader (Option (Nat × Option Nat)) := do
  let s ← get
  if s.rest.head? = some (.plain '\x7d') then return none
  let lo ← takeAll Char.isDigit
  let hi ← if ← accept ',' then takeAll Char.isDigit else pure lo
  if !(← accept '\x7d') then
    set s
    return none
  let least := Numeral.digitsValue lo
  if least ≥ repeatLimit then fail .repeatTooLarge
  if hi = [] then return some (least, none)
  let most := Numeral.digitsValue hi
  if most ≥ repeatLimit then fail .repeatTooLarge
  if most < least then fail
  return some (least, some most)

/-- Whether a part may be followed by a repetition mark. -/
def isRepeatable : Node → Bool
  | .anchor _ | .loop .. => false
  | _ => true

/-- How a repetition chooses, from the mark after it. -/
def readGreed : Reader Greed := do
  if ← accept '?' then return .lazy
  if ← accept '+' then return .possessive
  return .greedy

/-- The last part of a sequence, kept in reverse, under a repetition. -/
def readRepeat (flags : Flags) (bounds : Nat × Option Nat) (items : List Node) :
    Reader (List Node) := do
  match items with
  | [] => fail
  | item :: before =>
    if !isRepeatable item || flags.template then fail
    return .loop (← readGreed) bounds.1 bounds.2 item :: before

/-- The letters of flags, as a change to the flags. -/
def setFlag? (on : Bool) (c : Char) (f : Flags) : Option Flags :=
  match c with
  | 'i' => some { f with ignoreCase := on }
  | 'm' => some { f with multiline := on }
  | 's' => some { f with dotAll := on }
  | 'x' => some { f with verbose := on }
  | 'a' => some { f with ascii := true }
  | 'u' => some { f with ascii := false }
  | 't' => some { f with template := on }
  | _ => none

/-- The letters of flags up to the first other character, which is returned too. -/
def readFlagLetters : Nat → List Char → Reader (List Char × Char)
  | 0, _ => fail
  | fuel + 1, letters => do
    match ← next? with
    | some (.plain c) =>
      if "iLmsxatu".toList.contains c then readFlagLetters fuel (letters ++ [c])
      else return (letters, c)
    | _ => fail

/-- What a flag group asks for: new flags from here on, or flags for its body. -/
inductive FlagGroup where
  | here (flags : Flags)
  | body (flags : Flags)

/-- The flags of a group, after the question mark; `first` is the character after that. -/
def readFlags (flags : Flags) (first : Char) : Reader FlagGroup := do
  let fuel := (← get).rest.length + 1
  let (on, stop) ← if first = '-' then pure ([], '-') else readFlagLetters fuel [first]
  if on.contains 'L' || (on.contains 'a' && on.contains 'u') then fail
  let raised := on.foldl (fun f c => (setFlag? true c f).getD f) flags
  if stop = ')' then
    modify fun s => { s with raised := on ++ s.raised }
    return .here raised
  if on.contains 't' then fail
  if stop = ':' then return .body raised
  if stop ≠ '-' then fail
  let (off, stop) ← readFlagLetters fuel []
  if off = [] ∨ stop ≠ ':' then fail
  if off.any fun c => "aLut".toList.contains c || on.contains c then fail
  return .body (off.foldl (fun f c => (setFlag? false c f).getD f) raised)

/-- Drops a comment, after its opening mark. -/
def skipComment : Reader Unit := do
  let s ← get
  match s.rest.dropWhile (· ≠ .plain ')') with
  | [] => fail
  | _ :: rest => set { s with rest := rest }

/-- Drops the rest of a line. -/
def skipLine : Reader Unit :=
  modify fun s => { s with rest := (s.rest.dropWhile (· ≠ .plain '\n')).tail }

/-- A part that matches nothing but the empty text. -/
def emptyNode : Node := .seq []

/-- The body of a group up to its closing parenthesis, read by `inner`. -/
def closing (inner : Reader Node) : Reader Node := do
  let body ← inner
  expect ')'
  return body

/-- A group that captures, after its opening mark and name. -/
def readCapture (name : Option String) (inner : Reader Node) : Reader Node := do
  let s ← get
  let index := s.nextGroup
  let names ← match name with
    | none => pure s.names
    | some n => if (s.names.lookup n).isSome then fail else pure (s.names ++ [(n, index)])
  set { s with nextGroup := index + 1, names := names }
  let body ← closing inner
  modify fun s => { s with closed := (index, body.width s.closed) :: s.closed }
  return .group index body

/-- A look-behind, after its opening mark. -/
def readBehind (negated : Bool) (inner : Reader Node) : Reader Node := do
  let outer := (← get).behindFrom
  if outer.isNone then modify fun s => { s with behindFrom := some s.nextGroup }
  let body ← inner
  if outer.isNone then modify fun s => { s with behindFrom := none }
  expect ')'
  let (lo, hi) := body.width (← get).closed
  if lo ≠ hi then fail
  return .behind negated lo body

/-- The group a condition asks for. -/
def readCondition : Reader Nat := do
  let name ← readUntil ')'
  let index ← if isGroupName name then
      match (← get).names.lookup (.ofList name) with
      | some index => pure index
      | none => fail
    else match Numeral.readInt name with
      | .ok (.ofNat n) =>
        if n = 0 then fail
        modify fun s => { s with asked := n :: s.asked }
        pure n
      | _ => fail
  if (← get).behindFrom.isSome then checkGroup index
  return index

/-- A reference to a group by name. -/
def readNamedBack (flags : Flags) : Reader Node := do
  let name ← readUntil ')'
  if !isGroupName name then fail
  match (← get).names.lookup (.ofList name) with
  | none => fail
  | some index =>
    checkGroup index
    return .back index flags.fold

/-- What an opening parenthesis begins. -/
inductive Opened where
  | part (node : Node)
  | flags (f : Flags)
  | nothing

mutual

/-- Alternatives, up to a closing parenthesis or the end. -/
def readAlt (flags : Flags) (outermost : Bool) : Nat → Reader Node
  | 0 => fail
  | fuel + 1 => do
    let (first, flags) ← readSeq flags outermost fuel []
    let rest ← readBranches flags fuel []
    if rest = [] then return first
    return .alt (first :: rest)

/-- Further branches, each after a bar. -/
def readBranches (flags : Flags) : Nat → List Node → Reader (List Node)
  | 0, _ => fail
  | fuel + 1, branches => do
    if ← accept '|' then
      let (b, _) ← readSeq flags false fuel []
      readBranches flags fuel (branches ++ [b])
    else return branches

/-- A sequence, kept in reverse while it is read. Only at the very start of a pattern may flags be
raised for all of it. -/
def readSeq (flags : Flags) (atStart : Bool) : Nat → List Node → Reader (Node × Flags)
  | 0, _ => fail
  | fuel + 1, items => do
    match ← peek? with
    | none | some (.plain '|') | some (.plain ')') => return (.seq items.reverse, flags)
    | some (.escaped c) =>
      let _ ← next?
      readSeq flags atStart fuel ((← readEscape flags c) :: items)
    | some (.plain c) =>
      let _ ← next?
      if flags.verbose && (Numeral.isAsciiSpace c) then readSeq flags atStart fuel items
      else if flags.verbose && c = '#' then
        skipLine
        readSeq flags atStart fuel items
      else match c with
        | '[' => readSeq flags atStart fuel ((← readSet flags) :: items)
        | '.' => readSeq flags atStart fuel (.any flags.dotAll :: items)
        | '^' =>
          readSeq flags atStart fuel
            (.anchor (if flags.multiline then .lineStart else .start) :: items)
        | '$' =>
          readSeq flags atStart fuel
            (.anchor (if flags.multiline then .lineEnd else .finish) :: items)
        | '?' => readSeq flags atStart fuel (← readRepeat flags (0, some 1) items)
        | '*' => readSeq flags atStart fuel (← readRepeat flags (0, none) items)
        | '+' => readSeq flags atStart fuel (← readRepeat flags (1, none) items)
        | '\x7b' =>
          match ← readBounds? with
          | some bounds => readSeq flags atStart fuel (← readRepeat flags bounds items)
          | none => readSeq flags atStart fuel (codeNode flags c.toNat :: items)
        | '(' =>
          match ← readOpened flags fuel with
          | .part node => readSeq flags atStart fuel (node :: items)
          | .nothing => readSeq flags atStart fuel items
          | .flags f =>
            if !atStart || items ≠ [] then fail
            readSeq f atStart fuel items
        | _ => readSeq flags atStart fuel (codeNode flags c.toNat :: items)

/-- What stands after an opening parenthesis. -/
def readOpened (flags : Flags) : Nat → Reader Opened
  | 0 => fail
  | fuel + 1 => do
    if !(← accept '?') then
      return .part (← readCapture none (readAlt flags false fuel))
    let some (.plain c) ← next? | fail
    match c with
    | ':' => return .part (.seq [← closing (readAlt flags false fuel)])
    | '>' => return .part (.atomic (← closing (readAlt flags false fuel)))
    | '=' => return .part (.look false (← closing (readAlt flags false fuel)))
    | '!' => return .part (.look true (← closing (readAlt flags false fuel)))
    | '#' =>
      skipComment
      return .nothing
    | '<' =>
      let some (.plain d) ← next? | fail
      if d = '=' then return .part (← readBehind false (readAlt flags false fuel))
      else if d = '!' then return .part (← readBehind true (readAlt flags false fuel))
      else fail
    | 'P' =>
      if ← accept '<' then
        let name ← readUntil '>'
        if !isGroupName name then fail
        return .part (← readCapture (some (.ofList name)) (readAlt flags false fuel))
      if ← accept '=' then return .part (← readNamedBack flags)
      fail
    | '(' =>
      let index ← readCondition
      let (yes, _) ← readSeq flags false fuel []
      let no ← if ← accept '|' then do
          let (no, _) ← readSeq flags false fuel []
          pure no
        else pure emptyNode
      expect ')'
      return .part (.ifGroup index yes no)
    | _ =>
      if c = '-' || "iLmsxatu".toList.contains c then
        match ← readFlags flags c with
        | .here f => return .flags f
        | .body f => return .part (.seq [← closing (readAlt f false fuel)])
      else fail

end

/-- A pattern with its named groups. -/
structure Compiled where
  node : Node
  groups : Nat
  names : List (String × Nat)

/-- Reads a pattern. -/
def parse (text : String) : Except Fault Compiled :=
  match tokens? text.toList with
  | none => .error .malformed
  | some ts =>
    match (readAlt {} true (3 * ts.length + 8)).run { rest := ts } with
    | .error fault => .error fault
    | .ok (node, s) =>
      if s.raised.contains 'a' && s.raised.contains 'u' then .error .conflictingFlags
      else if s.rest ≠ [] ∨ s.asked.any (s.nextGroup ≤ ·) then .error .malformed
      else .ok ⟨node, s.nextGroup, s.names⟩

end Gleaner.Pattern

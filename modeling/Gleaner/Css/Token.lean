import Gleaner.Css.Basic
import Gleaner.Css.Name
import Gleaner.Text.Basic
import Gleaner.Text.Case

/-! # Tokens of selectors

The parts of a written selector in their order. Reading stops at the first thing that is no part of
a selector, which leaves a `bad` token. -/

namespace Gleaner.Css

/-- What stands between two compound selectors. -/
inductive Combinator where
  | inside
  | directlyInside
  | rightAfter
  | after
  deriving DecidableEq, Repr

namespace Combinator

/-- From the right operand to the left one. -/
def backward : Combinator → Relation
  | inside => .ancestor
  | directlyInside => .parent
  | rightAfter => .previous
  | after => .earlier

/-- From the left operand to the right one. -/
def forward : Combinator → Relation
  | inside => .descendant
  | directlyInside => .child
  | rightAfter => .next
  | after => .later

/-- The combinator of a sign. -/
def ofSign? : Char → Option Combinator
  | '>' => some directlyInside
  | '+' => some rightAfter
  | '~' => some after
  | _ => none

end Combinator

/-- A part of a written selector. -/
inductive Token where
  | close
  | simple (s : Selector)
  /-- A simple selector that has to come first: the name of an element. -/
  | element (s : Selector)
  /-- A position among the elements that meet the list that follows. -/
  | positionAmong (p : Progression) (fromEnd : Bool)
  | pseudoClass (name : String) (opens : Bool)
  | combinator (c : Combinator)
  | comma
  | unsupported
  | bad
  deriving Repr

namespace Token

/-- The text is at its front a given one, letters of ASCII compared without case. -/
def dropWord? (word : String) (s : List Char) : Option (List Char) :=
  let n := word.length
  if (s.take n).map Char.toLower = word.toList then some (s.drop n) else none

/-- What follows blanks, comments and a closing parenthesis. -/
def dropClose? (s : List Char) : Option (List Char) :=
  match skip s with
  | ')' :: r => some r
  | _ => none

/-- The name of a pseudo-class in small letters. -/
def pseudoName? : Reader String := fun s =>
  match s with
  | ':' :: r => (name? r).map fun (name, rest) => (.ofList (Text.asciiLower name.toList), rest)
  | _ => none

/-- What follows the parenthesis that opens an argument. -/
def dropOpen? (s : List Char) : Option (List Char) :=
  match s with
  | '(' :: r => some (skip r)
  | _ => none

/-! ## Positions -/

/-- A number written in digits. -/
def digitsNumber (digits : List Char) : Int :=
  digits.foldl (fun n c => 10 * n + (c.toNat - 48 : Nat)) 0

/-- A number with its sign. -/
def signed (sign : Option Char) (n : Int) : Int := if sign = some '-' then -n else n

/-- A sign taken off the front. -/
def readSign (s : List Char) : Option Char × List Char :=
  match s with
  | '-' :: r => (some '-', r)
  | '+' :: r => (some '+', r)
  | _ => (none, s)

/-- The number added to a multiple, if there is one. -/
def readAddend (s : List Char) : Int × List Char :=
  let (sign, r) := readSign (skip s)
  let r := skip r
  let digits := r.takeWhile Char.isDigit
  if sign = none ∨ digits = [] then (0, s)
  else (signed sign (digitsNumber digits), r.drop digits.length)

/-- Reads a progression: `even`, `odd`, a number, or a multiple of `n` with a number added. -/
def progression? : Reader Progression := fun s =>
  let (sign, r) := readSign s
  let digits := r.takeWhile Char.isDigit
  let after := r.drop digits.length
  match dropWord? "n" after with
  | some rest =>
    let step := if digits = [] then 1 else digitsNumber digits
    let (offset, rest) := readAddend rest
    some (⟨signed sign step, offset⟩, rest)
  | none =>
    if digits ≠ [] then some (⟨0, signed sign (digitsNumber digits)⟩, after)
    else match dropWord? "even" s with
      | some rest => some (⟨2, 0⟩, rest)
      | none => (dropWord? "odd" s).map fun rest => (⟨2, 1⟩, rest)

/-- What follows the word `of` between blanks. -/
def dropOf? (s : List Char) : Option (List Char) := do
  let r ← dropWord? "of" (skip s)
  if blankAhead s && blankAhead r then some (skip r) else none

/-- A position among all siblings, or among those that a list describes. -/
def readPosition? (fromEnd : Bool) : Reader Token := fun s => do
  let (p, r) ← progression? s
  match dropClose? r with
  | some rest => return (simple (.position p fromEnd .always), rest)
  | none =>
    let rest ← dropOf? r
    return (positionAmong p fromEnd, rest)

/-- A position among the siblings of the same name. -/
def readPositionOfType? (fromEnd : Bool) : Reader Token := fun s => do
  let (p, r) ← progression? s
  let rest ← dropClose? r
  return (simple (.positionOfType p fromEnd), rest)

/-! ## Mentioned texts -/

/-- What follows a list of at most `n` values between commas. -/
def afterValues? : Nat → List Char → Option (List Char)
  | 0, _ => none
  | n + 1, s => do
    let (_, r) ← rawValue? s
    match skip r with
    | ',' :: r' =>
      match afterValues? n (skip r') with
      | some rest => some rest
      | none => some r
    | _ => some r

/-- The texts of a list of values, reading at most `n` parts. -/
def valueTexts : Nat → List Char → List String
  | 0, _ => []
  | _, [] => []
  | n + 1, c :: r =>
    match rawValue? (c :: r) with
    | some (raw, rest) => .ofList (valueText raw) :: valueTexts n rest
    | none =>
      match skip (c :: r) with
      | ',' :: rest => valueTexts n (skip rest)
      | _ => valueTexts n r

/-- Texts that an element has to mention. -/
def readMentions? (own : Bool) : Reader Token := fun s => do
  let r ← afterValues? (s.length + 1) s
  let rest ← dropClose? r
  let list := unescape false (taken s r)
  return (simple (.mentions own (valueTexts list.length list)), rest)

/-! ## Languages and directions -/

/-- Ranges of languages, in one of which that of the element has to be. -/
def readLanguages? : Reader Token := fun s => do
  let r ← afterValues? (s.length + 1) s
  let rest ← dropClose? r
  let list := taken s r
  return (simple (.speaks (valueTexts list.length list)), rest)

/-- The direction that the text of an element has to run in. -/
def readDirection? : Reader Token := fun s =>
  match dropWord? "ltr" s with
  | some r => (dropClose? r).map fun rest => (simple (.runs .leftToRight), rest)
  | none => do
    let rest ← dropClose? (← dropWord? "rtl" s)
    return (simple (.runs .rightToLeft), rest)

/-! ## Pseudo-classes -/

/-- The reader of the argument of a pseudo-class that has one of its own kind. -/
def argument? : String → Option (Reader Token)
  | "contains" => some (readMentions? false)
  | "-soup-contains" => some (readMentions? false)
  | "-soup-contains-own" => some (readMentions? true)
  | "lang" => some readLanguages?
  | "dir" => some readDirection?
  | "nth-child" => some (readPosition? false)
  | "nth-last-child" => some (readPosition? true)
  | "nth-of-type" => some (readPositionOfType? false)
  | "nth-last-of-type" => some (readPositionOfType? true)
  | _ => none

/-- Reads a pseudo-class together with an argument of its own kind. -/
def special? : Reader Token := fun s => do
  let (name, r) ← pseudoName? s
  let r ← dropOpen? r
  let reader ← argument? name
  reader r

/-- Reads the name of a pseudo-class and an opening parenthesis. -/
def plainPseudo? : Reader Token := fun s => do
  let (name, r) ← pseudoName? s
  match dropOpen? r with
  | some rest => return (pseudoClass name true, rest)
  | none => return (pseudoClass name false, r)

/-- Reads the name of a pseudo-element. -/
def pseudoElement? : Reader Token := fun s =>
  match s with
  | ':' :: ':' :: r => (name? r).map fun (_, rest) => (unsupported, (dropOpen? rest).getD rest)
  | _ => none

/-! ## Names, classes and attributes -/

/-- What stands before the bar of a qualified name: a name, an asterisk or nothing. -/
def qualifier? : Reader String := fun s =>
  let (q, r) := match s with
    | '*' :: r => ("*", r)
    | s => (name? s).getD ("", s)
  match r with
  | '|' :: rest => some (q, rest)
  | _ => none

/-- Reads the name of an element or an asterisk. -/
def elementName? : Reader Selector := fun s =>
  match s with
  | '*' :: r => some (.always, r)
  | s => (name? s).map fun (name, rest) => (.named (.ofList (Text.asciiLower name.toList)), rest)

/-- Reads the name of an element with its qualifier. A qualifier other than an asterisk names
elements that no document has. -/
def element? : Reader Token := fun s =>
  let qualified := do
    let (q, r) ← qualifier? s
    let (sel, rest) ← elementName? r
    return (element (if q = "*" then sel else .never), rest)
  qualified.orElse fun _ => (elementName? s).map fun (sel, rest) => (element sel, rest)

/-- The comparison of a sign, and whether it is negated. -/
def comparison? : Reader (Comparison × Bool) := fun s =>
  match s with
  | '=' :: r => some ((.equals, false), r)
  | '!' :: '=' :: r => some ((.equals, true), r)
  | '~' :: '=' :: r => some ((.hasWord, false), r)
  | '^' :: '=' :: r => some ((.beginsWith, false), r)
  | '|' :: '=' :: r => some ((.hasLanguage, false), r)
  | '*' :: '=' :: r => some ((.holds, false), r)
  | '$' :: '=' :: r => some ((.endsWith, false), r)
  | _ => none

/-- What follows blanks, comments and a closing bracket. -/
def dropBracket? (s : List Char) : Option (List Char) :=
  match skip s with
  | ']' :: r => some r
  | _ => none

/-- The flag before a closing bracket, and what follows the bracket. -/
def readFlag? : Reader (Option Char) := fun s =>
  match dropBracket? s with
  | some rest => some (none, rest)
  | none =>
    match skip s with
    | c :: r =>
      if c.toLower = 'i' || c.toLower = 's' then
        (dropBracket? r).map fun rest => (some c.toLower, rest)
      else none
    | [] => none

/-- The name of an attribute; a qualifier does not matter. -/
def attributeName? : Reader String := fun s =>
  let qualified := do
    let (_, r) ← qualifier? s
    name? r
  qualified.orElse fun _ => name? s

/-- What follows the name of an attribute. The values of `type` are compared without case. -/
def readTest? (name : String) : Reader Selector := fun s =>
  match dropBracket? s with
  | some rest => some (.attribute name none, rest)
  | none => do
    let ((comparison, negated), r) ← comparison? (skip s)
    let (raw, r) ← rawValue? (skip r)
    let (flag, rest) ← readFlag? r
    let caseless := match flag with
      | some c => c = 'i'
      | none => Text.asciiLower name.toList = "type".toList
    let sel := .attribute name (some ⟨comparison, .ofList (valueText raw), caseless⟩)
    return (if negated then .negated sel else sel, rest)

/-- Reads a condition on an attribute. -/
def attribute? : Reader Token := fun s =>
  match s with
  | '[' :: r => do
    let r := skip r
    let qualified := do
      let (name, r) ← attributeName? r
      readTest? name r
    let plain := do
      let (name, r) ← name? r
      readTest? name r
    (qualified.orElse fun _ => plain).map fun (sel, rest) => (simple sel, rest)
  | _ => none

/-- Reads a condition on the `id`. -/
def id? : Reader Token := fun s =>
  match s with
  | '#' :: r => (name? r).map fun (name, rest) => (simple (.id name), rest)
  | _ => none

/-- Reads a condition on the classes. -/
def class? : Reader Token := fun s =>
  match s with
  | '.' :: r => (name? r).map fun (name, rest) => (simple (.classed name), rest)
  | _ => none

/-! ## All tokens -/

/-- Reads a comma or a combinator with the blanks and comments around it. -/
def combinator? : Reader Token := fun s =>
  let r := skip s
  match r with
  | ',' :: rest => some (comma, skip rest)
  | c :: rest =>
    match Combinator.ofSign? c with
    | some k => some (combinator k, skip rest)
    | none => if blankAhead s then some (combinator .inside, r) else none
  | [] => if blankAhead s then some (combinator .inside, r) else none

/-- Reads a single token. -/
def read? : Reader Token := fun s =>
  let close := (dropClose? s).map fun rest => (Token.close, rest)
  let scope := match s with
    | '&' :: rest => some (simple .scope, rest)
    | _ => none
  let rule := match s with
    | '@' :: r => do
      let r ← dropWord? "p" r
      (name? r).map fun (_, rest) => (unsupported, rest)
    | _ => none
  close <|> special? s <|> plainPseudo? s <|> pseudoElement? s <|> scope <|> rule <|> id? s <|>
    class? s <|> element? s <|> attribute? s <|> combinator? s

/-- The tokens of a text up to its last `stop` characters, reading at most `n`. -/
def readAll (stop : Nat) : Nat → List Char → List Token
  | 0, _ => []
  | n + 1, s =>
    if s.length ≤ stop then []
    else match read? s with
      | some (t, rest) => t :: readAll stop n rest
      | none => [bad]

/-- How many blanks and comments end a text: the longest ending that is nothing else. -/
def trailing : List Char → Nat
  | [] => 0
  | c :: r => if skip (c :: r) = [] then (c :: r).length else trailing r

/-- The tokens of a written selector, blanks and comments at its ends left out. -/
def ofText (text : List Char) : List Token :=
  let s := skip (text.map fun c => if c = '\x00' then '\uFFFD' else c)
  readAll (trailing s) (s.length + 1) s

end Token

end Gleaner.Css

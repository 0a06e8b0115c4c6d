import Gleaner.Markup.Event

/-! # Reading fragments

Reads markup as it stands: no element is added, and an element ends only at an end tag, at the end
of an element around it, or because it is void. What is no markup is text; when the text ends
inside something unfinished, a second, final pass takes the rest as it is. -/

namespace Gleaner.Markup.Fragment

/-- What one piece of markup yields: its events, the element whose raw text follows, and the rest
of the text. -/
structure Piece where
  events : List Event
  raw : Option String := none
  rest : List Char

/-- The text before the first place where `p` holds, and from there on. -/
def breakAt (p : List Char → Bool) : List Char → List Char × Option (List Char)
  | [] => ([], none)
  | c :: r =>
    if p (c :: r) then ([], some (c :: r))
    else
      let (before, rest) := breakAt p r
      (c :: before, rest)

/-- What follows a `>`, and the text before it. -/
def upToClose? (s : List Char) : Option (List Char × List Char) :=
  match s.dropWhile (· ≠ '>') with
  | [] => none
  | _ :: rest => some (s.takeWhile (· ≠ '>'), rest)

/-- The characters of an end tag's name. -/
def isEndNameChar (c : Char) : Bool :=
  c.isAlphanum || c = '-' || c = '.' || c = ':' || c = '_'

/-- An end tag that holds a name and blanks only. -/
def plainEnd? (s : List Char) : Option (String × List Char) :=
  match s with
  | '<' :: '/' :: r =>
    let r := Text.trimStart r
    match r with
    | c :: _ =>
      if c.isAlpha then
        match Text.trimStart (r.dropWhile isEndNameChar) with
        | '>' :: rest => some (lowerName (r.takeWhile isEndNameChar), rest)
        | _ => none
      else none
    | [] => none
  | _ => none

/-- An end tag, after `</`. -/
def endTag? (s : List Char) : Option Piece := do
  let (inside, rest) ← upToClose? s
  match plainEnd? ('<' :: '/' :: s) with
  | some (name, rest) => some ⟨[.closed name], none, rest⟩
  | none =>
    match s with
    | c :: _ =>
      if c.isAlpha then
        some ⟨[.closed (lowerName (s.takeWhile isTagNameChar))], none, rest⟩
      else if c = '>' then some ⟨[], none, rest⟩
      else some ⟨[.apart .comment inside], none, rest⟩
    | [] => none

/-- A text that ends at `--`, blanks and `>`. -/
def endsComment (s : List Char) : Bool :=
  match s with
  | '-' :: '-' :: r => (Text.trimStart r).head? = some '>'
  | _ => false

/-- A comment, after `<!--`. -/
def comment? (s : List Char) : Option Piece :=
  match breakAt endsComment s with
  | (inside, some rest) =>
    some ⟨[.apart .comment inside], none, (Text.trimStart (rest.drop 2)).tail⟩
  | (_, none) => none

/-- A text that ends at two brackets and `>`, with blanks between them. -/
def endsSection (s : List Char) : Bool :=
  match s with
  | ']' :: r =>
    match Text.trimStart r with
    | ']' :: r => (Text.trimStart r).head? = some '>'
    | _ => false
  | _ => false

/-- A marked section, after `<![`. -/
def markedSection? (s : List Char) : Option Piece :=
  match breakAt endsSection s with
  | (inside, some rest) =>
    let rest := (rest.dropWhile (· ≠ '>')).tail
    if (inside.take 6).map Char.toUpper = "CDATA[".toList then
      some ⟨[.apart .cdata (inside.drop 6)], none, rest⟩
    else some ⟨[.apart .declaration inside], none, rest⟩
  | (_, none) => none

/-- A declaration, after `<!`. -/
def declaration? (s : List Char) : Option Piece :=
  match s with
  | '-' :: '-' :: r => comment? r
  | '[' :: r => markedSection? r
  | _ => do
    let (inside, rest) ← upToClose? s
    if (inside.take 7).map Char.toLower = "doctype".toList then
      some ⟨[.apart .doctype (inside.drop 8)], none, rest⟩
    else some ⟨[.apart .comment inside], none, rest⟩

/-- A start tag, after `<`. -/
def startTag? (s : List Char) : Option Piece := do
  let (tag, rest) ← readTag? false s
  let attrs := lastValues tag.attrs
  if tag.selfClosing then some ⟨[.single tag.name attrs], none, rest⟩
  else
    let raw := if rawElements.contains tag.name then some tag.name else none
    some ⟨[.opened tag.name attrs], raw, rest⟩

/-- What a `<` begins, if it is complete. A `<` before anything else is text. -/
def markup? (s : List Char) : Option Piece :=
  match s with
  | [] => none
  | c :: r =>
    if c.isAlpha then startTag? s
    else match c with
      | '/' => endTag? r
      | '!' => declaration? r
      | '?' => (upToClose? r).map fun (inside, rest) => ⟨[.apart .instruction inside], none, rest⟩
      | _ => some ⟨[.chars ['<']], none, s⟩

/-- Unfinished markup taken as text: up to the next `>`, or else up to the next `<`. -/
def unfinished (s : List Char) : List Char × List Char :=
  match upToClose? s with
  | some (inside, rest) => (inside ++ ['>'], rest)
  | none => if s.contains '<' then (s.takeWhile (· ≠ '<'), s.dropWhile (· ≠ '<')) else ([], s)

/-- A reference by number that something other than a digit follows, after `&#`. -/
def numberReference? (s : List Char) : Option (List Char × List Char) :=
  match readNumber? s with
  | some (n, c :: rest) =>
    if (Text.hexValue? c).isSome then none
    else
      let ch := if 0 < n ∧ n < 256 ∨ n.isValidChar ∧ n ≠ 0 then numbered n else
        if n = 0 then Char.ofNat 0 else noCharacter
      some ([ch], dropSemicolon (c :: rest))
  | _ => none

/-- A character of a name in a reference. -/
def isReferenceChar (c : Char) : Bool := c.isAlphanum || c = '-' || c = '.'

/-- A reference by name that something other than a letter or digit follows, after `&`. An unknown
name stands for itself, without its semicolon. -/
def nameReference? (s : List Char) : Option (List Char × List Char) :=
  let name := s.takeWhile isReferenceChar
  let rest := s.dropWhile isReferenceChar
  let cut := if rest ≠ [] then some (name, rest)
    else
      let back := name.reverse.takeWhile Char.isAlphanum
      if back.length = name.length then none
      else some (name.take (name.length - back.length - 1), name.drop (name.length - back.length - 1))
  match cut with
  | some (name, rest) =>
    let chars := match entity? name with
      | some e => e.chars
      | none => '&' :: name
    some (chars, dropSemicolon rest)
  | none => none

/-- The events of a text, read in a first or the final pass, within `fuel` steps. -/
def eventsWithin : Nat → Bool → Option String → List Char → List Event
  | 0, _, _, _ => []
  | _, _, _, [] => []
  | fuel + 1, final, some raw, s =>
    match breakAt (fun t => (plainEnd? t).any (·.1 = raw)) s with
    | (_, none) => []
    | (before, some t) =>
      let rest := match plainEnd? t with | some (_, rest) => rest | none => []
      (if before = [] then [] else [.chars before]) ++
        .closed raw :: eventsWithin fuel final none rest
  | fuel + 1, final, none, s =>
    let stop := fun s : List Char =>
      if final then [.chars s] else eventsWithin fuel true none s
    match s with
    | '<' :: r =>
      match markup? r with
      | some piece => piece.events ++ eventsWithin fuel final piece.raw piece.rest
      | none =>
        if !final then stop s
        else if r = [] then [.chars s]
        else
          let (text, rest) := unfinished r
          .chars ('<' :: text) :: eventsWithin fuel final none rest
    | '&' :: '#' :: r =>
      match numberReference? r with
      | some (chars, rest) => .chars chars :: eventsWithin fuel final none rest
      | none => if r.contains ';' then .chars ['&', '#'] :: stop r else stop s
    | '&' :: r =>
      match r with
      | [] => stop s
      | c :: _ =>
        if c.isAlpha then
          match nameReference? r with
          | some (chars, rest) => .chars chars :: eventsWithin fuel final none rest
          | none => if final && r.length = 1 then [.chars r] else stop s
        else .chars ['&'] :: eventsWithin fuel final none r
    | _ =>
      let plain := s.takeWhile fun c => c ≠ '<' && c ≠ '&'
      .chars plain :: eventsWithin fuel final none (s.drop plain.length)

/-- The events with every void element closed at once. A later end of the same name, even that of
an element that closes itself, then closes nothing: `due` holds the names of those ends. -/
def closeVoid (due : List String) : List Event → List Event
  | [] => []
  | .opened name attrs :: r =>
    if voidElements.contains name then .single name attrs :: closeVoid (name :: due) r
    else .opened name attrs :: closeVoid due r
  | .single name attrs :: r =>
    if due.contains name then .opened name attrs :: closeVoid (due.erase name) r
    else .single name attrs :: closeVoid due r
  | .closed name :: r =>
    if due.contains name then closeVoid (due.erase name) r else .closed name :: closeVoid due r
  | e :: r => e :: closeVoid due r

/-- The nodes of a fragment. -/
def parse (markup : String) : List Node :=
  let s := markup.toList
  Node.ofEvents (closeVoid [] (eventsWithin (2 * s.length + 4) false none s))

end Gleaner.Markup.Fragment

import Gleaner.Markup.Entity
import Gleaner.Markup.Node
import Gleaner.Text.Basic

/-! # Tags and events

What start tags say, and how the events of reading markup make a tree. -/

namespace Gleaner.Markup

/-! ## Tags

Reads the inside of a start tag: its name, its attributes and whether it closes itself. -/

/-- The white space of markup. -/
def isSpace (c : Char) : Bool := c = ' ' || c = '\t' || c = '\n' || c = '\x0c' || c = '\r'

/-- A text without leading white space. -/
def skipSpace (s : List Char) : List Char := s.dropWhile isSpace

/-- A start tag. -/
structure Tag where
  name : String
  attrs : List (String × String)
  selfClosing : Bool
  deriving Repr

/-- A character of a tag's name. -/
def isTagNameChar (c : Char) : Bool := !isSpace c && c ≠ '/' && c ≠ '>'

/-- A character of an attribute's name. -/
def isAttrNameChar (c : Char) : Bool := isTagNameChar c && c ≠ '='

/-- A name in lower case. -/
def lowerName (s : List Char) : String := .ofList (s.map Char.toLower)

/-- The value after an equals sign, and the rest; nothing if its quotes are never closed. -/
def readValue? (s : List Char) : Option (List Char × List Char) :=
  match skipSpace (s.dropWhile (· = '=')) with
  | [] => none
  | q :: r =>
    if q = '"' ∨ q = '\x27' then
      match r.dropWhile (· ≠ q) with
      | [] => none
      | _ :: rest => some (r.takeWhile (· ≠ q), rest)
    else
      let bare := (q :: r).takeWhile fun c => !isSpace c && c ≠ '>'
      some (bare, (q :: r).drop bare.length)

/-- Reads attributes up to the end of the tag, within `fuel` steps. -/
def readAttrs? (guarded : Bool) : Nat → List (String × String) → List Char →
    Option (List (String × String) × Bool × List Char)
  | 0, _, _ => none
  | fuel + 1, attrs, s =>
    match skipSpace s with
    | [] => none
    | '>' :: rest => some (attrs, false, rest)
    | '/' :: '>' :: rest => some (attrs, true, rest)
    | '/' :: rest => readAttrs? guarded fuel attrs rest
    | c :: r =>
      let name := c :: r.takeWhile isAttrNameChar
      let after := r.dropWhile isAttrNameChar
      match skipSpace after with
      | '=' :: _ =>
        match readValue? (skipSpace after) with
        | some (v, rest) =>
          readAttrs? guarded fuel (attrs ++ [(lowerName name, .ofList (expand guarded v))]) rest
        | none => none
      | _ => readAttrs? guarded fuel (attrs ++ [(lowerName name, "")]) after

/-- Reads a start tag after its opening sign; the rest of the text follows. -/
def readTag? (guarded : Bool) (s : List Char) : Option (Tag × List Char) :=
  let name := s.takeWhile isTagNameChar
  match readAttrs? guarded (s.length + 1) [] (s.dropWhile isTagNameChar) with
  | some (attrs, selfClosing, rest) => some (⟨lowerName name, attrs, selfClosing⟩, rest)
  | none => none

/-- Attributes with every name once: the first value counts. -/
def firstValues (attrs : List (String × String)) : List (String × String) :=
  attrs.foldl (fun kept (k, v) => if kept.any (·.1 = k) then kept else kept ++ [(k, v)]) []

/-- Attributes with every name once, at its first place: the last value counts. -/
def lastValues (attrs : List (String × String)) : List (String × String) :=
  attrs.foldl (fun kept (k, v) =>
    if kept.any (·.1 = k) then kept.map fun (n, w) => if n = k then (n, v) else (n, w)
    else kept ++ [(k, v)]) []

/-! ## From events to trees

Reading markup yields events: elements open and close, and characters come in between.
`Node.ofEvents` builds the tree. Characters that come in a row are one run; a run of nothing but
blanks shrinks to one line end or one space unless the blanks are to be preserved. -/

/-- What reading markup yields. -/
inductive Event where
  | opened (name : String) (attrs : List (String × String))
  | closed (name : String)
  | single (name : String) (attrs : List (String × String))
  | chars (s : List Char)
  | apart (kind : TextKind) (s : List Char)
  deriving Repr

/-- Elements whose blanks are preserved. -/
def preservingElements : List String := ["pre", "textarea"]

/-- A blank that a run may shrink to. -/
def shrinks (c : Char) : Bool :=
  c = ' ' || c = '\n' || c = '\t' || c = '\x0c' || c = '\r'

/-- A run of nothing but blanks as one line end or one space. -/
def shrink (s : List Char) : List Char :=
  if s.all shrinks then if s.contains '\n' then ['\n'] else [' '] else s

/-- An open element: its name and attributes and the children so far, last first. -/
structure OpenElement where
  name : String
  attrs : List (String × String)
  children : List Node := []

/-- Attributes that hold several values between blanks, for every element. -/
def listAttrs : List String := ["class", "accesskey", "dropzone"]

/-- Attributes that hold several values between blanks, for certain elements. -/
def elementListAttrs : List (String × List String) :=
  [("a", ["rel", "rev"]), ("link", ["rel", "rev"]), ("td", ["headers"]), ("th", ["headers"]),
   ("form", ["accept-charset"]), ("object", ["archive"]), ("area", ["rel"]), ("icon", ["sizes"]),
   ("iframe", ["sandbox"]), ("output", ["for"])]

/-- Whether an attribute holds several values. -/
def isListAttr (element attr : String) : Bool :=
  listAttrs.contains attr || ((elementListAttrs.lookup element).getD []).contains attr

/-- Attributes with several values brought to one space between values. -/
def unifyAttrs (element : String) (attrs : List (String × String)) : List (String × String) :=
  attrs.map fun (k, v) =>
    if isListAttr element k then
      (k, " ".intercalate ((Text.words v.toList).map String.ofList))
    else (k, v)

/-- A tree under construction: the open elements, innermost first, the finished nodes of the
document, last first, and the characters of the current run, last first. -/
structure Builder where
  stack : List OpenElement := []
  nodes : List Node := []
  run : List (List Char) := []

namespace Builder

/-- Adds a finished node. -/
def add (b : Builder) (n : Node) : Builder :=
  match b.stack with
  | [] => { b with nodes := n :: b.nodes }
  | e :: rest => { b with stack := { e with children := n :: e.children } :: rest }

/-- The kind of ordinary text at this place. -/
def textKind (b : Builder) : TextKind :=
  match b.stack.find? fun e => apartElements.contains e.name with
  | some e => .apart e.name
  | none => .plain

/-- Adds a run of characters. -/
def addRun (b : Builder) (kind : TextKind) (s : List Char) : Builder :=
  let preserved := b.stack.any fun e => preservingElements.contains e.name
  b.add (.text kind (.ofList (if preserved then s else shrink s)))

/-- Ends the current run of characters. -/
def flush (b : Builder) : Builder :=
  match b.run with
  | [] => b
  | run => { b with run := [] }.addRun b.textKind run.reverse.flatten

/-- Closes the innermost element. -/
def pop (b : Builder) : Builder :=
  match b.stack with
  | [] => b
  | e :: rest => { b with stack := rest }.add (.element e.name e.attrs e.children.reverse)

/-- Closes elements until one of the given name is closed, at most `fuel` of them. -/
def popTo (name : String) : Nat → Builder → Builder
  | 0, b => b
  | fuel + 1, b =>
    match b.stack with
    | [] => b
    | e :: _ => if e.name = name then b.pop else popTo name fuel b.pop

/-- Takes in one event. An end that no open element has is ignored. -/
def step (b : Builder) : Event → Builder
  | .opened name attrs =>
    let b := b.flush
    { b with stack := ⟨name, unifyAttrs name attrs, []⟩ :: b.stack }
  | .closed name =>
    let b := b.flush
    if b.stack.any (·.name = name) then popTo name b.stack.length b else b
  | .single name attrs => b.flush.add (.element name (unifyAttrs name attrs) [])
  | .chars s => { b with run := s :: b.run }
  | .apart kind s => b.flush.addRun kind s

/-- The finished nodes, everything closed. -/
def finish (b : Builder) : List Node :=
  let b := b.flush
  (b.stack.foldl (fun b _ => b.pop) b).nodes.reverse

end Builder

/-- The nodes of a document. -/
def Node.ofEvents (events : List Event) : List Node := (events.foldl Builder.step {}).finish

end Gleaner.Markup

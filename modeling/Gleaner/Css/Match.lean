import Gleaner.Css.Control
import Gleaner.Css.Element
import Gleaner.Css.Parse
import Gleaner.Text.Case

/-! # Matching selectors

`Selector.matchesAt` decides whether a place in a document meets a selector, `select` lists the
elements below a place that do, in document order.

The language of an element is the one that it or the nearest element around it names, or else the
one that the head of the document names. Its direction is the one that it or an element around it
has, where the direction of a text may decide. Both stay inside the document of a frame, while the
relations between elements go through it. Names of elements are compared as they are written, without
namespaces. -/

namespace Gleaner.Css

open Markup (Cursor Node)
open Text (Direction)

/-! ## Languages -/

/-- The languages that an element and those around it name, the nearest first. -/
def namedLanguages (c : Cursor) : List String :=
  (c :: ancestorsInside c).filterMap (attrValue? · "lang")

/-- The first of the elements below a place with a name. -/
def childNamed? (name : String) (c : Cursor) : Option Cursor := c.elements.find? (isNamed · [name])

/-- The head of the document of an element. -/
def headOf? (c : Cursor) : Option Cursor := do
  let html ← childNamed? "html" ((c :: ancestorsInside c).getLast?.getD c)
  childNamed? "head" html

/-- The language that an element of a head names. -/
def metaLanguage? (c : Cursor) : Option String :=
  if isNamed c ["meta"] && (attrValue? c "http-equiv").any (smallName · = "content-language") then
    (attrValue? c "content").filter (· ≠ "")
  else none

/-- The language of an element: the nearest one that is named and not blank, a blank one if no other
is named, or the one of the head. A head without a language counts as one that names a blank one. -/
def languageOf? (c : Cursor) : Option String :=
  match namedLanguages c with
  | [] => (headOf? c).map fun head => (head.elements.findSome? metaLanguage?).getD ""
  | named => some ((named.find? (· ≠ "")).getD "")

/-- The parts of a language or of a range, in small letters. -/
def subtags (s : String) : List (List Char) := Text.splitOn '-' (Text.lower s.toList)

/-- The parts of a range without the wildcards behind the first part. One at the end leaves a blank
part. -/
def rangeParts (range : String) : List (List Char) :=
  match subtags range with
  | first :: rest =>
    first :: rest.filter (· ≠ ['*']) ++ if rest.getLast? = some ['*'] then [[]] else []
  | [] => []

/-- Whether the parts of a language meet those of a range behind the first one. A single letter
cannot be passed over. -/
def meetsRest : List (List Char) → List (List Char) → Bool
  | [], _ => true
  | _ :: _, [] => false
  | r :: rs, s :: ss =>
    if r = [] then false
    else if s = r then meetsRest rs ss
    else s.length ≠ 1 && meetsRest (r :: rs) ss

/-- Whether a language is in a range. -/
def isInRange (range language : String) : Bool :=
  match rangeParts range, subtags language with
  | [[]], [[]] => true
  | r :: rs, s :: ss => (if r = ['*'] then s ≠ [] || ss ≠ [] else r = s) && meetsRest rs ss
  | _, _ => false

/-! ## Directions -/

/-- The direction of a text: that of its first character with one. -/
def directionOf? (s : List Char) : Option Direction := s.findSome? Text.direction?

/-- What an element asks for as its direction: one of the two, or that its text decides. -/
def askedDirection? (attrs : List (String × String)) : Option (Option Direction) := do
  let (_, value) ← attrs.find? fun (k, _) => smallName k = "dir"
  match smallName value with
  | "ltr" => return some .leftToRight
  | "rtl" => return some .rightToLeft
  | "auto" => return none
  | _ => none

/-- The elements whose text does not decide about the elements around them. -/
def secludedElements : List String := ["bdi", "script", "style", "textarea", "iframe"]

mutual

/-- The direction of the text in a node. -/
def textDirection? : Node → Option Direction
  | .element name attrs children =>
    if secludedElements.contains (smallName name) || (askedDirection? attrs).isSome then none
    else textsDirection? children
  | .text kind content => if isContent kind then directionOf? content.toList else none

/-- The direction of the text in nodes that follow each other. -/
def textsDirection? : List Node → Option Direction
  | [] => none
  | n :: ns => textDirection? n <|> textsDirection? ns

end

/-- The kinds of input whose value decides about their direction. -/
def typedInputs : List String := ["text", "search", "tel", "url", "email"]

/-- The text that somebody may type into a control. -/
def typedText? (c : Cursor) : Option (List Char) :=
  if isNamed c ["textarea"] then some (ownTexts c).flatten
  else if isNamed c ["input"] &&
      typedInputs.contains (smallName ((attrValue? c "type").getD "")) then
    some ((attrValue? c "value").getD "").toList
  else none

/-- Whether an element is for telephone numbers. -/
def isTelephone (c : Cursor) : Bool :=
  isNamed c ["input"] && (attrValue? c "type").any (smallName · = "tel")

/-- The direction of an element: the one that it asks for, the one of its text, or that of the
element around it. A document runs from left to right unless it asks for something else. -/
def runningDirection? : Cursor → Option Direction
  | .document _ => none
  | .child parent index node =>
    let c := Cursor.child parent index node
    let around := if isFrame parent then none else runningDirection? parent
    -- Where no text decides, the first element of a document runs from left to right.
    let unsettled := if isFirstElement c then some .leftToRight else around
    match askedDirection? c.attrs with
    | some (some direction) => some direction
    | some none =>
      match typedText? c with
      | some [] => unsettled
      | some text => some ((directionOf? text).getD .leftToRight)
      | none => textsDirection? c.nodes <|> unsettled
    | none =>
      if isFirstElement c || isTelephone c then some .leftToRight
      else if isNamed c ["bdi"] then textsDirection? c.nodes <|> around
      else around

/-! ## Selectors -/

/-- How many of the elements up to a place, from the start or the end of its siblings, are
counted. -/
def positionOf (fromEnd : Bool) (counts : Cursor → Bool) (c : Cursor) : Nat :=
  ((if fromEnd then c.later else c.earlier).filter counts).length + 1

/-- Whether a place meets a selector. `scope` says which place the selector is asked from. -/
def Selector.matchesAt (scope : Cursor → Bool) : Selector → Cursor → Bool
  | always, _ => true
  | never, _ => false
  | both a b, c => a.matchesAt scope c && b.matchesAt scope c
  | either a b, c => a.matchesAt scope c || b.matchesAt scope c
  | negated a, c => !a.matchesAt scope c
  | related r a, c => (r.reach c).any (a.matchesAt scope)
  | named name, c => smallName c.name = name
  | id value, c => c.attr? "id" = some value
  | classed name, c =>
    ((c.attr? "class").map fun v => Text.words v.toList).any (·.contains name.toList)
  | .attribute name test, c =>
    match attrValue? c name with
    | some value => match test with
      | some t => t.accepts value
      | none => true
    | none => false
  | position p fromEnd among, c =>
    p.contains (positionOf fromEnd (among.matchesAt scope) c)
  | positionOfType p fromEnd, c =>
    p.contains (positionOf fromEnd (fun d => smallName d.name = smallName c.name) c)
  | root, c => isRoot c
  | .scope, c => scope c
  | empty, c => isEmpty c
  | mentions own texts, c => mentionsOneOf own texts c
  | speaks ranges, c => (languageOf? c).any fun language => ranges.any (isInRange · language)
  | runs direction, c => runningDirection? c = some direction
  | .is condition, c => condition.holdsAt c

/-- Whether a place is the one a selector is asked from. For a whole document that is its first
top-level element. -/
def isScope (asked : Cursor) (c : Cursor) : Bool :=
  if asked.isDocument then asked.elements.head?.any c.isSame else c.isSame asked

/-- The elements below a place that meet a selector, in document order. -/
def Selector.select (s : Selector) (asked : Cursor) : List Cursor :=
  asked.descendants.filter (s.matchesAt (isScope asked))

end Gleaner.Css

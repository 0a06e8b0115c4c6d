import Gleaner.Css.Basic
import Gleaner.Css.Name
import Gleaner.Pattern.Basic
import Gleaner.Text.Basic

/-! # What selectors ask of an element

Its attributes and their values, the texts in it, and whether it stands alone. A frame holds a
document of its own, so the document around the frame does not reach into it. -/

namespace Gleaner.Css

open Markup (Cursor Node TextKind)

/-! ## Values of attributes -/

/-- A text as it is compared. -/
def comparable (caseless : Bool) (s : String) : List Nat :=
  s.toList.map fun c => if caseless then Pattern.foldCode .full c.toNat else c.toNat

/-- The beginnings of a text after which it ends, or has but one line end left. -/
def endings (s : List Nat) : List (List Nat) := if s.getLast? = some 10 then [s, s.dropLast] else [s]

/-- Whether one text occurs in another. -/
def occursIn (part : List Nat) : List Nat → Bool
  | [] => part.isEmpty
  | c :: r => part.isPrefixOf (c :: r) || occursIn part r

/-- The words between the blanks of a text. -/
def blankWords (s : List Char) : List (List Char) :=
  s.foldr (fun c words =>
    if isBlank c then [] :: words
    else match words with
      | w :: ws => (c :: w) :: ws
      | [] => [[c]]) [[]]

/-- Whether the value of an attribute passes a test. -/
def ValueTest.accepts (t : ValueTest) (value : String) : Bool :=
  let v := comparable t.caseless value
  let w := comparable t.caseless t.operand
  match t.comparison with
  | .equals => (endings v).contains w
  | .beginsWith => w.isPrefixOf v
  | .endsWith => (endings v).any w.isSuffixOf
  | .holds => occursIn w v
  | .hasWord =>
    w ≠ [] && !t.operand.toList.any isBlank &&
      (blankWords value.toList).any fun word => comparable t.caseless (.ofList word) = w
  | .hasLanguage => (endings v).contains w || (w ++ [45]).isPrefixOf v

/-- A name with the letters of ASCII in small. -/
def smallName (s : String) : String := .ofList (Text.asciiLower s.toList)

/-- The value of an attribute, whatever the case of its name. -/
def attrValue? (c : Cursor) (name : String) : Option String :=
  (c.attrs.find? fun (k, _) => smallName k = smallName name).map (·.2)

/-- Whether an attribute has a value, case put aside. -/
def attrIs (c : Cursor) (name value : String) : Bool :=
  (attrValue? c name).any (ValueTest.accepts ⟨.equals, value, true⟩)

/-- Whether an attribute is missing or has one of some values, case put aside. -/
def attrIsAbsentOr (c : Cursor) (name : String) (values : List String) : Bool :=
  (attrValue? c name).isNone || values.any (attrIs c name)

/-- Whether an attribute is there. -/
def hasAttr (c : Cursor) (name : String) : Bool := (attrValue? c name).isSome

/-! ## Texts -/

/-- Whether characters of a kind are content of an element. -/
def isContent : TextKind → Bool
  | .plain | .apart _ => true
  | _ => false

/-- The runs of characters right below a place. -/
def ownTexts (c : Cursor) : List (List Char) :=
  c.nodes.filterMap fun
    | .text kind content => if isContent kind then some content.toList else none
    | .element .. => none

/-- Whether a place mentions one of some texts, in a run of its own or anywhere below. -/
def mentionsOneOf (own : Bool) (texts : List String) (c : Cursor) : Bool :=
  let content := if own then ownTexts c else [c.textOf isContent]
  texts.any fun t => content.any (Text.occursIn t.toList)

/-- Whether a place has no elements and no characters but blanks below it. -/
def isEmpty (c : Cursor) : Bool :=
  c.nodes.all fun
    | .element .. => false
    | .text kind content => !isContent kind || content.toList.all isBlank

/-! ## Frames -/

/-- Whether the element has one of some names. -/
def isNamed (c : Cursor) (names : List String) : Bool := names.contains (smallName c.name)

/-- Whether an element holds a document of its own. -/
def isFrame (c : Cursor) : Bool := isNamed c ["iframe"]

/-- The cursors above in the same document, the nearest first. -/
def ancestorsInside (c : Cursor) : List Cursor := c.ancestors.takeWhile (!isFrame ·)

/-- The cursor one level up in the same document. -/
def parentInside? (c : Cursor) : Option Cursor := (ancestorsInside c).head?

/-- The elements below a cursor that belong to its document, in document order. -/
def descendantsInside (c : Cursor) : List Cursor :=
  c.descendants.filter fun d => !(d.ancestors.take (d.path.length - c.path.length)).any isFrame

/-- Whether an element is the first one of its document. -/
def isFirstElement (c : Cursor) : Bool :=
  c.parent?.any isFrame || c.top.elements.head?.any c.isSame

/-- Whether a place is the single top-level element of its document, with nothing but blanks and
comments beside it. -/
def isRoot (c : Cursor) : Bool :=
  match c with
  | .child parent index _ =>
    c.isElement && (parent.isDocument || isFrame parent) && parent.nodes.zipIdx.all fun (n, i) =>
      i == index || match n with
        | .element .. => false
        | .text .cdata _ => false
        | .text kind content => !isContent kind || content.toList.all Text.isBlank
  | _ => false

end Gleaner.Css

import Gleaner.Markup.Cursor
import Gleaner.Text.Direction

/-! # Selectors

A selector is a condition on an element and its place in the document. Compound selectors are
conjunctions, lists are disjunctions, and a combinator says that another place, reached from the
element by a relation, meets a condition of its own. -/

namespace Gleaner.Css

open Markup (Cursor)

/-- How other places are reached from an element. -/
inductive Relation where
  | ancestor
  | parent
  | earlier
  | previous
  | descendant
  | child
  | later
  | next
  deriving DecidableEq, Repr

/-- The places that a relation reaches. -/
def Relation.reach : Relation → Cursor → List Cursor
  | ancestor, c => c.ancestors
  | parent, c => c.parent?.toList
  | earlier, c => c.earlier
  | previous, c => c.earlier.take 1
  | descendant, c => c.descendants
  | child, c => c.elements
  | later, c => c.later
  | next, c => c.later.take 1

/-- A way to compare an attribute's value. -/
inductive Comparison where
  | equals
  | beginsWith
  | endsWith
  | holds
  | hasWord
  | hasLanguage
  deriving DecidableEq, Repr

/-- A condition on the value of an attribute. -/
structure ValueTest where
  comparison : Comparison
  operand : String
  /-- Whether upper and lower case count as the same. -/
  caseless : Bool
  deriving DecidableEq, Repr

/-- The positions `step * n + offset` for `n = 0, 1, …`. -/
structure Progression where
  step : Int
  offset : Int
  deriving DecidableEq, Repr

/-- Whether a position is in a progression. -/
def Progression.contains (p : Progression) (position : Nat) : Bool :=
  let d := (position : Int) - p.offset
  if p.step = 0 then d = 0 else d % p.step = 0 && 0 ≤ d / p.step

/-- A condition on the state of a form's control, of a link or of any element. -/
inductive Condition where
  | link
  | checked
  | disabled
  | enabled
  | required
  | optional
  | writable
  | placeholder
  /-- What a form comes with. -/
  | isDefault
  | indeterminate
  | inRange
  | outOfRange
  /-- Its name is none that a page makes up. -/
  | defined
  deriving DecidableEq, Repr

/-- A condition on a place in a document. -/
inductive Selector where
  | always
  | never
  | both (a b : Selector)
  | either (a b : Selector)
  | negated (a : Selector)
  | related (r : Relation) (a : Selector)
  | named (name : String)
  | id (value : String)
  | classed (name : String)
  | attribute (name : String) (test : Option ValueTest)
  /-- The position among the sibling elements that meet a condition. -/
  | position (p : Progression) (fromEnd : Bool) (among : Selector)
  /-- The position among the sibling elements of the same name. -/
  | positionOfType (p : Progression) (fromEnd : Bool)
  | root
  | scope
  | empty
  | mentions (own : Bool) (texts : List String)
  /-- Its language is in one of some ranges. -/
  | speaks (ranges : List String)
  | runs (direction : Text.Direction)
  | is (condition : Condition)
  deriving BEq, DecidableEq, Repr

namespace Selector

/-- Disjunction of a list. -/
def anyOf (list : List Selector) : Selector := list.foldr either never

/-- The position from the start. -/
def first : Progression := ⟨0, 1⟩

/-- The first of its siblings. -/
def firstChild : Selector := position first false always

/-- The last of its siblings. -/
def lastChild : Selector := position first true always

end Selector

end Gleaner.Css

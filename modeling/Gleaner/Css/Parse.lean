import Gleaner.Css.Token

/-! # Reading selectors

Builds a selector from its tokens. A list under construction is a group; the arguments of
pseudo-classes are groups inside groups, kept on a stack with the innermost first. -/

namespace Gleaner.Css

/-- Why a text is no selector. -/
inductive Fault where
  /-- It does not follow the grammar. -/
  | malformed
  /-- It names a part of an element's rendering, which is no element. -/
  | unsupported
  deriving DecidableEq, Repr

/-- What becomes of the selector that a group describes. -/
inductive Purpose where
  | top
  | some
  /-- As `some`, and parts that are missing match nothing. -/
  | forgiving
  | none
  | ahead
  | position (p : Progression) (fromEnd : Bool)
  /-- The argument of something that matches nothing. -/
  | nothing

/-- A list of selectors under construction. -/
structure Group where
  purpose : Purpose
  /-- The finished selectors of the list, the last one first. -/
  finished : List Selector := []
  /-- What the combinators so far ask of other places. -/
  link : Option Selector := Option.none
  /-- The compound selector being read. -/
  current : Option Selector := Option.none
  /-- In a list that looks ahead: the relation to the compound selector being read. -/
  lead : Relation := .descendant
  /-- In a list that looks ahead: the relations and compound selectors so far, the last first. -/
  chain : List (Relation × Selector) := []

namespace Group

/-- Whether missing parts match nothing. -/
def isForgiving (g : Group) : Bool := g.purpose matches .forgiving

/-- Whether the selectors of the list are asked of places ahead. -/
def looksAhead (g : Group) : Bool := g.purpose matches .ahead

/-- Adds a condition to the compound selector being read. -/
def require (g : Group) (s : Selector) : Group :=
  { g with current := match g.current with
    | .some t => .some (.both t s)
    | .none => .some s }

/-- A compound selector together with what is asked of other places. -/
def linked (g : Group) (s : Selector) : Selector :=
  match g.link with
  | .some t => .both s t
  | .none => s

/-- A chain of relations ahead, each asked of the place that the one before it reaches. -/
def chainSelector : List (Relation × Selector) → Selector
  | [] => .always
  | [(r, s)] => .related r s
  | (r, s) :: rest => .related r (.both s (chainSelector rest))

/-- Ends a selector of the list. -/
def endItem (g : Group) : Except Fault Group :=
  match g.current with
  | .some s =>
    let item := if g.looksAhead then chainSelector ((g.lead, s) :: g.chain).reverse else g.linked s
    .ok { purpose := g.purpose, finished := item :: g.finished }
  | .none =>
    if g.isForgiving then .ok { purpose := g.purpose, finished := .never :: g.finished }
    else .error .malformed

/-- Takes in a combinator. -/
def combine (g : Group) (c : Combinator) : Except Fault Group :=
  if g.looksAhead then
    match g.current with
    | .some s => .ok { g with current := .none, chain := (g.lead, s) :: g.chain, lead := c.forward }
    | .none => if g.lead = .descendant then .ok { g with lead := c.forward } else .error .malformed
  else
    match g.current with
    | .some s => .ok { g with current := .none, link := .some (.related c.backward (g.linked s)) }
    | .none => .error .malformed

/-- The selector of a whole list. A list that forgives may end after a combinator only if it holds
nothing else. -/
def close (g : Group) : Except Fault Selector := do
  if g.current.isNone && !(g.finished = [] || g.link = .none) then .error .malformed
  else return .anyOf (← g.endItem).finished.reverse

/-- The condition that a closed group puts on the element it was read for. -/
def condition (g : Group) : Except Fault Selector := do
  let s ← g.close
  return match g.purpose with
    | .none => .negated s
    | .position p fromEnd => .both (.position p fromEnd s) s
    | .nothing => .never
    | _ => s

end Group

/-- Pseudo-classes without an argument. -/
def plainClasses : List (String × Selector) :=
  [("root", .root), ("scope", .scope), ("empty", .empty), ("link", .is .link),
   ("any-link", .is .link), ("checked", .is .checked), ("disabled", .is .disabled),
   ("enabled", .is .enabled), ("required", .is .required), ("optional", .is .optional),
   ("read-write", .is .writable), ("read-only", .negated (.is .writable)),
   ("placeholder-shown", .is .placeholder), ("default", .is .isDefault),
   ("indeterminate", .is .indeterminate), ("in-range", .is .inRange),
   ("out-of-range", .is .outOfRange), ("defined", .is .defined), ("first-child", .firstChild),
   ("last-child", .lastChild), ("only-child", .both .firstChild .lastChild),
   ("first-of-type", .positionOfType Selector.first false),
   ("last-of-type", .positionOfType Selector.first true),
   ("only-of-type",
     .both (.positionOfType Selector.first false) (.positionOfType Selector.first true)),
   ("open", .both (.either (.named "details") (.named "dialog")) (.attribute "open" none)),
   ("muted", .both (.either (.named "video") (.named "audio")) (.attribute "muted" none))]

/-- Pseudo-classes about what happens on a screen, which no stored document meets. -/
def idleClasses : List String :=
  ["active", "autofill", "buffering", "current", "focus", "focus-visible", "focus-within",
   "fullscreen", "future", "host", "hover", "local-link", "modal", "past", "paused",
   "picture-in-picture", "playing", "popover-open", "seeking", "stalled", "target",
   "target-within", "user-invalid", "user-valid", "visited", "volume-locked"]

/-- What the argument of a pseudo-class is for. -/
def purposeOf? : String → Option Purpose
  | "is" | "where" => some .forgiving
  | "matches" | "contains" | "-soup-contains" | "-soup-contains-own" => some .some
  | "not" => some .none
  | "has" => some .ahead
  | "current" | "host" | "host-context" => some .nothing
  | _ => none

/-- Takes one token in. -/
def step (stack : List Group) (t : Token) : Except Fault (List Group) :=
  match stack with
  | [] => .error .malformed
  | g :: outer =>
    match t with
    | .simple s => .ok (g.require s :: outer)
    | .element s => if g.current.isNone then .ok (g.require s :: outer) else .error .malformed
    | .positionAmong p fromEnd => .ok ({ purpose := .position p fromEnd } :: g :: outer)
    | .pseudoClass name false =>
      match plainClasses.lookup name with
      | some s => .ok (g.require s :: outer)
      | none =>
        if idleClasses.contains name then .ok (g.require .never :: outer) else .error .malformed
    | .pseudoClass name true =>
      match purposeOf? name with
      | some purpose => .ok ({ purpose } :: g :: outer)
      | none => .error .malformed
    | .combinator c => do return (← g.combine c) :: outer
    | .comma => do return (← g.endItem) :: outer
    | .close =>
      match outer with
      | [] => .error .malformed
      | h :: rest => do return h.require (← g.condition) :: rest
    | .unsupported => .error .unsupported
    | .bad => .error .malformed

/-- Reads a written selector. -/
def parse (text : String) : Except Fault Selector := do
  match ← (Token.ofText text.toList).foldlM step [{ purpose := .top }] with
  | [g] => g.close
  | _ => .error .malformed

end Gleaner.Css

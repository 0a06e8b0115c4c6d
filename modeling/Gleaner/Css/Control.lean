import Gleaner.Css.Element
import Gleaner.Number.Numeral

/-! # Controls and links

The states of links and of the controls of a form: which are disabled, can be edited or are checked,
which button a form is sent by, which group of buttons waits for a choice, and whether what stands
in a control lies in the range that it allows. -/

namespace Gleaner.Css

open Markup (Cursor)

/-! ## Disabled and editable controls -/

/-- A control that a field set around it disables. -/
def isControl (c : Cursor) : Bool :=
  isNamed c ["button", "select", "textarea", "fieldset"] ||
    (isNamed c ["input"] && !attrIs c "type" "hidden")

/-- Whether an element can be disabled. -/
def canDisable (c : Cursor) : Bool := isControl c || isNamed c ["optgroup", "option"]

/-- A disabled element of a given name. -/
def isDisabledGroup (name : String) (c : Cursor) : Bool := isNamed c [name] && hasAttr c "disabled"

/-- The first legend of its parent. -/
def isFirstLegend (c : Cursor) : Bool :=
  isNamed c ["legend"] && c.earlier.all fun d => !isNamed d ["legend"]

/-- Whether an ancestor other than a first legend is right below a disabled field set. -/
def isInDisabledSet (c : Cursor) : Bool :=
  (parentInside? c).any (isDisabledGroup "fieldset") ||
    (ancestorsInside c).any fun a =>
      !isFirstLegend a && (parentInside? a).any (isDisabledGroup "fieldset")

/-- Whether an element is disabled. -/
def isDisabled (c : Cursor) : Bool :=
  (canDisable c && hasAttr c "disabled") ||
    (isNamed c ["option"] && (parentInside? c).any (isDisabledGroup "optgroup")) ||
    (isControl c && isInDisabledSet c)

/-- The kinds of input whose text can be edited. -/
def editableTypes : List String :=
  ["", "date", "datetime-local", "email", "month", "number", "password", "search", "tel", "text",
   "time", "url", "week"]

/-- The kinds of input that show a placeholder. -/
def placeholderTypes : List String :=
  ["", "text", "search", "url", "tel", "email", "password", "number"]

/-- Whether an element can be edited. -/
def isWritable (c : Cursor) : Bool :=
  ((isNamed c ["textarea"] ||
      (isNamed c ["input"] && attrIsAbsentOr c "type" editableTypes)) &&
    !hasAttr c "readonly" && !isDisabled c) ||
    attrValue? c "contenteditable" = some "" || attrIs c "contenteditable" "true"

/-- Whether a control shows its placeholder. -/
def showsPlaceholder (c : Cursor) : Bool :=
  hasAttr c "placeholder" && attrValue? c "placeholder" ≠ some "" &&
    (isNamed c ["textarea"] ||
      (isNamed c ["input"] && attrIsAbsentOr c "type" placeholderTypes &&
        attrIsAbsentOr c "value" [""])) &&
    [[], ['\n']].contains (c.textOf isContent)

/-- Whether a box or an option is checked. -/
def isChecked (c : Cursor) : Bool :=
  (isNamed c ["input"] && (attrIs c "type" "checkbox" || attrIs c "type" "radio") &&
      hasAttr c "checked") ||
    (isNamed c ["option"] && hasAttr c "selected")

/-! ## Forms -/

/-- The form that a control belongs to. -/
def formOf? (c : Cursor) : Option Cursor := (ancestorsInside c).find? (isNamed · ["form"])

/-- The button that a form is sent by: the first one for that, if no other form begins before it. -/
def sendingButton? (form : Cursor) : Option Cursor :=
  ((descendantsInside form).takeWhile (!isNamed · ["form"])).find? fun d =>
    isNamed d ["input", "button"] && (attrValue? d "type").any (smallName · = "submit")

/-- Whether a control is what a form comes with: the button that sends it, or checked. -/
def isDefault (c : Cursor) : Bool :=
  isChecked c ||
    (isNamed c ["button", "input"] && attrIs c "type" "submit" &&
      (formOf? c).any fun form => (sendingButton? form).any c.isSame)

/-- Where the buttons of a group are: in the form, or else in the whole document. -/
def groupPlace? (c : Cursor) : Option Cursor := formOf? c <|> (ancestorsInside c).getLast?

/-- Whether an element is a checked button of a group. -/
def isChosen (name : Option String) (c : Cursor) : Bool :=
  isNamed c ["input"] && (attrValue? c "type").any (smallName · = "radio") &&
    attrValue? c "name" = name && hasAttr c "checked"

/-- Whether no other button of the group of a button is checked. -/
def isUnchosen (c : Cursor) : Bool :=
  match groupPlace? c with
  | none => true
  | some place =>
    (descendantsInside place).all fun d =>
      d.isSame c || !isChosen (attrValue? c "name") d || !(groupPlace? d).any place.isSame

/-- Whether it is open what a control says. -/
def isIndeterminate (c : Cursor) : Bool :=
  (isNamed c ["input"] && attrIs c "type" "checkbox" && hasAttr c "indeterminate") ||
    (isNamed c ["progress"] && !hasAttr c "value") ||
    (isNamed c ["input"] && attrIs c "type" "radio" && !hasAttr c "checked" &&
      (attrIsAbsentOr c "name" [""] || isUnchosen c))

/-! ## Ranges -/

/-- What stands in a control: a number, or a moment by its year and so on. -/
inductive Entry where
  | number (d : Double)
  | moment (parts : List Nat)

/-- Whether one entry comes before another of the same kind. -/
def Entry.isBefore : Entry → Entry → Bool
  | number a, number b => a.isLess b
  | moment a, moment b => a < b
  | _, _ => false

/-- Whether a year has a day more. -/
def isLeap (year : Nat) : Bool := (year % 4 = 0 && year % 100 ≠ 0) || year % 400 = 0

/-- The days of a month. -/
def daysIn (year month : Nat) : Nat :=
  if month = 2 then if isLeap year then 29 else 28
  else if [4, 6, 9, 11].contains month then 30 else 31

/-- The weekday of the last day of a year, from Sunday on. -/
def lastWeekday (year : Nat) : Nat := (year + year / 4 - year / 100 + year / 400) % 7

/-- The weeks that a year may have. If its last day lies in the first week of the next year, it counts
as having one more. -/
def weeksIn (year : Nat) : Nat :=
  match lastWeekday year with
  | 0 | 6 => 52
  | 5 => if isLeap year then 53 else 52
  | _ => 53

/-- A number written in a given number of digits, or in no less if there may be more. -/
def digits? (s : List Char) (count : Nat) (more : Bool := false) : Option Nat :=
  if s.all Char.isDigit && (if more then count ≤ s.length else s.length = count) then
    some (Numeral.digitsValue s)
  else none

/-- A number between two others. -/
def between? (low high : Nat) (n : Nat) : Option Nat := if low ≤ n ∧ n ≤ high then some n else none

/-- A year, and a month behind a dash. -/
def readMonth? (s : List Char) : Option (List Nat) := do
  let (year, rest) := Text.cutAt '-' s
  let year ← digits? year 4 true
  let month ← digits? (← rest) 2
  return [← between? 1 year year, ← between? 1 12 month]

/-- A year, and a week behind a dash and its sign. -/
def readWeek? (s : List Char) : Option (List Nat) := do
  let (year, rest) := Text.cutAt '-' s
  let year ← digits? year 4 true
  match ← rest with
  | 'W' :: r => return [← between? 1 year year, ← between? 1 (weeksIn year) (← digits? r 2)]
  | _ => none

/-- A month, and a day behind a dash. -/
def readDate? (s : List Char) : Option (List Nat) := do
  let (month, day) ← Text.cutAtLast? '-' s
  match ← readMonth? month with
  | [year, month] => return [year, month, ← between? 1 (daysIn year month) (← digits? day 2)]
  | _ => none

/-- An hour, and a minute behind a colon. -/
def readTime? (s : List Char) : Option (List Nat) := do
  let (hour, rest) := Text.cutAt ':' s
  return [← between? 0 23 (← digits? hour 2), ← between? 0 59 (← digits? (← rest) 2)]

/-- A day, and a time behind its sign. -/
def readDateTime? (s : List Char) : Option (List Nat) := do
  let (date, rest) := Text.cutAt 'T' s
  return (← readDate? date) ++ (← readTime? (← rest))

/-- A number in digits with a point or without, and a minus. -/
def readNumber? (s : List Char) : Option Double :=
  let body := match s with
    | '-' :: r => r
    | s => s
  let isWritten := match Text.cutAt '.' body with
    | (whole, some places) => whole.all Char.isDigit && places ≠ [] && places.all Char.isDigit
    | (whole, none) => whole ≠ [] && whole.all Char.isDigit
  if isWritten then Numeral.readDouble? s else none

/-- The text without a line end behind it. -/
def dropLineEnd (s : List Char) : List Char := if s.getLast? = some '\n' then s.dropLast else s

/-- What stands in a control of a kind. -/
def entryOf? (kind : String) (text : String) : Option Entry :=
  let s := dropLineEnd text.toList
  match kind with
  | "date" => (readDate? s).map .moment
  | "month" => (readMonth? s).map .moment
  | "week" => (readWeek? s).map .moment
  | "time" => (readTime? s).map .moment
  | "datetime-local" => (readDateTime? s).map .moment
  | "number" | "range" => (readNumber? s).map .number
  | _ => none

/-- The kinds of input that may have a range. -/
def rangeTypes : List String :=
  ["date", "month", "week", "time", "datetime-local", "number", "range"]

/-- Whether an entry lies outside of a range, of which one end may be open. Times of a day go
round. -/
def Entry.isOutside (goesRound : Bool) (least greatest : Option Entry) (e : Entry) : Bool :=
  let isLow := least.any e.isBefore
  let isHigh := greatest.any (·.isBefore e)
  if goesRound && least.any fun l => greatest.any (·.isBefore l) then isLow && isHigh
  else isLow || isHigh

/-- Whether what stands in a control lies outside of its range, if it has one. What cannot be read
does not. -/
def isOutOfRange? (c : Cursor) : Option Bool :=
  let kind := smallName ((attrValue? c "type").getD "")
  let bound? (name : String) := (attrValue? c name).bind (entryOf? kind)
  if isNamed c ["input"] && rangeTypes.any (attrIs c "type") &&
      ((bound? "min").isSome || (bound? "max").isSome) then
    some ((bound? "value").any (Entry.isOutside (kind = "time") (bound? "min") (bound? "max")))
  else none

/-! ## States -/

/-- Whether an element is in a state. -/
def Condition.holdsAt (condition : Condition) (c : Cursor) : Bool :=
  match condition with
  | link => isNamed c ["a", "area"] && hasAttr c "href"
  | checked => isChecked c
  | disabled => isDisabled c
  | enabled => canDisable c && !isDisabled c
  | required => isNamed c ["input", "select", "textarea"] && hasAttr c "required"
  | optional => isNamed c ["input", "select", "textarea"] && !hasAttr c "required"
  | writable => isWritable c
  | placeholder => showsPlaceholder c
  | isDefault => Css.isDefault c
  | indeterminate => isIndeterminate c
  | inRange => isOutOfRange? c = some false
  | outOfRange => isOutOfRange? c = some true
  | defined => !(smallName c.name).contains '-' || (smallName c.name).contains ':'

end Gleaner.Css

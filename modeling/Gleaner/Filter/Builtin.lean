import Gleaner.Error
import Gleaner.Log.Event
import Gleaner.Normalize.Number
import Gleaner.Normalize.Text
import Gleaner.Number.Numeral
import Gleaner.Pattern.Match
import Gleaner.Pattern.Parse
import Gleaner.Text.Case

/-! # Filters

A filter turns the value of a field into another, with the texts of its arguments. It checks how
many it was given before anything else. -/

namespace Gleaner

/-- A named filter. -/
structure Filter where
  name : String
  run : Value → List String → Traced Log.Entry Value

namespace Filter

/-- What is wrong with a number of arguments, next to the value itself. -/
def arityFault? (required : List String) (optional given : Nat) : Option ArityFault :=
  if given < required.length then some (.missing (required.drop given))
  else if given > required.length + optional then
    some (.tooMany (required.length + 1) (required.length + optional + 1) (given + 1))
  else none

/-- A filter with named required arguments and some optional ones. `callee` is what messages call
it. -/
def define (name callee : String) (required : List String) (optional : Nat)
    (body : Value → List String → Traced Log.Entry Value) : Filter where
  name
  run v args :=
    match arityFault? required optional args.length with
    | some fault => .fail (.arity callee fault)
    | none => body v args

/-- A filter that only takes the value. -/
def plain (name callee : String) (body : Value → Except Error Value) : Filter :=
  define name callee [] 0 fun v _ => .ofExcept (body v)

end Filter

end Gleaner

namespace Gleaner.Filter

open Normalize

/-! ## Built-in filters

The twelve filters that every registry of the process starts with. -/

/-- Blanks at the ends off. -/
def trim : Filter := plain "trim" "trim" fun v => .ok (TextRule.normalize {} v)

/-- Runs of blanks to one space, and none at the ends. -/
def squish : Filter :=
  plain "squish" "squish" fun v => .ok (TextRule.normalize { collapse := true } v)

/-- Lower case. -/
def lower : Filter :=
  plain "lower" "lower" fun v => .ok (TextRule.normalize { trim := false, lowercase := true } v)

/-- Upper case. -/
def upper : Filter :=
  plain "upper" "upper" fun v => .ok (TextRule.normalize { trim := false, uppercase := true } v)

/-- A text read as a whole number. -/
def readInt (s : String) : Except Error Int :=
  match Numeral.readInt s.toList with
  | .ok i => .ok i
  | .error .malformed => .error (.badInt s)
  | .error (.tooLong n) => .error (.tooManyDigits n)

/-- At most so many characters. -/
def truncate : Filter :=
  define "truncate" "truncate" ["length"] 0 fun v args => .ofExcept do
    let n ← readInt (args.headD "")
    return TextRule.normalize { trim := false, maxLength := some n } v

/-- Every occurrence of a text replaced. -/
def replace : Filter :=
  define "replace" "replace" ["old"] 1 fun v args =>
    if v.isNone then pure .none
    else
      let old := args.headD ""
      let new := args.tail.headD ""
      pure (.str (.ofList (Text.replace old.toList new.toList v.display.toList)))

/-- The number of a group, which is written in digits or is a name. -/
def groupIndex (p : Pattern.Compiled) (group : String) : Except Error Nat :=
  if group ≠ "" ∧ group.toList.all Text.isDigitLike then do
    let i ← readInt group
    if i.toNat < p.groups then .ok i.toNat else .error .noSuchGroup
  else match p.names.lookup group with
    | some i => .ok i
    | none => .error .noSuchGroup

/-- The first match of a pattern in a text, or one of its groups. -/
def findGroup (pattern group text : String) : Except Error Value :=
  match Pattern.parse pattern with
  | .error .malformed => .error .badPattern
  | .error .repeatTooLarge => .error .repeatTooLarge
  | .error .conflictingFlags => .error .conflictingFlags
  | .ok p =>
    match Pattern.search p.node text.toList with
    | none => .ok .none
    | some groups => do
      let i ← groupIndex p group
      match groups.lookup i with
      | some (first, last) => return .str (.ofList (Pattern.between text.toList first last))
      | none => return .none

/-- The first match of a pattern, or one of its groups. -/
def regex : Filter :=
  define "regex" "regex" ["pattern"] 1 fun v args =>
    if v.isNone then pure .none
    else .ofExcept (findGroup (args.headD "") (args.tail.headD "0") v.display)

/-- An amount of money. -/
def price : Filter :=
  define "price" "price" [] 1 fun v args => PriceRule.normalize { currency := args.head? } v

/-- A number. -/
def number : Filter :=
  define "number" "number" [] 1 fun v args => .ofExcept <|
    match args.headD "float" with
    | "int" => NumberRule.normalize { kind := .whole } v
    | "float" => NumberRule.normalize {} v
    | kind => .error (.badNumberKind kind)

/-- A truth value. -/
def bool : Filter := plain "bool" "boolean" fun v => .ok (truth .none v)

/-- A link without fragment and tracking parameters. -/
def url : Filter :=
  define "url" "url" [] 1 fun v args => .ofExcept (LinkRule.normalize { base := args.head? } v)

/-- Whether a value is nothing or a blank text. -/
def isMissing : Value → Bool
  | .none => true
  | .str s => Text.trim s.toList = []
  | _ => false

/-- A text in place of a missing value. -/
def default : Filter :=
  define "default" "default" [] 1 fun v args =>
    pure (if isMissing v then .str (args.headD "") else v)

/-- The built-in filters, in their order. -/
def builtins : List Filter :=
  [trim, squish, lower, upper, truncate, replace, regex, price, number, bool, url, default]

/-! ## Further filters

Filters that a caller may add to a registry next to the built-in ones. -/

/-- Upper case and an exclamation mark; only for texts. -/
def shout : Filter := plain "shout" "shout" fun v =>
  match v with
  | .str s => .ok (.str (.ofList (Text.upper s.toList ++ ['!'])))
  | v => .error (.noAttribute v.kindName "upper")

/-- The text of a value between asterisks. -/
def mark : Filter := plain "mark" "mark" fun v => .ok (.str ("*" ++ v.display ++ "*"))

/-- The text of a value and a currency code. -/
def currency : Filter :=
  define "currency" "currency" ["code"] 0 fun v args =>
    pure (.str (v.display ++ " " ++ args.headD ""))

/-- The value and the arguments as a list. -/
def listing : Filter := ⟨"show", fun v args => pure (.list (v :: args.map .str))⟩

/-- The number of characters, items or entries. -/
def length : Filter := plain "length" "length" fun v =>
  match v with
  | .str s => .ok (.int s.length)
  | .list items => .ok (.int items.length)
  | .dict entries => .ok (.int entries.length)
  | v => .error (.noLength v.kindName)

/-- Nothing, whatever the value. -/
def null : Filter := plain "null" "null" fun _ => .ok .none

/-- A value read as a double. -/
def toFloat : Filter := plain "to_float" "to_float" fun v =>
  match v with
  | .float d => .ok (.float d)
  | .bool b => .ok (.float (Double.nearest false b.toNat 1))
  | .int i =>
    match Double.ofInt? i with
    | some d => .ok (.float d)
    | none => .error .intTooLarge
  | .str s =>
    match Numeral.readDouble? s.toList with
    | some d => .ok (.float d)
    | none => .error (.badFloat s)
  | v => .error (.floatOfKind v.kindName)

/-- A division by zero. -/
def boom : Filter := plain "boom" "boom" fun _ => .error .divisionByZero

/-- The further filters. -/
def extras : List Filter := [shout, mark, currency, listing, length, null, toFloat, boom]

end Gleaner.Filter

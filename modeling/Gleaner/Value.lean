import Gleaner.Number.Decimal
import Gleaner.Text.Basic

/-! # Values

What a field of a record, a filter argument or a setting can hold, with the two texts of a value:
`display`, which shows a text as it is, and `quoted`, which puts texts in quotes and is used inside
lists and tables. -/

namespace Gleaner

/-- A value: nothing, a truth value, a number, a text, a list or a table in insertion order. -/
inductive Value where
  | none
  | bool (b : Bool)
  | int (i : Int)
  | float (d : Double)
  | str (s : String)
  | list (items : List Value)
  | dict (entries : List (String × Value))
  deriving Inhabited, BEq, Repr

namespace Value

/-- The name of a value's kind, as messages give it. -/
def kindName : Value → String
  | none => "NoneType"
  | bool _ => "bool"
  | int _ => "int"
  | float _ => "float"
  | str _ => "str"
  | list _ => "list"
  | dict _ => "dict"

/-- Whether a value is nothing. -/
def isNone : Value → Bool
  | none => true
  | _ => false

/-- Whether a value counts as true: nothing, zero and what is empty do not. -/
def isTruthy : Value → Bool
  | none => false
  | bool b => b
  | int i => i ≠ 0
  | float d => !d.isZero
  | str s => s ≠ ""
  | list items => !items.isEmpty
  | dict entries => !entries.isEmpty

mutual

/-- The text of a value with texts in quotes. -/
def quoted : Value → String
  | none => "None"
  | bool true => "True"
  | bool false => "False"
  | int i => toString i
  | float d => d.text
  | str s => Text.quoted s
  | list items => "[" ++ ", ".intercalate (quotedItems items) ++ "]"
  | dict entries => "\x7b" ++ ", ".intercalate (quotedEntries entries) ++ "\x7d"

/-- The texts of a list's items. -/
def quotedItems : List Value → List String
  | [] => []
  | v :: vs => v.quoted :: quotedItems vs

/-- The texts of a table's entries. -/
def quotedEntries : List (String × Value) → List String
  | [] => []
  | (k, v) :: es => (Text.quoted k ++ ": " ++ v.quoted) :: quotedEntries es

end

/-- The text of a value; a text is its own. -/
def display : Value → String
  | str s => s
  | v => v.quoted

/-- A text, or nothing. -/
def ofText? : Option String → Value
  | some s => str s
  | Option.none => none

end Value

/-- One extracted record: field names with their values, in the order of the field map. -/
abbrev Record := List (String × Value)

end Gleaner

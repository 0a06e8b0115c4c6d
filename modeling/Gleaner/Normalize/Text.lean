import Gleaner.Error
import Gleaner.Text.Basic
import Gleaner.Text.Case
import Gleaner.Url.Basic
import Gleaner.Url.Query
import Gleaner.Value

/-! # Normalized texts

What texts are brought to that stay texts or stand for a truth value: cleaned texts, words for true and
false, and links. -/

namespace Gleaner.Normalize

/-! ## Texts

Trimming, collapsing of blanks, change of case and cutting to a length, in this order of steps:
collapse, trim, case, cut. Nothing stays nothing. -/

/-- What is done to a text. -/
structure TextRule where
  trim : Bool := true
  lowercase : Bool := false
  uppercase : Bool := false
  collapse : Bool := false
  maxLength : Option Int := none

/-- A text longer than `n` cut to `n` characters; a negative `n` counts from the end. -/
def cut (n : Int) (s : List Char) : List Char :=
  if (s.length : Int) ≤ n then s
  else if 0 ≤ n then s.take n.toNat
  else s.take (s.length + n).toNat

namespace TextRule

/-- Applies the rule to a text. -/
def apply (rule : TextRule) (s : List Char) : List Char :=
  let s := if rule.collapse then Text.collapse s else s
  let s := if rule.trim then Text.trim s else s
  let s := if rule.lowercase then Text.lower s else if rule.uppercase then Text.upper s else s
  match rule.maxLength with
  | some n => cut n s
  | none => s

/-- Applies the rule to the text of a value. -/
def normalize (rule : TextRule) : Value → Value
  | .none => .none
  | v => .str (.ofList (rule.apply v.display.toList))

end TextRule

/-! ## Truth values in texts

Words for true and false, in any case; any other text, and nothing, is the default. -/

/-- The words for true. -/
def trueWords : List String := ["true", "yes", "1", "on", "y"]

/-- The words for false. -/
def falseWords : List String := ["false", "no", "0", "off", "n"]

/-- Reads a value as a truth value. -/
def truth (default : Value) : Value → Value
  | .none => default
  | .bool b => .bool b
  | v =>
    let word := String.ofList (Text.lower (Text.trim v.display.toList))
    if trueWords.contains word then .bool true
    else if falseWords.contains word then .bool false
    else default

/-! ## Links

A link made absolute against a base URL, without its fragment and without tracking parameters. -/

/-- Parameters that only track where a reader came from. -/
def trackingParams : List String :=
  ["utm_source", "utm_medium", "utm_campaign", "utm_term", "utm_content", "fbclid", "gclid"]

/-- What is done to a link. -/
structure LinkRule where
  base : Option String := none
  dropFragment : Bool := true
  dropTracking : Bool := true

/-- The query without tracking parameters. -/
def dropTrackingParams (query : List Char) : List Char :=
  Url.renderQuery ((Url.readQuery query).filter fun (name, _) =>
    !trackingParams.contains (.ofList name))

/-- Whether a link starts with a scheme of the web or with a network location. -/
def looksAbsolute (s : List Char) : Bool :=
  ["http://", "https://", "//"].any fun start => start.toList.isPrefixOf s

namespace LinkRule

/-- Normalizes a link that is not blank. -/
def apply (rule : LinkRule) (s : List Char) : Except Url.HostFault (List Char) := do
  let s ← match rule.base with
    | some b => if b ≠ "" ∧ !looksAbsolute s then Url.join b.toList s else pure s
    | none => pure s
  let p ← Url.split s
  return { p with
    query := if rule.dropTracking then dropTrackingParams p.query else p.query
    fragment := if rule.dropFragment then [] else p.fragment }.render

/-- Normalizes a value. A blank text is nothing. -/
def normalize (rule : LinkRule) (v : Value) : Except Error Value :=
  if v.isNone then .ok .none
  else
    let s := Text.trim v.display.toList
    if s = [] then .ok .none
    else match rule.apply s with
      | .ok u => .ok (.str (.ofList u))
      | .error fault => .error (.badHost fault)

end LinkRule

end Gleaner.Normalize

import Gleaner.Url.Basic
import Gleaner.Value

/-! # Errors

How operations fail, how callers see it, and computations that report what they do until they fail.
-/

namespace Gleaner

/-! ## Causes

Every way in which an operation can fail, as a cause, with the wording of each in
`Error.message`. -/

/-- What is wrong with a selector. -/
inductive SelectorFault where
  | notText
  | blank
  | manyFilters
  | noSubSelector
  | blankInMode (mode : String)
  | noFilterName
  | blankInFilterName (name : String)
  | badCss
  deriving DecidableEq, Repr

namespace SelectorFault

/-- The reason given to the reader. -/
def reason : SelectorFault → String
  | notText => "selector must be a string"
  | blank => "empty selector"
  | manyFilters => "only one filter clause is allowed"
  | noSubSelector => "empty sub-selector"
  | blankInMode mode => "invalid mode " ++ Text.quoted mode
  | noFilterName => "empty filter name"
  | blankInFilterName name => "invalid filter name " ++ Text.quoted name
  | badCss => "invalid CSS"

end SelectorFault

/-- A page that could not be fetched, with the records gathered before. -/
structure FetchFailure where
  url : String
  reason : String
  status : Option Nat := none
  records : List Value := []
  deriving Repr

/-- The failure as one line. -/
def FetchFailure.message (f : FetchFailure) : String := f.reason ++ " | url=" ++ f.url

/-- A call with the wrong number of arguments. -/
inductive ArityFault where
  | tooMany (least most given : Nat)
  | missing (names : List String)
  deriving DecidableEq, Repr

namespace ArityFault

/-- Names in quotes, the last one joined by "and". -/
def listed : List String → String
  | [] => ""
  | [a] => Text.quoted a
  | [a, b] => Text.quoted a ++ " and " ++ Text.quoted b
  | [a, b, c] => Text.quoted a ++ ", " ++ Text.quoted b ++ ", and " ++ Text.quoted c
  | a :: rest => Text.quoted a ++ ", " ++ listed rest

/-- The wording for a callee. -/
def message (callee : String) : ArityFault → String
  | tooMany least most given =>
    let takes := if least = most then s!"{most}" else s!"from {least} to {most}"
    let noun := if most = 1 then "argument" else "arguments"
    s!"{callee}() takes {takes} positional {noun} but {given} were given"
  | missing names =>
    let noun := if names.length = 1 then "argument" else "arguments"
    s!"{callee}() missing {names.length} required positional {noun}: {listed names}"

end ArityFault

/-- What is wrong with a template, or with what it asks for. -/
inductive TemplateFault where
  | unknownName (name : String)
  | unknownKey (index : Nat)
  | unknownPosition (index : Nat)
  | outOfRange (sequence : String)
  | noAttribute (kind name : String)
  | malformed (text : String)
  | wrongKind (text : String)
  | noCharacter
  | tooLarge
  deriving DecidableEq, Repr

/-- A failure, by its cause. -/
inductive Error where
  | malformedSelector (selector : String) (fault : SelectorFault)
  | unknownFilter (name selector : String)
  | fetch (failure : FetchFailure)
  | notCallable (name : String)
  | notAFunction (kind : String)
  | arity (callee : String) (fault : ArityFault)
  | noAttribute (kind name : String)
  | noLength (kind : String)
  | notIterable (kind : String)
  | notSubscriptable (kind : String)
  | badRepeat (kind : String)
  | badOperands (operator left right : String)
  | badInt (text : String)
  | tooManyDigits (digits : Nat)
  | badFloat (text : String)
  | floatOfKind (kind : String)
  | nanToInt
  | infinityToInt
  | intTooLarge
  | divisionByZero
  | badPattern
  | repeatTooLarge
  | conflictingFlags
  | noSuchGroup
  | unsupportedCss
  | unknownParser
  | badBudget (budget : String)
  | noScope
  | badNumberKind (kind : String)
  | badHost (fault : Url.HostFault)
  | badRequestUrl
  | badHostName (kind : String)
  | noScheme (url : String)
  | notAscii (run : List Char) (position : Nat)
  | transport (name : String)
  | template (fault : TemplateFault)
  | unknownLevel (name : String)
  | negativeLevel (level : Int)
  | levelOfKind (kind : String)
  | invalidSettings (details : List (String × String))
  deriving Repr

namespace Error

/-- The wording of a template fault. -/
def templateMessage : TemplateFault → String
  | .unknownName name => Text.quoted name
  | .unknownKey index => toString index
  | .unknownPosition index =>
    s!"Replacement index {index} out of range for positional args tuple"
  | .outOfRange sequence => s!"{sequence} index out of range"
  | .noAttribute kind name => s!"{Text.quoted kind} object has no attribute '{name}'"
  | .malformed text => text
  | .wrongKind text => text
  | .noCharacter => "%c arg not in range(0x110000)"
  | .tooLarge => "int too large to convert to float"

/-- The wording of a fault of a network location. -/
def hostMessage : Url.HostFault → String
  | .unbalanced => "Invalid IPv6 URL"
  | .badFuture => "IPvFuture address is invalid"
  | .bracketedIpv4 => "An IPv4 address cannot be in brackets"
  | .noAddress host => s!"{Text.quoted host} does not appear to be an IPv4 or IPv6 address"
  | .hiddenSeparator netloc =>
    s!"netloc '{netloc}' contains invalid characters under NFKC normalization"

/-- The wording for characters of a text that are not in ASCII, in a row from a position on. -/
def asciiMessage (run : List Char) (position : Nat) : String :=
  let what := match run with
    | [c] => s!"character '{String.ofList (Text.codeEscape c)}' in position {position}"
    | _ => s!"characters in position {position}-{position + run.length - 1}"
  s!"'ascii' codec can't encode {what}: ordinal not in range(128)"

/-- The wording of a failure. -/
def message : Error → String
  | malformedSelector selector fault =>
    s!"Malformed selector {Text.quoted selector}: {fault.reason}"
  | unknownFilter name selector =>
    s!"Unknown filter {Text.quoted name} in selector {Text.quoted selector}"
  | fetch failure => failure.message
  | notCallable name => s!"Filter {Text.quoted name} is not callable"
  | notAFunction kind => s!"{Text.quoted kind} object is not callable"
  | arity callee fault => fault.message callee
  | noAttribute kind name => s!"{Text.quoted kind} object has no attribute {Text.quoted name}"
  | noLength kind => s!"object of type {Text.quoted kind} has no len()"
  | notIterable kind => s!"{Text.quoted kind} object is not iterable"
  | notSubscriptable kind => s!"{Text.quoted kind} object is not subscriptable"
  | badRepeat kind => s!"can't multiply sequence by non-int of type {Text.quoted kind}"
  | badOperands operator left right =>
    s!"{operator} not supported between instances of {Text.quoted left} and {Text.quoted right}"
  | badInt text =>
    "invalid literal for int() with base 10: " ++ .ofList ((Text.quoted text).toList.take 200)
  | tooManyDigits digits =>
    s!"Exceeds the limit (4300 digits) for integer string conversion: value has {digits} digits; use sys.set_int_max_str_digits() to increase the limit"
  | badFloat text => s!"could not convert string to float: {Text.quoted text}"
  | floatOfKind kind =>
    s!"float() argument must be a string or a real number, not {Text.quoted kind}"
  | nanToInt => "cannot convert float NaN to integer"
  | infinityToInt => "cannot convert float infinity to integer"
  | intTooLarge => "int too large to convert to float"
  | divisionByZero => "division by zero"
  | noSuchGroup => "no such group"
  | badBudget budget => s!"max_pages must be -1 (unbounded) or >= 1, got {budget}"
  | noScope => "scope is required for single-value extraction"
  | badNumberKind kind => s!"number filter expects 'int' or 'float', got {Text.quoted kind}"
  | badHost fault => hostMessage fault
  | noScheme url => s!"unknown url type: {Text.quoted url}"
  | notAscii run position => asciiMessage run position
  | template fault => templateMessage fault
  | unknownLevel name => s!"Level {Text.quoted name} does not exist"
  | negativeLevel level => s!"Invalid level value, it should be a positive integer, not: {level}"
  | levelOfKind kind =>
    s!"Invalid level, it should be an integer or a string, not: {Text.quoted kind}"
  | repeatTooLarge => "the repetition number is too large"
  | conflictingFlags => "ASCII and UNICODE flags are incompatible"
  | badPattern | unsupportedCss | unknownParser | badRequestUrl | badHostName _ | transport _
  | invalidSettings _ => ""

end Error

/-! ## Kinds of errors

The errors that this library raises on its own account, as callers see them: a family of kinds, each
with the data it carries and the wording made from it. -/

/-- A kind of error. -/
inductive ErrorKind where
  | general
  | malformedSelector
  | unknownFilter
  | fetch
  deriving DecidableEq, Repr

namespace ErrorKind

/-- The name callers know a kind by. -/
def name : ErrorKind → String
  | general => "ScraperXError"
  | malformedSelector => "MalformedSelectorError"
  | unknownFilter => "UnknownFilterError"
  | fetch => "FetchError"

/-- The kind of a name. -/
def ofName? (s : String) : Option ErrorKind :=
  [general, malformedSelector, unknownFilter, fetch].find? (·.name = s)

/-- Whether a kind is caught as a bad value. -/
def isBadValue (k : ErrorKind) : Bool := k = malformedSelector

/-- Whether a kind is caught as a failed look-up. -/
def isFailedLookup (k : ErrorKind) : Bool := k = unknownFilter

/-- The names of the data of a kind: those that have to be given, and those that may be. -/
def parameters : ErrorKind → List String × List String
  | general => ([], [])
  | malformedSelector => (["selector", "reason"], [])
  | unknownFilter => (["name"], ["selector"])
  | fetch => (["url", "message"], ["status_code"])

end ErrorKind

/-- An error with its data. -/
structure RaisedError where
  kind : ErrorKind
  message : String
  data : List (String × Value)

namespace RaisedError

/-- What is wrong with a number of arguments. -/
def arityFault? (kind : ErrorKind) (given : Nat) : Option ArityFault :=
  let (required, optional) := kind.parameters
  if kind = .general then none
  else if given < required.length then some (.missing (required.drop given))
  else if given > required.length + optional.length then
    some (.tooMany (required.length + 1) (required.length + optional.length + 1) (given + 1))
  else none

/-- The wording of an error made from its arguments. -/
def wording (kind : ErrorKind) (args : List Value) : String :=
  match kind, args with
  | .malformedSelector, [selector, reason] =>
    s!"Malformed selector {selector.quoted}: {reason.display}"
  | .unknownFilter, [name] | .unknownFilter, [name, .none] => s!"Unknown filter {name.quoted}"
  | .unknownFilter, [name, selector] =>
    s!"Unknown filter {name.quoted} in selector {selector.quoted}"
  | .fetch, url :: message :: _ => s!"{message.display} | url={url.display}"
  | _, _ => ""

/-- The data of an error made from its arguments; what is not given is nothing. -/
def dataOf (kind : ErrorKind) (args : List Value) : List (String × Value) :=
  let (required, optional) := kind.parameters
  let named := (required ++ optional).zip (args ++ List.replicate optional.length .none)
  let kept := named.filter fun (k, _) => k ≠ "message"
  if kind = .fetch then kept ++ [("partial_records", .list [])] else kept

/-- Makes an error from its arguments. -/
def build (kind : ErrorKind) (args : List Value) : Except Error RaisedError :=
  match arityFault? kind args.length with
  | some fault => .error (.arity (kind.name ++ ".__init__") fault)
  | none => .ok ⟨kind, wording kind args, dataOf kind args⟩

end RaisedError

/-! ## Computations that report

A computation that reports events on its way and ends in a value or an error. What was reported
before an error is kept. -/

/-- The events of a computation, in order, and how it ended. -/
structure Traced (τ α : Type) where
  events : List τ
  result : Except Error α

namespace Traced

variable {τ α β : Type}

/-- A computation that only reports. -/
def tell (events : List τ) : Traced τ Unit := ⟨events, .ok ()⟩

/-- A computation that only fails. -/
def fail (e : Error) : Traced τ α := ⟨[], .error e⟩

/-- A computation that reports nothing. -/
def ofExcept (r : Except Error α) : Traced τ α := ⟨[], r⟩

/-- One computation after another. -/
def andThen (x : Traced τ α) (f : α → Traced τ β) : Traced τ β :=
  match x.result with
  | .ok a =>
    let y := f a
    ⟨x.events ++ y.events, y.result⟩
  | .error e => ⟨x.events, .error e⟩

instance : Monad (Traced τ) where
  pure a := ⟨[], .ok a⟩
  bind := andThen

instance : MonadExceptOf Error (Traced τ) where
  throw := fail
  tryCatch x handler :=
    match x.result with
    | .ok _ => x
    | .error e =>
      let y := handler e
      ⟨x.events ++ y.events, y.result⟩

/-- The same computation with its events renamed. -/
def mapEvents {σ : Type} (f : τ → σ) (x : Traced τ α) : Traced σ α := ⟨x.events.map f, x.result⟩

end Traced

end Gleaner

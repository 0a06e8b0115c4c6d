import Gleaner.Error
import Gleaner.Text.Basic

/-! # Directives

A directive says how one field is read: which element, what of it, and through which filter. Its
written form is `sub-selector[@mode][|filter[:argument,argument…]]`; `Directive.render` writes it and
`Directive.compile` reads it. -/

namespace Gleaner.Directive

/-! ## Escaped separators

A separator inside a part of a text is written with a backslash in front of it. `splitUnescaped`
takes a text apart at the bare separators and drops the backslashes of the others; every other
backslash stands for itself. -/

/-- A character put in front of the first part. -/
def extendHead (c : Char) : List (List Char) → List (List Char)
  | [] => [[c]]
  | p :: ps => (c :: p) :: ps

/-- The parts of a text between the separators that no backslash precedes. -/
def splitUnescaped (sep : Char) : List Char → List (List Char)
  | [] => [[]]
  | [c] => if c = sep then [[], []] else [[c]]
  | c :: d :: r =>
    if c = '\\' ∧ d = sep then extendHead sep (splitUnescaped sep r)
    else if c = sep then [] :: splitUnescaped sep (d :: r)
    else extendHead c (splitUnescaped sep (d :: r))

/-- A text with a backslash before every separator. -/
def escape (sep : Char) (s : List Char) : List Char :=
  s.flatMap fun c => if c = sep then ['\\', c] else [c]

/-- The parts of a text at a separator given as a text. Only a single character separates; the
empty separator takes a last backslash away, and a longer one never occurs. -/
def splitText (text sep : String) : List String :=
  match sep.toList with
  | [c] => (splitUnescaped c text.toList).map .ofList
  | [] =>
    let s := text.toList
    [.ofList (if s.getLast? = some '\\' then s.dropLast else s)]
  | _ => [text]

end Gleaner.Directive

namespace Gleaner

/-! ## Parts and their writing -/

/-- A filter by name, with its arguments. -/
structure Invocation where
  name : String
  args : List String := []
  deriving DecidableEq, Repr

/-- The sub-selector that stands for the current element. -/
def selfReference : String := "&"

/-- The older word for the current element. -/
def oldSelfReference : String := "current"

/-- How one field is read. The current element is always written `&`. -/
structure Directive where
  subSelector : String
  mode : String := "text"
  filter : Option Invocation := none
  subSelector_ne : subSelector ≠ oldSelfReference
  deriving DecidableEq

namespace Directive

/-- The mode that reads an element's text. -/
def textMode : String := "text"

/-- The mode that reads an element's markup. -/
def htmlMode : String := "html"

/-- The directive with the given parts; the older word for the current element becomes `&`. -/
def of (subSelector : String) (mode : String := textMode) (filter : Option Invocation := none) :
    Directive :=
  if h : subSelector = oldSelfReference then ⟨selfReference, mode, filter, by decide⟩
  else ⟨subSelector, mode, filter, h⟩

/-- Whether the directive reads the current element itself. -/
def isSelfReference (d : Directive) : Bool := d.subSelector = selfReference

/-- Whether the directive reads an attribute. -/
def isAttribute (d : Directive) : Bool := d.mode ≠ textMode && d.mode ≠ htmlMode

end Directive

/-- The written form of a filter clause. Bars are escaped in the arguments, not in the name. -/
def Invocation.render (f : Invocation) : List Char :=
  if f.args = [] then f.name.toList
  else f.name.toList ++ ':' ::
    Text.join [','] (f.args.map fun a => Directive.escape '|' a.toList)

namespace Directive

/-- The written form of what stands before the filter clause. -/
def renderBase (d : Directive) : List Char :=
  escape '|' d.subSelector.toList ++
    if d.mode = textMode then [] else '@' :: escape '|' d.mode.toList

/-- The written form of a directive. -/
def render (d : Directive) : String :=
  .ofList (d.renderBase ++ match d.filter with
    | none => []
    | some f => '|' :: f.render)

end Directive

end Gleaner

namespace Gleaner.Directive

/-! ## Compiling selectors

Reads the written form of a directive. A selector that is blank, has more than one filter clause,
no sub-selector, a blank inside its mode or a bad filter name is malformed; in strict mode a filter
name has to be known. -/

/-- Which filter names a selector may use. -/
structure Names where
  /-- The known names, if they matter. -/
  known : Option (String → Bool) := none
  /-- Whether an unknown name is refused. -/
  strict : Bool := false

/-- Whether a name is accepted. -/
def Names.accepts (names : Names) (name : String) : Bool :=
  match names.known with
  | some known => !names.strict || known name
  | none => true

/-- One layer of equal quotes around a text taken off. -/
def stripQuotes (s : List Char) : List Char :=
  match s with
  | q :: r =>
    if (q = '"' ∨ q = '\x27') ∧ r.getLast? = some q then r.dropLast else s
  | [] => s

/-- The arguments written after the name of a filter. -/
def readArgs (raw : List Char) : List String :=
  let body := stripQuotes (Text.trim raw)
  if body = [] then []
  else (Text.splitOn ',' body).map fun a => .ofList (Text.trim a)

/-- Reads a filter clause. -/
def readInvocation (clause : List Char) : Except SelectorFault Invocation :=
  let (before, after) := Text.cutAt ':' clause
  let name := Text.trim before
  if name = [] then .error .noFilterName
  else if Text.hasBlank name then .error (.blankInFilterName (.ofList name))
  else .ok ⟨.ofList name, readArgs (after.getD [])⟩

/-- Reads the part before the filter clause: the sub-selector and the mode. -/
def readBase (base : List Char) : Except SelectorFault (String × String) :=
  let (before, after) := Text.cutAt '@' base
  let subSelector := Text.trim before
  let mode := Text.trim (after.getD [])
  if subSelector = [] then .error .noSubSelector
  else if Text.hasBlank mode then .error (.blankInMode (.ofList mode))
  else .ok (.ofList subSelector, if mode = [] then textMode else .ofList mode)

/-- Reads the written form of a directive, whatever its filter is called. -/
def read (selector : String) : Except SelectorFault Directive :=
  if Text.trim selector.toList = [] then .error .blank
  else match splitUnescaped '|' selector.toList with
    | [base] => do
      let (subSelector, mode) ← readBase base
      return .of subSelector mode
    | [base, clause] => do
      let (subSelector, mode) ← readBase base
      let f ← readInvocation clause
      return .of subSelector mode (some f)
    | _ => .error .manyFilters

/-- Compiles a selector. -/
def compile (selector : String) (names : Names := {}) : Except Error Directive :=
  match read selector with
  | .error fault => .error (.malformedSelector selector fault)
  | .ok d =>
    match d.filter with
    | some f => if names.accepts f.name then .ok d else .error (.unknownFilter f.name selector)
    | none => .ok d

/-- Compiles a value that should be a selector. -/
def compileValue (selector : Value) (names : Names := {}) : Except Error Directive :=
  match selector with
  | .str s => compile s names
  | v => .error (.malformedSelector v.quoted .notText)

end Gleaner.Directive

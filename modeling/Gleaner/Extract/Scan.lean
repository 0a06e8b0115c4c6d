import Gleaner.Directive.Basic
import Gleaner.Document
import Gleaner.Filter.Registry

/-! # Extraction

Values are read off elements field by field, and records off all the elements that a scope selects.
-/

namespace Gleaner

open Markup (Cursor)

/-! ## Fields

Reading one field: the directive says which element below a place is meant, what is read off it and
which filter the value goes through. A place may be missing, when what it was looked up by found
nothing. -/

/-- How fields are read: the filters, and whether a selector may only name known ones. -/
structure Extractor where
  chain : Chain
  strict : Bool := false

namespace Extractor

/-- Compiles the selector of a field. -/
def compile (x : Extractor) (selector : String) : Except Error Directive :=
  Directive.compile selector ⟨some x.chain.has, x.strict⟩

/-- The element that a directive means. -/
def target (place : Option Cursor) (d : Directive) : Except Error (Option Cursor) :=
  if d.isSelfReference then .ok place
  else match place with
    | some c => selectFirst d.subSelector c
    | none => .error (.noAttribute "NoneType" "select_one")

/-- What a mode reads off an element: its text, its markup or an attribute. -/
def read (c : Cursor) (mode : String) : Value :=
  if mode = Directive.textMode then .str c.text
  else if mode = Directive.htmlMode then .str c.markup
  else .ofText? (c.attr? mode)

/-- The warning about a filter that nobody registered. -/
def unknownFilter (name : String) : Log.Entry where
  level := .warning
  message := s!"Unknown filter '{name}', value passed through unchanged"

/-- Puts a value through a filter. A filter that nobody registered leaves it as it is. -/
def applyFilter (x : Extractor) (v : Value) (f : Invocation) : Traced Log.Entry Value :=
  let found := x.chain.resolve f.name
  if found.isNothing then ⟨[unknownFilter f.name], .ok v⟩ else found.call v f.args

/-- Reads the field that a directive describes. What is not found is nothing. -/
def extract (x : Extractor) (place : Option Cursor) (d : Directive) : Traced Log.Entry Value :=
  match target place d with
  | .error e => .fail e
  | .ok none => pure .none
  | .ok (some c) =>
    let v := read c d.mode
    match d.filter with
    | some f => x.applyFilter v f
    | none => pure v

/-- Reads the field that a selector describes. -/
def extractBy (x : Extractor) (place : Option Cursor) (selector : String) :
    Traced Log.Entry Value :=
  match x.compile selector with
  | .ok d => x.extract place d
  | .error e => .fail e

end Extractor

/-! ## Scans

A scan reads a record off every element that a scope selects: one value per field, in the order of
the field map. Records without any value may be dropped. Without a field map the scope is the
selector of a single value. -/

/-- The names of fields with their selectors, in order. -/
abbrev FieldMap := List (String × String)

/-- Whether no field of a record has a value. -/
def Record.isEmpty (r : Record) : Bool := r.all (·.2.isNone)

/-- How a page is scanned. -/
structure Scanner where
  extractor : Extractor
  /-- Whether records without any value are dropped. -/
  dropEmpty : Bool := true

namespace Scanner

/-- Compiles the selectors of a field map, in order. -/
def compileFields (s : Scanner) (fields : FieldMap) : Except Error (List (String × Directive)) :=
  fields.mapM fun (name, selector) => do return (name, ← s.extractor.compile selector)

/-- The elements to read records off: what the scope selects, or the top-level elements. -/
def elements (place : Option Cursor) (scope : Option String) : Except Error (List Cursor) :=
  match scope.filter (· ≠ ""), place with
  | some css, some c => select css c
  | none, some c => .ok c.topLevel
  | some _, none => .error (.noAttribute "NoneType" "select")
  | none, none => .error (.noAttribute "NoneType" "find_all")

/-- The record of one element. -/
def record (s : Scanner) (fields : List (String × Directive)) (c : Cursor) :
    Traced Log.Entry Record :=
  fields.mapM fun (name, d) => do return (name, ← s.extractor.extract (some c) d)

/-- The records that are kept. -/
def kept (s : Scanner) (records : List Record) : List Record :=
  if s.dropEmpty then records.filter (!·.isEmpty) else records

/-- The summary of a scan. -/
def summary (scope : Option String) (seen kept : Nat) : Log.Entry where
  level := .debug
  message :=
    let shown := match scope with
      | some css => if css = "" then "<top-level>" else css
      | none => "<top-level>"
    s!"Scanned {seen} elements | scope={shown} | records={kept} | dropped={seen - kept}"

/-- The records of a page. -/
def scanRecords (s : Scanner) (place : Option Cursor) (scope : Option String) (fields : FieldMap) :
    Traced Log.Entry (List Record) := do
  let directives ← .ofExcept (s.compileFields fields)
  let found ← .ofExcept (elements place scope)
  let records ← found.mapM (s.record directives)
  let kept := s.kept records
  .tell [summary scope found.length kept.length]
  return kept

/-- The single value of a page. -/
def scanValue (s : Scanner) (place : Option Cursor) (scope : Option String) :
    Traced Log.Entry Value :=
  match scope.filter (· ≠ "") with
  | some selector => s.extractor.extractBy place selector
  | none => .fail .noScope

/-- What a page yields: its records, or a single value if there is no field map. -/
def scan (s : Scanner) (place : Option Cursor) (scope : Option String)
    (fields : Option FieldMap) : Traced Log.Entry Value :=
  match fields with
  | some fields => do return .list ((← s.scanRecords place scope fields).map .dict)
  | none => s.scanValue place scope

end Scanner

end Gleaner

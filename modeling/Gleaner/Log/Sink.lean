import Gleaner.Log.Event
import Gleaner.Text.Basic

/-! # Readers of the log

The console and, if wanted, two files read the log, each from a severity on. -/

namespace Gleaner.Log

/-- A reader of the log: a file's name, or none for the console, and the least severity it wants. -/
structure Sink where
  file : Option String := none
  floor : Floor
  deriving DecidableEq, Repr

/-- Whether a reader wants an entry. -/
def Sink.wants (s : Sink) (e : Entry) : Bool := s.floor ≤ e.level.severity

/-- The entries that a reader gets. -/
def Sink.received (s : Sink) (entries : List Entry) : List Entry := entries.filter s.wants

/-- How the log is set up: the level of the console, by name or severity, and whether there are
files. -/
structure Setup where
  level : Value := .str "INFO"
  toFile : Value := .bool false

namespace Setup

/-- The severity that a level stands for. -/
def severity : Value → Except Error Floor
  | .str name =>
    match Level.ofName? name with
    | some level => .ok level.severity
    | none => .error (.unknownLevel name)
  | .int i => if i < 0 then .error (.negativeLevel i) else .ok i.toNat
  | .bool b => .ok b.toNat
  | v => .error (.levelOfKind v.kindName)

/-- The files: one of structured events, and one of everything. Dates in their names are left
open. -/
def files : List Sink :=
  [⟨some "scraperx_DATE.json", Level.info.severity⟩,
   ⟨some "scraperx_DATE.log", Level.debug.severity⟩]

/-- The readers of the log. -/
def sinks (s : Setup) : Except Error (List Sink) := do
  let floor ← severity s.level
  return ⟨none, floor⟩ :: if s.toFile.isTruthy then files else []

/-- The entry that says that the log is set up. -/
def initialized (s : Setup) : Entry where
  level := .info
  message :=
    s!"Logging initialized | level={s.level.display} | files={s.toFile.display}"

end Setup

/-- The least severity that some reader wants; without readers, more than any severity. -/
def floorOf (sinks : List Sink) : Floor :=
  sinks.foldl (fun floor s => min floor s.floor) 1000

/-- What the console shows of some entries. -/
def onConsole (sinks : List Sink) (entries : List Entry) : List Entry :=
  match sinks.find? (·.file.isNone) with
  | some console => console.received entries
  | none => []

/-- The mark in front of the duration of an event. -/
def durationMark : List Char := " | duration=".toList

/-- A number and the `s` behind it taken off the front of a text. -/
def dropSeconds? (s : List Char) : Option (List Char) :=
  let sign := if s.head? = some '-' then 1 else 0
  let whole := (s.drop sign).takeWhile fun c => c.isDigit || c = '.'
  match s.drop (sign + whole.length) with
  | 's' :: r => if whole = [] then none else some r
  | _ => none

/-- A text without its durations, reading at most `n` characters. -/
def dropDurations : Nat → List Char → List Char
  | 0, s => s
  | _, [] => []
  | n + 1, c :: r =>
    if durationMark.isPrefixOf (c :: r) then
      match dropSeconds? ((c :: r).drop durationMark.length) with
      | some rest => dropDurations n rest
      | none => c :: dropDurations n r
    else c :: dropDurations n r

/-- An entry whose text does not say how long things took. -/
def Entry.timeless (e : Entry) : Entry :=
  { e with message := .ofList (dropDurations e.message.length e.message.toList) }

end Gleaner.Log

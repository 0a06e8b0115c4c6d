import Gleaner.Error
import Gleaner.Template.Expand
import Gleaner.Value

/-! # The log

Entries of the log and the events that they are made from. -/

namespace Gleaner.Log

/-! ## Log entries

The levels of the log with their severities, and the entries that are written to it. -/

/-- How much an entry matters. -/
inductive Level where
  | trace
  | debug
  | info
  | success
  | warning
  | error
  | critical
  deriving DecidableEq, Repr

namespace Level

/-- All levels, the least severe first. -/
def all : List Level := [trace, debug, info, success, warning, error, critical]

/-- The severity of a level. -/
def severity : Level → Nat
  | trace => 5
  | debug => 10
  | info => 20
  | success => 25
  | warning => 30
  | error => 40
  | critical => 50

/-- The name of a level. -/
def name : Level → String
  | trace => "TRACE"
  | debug => "DEBUG"
  | info => "INFO"
  | success => "SUCCESS"
  | warning => "WARNING"
  | error => "ERROR"
  | critical => "CRITICAL"

/-- The level of a name. -/
def ofName? (s : String) : Option Level := all.find? (·.name = s)

end Level

/-- One entry of the log, with the data it was made from. -/
structure Entry where
  level : Level
  message : String
  extra : List (String × Value) := []
  deriving Repr

open Template (Names)

/-! ## Page and fetch events

Two entries carry data next to their text: the scan of a page and the fetch of a page. Their text is
a template in which fields name that data, so a brace in an address counts. A template is only
expanded when some reader of the log wants entries of that level. -/

/-- The least severity that any reader of the log wants. -/
abbrev Floor := Nat

/-- An event: its level, its text before expansion, and the data that fields can name. -/
structure Event where
  level : Level
  text : String
  data : Names

namespace Event

/-- The entry of an event. -/
def entry (e : Event) : Except Error Entry :=
  match Template.expand e.data e.text with
  | .ok message => .ok ⟨e.level, message, e.data⟩
  | .error fault => .error (.template fault)

/-- Reports an event, unless nobody wants entries of its level. -/
def report (floor : Floor) (e : Event) : Traced Entry Unit :=
  if e.level.severity < floor then pure ()
  else match e.entry with
    | .ok entry => .tell [entry]
    | .error err => .fail err

end Event

/-- The word for success or failure. -/
def status (success : Value) : String := if success.isTruthy then "SUCCESS" else "FAILED"

/-- The end of an event's text: how long it took, with two places. -/
def durationText (duration : Option Value) : Except Error String :=
  match duration with
  | none => .ok ""
  | some d =>
    match Template.write d ".2f".toList with
    | .ok shown => .ok s!" | duration={String.ofList shown}s"
    | .error fault => .error (.template fault)

/-- The duration that fields can name; one that was not measured counts as zero. -/
def durationValue (duration : Option Value) : Value := duration.getD (.float (.zero false))

/-- The scan of a page. -/
structure PageScan where
  url : Value
  page : Value
  items : Value
  duration : Option Value := none
  success : Value := .bool true
  extra : Names := []

namespace PageScan

/-- The event of a page scan. A page without an address is an inline one. -/
def event (p : PageScan) : Except Error Event := do
  let url := if p.url.isTruthy then p.url.display else "<inline>"
  let ending ← durationText p.duration
  return {
    level := if p.success.isTruthy then .info else .warning
    text := s!"Page scanned | page={p.page.display} | url={url} | items={p.items.display} | " ++
      s!"status={status p.success}{ending}"
    data := [("url", p.url), ("page", p.page), ("items_count", p.items),
      ("duration", durationValue p.duration), ("success", p.success)] ++ p.extra }

/-- The scan of a numbered page of a crawl, with the number of its items. -/
def ofCrawl (url : Option String) (page items : Nat) : PageScan where
  url := .ofText? url
  page := .int page
  items := .int items

/-- Reports a page scan. -/
def report (floor : Floor) (p : PageScan) : Traced Entry Unit := do
  (← .ofExcept p.event).report floor

end PageScan

/-- The fetch of a page. -/
structure PageFetch where
  url : Value
  status : Value
  duration : Option Value := none
  success : Value := .bool true
  extra : Names := []

namespace PageFetch

/-- The event of a fetch. -/
def event (f : PageFetch) : Except Error Event := do
  let ending ← durationText f.duration
  return {
    level := if f.success.isTruthy then .debug else .warning
    text := s!"Fetch | url={f.url.display} | code={f.status.display} | " ++
      s!"status={Log.status f.success}{ending}"
    data := [("url", f.url), ("status_code", f.status), ("duration", durationValue f.duration),
      ("success", f.success)] ++ f.extra }

/-- Reports a fetch. -/
def report (floor : Floor) (f : PageFetch) : Traced Entry Unit := do
  (← .ofExcept f.event).report floor

end PageFetch

/-! ## Events from tables -/

/-- The values of required names in a table, or the names that are missing. -/
def required (callee : String) (names : List String) (table : Names) : Except Error Names :=
  match names.filter fun n => (table.lookup n).isNone with
  | [] => .ok (names.map fun n => (n, (table.lookup n).getD .none))
  | missing => .error (.arity callee (.missing missing))

/-- The entries of a table that are not among some names. -/
def others (names : List String) (table : Names) : Names :=
  table.filter fun (k, _) => !names.contains k

/-- The value of a name in a table. -/
def valueOf (table : Names) (name : String) : Value := (table.lookup name).getD .none

/-- A page scan from a table of its data. -/
def PageScan.ofTable (table : Names) : Except Error PageScan := do
  let names := ["url", "page", "items_count", "duration"]
  let t ← required "log_page_event" names table
  return {
    url := valueOf t "url", page := valueOf t "page", items := valueOf t "items_count"
    duration := some (valueOf t "duration"), success := (table.lookup "success").getD (.bool true)
    extra := others ("success" :: names) table }

/-- A fetch from a table of its data. -/
def PageFetch.ofTable (table : Names) : Except Error PageFetch := do
  let names := ["url", "status_code", "duration"]
  let t ← required "log_fetch_event" names table
  return {
    url := valueOf t "url", status := valueOf t "status_code"
    duration := some (valueOf t "duration"), success := (table.lookup "success").getD (.bool true)
    extra := others ("success" :: names) table }

end Gleaner.Log

import Gleaner.Crawl.Task

/-! # The course of a crawl

A crawl goes round: a page that was fetched is scanned, the link to the next page is looked up, and
the next page is fetched, until there is no link or the budget is spent. `Crawler.step` takes a
crawl one stage further and `Crawler.advance` so many stages. -/

namespace Gleaner

namespace Crawl

/-- How far a crawl has come with the page it is at. -/
inductive Stage where
  /-- The page is there. -/
  | fetched
  /-- Its records are gathered. -/
  | scanned
  /-- The link to the next page was looked up. -/
  | resolved
  /-- The crawl is over. -/
  | done
  /-- The crawl was broken off. -/
  | failed (e : Error)

/-- A crawl on its way. -/
structure State (σ : Type) where
  stage : Stage := .fetched
  /-- The page that the crawl is at. -/
  page : Page
  /-- Its number, from one on. -/
  number : Nat := 1
  /-- The records of all pages that were scanned. -/
  records : List Value := []
  /-- The address of the next page. -/
  next : Option String := none
  /-- What the fetcher works in. -/
  outside : σ
  events : List Event := []

namespace State

variable {σ : Type}

/-- Whether nothing more will happen. -/
def isOver (s : State σ) : Bool :=
  match s.stage with
  | .done | .failed _ => true
  | _ => false

/-- The state with more events. -/
def tell (s : State σ) (events : List Event) : State σ := { s with events := s.events ++ events }

/-- The state after a computation, which may have broken the crawl off. -/
def after {α : Type} (s : State σ) (x : Traced Event α) (go : State σ → α → State σ) : State σ :=
  match x.result with
  | .ok a => go (s.tell x.events) a
  | .error e => { s.tell x.events with stage := .failed e }

/-- What a crawl comes to: what it works in, its events, and its records or its failure. -/
def summary (s : State σ) : σ × Traced Event (List Value) :=
  (s.outside, ⟨s.events, match s.stage with
    | .failed e => .error e
    | _ => .ok s.records⟩)

end State

/-- An entry of the crawl itself. -/
def note (level : Log.Level) (message : String) : Event := .logged { level, message }

/-- The records that a page's yield stands for: the items of a list. Of a text they are its
characters, of a table its names, and other values have none. -/
def items : Value → Except Error (List Value)
  | .list vs => .ok vs
  | .str s => .ok (s.toList.map fun c => .str (.singleton c))
  | .dict es => .ok (es.map fun (k, _) => .str k)
  | v => .error (.notIterable v.kindName)

/-- A failure on the way to the next page. One of fetching takes the gathered records along. -/
def abort (records : List Value) : Error → Error
  | .fetch f => .fetch { f with records }
  | e => e

/-- The warning that a crawl is broken off, if a page cannot be fetched. -/
def abortNotice (number : Nat) : Error → List Event
  | .fetch f => [note .warning s!"Crawl aborted at page {number} | {f.message}"]
  | _ => []

end Crawl

namespace Crawler

open Crawl

variable {σ : Type}

/-- Scans a page: its records are reported and shown to the caller. -/
def scanPage (c : Crawler σ) (t : Task) (number : Nat) (p : Page) : Traced Event (List Value) := do
  let found ← (c.scanner.scan p.place t.scope t.fields).mapEvents .logged
  let records ← .ofExcept (items found)
  ((Log.PageScan.ofCrawl p.url number records.length).report c.floor).mapEvents .logged
  .tell [.observed number found]
  return records

/-- The page that the next link is looked up on. -/
def linkPage (c : Crawler σ) (t : Task) (current : Page) : Page :=
  if c.follow then current else t.first

/-- The address that a link on a page leads to. -/
def resolve (p : Page) (link : Value) : Except Error (Option String) :=
  let text := if link.isNone then "" else Text.trimmed link.display
  if text = "" then .ok none
  else match Url.absolute text p.url with
    | .ok url => .ok (if url = "" then none else some url)
    | .error fault => .error (.badHost fault)

/-- Looks up the address of the next page. -/
def nextUrl (c : Crawler σ) (t : Task) (current : Page) : Traced Event (Option String) := do
  let p := c.linkPage t current
  let link ← (c.scanner.extractor.extract p.place t.link).mapEvents .logged
  .ofExcept (resolve p link)

/-- Fetches the next page. -/
def fetchNext (c : Crawler σ) (url : String) (s : State σ) : State σ :=
  let (outside, fetched) := c.fetch s.outside url
  let s := { s with outside }.tell (.requested url :: fetched.events.map .logged)
  match fetched.result with
  | .error e =>
    { s.tell (abortNotice (s.number + 1) e) with stage := .failed (abort s.records e) }
  | .ok markup =>
    let s := { s with number := s.number + 1 }
    match c.read markup url with
    | .ok page => { s with stage := .fetched, page }
    | .error e => { s with stage := .failed e }

/-- Ends a crawl for a reason. -/
def finish (reason : String) (s : State σ) : State σ :=
  { s.tell [note .info reason,
      note .info s!"Crawl finished | pages={s.number} | records={s.records.length}"] with
    stage := .done }

/-- One stage further. -/
def step (c : Crawler σ) (t : Task) (s : State σ) : State σ :=
  match s.stage with
  | .fetched =>
    s.after (c.scanPage t s.number s.page) fun s found =>
      { s with stage := .scanned, records := s.records ++ found }
  | .scanned =>
    s.after (c.nextUrl t s.page) fun s next => { s with stage := .resolved, next }
  | .resolved =>
    match s.next with
    | none => finish s!"No next page link after page {s.number}" s
    | some url =>
      if t.budget.isSpent s.number then
        finish s!"Page budget reached | max_pages={t.budget.text}" s
      else c.fetchNext url s
  | .done | .failed _ => s

/-- So many stages further, or as far as it goes. -/
def advance (c : Crawler σ) (t : Task) : Nat → State σ → State σ
  | 0, s => s
  | n + 1, s => if s.isOver then s else c.advance t n (c.step t s)

/-- How a crawl starts. -/
def start (t : Task) (outside : σ) : State σ := { page := t.first, outside }

/-- Crawls by a plan from a source, for at most so many stages. -/
def crawl (c : Crawler σ) (stages : Nat) (outside : σ) (source : Source) (p : Plan) :
    σ × Traced Event (List Value) :=
  match c.check source p with
  | .error e => (outside, .fail e)
  | .ok t => (c.advance t stages (start t outside)).summary

end Crawler

end Gleaner

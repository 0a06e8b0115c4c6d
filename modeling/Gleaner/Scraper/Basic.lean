import Gleaner.Crawl.State

/-! # Scrapers

A scraper has filters of its own and looks up all others in a fallback. What its caller did not
choose follows the settings: whether selectors may only name known filters is settled when the
scraper is made, everything else when it is used. -/

namespace Gleaner

open Markup (Cursor)

/-- What all scrapers see: the settings and the registry of the process. -/
structure Ambient where
  settings : Settings := {}
  shared : Registry := .shared

/-- What the caller chooses for a scraper. -/
structure Config where
  filters : FilterTable := []
  /-- The registry to fall back on, instead of the one of the process. -/
  fallback : Option Registry := none
  dropEmpty : Option Bool := none
  strictFilters : Option Bool := none
  parser : Option String := none
  follow : Bool := false

/-- A scraper. -/
structure Scraper (σ : Type) where
  own : Registry
  fallback : Option Registry
  strict : Bool
  dropEmpty : Option Bool
  parser : Option String
  follow : Bool
  fetch : Fetcher σ

/-- The name of the rules by which markup is read; without a name the settings decide. -/
def Ambient.parserName (a : Ambient) (parser : Option String) : String :=
  (parser.filter (· ≠ "")).getD a.settings.htmlParser

namespace Scraper

variable {σ : Type}

/-- A scraper over a registry of its own. -/
def ofRegistry (own : Registry) (a : Ambient) (config : Config) (fetch : Fetcher σ) : Scraper σ where
  own := own
  fallback := config.fallback
  strict := config.strictFilters.getD a.settings.strictFilters
  dropEmpty := config.dropEmpty
  parser := config.parser
  follow := config.follow
  fetch := fetch

/-- Makes a scraper, with its registry. -/
def build (a : Ambient) (config : Config) (fetch : Fetcher σ) : Traced Log.Entry (Scraper σ) := do
  return ofRegistry (← Registry.build "instance" config.filters) a config fetch

/-- A scraper without any choices. -/
def standard (a : Ambient) (fetch : Fetcher σ) : Scraper σ :=
  ofRegistry ⟨"instance", []⟩ a {} fetch

/-- Where the scraper looks filters up. -/
def chain (s : Scraper σ) (a : Ambient) : Chain := ⟨s.own, s.fallback.getD a.shared⟩

/-- The scraper with other filters of its own. -/
def setFilters (s : Scraper σ) (table : FilterTable) : Traced Log.Entry (Scraper σ) := do
  return { s with own := ← s.own.replace table }

/-- How the scraper scans pages. -/
def scanner (s : Scraper σ) (a : Ambient) : Scanner where
  extractor := ⟨s.chain a, s.strict⟩
  dropEmpty := s.dropEmpty.getD a.settings.dropEmptyRecords

/-- How the scraper crawls. -/
def crawler (s : Scraper σ) (a : Ambient) (floor : Log.Floor) : Crawler σ where
  scanner := s.scanner a
  parser := a.parserName s.parser
  follow := s.follow
  fetch := s.fetch
  floor := floor

/-- Reads a document. -/
def parse (s : Scraper σ) (a : Ambient) (markup : String) (url : Option String) :
    Except Error Document :=
  Document.parse (a.parserName s.parser) markup url

/-- The place that a search starts at. -/
def place (s : Scraper σ) (a : Ambient) : Source → Except Error (Option Cursor)
  | .markup text => do return some (← s.parse a text none).root
  | .document d => .ok (some d.root)
  | .place c => .ok c

/-- Finds records, or a single value if there is no field map. -/
def find (s : Scraper σ) (a : Ambient) (source : Source) (scope : Option String)
    (fields : Option FieldMap) : Traced Log.Entry Value := do
  (s.scanner a).scan (← .ofExcept (s.place a source)) scope fields

/-- Fetches a document. -/
def load (s : Scraper σ) (a : Ambient) (outside : σ) (url : String) :
    σ × Traced Log.Entry Document :=
  let (outside, fetched) := s.fetch outside url
  (outside, do .ofExcept (s.parse a (← fetched) url))

/-- Finds records on the page at an address. -/
def findUrl (s : Scraper σ) (a : Ambient) (outside : σ) (url : String) (scope : Option String)
    (fields : Option FieldMap) : σ × Traced Log.Entry Value :=
  let (outside, loaded) := s.load a outside url
  (outside, do s.find a (.document (← loaded)) scope fields)

/-- Crawls by a plan from a source. A plan without a budget takes the one of the settings, and one
without an address that of the source. -/
def crawl (s : Scraper σ) (a : Ambient) (floor : Log.Floor) (stages : Nat) (outside : σ)
    (source : Source) (p : Crawl.Plan) : σ × Traced Crawl.Event (List Value) :=
  (s.crawler a floor).crawl stages outside source
    { p with
      budget := if p.budget.isNone then a.settings.pageBudget else p.budget
      url := p.url <|> source.url }

/-- Crawls from the page at an address. -/
def crawlUrl (s : Scraper σ) (a : Ambient) (floor : Log.Floor) (stages : Nat) (outside : σ)
    (url : String) (p : Crawl.Plan) : σ × Traced Crawl.Event (List Value) :=
  let (outside, loaded) := s.load a outside url
  let before : Traced Crawl.Event Document := do
    .tell [Crawl.note .info s!"Starting crawl: {url}", .requested url]
    loaded.mapEvents .logged
  match before.result with
  | .error e => (outside, ⟨before.events, .error e⟩)
  | .ok d =>
    let (outside, after) := s.crawl a floor stages outside (.document d) { p with url := none }
    (outside, ⟨before.events ++ after.events, after.result⟩)

end Scraper

end Gleaner

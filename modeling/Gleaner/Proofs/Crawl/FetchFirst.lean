import Gleaner.Proofs.Crawl.Abort
import Gleaner.Proofs.Crawl.Checks

/-! # Fetched first, checked later

A crawl from an address is the fetch of a document and then a crawl from it, and only the second of
them looks at the plan. So a plan that a crawl refuses at once costs a request here, and the failure to
fetch the page comes before that of the plan (`Scraper.crawlUrl_fetches_first`). -/

namespace Gleaner

open Crawl Http

/-- The budget that a plan has under some settings. -/
def Crawl.Plan.budgetUnder (p : Plan) (a : Ambient) : Value :=
  if p.budget.isNone then a.settings.pageBudget else p.budget

namespace Scraper

variable {σ : Type} {s : Scraper σ} {a : Ambient} {floor : Log.Floor} {outside : σ} {url : String}
  {plan : Plan} {e : Error} {stages : Nat}

/-- A scraper refuses a plan for its budget or, if that will do, for the selector of its link. -/
inductive Refuses (s : Scraper σ) (a : Ambient) (plan : Plan) : Error → Prop where
  /-- The budget is a whole number below one, and not minus one. -/
  | budget {i : Int} : plan.budget.whole? = some i → i ≠ -1 → i < 1 →
    Refuses s a plan (.badBudget plan.budget.display)
  /-- The link is no selector of a field. -/
  | malformed {b : Budget} {e : Error} : Budget.ofValue (plan.budgetUnder a) = .ok b →
    Directive.compile plan.link = .error e → Refuses s a plan e
  /-- The link names an unknown filter, and the scraper is strict. -/
  | unregistered {b : Budget} {name : String} : Budget.ofValue (plan.budgetUnder a) = .ok b →
    s.strict = true → Directive.NamesFilter plan.link name → (s.chain a).has name = false →
    Refuses s a plan (.unknownFilter name plan.link)

theorem Refuses.check (h : s.Refuses a plan e) (floor : Log.Floor) (source : Source)
    (url : Option String) : (s.crawler a floor).check source
      { plan with budget := plan.budgetUnder a, url } = .error e := by
  -- The budget is checked before the link, and neither of them depends on the source.
  have hlink {b : Budget} {e : Error} (hbudget : Budget.ofValue (plan.budgetUnder a) = .ok b)
      (hcompile : (s.scanner a).extractor.compile plan.link = .error e) :
      (s.crawler a floor).check source { plan with budget := plan.budgetUnder a, url } =
        .error e := by
    change (Budget.ofValue (plan.budgetUnder a) >>= fun b =>
      (s.scanner a).extractor.compile plan.link >>= _) = _
    rw [hbudget]
    change ((s.scanner a).extractor.compile plan.link >>= _) = _
    rw [hcompile]
    rfl
  cases h with
  | @budget i hwhole hone hlt =>
    have hsome : plan.budgetUnder a = plan.budget := by
      unfold Plan.budgetUnder
      cases hvalue : plan.budget with
      | none =>
        rw [hvalue] at hwhole
        cases hwhole
      | _ => rfl
    have hbudget := (Budget.ofValue_eq_error_iff hwhole).mpr ⟨⟨hone, hlt⟩, rfl⟩
    change (Budget.ofValue (plan.budgetUnder a) >>= _) = _
    rw [hsome, hbudget]
    rfl
  | malformed hbudget hcompile =>
    exact hlink hbudget (Extractor.compile_eq_error_iff.mpr (.inl hcompile))
  | unregistered hbudget hstrict hname hhas =>
    exact hlink hbudget
      (Extractor.compile_eq_error_iff.mpr (.inr ⟨hstrict, _, hname, hhas, rfl⟩))

/-- A crawl by such a plan does nothing but fail. -/
theorem Refuses.crawl (h : s.Refuses a plan e) (floor : Log.Floor) (stages : Nat) (outside : σ)
    (source : Source) (url : Option String) :
    s.crawl a floor stages outside source { plan with url } = (outside, .fail e) :=
  Crawler.crawl_of_check_error (h.check floor source (url <|> source.url)) outside stages

theorem Refuses.crawlUrl (h : s.Refuses a plan e) :
    s.crawlUrl a floor stages outside url plan =
      ((s.fetch outside url).1, ⟨(s.opening a outside url).events,
        (s.opening a outside url).result >>= fun _ => .error e⟩) := by
  rw [crawlUrl_eq]
  cases (s.opening a outside url).result with
  | error e' => rfl
  | ok d =>
    have hcrawl := h.crawl floor stages (s.fetch outside url).1 (.document d) none
    dsimp only
    rw [hcrawl, Traced.events_fail, List.append_nil]
    rfl

/-- **The first page comes before the checks.** A crawl from an address asks for the page there, once
and nothing else, before its plan is refused. If the page cannot be fetched or read, that is what the
crawl fails with; only if it can, the crawl fails for the plan, in the way that a crawl by the same plan
from any source fails, and that one asks for nothing. -/
theorem crawlUrl_fetches_first (s : Scraper σ) (a : Ambient) (plan : Plan) (e : Error)
    (h : s.Refuses a plan e) (floor : Log.Floor) (stages : Nat) (outside : σ) (url : String) :
    let crawled := s.crawlUrl a floor stages outside url plan
    crawled.1 = (s.fetch outside url).1 ∧
    requests crawled.2.events = [url] ∧
    crawled.2.events = (s.opening a outside url).events ∧
    (∀ e', (s.fetch outside url).2.result = .error e' → crawled.2.result = .error e') ∧
    (∀ markup, (s.fetch outside url).2.result = .ok markup →
      (∀ e', s.parse a markup url = .error e' → crawled.2.result = .error e') ∧
      ∀ d, s.parse a markup url = .ok d → crawled.2.result = .error e) ∧
    ∀ (outside : σ) (source : Source),
      s.crawl a floor stages outside source plan = (outside, ⟨[], .error e⟩) := by
  intro crawled
  have hcrawled : crawled = _ := h.crawlUrl
  have hresult : crawled.2.result = ((s.fetch outside url).2.result >>= fun markup =>
      s.parse a markup url) >>= fun _ => .error e := by
    rw [hcrawled, ← result_opening]
  refine ⟨by rw [hcrawled], by rw [hcrawled]; exact requests_opening s a outside url,
    by rw [hcrawled], fun e' hfetch => ?_, fun markup hfetch => ⟨fun e' hparse => ?_, fun d hparse => ?_⟩,
    fun outside source => h.crawl floor stages outside source plan.url⟩
  · rw [hresult, hfetch]
    rfl
  · rw [hresult, hfetch]
    change (s.parse a markup url >>= _) = _
    rw [hparse]
    rfl
  · rw [hresult, hfetch]
    change (s.parse a markup url >>= _) = _
    rw [hparse]
    rfl

/-- A site with one page. -/
def onePage : Site := .ofPages [("http://s/a", .page "<p>x</p>")]

/-- A plan without any pages. -/
def noPages : Plan where
  link := "a@href"
  scope := some "p"
  fields := some [("text", "&")]
  budget := .int 0

theorem refuses_noPages (s : Scraper σ) (a : Ambient) : s.Refuses a noPages (.badBudget "0") :=
  .budget rfl (by decide) (by decide)

/-- From the page that is there the crawl fails for its budget, and from the missing one for that. -/
theorem crawlUrl_fetches_first_no_pages :
    let s := Scraper.standard {} (directFetch onePage)
    requests (s.crawlUrl {} 0 3 [] "http://s/a" noPages).2.events = ["http://s/a"] ∧
    (s.crawlUrl {} 0 3 [] "http://s/a" noPages).2.result = .error (.badBudget "0") ∧
    (s.crawlUrl {} 0 3 [] "http://s/b" noPages).2.result =
      .error (.fetch ⟨"http://s/b", "HTTP 404", some 404, []⟩) := by
  intro s
  obtain ⟨-, hrequests, -, -, hread, -⟩ :=
    crawlUrl_fetches_first s {} noPages _ (refuses_noPages s {}) 0 3 [] "http://s/a"
  obtain ⟨-, -, -, hmissing, -, -⟩ :=
    crawlUrl_fetches_first s {} noPages _ (refuses_noPages s {}) 0 3 [] "http://s/b"
  exact ⟨hrequests, (hread "<p>x</p>" rfl).2 _ rfl, hmissing _ rfl⟩

/-- It is not so that a plan is refused before anything is asked for: with no pages to scan, a missing
page is asked for, and the crawl fails for that. -/
theorem crawlUrl_asks_before_it_refuses :
    ¬ ∀ (s : Scraper Traffic) (a : Ambient) (plan : Plan) (e : Error), s.Refuses a plan e →
      ∀ (floor : Log.Floor) (stages : Nat) (outside : Traffic) (url : String),
        requests (s.crawlUrl a floor stages outside url plan).2.events = [] ∧
          (s.crawlUrl a floor stages outside url plan).2.result = .error e := by
  intro hall
  have hrefused := hall (.standard {} (directFetch {})) {} noPages _ (refuses_noPages _ {}) 0 3 []
    "http://s/a"
  have hmissing : ((Scraper.standard {} (directFetch {})).crawlUrl {} 0 3 [] "http://s/a"
      noPages).2.result = .error (.fetch ⟨"http://s/a", "HTTP 404", some 404, []⟩) := rfl
  rw [hmissing] at hrefused
  cases hrefused.2

end Scraper

end Gleaner

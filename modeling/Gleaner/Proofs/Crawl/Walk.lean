import Gleaner.Crawl.State
import Gleaner.Proofs.Log.Report

/-! # Walks

A crawl as a plain recursion over pages. What becomes of one page is a turn: its records are read,
its link is looked up, and the page behind the link is fetched, unless the walk ends there. A walk
takes one turn after another and gathers what they yield. The main statement is that a crawl runs
just as the walk does from its first page (`Crawler.runs_of_walk`): it scans the same pages in three
stages each, asks for the same addresses and comes to the same result. -/

namespace Gleaner

namespace Crawl

/-- How a walk ends. -/
inductive Ending where
  /-- No link leads on, or the budget is spent. -/
  | finished
  /-- The next page cannot be fetched. -/
  | unfetched (e : Error)
  /-- Something else fails. -/
  | broken (e : Error)

/-- What comes of some records by an ending: they are lost, unless it is a fetch that fails. -/
def Ending.result (records : List Value) : Ending → Except Error (List Value)
  | finished => .ok records
  | unfetched e => .error (abort records e)
  | broken e => .error e

/-- What becomes of a page. -/
inductive Turn (σ : Type) where
  /-- The walk ends at it. -/
  | last (found : List Value) (requests : List String) (ending : Ending) (outside : σ)
  /-- The walk goes on to the page at an address. -/
  | onward (found : List Value) (url : String) (page : Page) (outside : σ)

/-- A walk that came to an end: the pages that were scanned, their records, the addresses that were
asked for, and what the fetcher works in then. -/
structure Course (σ : Type) where
  pages : List Page
  records : List Value
  requests : List String
  ending : Ending
  outside : σ

variable {σ : Type}

/-- What a walk comes to. -/
def Course.result (x : Course σ) : Except Error (List Value) := x.ending.result x.records

/-- The walk over a page and on, through an address. -/
def Course.cons (p : Page) (found : List Value) (url : String) (x : Course σ) : Course σ :=
  { x with
    pages := p :: x.pages
    records := found ++ x.records
    requests := url :: x.requests }

/-- Whether the address of a page is plain. -/
def Page.HasPlainUrl (p : Page) : Prop := ∀ url, p.url = some url → Template.Plain url

/-- The address that an event asks for. -/
def Event.address? : Event → Option String
  | .requested url => some url
  | _ => none

/-- The addresses that were asked for, in order. -/
def requests (events : List Event) : List String := events.filterMap Event.address?

end Crawl

namespace Crawler

open Crawl

variable {σ : Type}

/-- The records of a page. -/
def recordsOf (c : Crawler σ) (t : Task) (p : Page) : Except Error (List Value) := do
  items (← (c.scanner.scan p.place t.scope t.fields).result)

/-- The address that the link on a page leads to, from the address of that page. -/
def linkOn (c : Crawler σ) (t : Task) (p : Page) : Except Error (Option String) := do
  resolve p (← (c.scanner.extractor.extract p.place t.link).result)

/-- What becomes of a page with a number, if `next` tells where its link leads. -/
def turn (c : Crawler σ) (t : Task) (next : Page → Except Error (Option String)) (p : Page)
    (number : Nat) (outside : σ) : Turn σ :=
  match c.recordsOf t p with
  | .error e => .last [] [] (.broken e) outside
  | .ok found =>
    match next p with
    | .error e => .last found [] (.broken e) outside
    | .ok none => .last found [] .finished outside
    | .ok (some url) =>
      if t.budget.isSpent number then .last found [] .finished outside
      else
        let (outside, fetched) := c.fetch outside url
        match fetched.result with
        | .error e => .last found [url] (.unfetched e) outside
        | .ok markup =>
          match c.read markup url with
          | .error e => .last found [url] (.broken e) outside
          | .ok page => .onward found url page outside

/-- The walk from a page with a number comes to an end, after a course. -/
inductive Walk (c : Crawler σ) (t : Task) (next : Page → Except Error (Option String)) :
    Page → Nat → σ → Course σ → Prop where
  | last {p : Page} {number : Nat} {outside after : σ} {found : List Value}
      {requests : List String} {ending : Ending} :
    c.turn t next p number outside = .last found requests ending after →
    Walk c t next p number outside ⟨[p], found, requests, ending, after⟩
  | onward {p page : Page} {number : Nat} {outside after : σ} {found : List Value}
      {url : String} {x : Course σ} :
    c.turn t next p number outside = .onward found url page after →
    Walk c t next page (number + 1) after x →
    Walk c t next p number outside (x.cons p found url)

/-- The pages that a crawl scans in so many stages. -/
def scanned (c : Crawler σ) (t : Task) : Nat → State σ → List Page
  | 0, _ => []
  | n + 1, s =>
    match s.stage with
    | .fetched => s.page :: c.scanned t n (c.step t s)
    | _ => c.scanned t n (c.step t s)

/-- Where a crawl takes its next address from: the page that the link is looked up on. -/
def nextOf (c : Crawler σ) (t : Task) (current : Page) : Except Error (Option String) :=
  c.linkOn t (c.linkPage t current)

/-- A crawl on its way is over after so many stages, and they went as a walk does. -/
structure Runs (c : Crawler σ) (t : Task) (n : Nat) (s : State σ) (x : Course σ) : Prop where
  isOver : (c.advance t n s).isOver
  scanned : c.scanned t n s = x.pages
  requests : requests (c.advance t n s).events = requests s.events ++ x.requests
  outside : (c.advance t n s).outside = x.outside
  result : (c.advance t n s).summary.2.result = x.ending.result (s.records ++ x.records)

/-! ## Stages -/

section

variable {c : Crawler σ} {t : Task} {s : State σ}

theorem step_of_isOver (h : s.isOver) : c.step t s = s := by
  unfold State.isOver at h
  unfold step
  split <;> simp_all

theorem advance_of_isOver (n : Nat) (h : s.isOver) : c.advance t n s = s := by
  cases n with
  | zero => rfl
  | succ n => rw [advance, if_pos h]

@[simp] theorem advance_zero : c.advance t 0 s = s := rfl

theorem advance_succ (n : Nat) : c.advance t (n + 1) s = c.advance t n (c.step t s) := by
  by_cases h : s.isOver
  · rw [advance_of_isOver _ h, step_of_isOver h, advance_of_isOver _ h]
  · rw [advance, if_neg h]

theorem advance_add (m n : Nat) : c.advance t (m + n) s = c.advance t n (c.advance t m s) := by
  induction m generalizing s with
  | zero => rw [Nat.zero_add, advance_zero]
  | succ m ih => rw [Nat.succ_add, advance_succ, advance_succ, ih]

theorem scanned_of_isOver (n : Nat) (h : s.isOver) : c.scanned t n s = [] := by
  induction n with
  | zero => rfl
  | succ n ih =>
    unfold State.isOver at h
    rw [scanned, step_of_isOver (by simpa [State.isOver] using h), ih]
    split <;> simp_all

theorem scanned_add (m n : Nat) :
    c.scanned t (m + n) s = c.scanned t m s ++ c.scanned t n (c.advance t m s) := by
  induction m generalizing s with
  | zero => rw [Nat.zero_add]; rfl
  | succ m ih =>
    rw [Nat.succ_add, scanned, scanned, advance_succ, ih]
    split <;> rfl

theorem Runs.mono {m n : Nat} {x : Course σ} (h : c.Runs t m s x) (hmn : m ≤ n) :
    c.Runs t n s x := by
  obtain ⟨k, rfl⟩ := Nat.exists_eq_add_of_le hmn
  have hk : c.advance t (m + k) s = c.advance t m s := by
    rw [advance_add, advance_of_isOver k h.isOver]
  refine ⟨?_, ?_, ?_, ?_, ?_⟩
  · rw [hk]; exact h.isOver
  · rw [scanned_add, scanned_of_isOver k h.isOver, List.append_nil, h.scanned]
  · rw [hk, h.requests]
  · rw [hk, h.outside]
  · rw [hk, h.result]

/-! ## One page in three stages -/

theorem read_url {markup : String} {url : Option String} {p : Page}
    (h : c.read markup url = .ok p) : p.url = url := by
  unfold read at h
  cases hd : Document.parse c.parser markup url with
  | error e => rw [hd] at h; cases h
  | ok d => rw [hd] at h; cases h; rfl

/-- The scan of a page comes to its records, unless its report fails. -/
theorem result_scanPage_eq (number : Nat) (p : Page) :
    (c.scanPage t number p).result = c.recordsOf t p >>= fun records =>
      ((Log.PageScan.ofCrawl p.url number records.length).report c.floor).result >>= fun _ =>
        .ok records := by
  unfold scanPage recordsOf
  simp only [Traced.result_bind, Traced.result_mapEvents, Traced.result_ofExcept,
    Traced.result_tell, Traced.result_pure]
  cases (c.scanner.scan p.place t.scope t.fields).result <;> rfl

theorem result_scanPage {p : Page} (number : Nat) (h : p.HasPlainUrl) :
    (c.scanPage t number p).result = c.recordsOf t p := by
  simp only [result_scanPage_eq, Log.PageScan.report_ofCrawl c.floor _ _ h]
  cases c.recordsOf t p <;> rfl

theorem result_nextUrl (p : Page) : (c.nextUrl t p).result = c.nextOf t p := by
  unfold nextUrl nextOf linkOn
  simp only [Traced.result_bind, Traced.result_mapEvents, Traced.result_ofExcept]

theorem requests_append (events more : List Event) :
    requests (events ++ more) = requests events ++ requests more := List.filterMap_append

theorem requests_logged (entries : List Log.Entry) : requests (entries.map .logged) = [] := by
  simp [requests, Event.address?]

theorem requests_finish (reason : String) (s : State σ) :
    requests (finish reason s).events = requests s.events := by
  rw [finish, State.tell, requests_append]
  exact List.append_nil _

theorem requests_fetch (url : String) (entries : List Log.Entry) :
    requests (.requested url :: entries.map .logged) = [url] := by
  change url :: requests _ = [url]
  rw [requests_logged]

theorem requests_abortNotice (number : Nat) (e : Error) : requests (abortNotice number e) = [] := by
  cases e <;> rfl

theorem requests_scanPage (number : Nat) (p : Page) :
    requests (c.scanPage t number p).events = [] := by
  rw [requests, List.filterMap_eq_nil_iff]
  intro e he
  have logged {entries : List Log.Entry} (h : e ∈ entries.map .logged) : e.address? = none := by
    obtain ⟨_, _, rfl⟩ := List.mem_map.mp h; rfl
  unfold scanPage at he
  rcases Traced.mem_events_bind he with he | ⟨found, he⟩
  · exact logged he
  rcases Traced.mem_events_bind he with he | ⟨records, he⟩
  · cases he
  rcases Traced.mem_events_bind he with he | ⟨_, he⟩
  · exact logged he
  rcases Traced.mem_events_bind he with he | ⟨_, he⟩
  · cases List.mem_singleton.mp he; rfl
  · cases he

theorem requests_nextUrl (p : Page) : requests (c.nextUrl t p).events = [] := by
  rw [nextUrl, Traced.events_bind, requests_append]
  refine List.append_eq_nil_iff.mpr ⟨requests_logged _, ?_⟩
  split <;> rfl

theorem requests_tell_scanPage (number : Nat) (p : Page) :
    requests (s.tell (c.scanPage t number p).events).events = requests s.events := by
  rw [State.tell, requests_append, requests_scanPage, List.append_nil]

theorem requests_tell_nextUrl (p : Page) :
    requests (s.tell (c.nextUrl t p).events).events = requests s.events := by
  rw [State.tell, requests_append, requests_nextUrl, List.append_nil]

theorem step_of_scanPage (hs : s.stage = .fetched) {found : List Value}
    (h : (c.scanPage t s.number s.page).result = .ok found) :
    c.step t s = { s.tell (c.scanPage t s.number s.page).events with
      stage := .scanned, records := s.records ++ found } := by
  unfold step State.after
  rw [hs]
  dsimp only
  rw [h]
  rfl

theorem step_fetched (hs : s.stage = .fetched) (hp : s.page.HasPlainUrl) :
    c.step t s = match c.recordsOf t s.page with
      | .ok found =>
        { s.tell (c.scanPage t s.number s.page).events with
          stage := .scanned, records := s.records ++ found }
      | .error e =>
        { s.tell (c.scanPage t s.number s.page).events with stage := .failed e } := by
  rw [← result_scanPage s.number hp]
  unfold step State.after
  rw [hs]
  cases (c.scanPage t s.number s.page).result <;> rfl

theorem step_scanned (hs : s.stage = .scanned) :
    c.step t s = match c.nextOf t s.page with
      | .ok next => { s.tell (c.nextUrl t s.page).events with stage := .resolved, next }
      | .error e => { s.tell (c.nextUrl t s.page).events with stage := .failed e } := by
  rw [← result_nextUrl]
  unfold step State.after
  rw [hs]
  cases (c.nextUrl t s.page).result <;> rfl

theorem step_resolved_none (hs : s.stage = .resolved) (hn : s.next = none) :
    c.step t s = finish s!"No next page link after page {s.number}" s := by
  unfold step
  rw [hs, hn]

theorem step_resolved_some {url : String} (hs : s.stage = .resolved) (hn : s.next = some url) :
    c.step t s = if t.budget.isSpent s.number then
        finish s!"Page budget reached | max_pages={t.budget.text}" s
      else c.fetchNext url s := by
  unfold step
  rw [hs, hn]

theorem fetchNext_unfetched {url : String} {e : Error}
    (hm : (c.fetch s.outside url).2.result = .error e) :
    c.fetchNext url s =
      { s with
        stage := .failed (abort s.records e), outside := (c.fetch s.outside url).1
        events := s.events ++ (.requested url :: (c.fetch s.outside url).2.events.map .logged ++
          abortNotice (s.number + 1) e) } := by
  simp only [fetchNext, State.tell, hm, List.append_assoc]

theorem fetchNext_unread {url markup : String} {e : Error}
    (hm : (c.fetch s.outside url).2.result = .ok markup) (hr : c.read markup url = .error e) :
    c.fetchNext url s =
      { s with
        stage := .failed e, number := s.number + 1, outside := (c.fetch s.outside url).1
        events := s.events ++ .requested url :: (c.fetch s.outside url).2.events.map .logged } := by
  simp only [fetchNext, State.tell, hm, hr]

theorem fetchNext_read {url markup : String} {page : Page}
    (hm : (c.fetch s.outside url).2.result = .ok markup) (hr : c.read markup url = .ok page) :
    c.fetchNext url s =
      { s with
        stage := .fetched, page, number := s.number + 1, outside := (c.fetch s.outside url).1
        events := s.events ++ .requested url :: (c.fetch s.outside url).2.events.map .logged } := by
  simp only [fetchNext, State.tell, hm, hr]

/-- A stage that computes something goes on with it, or it is the last one. -/
theorem after_cases {α : Type} (s : State σ) (x : Traced Event α) (go : State σ → α → State σ) :
    (∃ a, x.result = .ok a ∧ s.after x go = go (s.tell x.events) a) ∨
      ∃ e, x.result = .error e ∧ s.after x go = { s.tell x.events with stage := .failed e } := by
  unfold State.after
  cases x.result with
  | ok a => exact .inl ⟨a, rfl, rfl⟩
  | error e => exact .inr ⟨e, rfl, rfl⟩

/-- To go for the next page is one request, and it ends at the page or in a failure. -/
theorem fetchNext_cases (url : String) (s : State σ) :
    requests (c.fetchNext url s).events = requests s.events ++ [url] ∧
      ((c.fetchNext url s).stage = .fetched ∧ (c.fetchNext url s).page.url = some url ∨
        ∃ e, (c.fetchNext url s).stage = .failed e ∧ (c.fetchNext url s).page = s.page) := by
  cases hm : (c.fetch s.outside url).2.result with
  | error e =>
    rw [fetchNext_unfetched hm, requests_append, requests_append, requests_fetch,
      requests_abortNotice, List.append_nil]
    exact ⟨rfl, .inr ⟨_, rfl, rfl⟩⟩
  | ok markup =>
    cases hr : c.read markup url with
    | error e =>
      rw [fetchNext_unread hm hr, requests_append, requests_fetch]
      exact ⟨rfl, .inr ⟨e, rfl, rfl⟩⟩
    | ok page =>
      rw [fetchNext_read hm hr, requests_append, requests_fetch]
      exact ⟨rfl, .inl ⟨rfl, read_url hr⟩⟩

theorem turn_eq_onward_iff {next : Page → Except Error (Option String)} {p page : Page}
    {number : Nat} {outside after : σ} {found : List Value} {url : String} :
    c.turn t next p number outside = .onward found url page after ↔
      c.recordsOf t p = .ok found ∧ next p = .ok (some url) ∧ t.budget.isSpent number = false ∧
        ∃ markup, (c.fetch outside url).2.result = .ok markup ∧ c.read markup url = .ok page ∧
          (c.fetch outside url).1 = after := by
  unfold turn
  constructor
  · intro h
    split at h
    · cases h
    next found' hr =>
    split at h
    · cases h
    · cases h
    next url' hn =>
    split at h
    · cases h
    next hb =>
    dsimp only at h
    split at h
    · cases h
    next markup hm =>
    split at h
    · cases h
    next page' hp =>
    cases h
    exact ⟨hr, hn, by simpa using hb, markup, hm, hp, rfl⟩
  · rintro ⟨hr, hn, hb, markup, hm, hp, rfl⟩
    simp only [hr, hn, hb, hm, hp, Bool.false_eq_true, ↓reduceIte]

theorem scanned_three (hs : s.stage = .fetched) : c.scanned t 3 s = [s.page] := by
  have h1 : (c.step t s).stage = .scanned ∨ ∃ e, (c.step t s).stage = .failed e := by
    simp only [step, State.after, hs]
    cases (c.scanPage t s.number s.page).result with
    | ok => exact .inl rfl
    | error e => exact .inr ⟨e, rfl⟩
  have h2 : (c.step t (c.step t s)).stage = .resolved ∨
      ∃ e, (c.step t (c.step t s)).stage = .failed e := by
    generalize c.step t s = s1 at h1
    rcases h1 with h1 | ⟨e, h1⟩
    · simp only [step, State.after, h1]
      cases (c.nextUrl t s1.page).result with
      | ok => exact .inl rfl
      | error e => exact .inr ⟨e, rfl⟩
    · rw [step_of_isOver (by rw [State.isOver, h1])]
      exact .inr ⟨e, h1⟩
  rcases h1 with h1 | ⟨_, h1⟩ <;> rcases h2 with h2 | ⟨_, h2⟩ <;> simp [scanned, hs, h1, h2]

/-- Where a crawl stands when the records of a page are gathered and its link is looked up. -/
def resolved (c : Crawler σ) (t : Task) (s : State σ) (found : List Value) (next : Option String) :
    State σ :=
  { s.tell ((c.scanPage t s.number s.page).events ++ (c.nextUrl t s.page).events) with
    stage := .resolved, records := s.records ++ found, next }

theorem requests_resolved (found : List Value) (next : Option String) :
    requests (c.resolved t s found next).events = requests s.events := by
  rw [resolved, State.tell, requests_append, requests_append, requests_scanPage, requests_nextUrl]
  exact List.append_nil _

theorem advance_two_of_scanPage (hs : s.stage = .fetched) {found : List Value}
    {next : Option String} (hscan : (c.scanPage t s.number s.page).result = .ok found)
    (hn : c.nextOf t s.page = .ok next) : c.advance t 2 s = c.resolved t s found next := by
  rw [advance_succ, step_of_scanPage hs hscan, advance_succ, step_scanned rfl, advance_zero]
  simp only [State.tell, hn, resolved, List.append_assoc]

theorem advance_three (hs : s.stage = .fetched) (hp : s.page.HasPlainUrl) {found : List Value}
    {next : Option String} (hr : c.recordsOf t s.page = .ok found)
    (hn : c.nextOf t s.page = .ok next) :
    c.advance t 3 s = c.step t (c.resolved t s found next) := by
  rw [advance_add 2 1, advance_two_of_scanPage hs ((result_scanPage s.number hp).trans hr) hn,
    advance_succ, advance_zero]

theorem advance_three_scan_error (hs : s.stage = .fetched) (hp : s.page.HasPlainUrl) {e : Error}
    (hr : c.recordsOf t s.page = .error e) :
    c.advance t 3 s =
      { s.tell (c.scanPage t s.number s.page).events with stage := .failed e } := by
  rw [advance_succ, step_fetched hs hp, hr, advance_of_isOver 2 rfl]

theorem advance_three_link_error (hs : s.stage = .fetched) (hp : s.page.HasPlainUrl)
    {found : List Value} {e : Error} (hr : c.recordsOf t s.page = .ok found)
    (hn : c.nextOf t s.page = .error e) :
    c.advance t 3 s =
      { s.tell ((c.scanPage t s.number s.page).events ++ (c.nextUrl t s.page).events) with
        stage := .failed e, records := s.records ++ found } := by
  rw [advance_succ, step_fetched hs hp, hr, advance_succ, step_scanned rfl]
  simp only [State.tell, hn, List.append_assoc]
  exact advance_of_isOver 1 rfl

/-- A page at which the walk goes on takes a crawl three stages, to the next page. -/
theorem advance_three_onward_eq {found : List Value} {url : String} {page : Page} {after : σ}
    (hs : s.stage = .fetched) (hp : s.page.HasPlainUrl)
    (h : c.turn t (c.nextOf t) s.page s.number s.outside = .onward found url page after) :
    c.advance t 3 s =
      { s with
        stage := .fetched, page, number := s.number + 1, records := s.records ++ found,
        next := some url, outside := after
        events := (c.resolved t s found (some url)).events ++
          .requested url :: (c.fetch s.outside url).2.events.map .logged } := by
  obtain ⟨hr, hn, hb, markup, hm, hpage, rfl⟩ := turn_eq_onward_iff.mp h
  rw [advance_three hs hp hr hn, step_resolved_some (s := c.resolved t s found (some url)) rfl rfl,
    if_neg (by simpa [resolved, State.tell] using hb)]
  simp only [fetchNext, resolved, State.tell, hm, hpage]

theorem advance_three_onward {found : List Value} {url : String} {page : Page} {after : σ}
    (hs : s.stage = .fetched) (hp : s.page.HasPlainUrl)
    (h : c.turn t (c.nextOf t) s.page s.number s.outside = .onward found url page after) :
    ∃ events, requests events = requests s.events ++ [url] ∧ c.advance t 3 s =
      { s with
        stage := .fetched, page, number := s.number + 1, records := s.records ++ found,
        next := some url, outside := after, events } := by
  refine ⟨_, ?_, advance_three_onward_eq hs hp h⟩
  rw [requests_append, requests_resolved, requests_fetch]

theorem runs_three {s' : State σ} {found : List Value} {reqs : List String} {ending : Ending}
    {after : σ} (hs : s.stage = .fetched) (hadv : c.advance t 3 s = s') (hover : s'.isOver)
    (hreqs : requests s'.events = requests s.events ++ reqs) (hafter : s'.outside = after)
    (hresult : s'.summary.2.result = ending.result (s.records ++ found)) :
    c.Runs t 3 s ⟨[s.page], found, reqs, ending, after⟩ := by
  subst hadv
  exact ⟨hover, scanned_three hs, hreqs, hafter, hresult⟩

/-- A page at which the walk ends is the last one of a crawl. -/
theorem runs_three_last {found : List Value} {reqs : List String} {ending : Ending} {after : σ}
    (hs : s.stage = .fetched) (hp : s.page.HasPlainUrl)
    (h : c.turn t (c.nextOf t) s.page s.number s.outside = .last found reqs ending after) :
    c.Runs t 3 s ⟨[s.page], found, reqs, ending, after⟩ := by
  unfold turn at h
  split at h
  next e hr =>
    cases h
    refine runs_three hs (advance_three_scan_error hs hp hr) rfl ?_ rfl rfl
    rw [State.tell, requests_append, requests_scanPage]
  next found' hr =>
  split at h
  next e hn =>
    cases h
    refine runs_three hs (advance_three_link_error hs hp hr hn) rfl ?_ rfl rfl
    rw [State.tell, requests_append, requests_append, requests_scanPage, requests_nextUrl]
    rfl
  next hn =>
    cases h
    have hadv := advance_three hs hp hr hn
    rw [step_resolved_none (s := c.resolved t s found none) rfl rfl] at hadv
    refine runs_three hs hadv rfl ?_ rfl rfl
    rw [requests_finish, requests_resolved, List.append_nil]
  next url hn =>
  have hadv := advance_three hs hp hr hn
  rw [step_resolved_some (s := c.resolved t s found' (some url)) rfl rfl] at hadv
  split at h
  next hb =>
    cases h
    rw [if_pos (by simpa [resolved, State.tell] using hb)] at hadv
    refine runs_three hs hadv rfl ?_ rfl rfl
    rw [requests_finish, requests_resolved, List.append_nil]
  next hb =>
  rw [if_neg (by simpa [resolved, State.tell] using hb)] at hadv
  dsimp only at h
  split at h
  next e hm =>
    rw [fetchNext_unfetched (s := c.resolved t s found' (some url)) hm] at hadv
    cases h
    refine runs_three hs hadv rfl ?_ rfl rfl
    rw [requests_append, requests_resolved, requests_append, requests_fetch, requests_abortNotice,
      List.append_nil]
  next markup hm =>
  split at h
  next e hpage =>
    rw [fetchNext_unread (s := c.resolved t s found' (some url)) hm hpage] at hadv
    cases h
    refine runs_three hs hadv rfl ?_ rfl rfl
    rw [requests_append, requests_resolved, requests_fetch]
  next => cases h

theorem Runs.cons {found : List Value} {url : String} {page : Page} {after : σ} {x : Course σ}
    {n : Nat} (hs : s.stage = .fetched) (hp : s.page.HasPlainUrl)
    (h : c.turn t (c.nextOf t) s.page s.number s.outside = .onward found url page after)
    (hx : ∀ s' : State σ, s'.stage = .fetched → s'.page = page → s'.number = s.number + 1 →
      s'.outside = after → c.Runs t n s' x) :
    c.Runs t (3 + n) s (x.cons s.page found url) := by
  obtain ⟨events, hreqs, hadv⟩ := advance_three_onward hs hp h
  have hn : c.advance t (3 + n) s = _ := (advance_add 3 n).trans (congrArg _ hadv)
  have H := hx { s with
    stage := .fetched, page, number := s.number + 1, records := s.records ++ found,
    next := some url, outside := after, events } rfl rfl rfl rfl
  refine ⟨?_, ?_, ?_, ?_, ?_⟩
  · rw [hn]; exact H.isOver
  · rw [scanned_add, scanned_three hs, hadv, H.scanned]; rfl
  · rw [hn, H.requests, hreqs, List.append_assoc]; rfl
  · rw [hn, H.outside]; rfl
  · rw [hn, H.result, List.append_assoc]; rfl

/-- **A crawl runs as the walk does**: from a page on, it is over three stages for each page that the
walk scans, and comes to what the walk comes to. -/
theorem runs_of_walk {p : Page} {number : Nat} {outside : σ} {x : Course σ}
    (h : c.Walk t (c.nextOf t) p number outside x) (hx : ∀ q ∈ x.pages, q.HasPlainUrl)
    (hs : s.stage = .fetched) (hpage : s.page = p) (hnumber : s.number = number)
    (houtside : s.outside = outside) : c.Runs t (3 * x.pages.length) s x := by
  induction h generalizing s with
  | last hturn =>
    subst hpage hnumber houtside
    exact runs_three_last hs (hx _ List.mem_cons_self) hturn
  | @onward _ page _ _ after found url rest hturn _ ih =>
    subst hpage hnumber houtside
    have hrun : ∀ s' : State σ, s'.stage = .fetched → s'.page = page →
        s'.number = s.number + 1 → s'.outside = after →
        c.Runs t (3 * rest.pages.length) s' rest := fun s' h1 h2 h3 h4 =>
      ih (fun q hq => hx q (List.mem_cons_of_mem _ hq)) h1 h2 h3 h4
    have hlength : 3 * (rest.cons s.page found url).pages.length =
        3 + 3 * rest.pages.length := by
      simp only [Course.cons, List.length_cons]; omega
    rw [hlength]
    exact Runs.cons hs (hx _ List.mem_cons_self) hturn hrun

theorem Walk.unique {next : Page → Except Error (Option String)} {p : Page} {number : Nat}
    {outside : σ} {x y : Course σ} (hx : c.Walk t next p number outside x)
    (hy : c.Walk t next p number outside y) : x = y := by
  induction hx generalizing y with
  | last hturn =>
    cases hy with
    | last hturn' => rw [hturn] at hturn'; cases hturn'; rfl
    | onward hturn' => rw [hturn] at hturn'; cases hturn'
  | onward hturn _ ih =>
    cases hy with
    | last hturn' => rw [hturn] at hturn'; cases hturn'
    | onward hturn' hrest =>
      rw [hturn] at hturn'
      cases hturn'
      rw [ih hrest]

theorem isOver_three_mul {n : Nat} (h : (c.advance t n s).isOver) :
    (c.advance t (3 * n) s).isOver ∧ c.scanned t (3 * n) s = c.scanned t n s := by
  rw [show 3 * n = n + 2 * n by omega, advance_add, scanned_add, advance_of_isOver _ h,
    scanned_of_isOver _ h, List.append_nil]
  exact ⟨h, rfl⟩

/-- A crawl that comes to an end over plain addresses goes as a walk over such addresses. -/
theorem exists_plain_walk_of_isOver {n : Nat} (hs : s.stage = .fetched)
    (hover : (c.advance t n s).isOver) (hp : ∀ p ∈ c.scanned t n s, p.HasPlainUrl) :
    ∃ x, c.Walk t (c.nextOf t) s.page s.number s.outside x ∧ ∀ p ∈ x.pages, p.HasPlainUrl := by
  obtain ⟨hover3, hscanned⟩ := isOver_three_mul hover
  rw [← hscanned] at hp
  clear hover hscanned
  -- page by page, three stages at a time
  induction n generalizing s with
  | zero => simp [State.isOver, hs] at hover3
  | succ n ih =>
    have hlength : 3 * (n + 1) = 3 + 3 * n := by omega
    rw [hlength] at hover3 hp
    rw [scanned_add, scanned_three hs] at hp
    have hpage := hp _ List.mem_cons_self
    cases hturn : c.turn t (c.nextOf t) s.page s.number s.outside with
    | last found reqs ending after =>
      exact ⟨_, .last hturn, List.forall_mem_singleton.mpr hpage⟩
    | onward found url page after =>
      obtain ⟨events, -, hadv⟩ := advance_three_onward hs hpage hturn
      rw [advance_add, hadv] at hover3
      rw [hadv] at hp
      obtain ⟨rest, hrest, hplain⟩ : ∃ x, c.Walk t (c.nextOf t) page (s.number + 1) after x ∧
          ∀ p ∈ x.pages, p.HasPlainUrl := by
        refine ih ?_ (fun q hq => hp q (List.mem_cons_of_mem _ hq)) hover3
        rfl
      exact ⟨_, .onward hturn hrest, List.forall_mem_cons.mpr ⟨hpage, hplain⟩⟩

/-- A crawl that comes to an end goes as a walk that does. -/
theorem exists_walk_of_isOver {n : Nat} (hs : s.stage = .fetched)
    (hover : (c.advance t n s).isOver) (hp : ∀ p ∈ c.scanned t n s, p.HasPlainUrl) :
    ∃ x, c.Walk t (c.nextOf t) s.page s.number s.outside x := by
  obtain ⟨x, hx, -⟩ := exists_plain_walk_of_isOver hs hover hp
  exact ⟨x, hx⟩

theorem isSpent_eq_false_iff {b : Budget} {limit number : Nat} (h : b.limit = some limit) :
    b.isSpent number = false ↔ number < limit := by
  simp [Budget.isSpent, h]

/-- At its last page a walk makes no request, or one within the budget. -/
theorem requests_turn_last {next : Page → Except Error (Option String)} {p : Page} {number : Nat}
    {outside after : σ} {found : List Value} {reqs : List String} {ending : Ending}
    (h : c.turn t next p number outside = .last found reqs ending after) :
    reqs = [] ∨ t.budget.isSpent number = false ∧ ∃ url, reqs = [url] := by
  unfold turn at h
  split at h
  · cases h; exact .inl rfl
  split at h
  · cases h; exact .inl rfl
  · cases h; exact .inl rfl
  split at h
  · cases h; exact .inl rfl
  next hb =>
  refine .inr ⟨by simpa using hb, ?_⟩
  dsimp only at h
  split at h
  · cases h; exact ⟨_, rfl⟩
  split at h
  · cases h; exact ⟨_, rfl⟩
  · cases h

/-- A walk with a limit ends at the latest with the page of that number, and it asks for fewer pages
than it may scan. -/
theorem exists_walk_of_limit {next : Page → Except Error (Option String)} {limit : Nat}
    (hlimit : t.budget.limit = some limit) {p : Page} {number : Nat} {outside : σ}
    (hn : number ≤ limit) :
    ∃ x, c.Walk t next p number outside x ∧ number + x.pages.length ≤ limit + 1 ∧
      number + x.requests.length ≤ limit := by
  cases hturn : c.turn t next p number outside with
  | last found reqs ending after =>
    refine ⟨⟨[p], found, reqs, ending, after⟩, .last hturn, Nat.add_le_add_right hn 1, ?_⟩
    rcases requests_turn_last hturn with rfl | ⟨hb, url, rfl⟩
    · exact hn
    · exact (isSpent_eq_false_iff hlimit).mp hb
  | onward found url page after =>
    have hb := (isSpent_eq_false_iff hlimit).mp (turn_eq_onward_iff.mp hturn).2.2.1
    obtain ⟨rest, hrest, hpages, hreqs⟩ : ∃ x, c.Walk t next page (number + 1) after x ∧
        number + 1 + x.pages.length ≤ limit + 1 ∧ number + 1 + x.requests.length ≤ limit :=
      exists_walk_of_limit hlimit (Nat.succ_le_of_lt hb)
    refine ⟨rest.cons p found url, .onward hturn hrest, ?_, ?_⟩
    · simp only [Course.cons, List.length_cons]; omega
    · simp only [Course.cons, List.length_cons]; omega
termination_by limit - number

end

end Crawler

end Gleaner

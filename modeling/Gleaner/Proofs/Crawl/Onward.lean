import Gleaner.Proofs.Crawl.Abort
import Gleaner.Proofs.Crawl.Redirect

/-! # Crawls from one page on

A crawl that follows the link of each page goes on from the second page as a crawl from the address of
that page does, with one page less to go. So a crawl from an address comes to the records of the first
page and then to what the other crawl comes to. The main statement is
`Scraper.crawlUrl_goes_on`. -/

namespace Gleaner

namespace Budget

variable {b larger : Budget}

/-- A budget of one page more is spent one page later. -/
theorem isSpent_succ (h : larger.limit = b.limit.map (· + 1)) (n : Nat) :
    larger.isSpent (n + 1) = b.isSpent n := by
  unfold isSpent
  rw [h]
  cases b.limit <;> simp

theorem isSpent_zero {v : Value} (h : ofValue v = .ok b) : b.isSpent 0 = false := by
  unfold isSpent
  cases hb : b.limit with
  | none => rfl
  | some limit => exact decide_eq_false (Nat.not_le.mpr (one_le_of_ofValue h hb))

end Budget

namespace Crawl

variable {σ : Type}

/-- A failure of a fetch takes further records along, in front of those that it has. -/
def takeAlong (records : List Value) : Error → Error
  | .fetch f => .fetch { f with records := records ++ f.records }
  | e => e

/-- What a crawl comes to behind some records. -/
def behind (records : List Value) : Except Error (List Value) → Except Error (List Value)
  | .ok more => .ok (records ++ more)
  | .error e => .error (takeAlong records e)

/-- The stage of a crawl behind some records. -/
def Stage.behind (records : List Value) : Stage → Stage
  | .failed e => .failed (takeAlong records e)
  | stage => stage

theorem takeAlong_eq_or (records : List Value) (e : Error) :
    takeAlong records e = e ∨ ∃ f, e = .fetch f := by
  cases e with
  | fetch f => exact .inr ⟨f, rfl⟩
  | _ => exact .inl rfl

theorem abort_of_isFresh {e : Error} (h : Http.IsFresh e) (records : List Value) :
    abort records e = takeAlong records e := by
  cases e with
  | fetch f => rw [abort, takeAlong, h f rfl, List.append_nil]
  | _ => rfl

theorem abort_append (records more : List Value) (e : Error) :
    abort (records ++ more) e = takeAlong records (abort more e) := by
  cases e <;> rfl

/-- A plan with another budget. -/
def Plan.withBudget (p : Plan) (budget : Value) : Plan := { p with budget }

/-- A plan as a crawl from an address takes it: without a budget it has the one of the settings. -/
def Plan.under (p : Plan) (a : Ambient) (url : String) : Plan :=
  { p with
    budget := if p.budget.isNone then a.settings.pageBudget else p.budget
    url := some url }

/-- The pages that a crawl scans, and whether it is over. -/
structure Journey where
  pages : List Page
  isOver : Bool

end Crawl

namespace Crawler

open Crawl

variable {σ : Type} {c : Crawler σ} {t t' : Task} {s s' : State σ} {found : List Value}
  {url : String} {pages : List Page}

theorem FailsLikeFetch.of_follow {b : Budget} {first p : Page} {f : FetchFailure}
    (h : c.FailsLikeFetch { t with budget := b, first } p f) (hfollow : c.follow = true) :
    c.FailsLikeFetch t p f := by
  unfold FailsLikeFetch at h ⊢
  rw [nextOf_of_follow hfollow] at h ⊢
  exact h

theorem requests_unfetched (url : String) (entries : List Log.Entry) (number : Nat) (e : Error) :
    requests (.requested url :: entries.map .logged ++ abortNotice number e) = [url] := by
  rw [requests_append, requests_fetch, requests_abortNotice]
  rfl

/-- A crawl stands where another one does, one page and some records ahead: the records of a page
that it scanned before, and from which it asked for an address. Only if a page of the other crawl
fails like a fetch do both fail for the same reason, and no records are taken along. -/
structure Follows (c : Crawler σ) (t : Task) (found : List Value) (url : String) (pages : List Page)
    (s s' : State σ) : Prop where
  stage : s'.stage = s.stage.behind found ∨
    ∃ f, s.stage = .failed (.fetch f) ∧ s'.stage = .failed (.fetch f) ∧
      ∃ p ∈ pages, c.FailsLikeFetch t p f
  page : s'.page = s.page
  number : s'.number = s.number + 1
  records : s'.records = found ++ s.records
  next : s.stage = .resolved → s'.next = s.next
  outside : s'.outside = s.outside
  requests : requests s'.events = url :: requests s.events

namespace Follows

theorem isOver_eq (h : c.Follows t found url pages s s') : s'.isOver = s.isOver := by
  unfold State.isOver
  rcases h.stage with hstage | ⟨f, hs, hs', -⟩
  · rw [hstage]
    cases s.stage <;> rfl
  · rw [hs, hs']

theorem stage_eq (h : c.Follows t found url pages s s') (hs : s.isOver = false) :
    s'.stage = s.stage := by
  rcases h.stage with hstage | ⟨f, hf, -⟩
  · rw [hstage]
    cases hst : s.stage with
    | failed => simp [State.isOver, hst] at hs
    | _ => rfl
  · simp [State.isOver, hf] at hs

theorem mono (h : c.Follows t found url pages s s') (more : List Page) :
    c.Follows t found url (pages ++ more) s s' :=
  { h with
    stage := h.stage.imp_right fun ⟨f, hs, hs', p, hp, hfails⟩ =>
      ⟨f, hs, hs', p, List.mem_append_left more hp, hfails⟩ }

/-- If both fail for one reason, then it is no failure of a fetch, or a page failed like that. -/
theorem stage_failed {e : Error} (hs : s.stage = .failed e) (hs' : s'.stage = .failed e)
    (h : ∀ f, e = .fetch f → ∃ p ∈ pages, c.FailsLikeFetch t p f) :
    s'.stage = s.stage.behind found ∨
      ∃ f, s.stage = .failed (.fetch f) ∧ s'.stage = .failed (.fetch f) ∧
        ∃ p ∈ pages, c.FailsLikeFetch t p f := by
  rcases takeAlong_eq_or found e with heq | ⟨f, rfl⟩
  · left
    rw [hs, hs', Stage.behind, heq]
  · exact .inr ⟨f, hs, hs', h f rfl⟩

/-- What a crawl comes to where it follows another one. -/
theorem result (h : c.Follows t found url pages s s') :
    s'.summary.2.result = Crawl.behind found s.summary.2.result ∨
      ∃ f, s.summary.2.result = .error (.fetch f) ∧ s'.summary.2.result = .error (.fetch f) ∧
        ∃ p ∈ pages, c.FailsLikeFetch t p f := by
  rcases h.stage with hstage | ⟨f, hs, hs', hfails⟩
  · left
    unfold State.summary
    rw [hstage, h.records]
    cases s.stage <;> rfl
  · exact .inr ⟨f, State.result_eq_error_iff.mpr hs, State.result_eq_error_iff.mpr hs', hfails⟩

theorem requests_append (h : c.Follows t found url pages s s') {more more' : List Event}
    (heq : Crawl.requests more' = Crawl.requests more) :
    Crawl.requests (s'.events ++ more') = url :: Crawl.requests (s.events ++ more) := by
  rw [Crawler.requests_append, Crawler.requests_append, h.requests, heq]
  rfl

theorem scanned_one_eq (h : c.Follows t found url pages s s') :
    c.scanned t' 1 s' = c.scanned t 1 s := by
  cases hover : s.isOver with
  | true => rw [scanned_of_isOver 1 hover, scanned_of_isOver 1 (h.isOver_eq.trans hover)]
  | false =>
    rw [scanned, scanned, h.stage_eq hover, h.page]
    rfl

/-- **One stage of a crawl follows the same stage of the other.** -/
theorem step (hfollow : c.follow = true) (ht : t' = { t with budget := t'.budget, first := t'.first })
    (hspent : ∀ n, t'.budget.isSpent (n + 1) = t.budget.isSpent n)
    (h : c.Follows t found url pages s s') (hpage : s.stage = .scanned → s.page ∈ pages)
    (hp : s.stage = .fetched → s.page.HasPlainUrl) :
    c.Follows t found url (pages ++ c.scanned t 1 s) (c.step t s) (c.step t' s') := by
  have hrecordsOf : c.recordsOf t' s'.page = c.recordsOf t s.page := by
    rw [ht, h.page]
    rfl
  have hnextOf : c.nextOf t' s'.page = c.nextOf t s.page := by
    rw [nextOf_of_follow hfollow, nextOf_of_follow hfollow, ht, h.page]
    rfl
  have hstage (stage : Stage) (hs : s.stage = stage) (hover : s.isOver = false) :
      s'.stage = stage :=
    (h.stage_eq hover).trans hs
  have hmoves := step_moves c t s
  generalize c.step t s = s1 at hmoves ⊢
  cases hmoves with
  | rest hover =>
    rw [step_of_isOver (h.isOver_eq.trans hover)]
    exact h.mono _
  | unscanned hs he =>
    rw [result_scanPage s.number (hp hs)] at he
    rw [step_fetched (hstage _ hs (by rw [State.isOver, hs])) (h.page ▸ hp hs), hrecordsOf, he]
    refine ⟨stage_failed rfl rfl ?_, h.page, h.number, h.records, (by rintro ⟨⟩), h.outside, ?_⟩
    · rintro f rfl
      rw [scanned_one hs]
      exact ⟨s.page, List.mem_append_right _ List.mem_cons_self, .inl he⟩
    · exact h.requests_append (by rw [requests_scanPage, requests_scanPage])
  | scanned hs hr =>
    rw [result_scanPage s.number (hp hs)] at hr
    rw [step_fetched (hstage _ hs (by rw [State.isOver, hs])) (h.page ▸ hp hs), hrecordsOf, hr]
    refine ⟨.inl rfl, h.page, h.number, ?_, (by rintro ⟨⟩), h.outside, ?_⟩
    · exact (congrArg (· ++ _) h.records).trans (List.append_assoc ..)
    · exact h.requests_append (by rw [requests_scanPage, requests_scanPage])
  | unlinked hs he =>
    rw [step_scanned (hstage _ hs (by rw [State.isOver, hs])), hnextOf, he]
    refine ⟨stage_failed rfl rfl ?_, h.page, h.number, h.records, (by rintro ⟨⟩), h.outside, ?_⟩
    · rintro f rfl
      exact ⟨s.page, List.mem_append_left _ (hpage hs), .inr he⟩
    · exact h.requests_append (by rw [requests_nextUrl, requests_nextUrl])
  | linked hs hr =>
    rw [step_scanned (hstage _ hs (by rw [State.isOver, hs])), hnextOf, hr]
    refine ⟨.inl rfl, h.page, h.number, h.records, fun _ => rfl, h.outside, ?_⟩
    exact h.requests_append (by rw [requests_nextUrl, requests_nextUrl])
  | linkless hs hn =>
    rw [step_resolved_none (hstage _ hs (by rw [State.isOver, hs])) ((h.next hs).trans hn)]
    refine ⟨.inl rfl, h.page, h.number, h.records, (by rintro ⟨⟩), h.outside, ?_⟩
    exact h.requests_append rfl
  | spent hs hn hb =>
    rw [step_resolved_some (hstage _ hs (by rw [State.isOver, hs])) ((h.next hs).trans hn),
      h.number, hspent, if_pos hb]
    refine ⟨.inl rfl, h.page, h.number, h.records, (by rintro ⟨⟩), h.outside, ?_⟩
    exact h.requests_append rfl
  | unfetched hs hn hb hm =>
    rw [step_resolved_some (hstage _ hs (by rw [State.isOver, hs])) ((h.next hs).trans hn),
      h.number, hspent, hb, if_neg Bool.false_ne_true]
    rw [← h.outside] at hm ⊢
    rw [fetchNext_unfetched hm, h.records, abort_append]
    refine ⟨.inl rfl, h.page, h.number, rfl, (by rintro ⟨⟩), rfl, ?_⟩
    exact h.requests_append (by rw [requests_unfetched, requests_unfetched])
  | unread hs hn hb hm hr =>
    rw [step_resolved_some (hstage _ hs (by rw [State.isOver, hs])) ((h.next hs).trans hn),
      h.number, hspent, hb, if_neg Bool.false_ne_true]
    rw [← h.outside] at hm ⊢
    rw [fetchNext_unread hm hr, read_error hr]
    refine ⟨.inl rfl, h.page, congrArg (· + 1) h.number, h.records, (by rintro ⟨⟩), rfl, ?_⟩
    exact h.requests_append rfl
  | onward hs hn hb hm hr =>
    rw [step_resolved_some (hstage _ hs (by rw [State.isOver, hs])) ((h.next hs).trans hn),
      h.number, hspent, hb, if_neg Bool.false_ne_true]
    rw [← h.outside] at hm ⊢
    rw [fetchNext_read hm hr]
    refine ⟨.inl rfl, rfl, congrArg (· + 1) h.number, h.records, (by rintro ⟨⟩), rfl, ?_⟩
    exact h.requests_append rfl

/-- **So do all stages**: a crawl follows the one from its second page all along, and scans the same
pages. -/
theorem advance (hfollow : c.follow = true)
    (ht : t' = { t with budget := t'.budget, first := t'.first })
    (hspent : ∀ n, t'.budget.isSpent (n + 1) = t.budget.isSpent n) {outside : σ}
    (h : c.Follows t found url [] (start t outside) s') (n : Nat)
    (hp : ∀ p ∈ c.scanned t n (start t outside), p.HasPlainUrl) :
    c.Follows t found url (c.scanned t n (start t outside)) (c.advance t n (start t outside))
        (c.advance t' n s') ∧
      c.scanned t' n s' = c.scanned t n (start t outside) := by
  induction n with
  | zero => exact ⟨h, rfl⟩
  | succ n ih =>
    have haccounts : c.Accounts t (c.scanned t n (start t outside))
        (c.advance t n (start t outside)) := accounts_advance c t outside n
    rw [scanned_add n 1] at hp
    obtain ⟨hfollows, hscanned⟩ := ih fun p hmem => hp p (List.mem_append_left _ hmem)
    rw [scanned_add n 1, scanned_add n 1, advance_add n 1, advance_add n 1, hscanned]
    rw [advance_succ, advance_succ, advance_zero, advance_zero]
    generalize c.advance t n (start t outside) = s at hfollows haccounts hp ⊢
    generalize c.advance t' n s' = s' at hfollows ⊢
    refine ⟨hfollows.step hfollow ht hspent haccounts.page fun hs => hp s.page ?_, ?_⟩
    · rw [scanned_one hs]
      exact List.mem_append_right _ List.mem_cons_self
    · rw [hfollows.scanned_one_eq]

end Follows

section Second

variable {outside after : σ} {page : Page} {b : Budget}

/-- Three stages after its start a crawl follows the one from its second page. -/
theorem follows_start (hp : t.first.HasPlainUrl)
    (hturn : c.turn t (c.nextOf t) t.first 1 outside = .onward found url page after) :
    c.Follows { t with budget := b, first := page } found url []
      (start { t with budget := b, first := page } after) (c.advance t 3 (start t outside)) := by
  obtain ⟨events, hreqs, hadv⟩ := advance_three_onward (s := start t outside) rfl hp hturn
  rw [hadv]
  exact ⟨.inl rfl, rfl, rfl, (List.append_nil _).symm, nofun, rfl, hreqs⟩

end Second

end Crawler

namespace Scraper

open Crawl

variable {σ : Type} {s : Scraper σ} {a : Ambient} {floor : Log.Floor} {outside : σ}
  {url markup : String} {plan : Plan} {d : Document} {t : Task}

/-- The pages that a crawl from an address scans in so many stages, and whether it is over then. -/
def journey (s : Scraper σ) (a : Ambient) (floor : Log.Floor) (stages : Nat) (outside : σ)
    (url : String) (p : Plan) : Journey :=
  match (s.opening a outside url).result with
  | .error _ => ⟨[], true⟩
  | .ok d =>
    match (s.crawler a floor).check (.document d) (p.under a url) with
    | .error _ => ⟨[], true⟩
    | .ok t =>
      let start := Crawler.start t (s.fetch outside url).1
      ⟨(s.crawler a floor).scanned t stages start,
        ((s.crawler a floor).advance t stages start).isOver⟩

theorem journey_of_check (hopening : (s.opening a outside url).result = .ok d)
    (hcheck : (s.crawler a floor).check (.document d) (plan.under a url) = .ok t) (stages : Nat) :
    s.journey a floor stages outside url plan =
      ⟨(s.crawler a floor).scanned t stages (Crawler.start t (s.fetch outside url).1),
        ((s.crawler a floor).advance t stages
          (Crawler.start t (s.fetch outside url).1)).isOver⟩ := by
  rw [journey, hopening]
  dsimp only
  rw [hcheck]

theorem opening_url (h : (s.opening a outside url).result = .ok d) : d.url = some url := by
  rw [result_opening] at h
  obtain ⟨markup, -, h⟩ := bind_eq_ok_iff.mp h
  unfold parse Document.parse at h
  split at h
  · cases h
    rfl
  · cases h

/-- A crawl from an address goes as one from the document there, behind the first request. -/
theorem crawlUrl_of_check (hopening : (s.opening a outside url).result = .ok d)
    (hcheck : (s.crawler a floor).check (.document d) (plan.under a url) = .ok t) (stages : Nat) :
    s.crawlUrl a floor stages outside url plan =
      let crawled := ((s.crawler a floor).advance t stages
        (Crawler.start t (s.fetch outside url).1)).summary
      (crawled.1, ⟨(s.opening a outside url).events ++ crawled.2.events, crawled.2.result⟩) := by
  have hcrawl : s.crawl a floor stages (s.fetch outside url).1 (.document d)
      { plan with url := none } =
      ((s.crawler a floor).advance t stages
        (Crawler.start t (s.fetch outside url).1)).summary := by
    have hunder : ({ plan.under a url with url := none <|> d.url } : Plan) = plan.under a url := by
      rw [opening_url hopening]
      rfl
    change (s.crawler a floor).crawl stages _ _ { plan.under a url with url := none <|> d.url } = _
    rw [hunder, Crawler.crawl, hcheck]
  rw [crawlUrl_eq, hopening]
  dsimp only
  rw [hcrawl]

/-- If one page is read then so is every other one that is fetched, by the same rules. -/
theorem opening_of_opening (a : Ambient) (floor : Log.Floor)
    (h : (s.opening a outside url).result = .ok d) {before : σ} {next : String}
    (hfetch : (s.fetch before next).2.result = .ok markup) :
    ∃ d', (s.opening a before next).result = .ok d' ∧
      (s.crawler a floor).read markup next = .ok ⟨some d'.root, some next⟩ := by
  rw [result_opening] at h ⊢
  obtain ⟨_, -, h⟩ := bind_eq_ok_iff.mp h
  rw [hfetch]
  unfold parse Document.parse at h
  cases hrules : MarkupRules.ofName? (a.parserName s.parser) with
  | none =>
    rw [hrules] at h
    cases h
  | some rules =>
    have hparse : Document.parse (a.parserName s.parser) markup (some next) =
        .ok ⟨rules.parse markup, a.parserName s.parser, some next⟩ := by
      rw [Document.parse, hrules]
    refine ⟨_, hparse, ?_⟩
    change (Document.parse (a.parserName s.parser) markup (some next) >>= _) = _
    rw [hparse]
    rfl

/-- What a crawl from an address comes to at its first page, if a link leads on from there. -/
structure LeadsOn (s : Scraper σ) (a : Ambient) (floor : Log.Floor) (outside : σ) (url : String)
    (plan : Plan) (t : Task) (found : List Value) (next : String) : Prop where
  /-- The page there is fetched and read, and the plan is accepted. -/
  isTask : ∃ d, (s.opening a outside url).result = .ok d ∧
    (s.crawler a floor).check (.document d) (plan.under a url) = .ok t
  isPlain : Template.Plain url
  records : (s.crawler a floor).recordsOf t t.first = .ok found
  link : (s.crawler a floor).linkOn t t.first = .ok (some next)

namespace LeadsOn

variable {found : List Value} {next : String}

theorem hasPlainUrl (h : s.LeadsOn a floor outside url plan t found next) :
    t.first.HasPlainUrl := by
  obtain ⟨d, -, hcheck⟩ := h.isTask
  intro url' hurl
  rw [Crawler.first_url hcheck] at hurl
  cases hurl
  exact h.isPlain

end LeadsOn

section Onward

variable {found : List Value} {next : String} {fewer : Value} {b : Budget} {e : Error}

/-- If the next address cannot be fetched, a crawl fails with the records of its first page. -/
theorem crawlUrl_goes_on_unfetched (hfollow : s.follow = true)
    (h : s.LeadsOn a floor outside url plan t found next) (hone : t.budget.isSpent 1 = false)
    (hfetch : (s.fetch (s.fetch outside url).1 next).2.result = .error e) {stages : Nat}
    (hn : 3 ≤ stages) :
    let whole := s.crawlUrl a floor stages outside url plan
    whole.1 = (s.fetch (s.fetch outside url).1 next).1 ∧
      whole.2.result = .error (abort found e) ∧
      requests whole.2.events = [url, next] ∧
      s.journey a floor stages outside url plan = ⟨[t.first], true⟩ := by
  obtain ⟨d, hopening, hcheck⟩ := h.isTask
  have hnext : (s.crawler a floor).nextOf t t.first = .ok (some next) := by
    rw [Crawler.nextOf_of_follow hfollow]
    exact h.link
  have hturn := Crawler.turn_unfetched h.records hnext hone hfetch
  have hruns := (Crawler.runs_three_last (s := Crawler.start t (s.fetch outside url).1) rfl
    h.hasPlainUrl hturn).mono hn
  intro whole
  have hwhole : whole = _ := crawlUrl_of_check hopening hcheck stages
  rw [hwhole, journey_of_check hopening hcheck]
  refine ⟨hruns.outside, hruns.result, ?_, ?_⟩
  · rw [Crawler.requests_append, requests_opening]
    exact congrArg (url :: ·) hruns.requests
  · rw [hruns.scanned, hruns.isOver]
    rfl

/-- Otherwise it follows the crawl from there. -/
theorem crawlUrl_goes_on_fetched (hfollow : s.follow = true)
    (h : s.LeadsOn a floor outside url plan t found next) (hfewer : Budget.ofValue fewer = .ok b)
    (hspent : ∀ n, t.budget.isSpent (n + 1) = b.isSpent n) (hone : t.budget.isSpent 1 = false)
    (hfetch : (s.fetch (s.fetch outside url).1 next).2.result = .ok markup) (stages : Nat)
    (hreads : ∀ p ∈ (s.journey a floor stages (s.fetch outside url).1 next
        (plan.withBudget fewer)).pages,
      p.HasPlainUrl ∧ ∀ f, ¬ (s.crawler a floor).FailsLikeFetch t p f) :
    let whole := s.crawlUrl a floor (3 + stages) outside url plan
    let rest := s.crawlUrl a floor stages (s.fetch outside url).1 next (plan.withBudget fewer)
    let ahead := s.journey a floor stages (s.fetch outside url).1 next (plan.withBudget fewer)
    whole.1 = rest.1 ∧
      whole.2.result = behind found rest.2.result ∧
      requests whole.2.events = url :: requests rest.2.events ∧
      s.journey a floor (3 + stages) outside url plan = ⟨t.first :: ahead.pages, ahead.isOver⟩ := by
  obtain ⟨d, hopening, hcheck⟩ := h.isTask
  obtain ⟨d', hopening', hread⟩ := opening_of_opening a floor hopening hfetch
  have hnext : (s.crawler a floor).nextOf t t.first = .ok (some next) := by
    rw [Crawler.nextOf_of_follow hfollow]
    exact h.link
  have hturn := Crawler.turn_eq_onward_iff.mpr ⟨h.records, hnext, hone, markup, hfetch, hread, rfl⟩
  have hcheck' : (s.crawler a floor).check (.document d')
      ((plan.withBudget fewer).under a next) =
      .ok { t with budget := b, first := ⟨some d'.root, some next⟩ } := by
    obtain ⟨-, hlink, -, hscope, hfields⟩ := Crawler.check_eq_ok_iff.mp hcheck
    refine Crawler.check_eq_ok_iff.mpr ⟨?_, hlink, rfl, hscope, hfields⟩
    have hnotNone : fewer.isNone = false := by
      cases fewer <;> first | rfl | cases hfewer
    rw [Plan.under, Plan.withBudget, hnotNone]
    exact hfewer
  have hfollows := Crawler.follows_start (b := b) h.hasPlainUrl hturn
  intro whole rest ahead
  have hwhole : whole = _ := crawlUrl_of_check hopening hcheck (3 + stages)
  have hrest : rest = _ := crawlUrl_of_check hopening' hcheck' stages
  have hahead : ahead = _ := journey_of_check hopening' hcheck' stages
  rw [journey_of_check hopening' hcheck'] at hreads
  obtain ⟨hadv, hscanned⟩ := hfollows.advance hfollow rfl hspent stages fun p hp => (hreads p hp).1
  rw [← Crawler.advance_add] at hadv
  refine ⟨?_, ?_, ?_, ?_⟩
  · rw [hwhole, hrest]
    exact hadv.outside
  · rw [hwhole, hrest]
    rcases hadv.result with hresult | ⟨f, -, -, p, hp, hfails⟩
    · exact hresult
    · exact absurd (hfails.of_follow hfollow) ((hreads p hp).2 f)
  · rw [hwhole, hrest, Crawler.requests_append, Crawler.requests_append, requests_opening,
      requests_opening]
    exact congrArg (url :: ·) hadv.requests
  · rw [journey_of_check hopening hcheck, hahead, Crawler.scanned_add, hscanned,
      Crawler.scanned_three rfl, hadv.isOver_eq]
    rfl

/-- **A crawl from an address goes on as one from the page behind it.** Let the page at an address be
read, its records be found and its link lead to a next address. Then the crawl that follows the link
of each page asks for the address and on as a crawl from the next address does whose budget is one
page less, or has no limit either. It scans one page more, in three stages more, and is over when the
other one is. What it comes to are the records of its first page and then what the other one comes
to: its records, or its failure, which takes those of the first page along. If already the next
address cannot be fetched, the failure of the fetcher has to be without records for that, as it is
if a fetcher of this library made it. -/
theorem crawlUrl_goes_on (hfollow : s.follow = true)
    (h : s.LeadsOn a floor outside url plan t found next) (hfewer : Budget.ofValue fewer = .ok b)
    (hlimit : t.budget.limit = b.limit.map (· + 1)) (stages : Nat)
    (hreads : ∀ p ∈ (s.journey a floor stages (s.fetch outside url).1 next
        (plan.withBudget fewer)).pages,
      p.HasPlainUrl ∧ ∀ f, ¬ (s.crawler a floor).FailsLikeFetch t p f) :
    let whole := s.crawlUrl a floor (3 + stages) outside url plan
    let rest := s.crawlUrl a floor stages (s.fetch outside url).1 next (plan.withBudget fewer)
    let ahead := s.journey a floor stages (s.fetch outside url).1 next (plan.withBudget fewer)
    whole.1 = rest.1 ∧
      requests whole.2.events = url :: requests rest.2.events ∧
      s.journey a floor (3 + stages) outside url plan = ⟨t.first :: ahead.pages, ahead.isOver⟩ ∧
      (∀ e, (s.fetch (s.fetch outside url).1 next).2.result = .error e →
        rest.2.result = .error e ∧ whole.2.result = .error (abort found e)) ∧
      ((∀ e, (s.fetch (s.fetch outside url).1 next).2.result = .error e → Http.IsFresh e) →
        whole.2.result = behind found rest.2.result) := by
  have hspent : ∀ n, t.budget.isSpent (n + 1) = b.isSpent n := Budget.isSpent_succ hlimit
  have hone : t.budget.isSpent 1 = false := (hspent 0).trans (Budget.isSpent_zero hfewer)
  cases hfetch : (s.fetch (s.fetch outside url).1 next).2.result with
  | error e =>
    obtain ⟨hafter, hresult, hreqs, hjourney⟩ :=
      crawlUrl_goes_on_unfetched hfollow h hone hfetch (Nat.le_add_right 3 stages)
    intro whole rest ahead
    obtain ⟨events, hrest, hreqs'⟩ : ∃ events,
        rest = ((s.fetch (s.fetch outside url).1 next).1, ⟨events, .error e⟩) ∧
          requests events = [next] := crawlUrl_unfetched hfetch
    have hahead : ahead = ⟨[], true⟩ := by
      change s.journey _ _ _ _ _ _ = _
      rw [journey, result_opening, hfetch]
      rfl
    refine ⟨?_, ?_, ?_, ?_, ?_⟩
    · rw [hrest]
      exact hafter
    · rw [hrest, hreqs']
      exact hreqs
    · exact hjourney.trans (by rw [hahead])
    · rintro _ ⟨⟩
      exact ⟨congrArg (·.2.result) hrest, hresult⟩
    · intro hfresh
      rw [hrest]
      exact hresult.trans (congrArg _ (abort_of_isFresh (hfresh e rfl) found))
  | ok markup =>
    obtain ⟨hafter, hresult, hreqs, hjourney⟩ :=
      crawlUrl_goes_on_fetched hfollow h hfewer hspent hone hfetch stages hreads
    exact ⟨hafter, hreqs, hjourney, (by rintro e ⟨⟩), fun _ => hresult⟩

end Onward

/-- A site of two pages, the second of which links to a third one that is missing. -/
def twoPages : Scraper Unit where
  own := ⟨"own", []⟩
  fallback := some ⟨"fallback", []⟩
  strict := false
  dropEmpty := some true
  parser := some "html.parser"
  follow := true
  fetch _ url := ((),
    if url = "http://s/a" then pure "<p>x</p><a href=\"b\">"
    else if url = "http://s/b" then pure "<p>y</p><a href=\"c\">"
    else .fail (.fetch ⟨url, "HTTP 404", some 404, []⟩))

def twoPagesPlan : Plan where
  link := "a@href"
  scope := some "p"
  fields := some [("text", "&")]
  budget := .int 3

def twoPagesTask (url text link : String) (b : Budget) : Task where
  link := .of "a" "href"
  scope := some "p"
  fields := some [("text", "&")]
  budget := b
  first :=
    { place := some (.document
        [.element "p" [] [.text .plain text], .element "a" [("href", link)] []])
      url := some url }

theorem twoPages_leadsOn : twoPages.LeadsOn {} 0 () "http://s/a" twoPagesPlan
    (twoPagesTask "http://s/a" "x" "b" ⟨some 3, "3"⟩) [.dict [("text", .str "x")]] "http://s/b" :=
  ⟨⟨_, rfl, rfl⟩, by decide, rfl, rfl⟩

theorem twoPages_leadsOn_second : twoPages.LeadsOn {} 0 (twoPages.fetch () "http://s/a").1
    "http://s/b" (twoPagesPlan.withBudget (.int 2))
    (twoPagesTask "http://s/b" "y" "c" ⟨some 2, "2"⟩) [.dict [("text", .str "y")]] "http://s/c" :=
  ⟨⟨_, rfl, rfl⟩, by decide, rfl, rfl⟩

/-- The crawl from the second page fails with its record, and the one from the first page with the
records of both. -/
theorem crawlUrl_goes_on_missing :
    let rest := twoPages.crawlUrl {} 0 3 (twoPages.fetch () "http://s/a").1 "http://s/b"
      (twoPagesPlan.withBudget (.int 2))
    let whole := twoPages.crawlUrl {} 0 (3 + 3) () "http://s/a" twoPagesPlan
    rest.2.result = .error (.fetch ⟨"http://s/c", "HTTP 404", some 404,
        [.dict [("text", .str "y")]]⟩) ∧
      requests rest.2.events = ["http://s/b", "http://s/c"] ∧
      whole.2.result = .error (.fetch ⟨"http://s/c", "HTTP 404", some 404,
        [.dict [("text", .str "x")], .dict [("text", .str "y")]]⟩) ∧
      requests whole.2.events = ["http://s/a", "http://s/b", "http://s/c"] := by
  obtain ⟨-, hrest, hreqs, hjourney⟩ :=
    crawlUrl_goes_on_unfetched rfl twoPages_leadsOn_second rfl rfl (Nat.le_refl 3)
  have hreads : ∀ p ∈ (twoPages.journey {} 0 3 (twoPages.fetch () "http://s/a").1 "http://s/b"
      (twoPagesPlan.withBudget (.int 2))).pages,
      p.HasPlainUrl ∧ ∀ f, ¬ (twoPages.crawler {} 0).FailsLikeFetch
        (twoPagesTask "http://s/a" "x" "b" ⟨some 3, "3"⟩) p f := by
    rw [hjourney]
    intro p hp
    cases List.mem_singleton.mp hp
    refine ⟨twoPages_leadsOn_second.hasPlainUrl, fun f hfails => ?_⟩
    rcases hfails with hfails | hfails <;> cases hfails
  have hfewer : Budget.ofValue (.int 2) = .ok ⟨some 2, "2"⟩ := rfl
  obtain ⟨-, hreqs', -, -, hwhole⟩ :=
    crawlUrl_goes_on rfl twoPages_leadsOn hfewer rfl 3 hreads
  have hfetched : (twoPages.fetch (twoPages.fetch () "http://s/a").1 "http://s/b").2.result =
      .ok "<p>y</p><a href=\"c\">" := rfl
  have hbehind := hwhole fun e he => by
    rw [hfetched] at he
    cases he
  refine ⟨hrest, hreqs, hbehind.trans ?_, hreqs'.trans ?_⟩
  · rw [hrest]
    rfl
  · rw [hreqs]

/-- The site of two pages without the second one, for which the fetcher fails with a failure that
another crawl has taken a record along with. -/
def resendingPages : Scraper Unit :=
  { twoPages with
    fetch := fun _ url => ((),
      if url = "http://s/a" then pure "<p>x</p><a href=\"b\">"
      else .fail (.fetch ⟨url, "HTTP 404", some 404, [.none]⟩)) }

theorem resendingPages_leadsOn : resendingPages.LeadsOn {} 0 () "http://s/a" twoPagesPlan
    (twoPagesTask "http://s/a" "x" "b" ⟨some 3, "3"⟩) [.dict [("text", .str "x")]] "http://s/b" :=
  ⟨⟨_, rfl, rfl⟩, by decide, rfl, rfl⟩

/-- A scraper that follows redirects and the links of its pages, unheard. -/
def moving (site : Http.Site) : Scraper Http.Traffic :=
  { Scraper.standard {} (Http.Client.follower.fetch site Log.mute) with
    parser := some "html.parser"
    follow := true }

theorem fetch_moving (site : Http.Site) :
    (moving site).fetch = Http.Client.follower.fetch site Log.mute := rfl

theorem moving_leadsOn : (moving Crawler.movedSite).LeadsOn {} Log.mute [] "http://s/list"
    twoPagesPlan (twoPagesTask "http://s/list" "y" "two" ⟨some 3, "3"⟩)
    [.dict [("text", .str "y")]] "http://s/two" := by
  have hplain : Template.Plain "http://s/list" := by decide
  have hopening : ((moving Crawler.movedSite).opening {} [] "http://s/list").result =
      .ok ⟨[.element "p" [] [.text .plain "y"], .element "a" [("href", "two")] []],
        "html.parser", some "http://s/list"⟩ := by
    rw [result_opening, fetch_moving,
      (Crawler.finds_moved.fetch Log.mute).2.resolve_right (not_not.mpr hplain)]
    rfl
  exact ⟨⟨_, hopening, rfl⟩, hplain, rfl, rfl⟩

/-- A page that is not on the site is asked for once. -/
theorem moving_fetch_two {traffic : Http.Traffic}
    (hreply : Crawler.movedSite.reply (traffic ++ [(Http.Client.outgoingTo "/two").request])
      "http://s/two" = .response ⟨404, "", []⟩) :
    (moving Crawler.movedSite).fetch traffic "http://s/two" =
      (traffic ++ [(Http.Client.outgoingTo "/two").request],
        .fail (.fetch ⟨"http://s/two", "HTTP 404", some 404, []⟩)) := by
  have hread : Http.Address.read .standard "http://s/two" = .ok (Http.Client.addressOf "/two") := by
    decide +kernel
  have hprepared := @Http.Client.prepare_eq_outgoingTo Http.Client.follower _ _ hread rfl
  have hanswer : ((Http.Client.outgoingTo "/two").opening traffic).answer Crawler.movedSite =
      .ok ⟨404, "", []⟩ :=
    Http.Sending.answer_eq_ok_iff.mpr ⟨hreply, List.cons_ne_nil 'h' _⟩
  have hask : Http.Client.follower.ask Crawler.movedSite traffic (Http.Client.outgoingTo "/two") =
      (traffic ++ [(Http.Client.outgoingTo "/two").request], .ok ⟨404, "", []⟩) :=
    Http.ask_of_ends .refl (.answered hanswer rfl)
  rw [fetch_moving, Http.Client.fetch_mute, Http.Client.attempt_of_prepared rfl hprepared, hask]
  rfl

/-- It is not so that a crawl comes to its first records and then to what the crawl from the next
address comes to, if already the failure for that address holds some. Nor does it ask for its
own address and then for what the other crawl asks for, if the addresses are counted that
redirects lead to. -/
theorem crawlUrl_may_not_go_on :
    (¬ ∀ s : Scraper Unit, s.follow = true →
      s.LeadsOn {} 0 () "http://s/a" twoPagesPlan (twoPagesTask "http://s/a" "x" "b" ⟨some 3, "3"⟩)
        [.dict [("text", .str "x")]] "http://s/b" →
      (s.crawlUrl {} 0 6 () "http://s/a" twoPagesPlan).2.result =
        behind [.dict [("text", .str "x")]]
          (s.crawlUrl {} 0 3 () "http://s/b" (twoPagesPlan.withBudget (.int 2))).2.result) ∧
    ¬ ∀ site : Http.Site,
      (moving site).LeadsOn {} Log.mute [] "http://s/list" twoPagesPlan
        (twoPagesTask "http://s/list" "y" "two" ⟨some 3, "3"⟩) [.dict [("text", .str "y")]]
        "http://s/two" →
      ((moving site).crawlUrl {} Log.mute 6 [] "http://s/list" twoPagesPlan).1.map (·.url) =
        "http://s/list" :: ((moving site).crawlUrl {} Log.mute 3 [] "http://s/two"
          (twoPagesPlan.withBudget (.int 2))).1.map (·.url) := by
  constructor
  · intro hall
    have hbehind := hall resendingPages rfl resendingPages_leadsOn
    have hfetch : (resendingPages.fetch () "http://s/b").2.result =
        .error (.fetch ⟨"http://s/b", "HTTP 404", some 404, [.none]⟩) := rfl
    obtain ⟨-, hwhole, -, -⟩ :=
      crawlUrl_goes_on_unfetched rfl resendingPages_leadsOn rfl hfetch (by decide : 3 ≤ 6)
    rw [hwhole, result_crawlUrl_unfetched hfetch] at hbehind
    cases hbehind
  · intro hall
    have hrequests := hall Crawler.movedSite moving_leadsOn
    have hmoved : ((moving Crawler.movedSite).fetch [] "http://s/list").1 =
        Crawler.movedLast.arrived := by
      rw [fetch_moving]
      exact (Crawler.finds_moved.fetch Log.mute).1
    have hfirst := @moving_fetch_two [] rfl
    have hlater := @moving_fetch_two Crawler.movedLast.arrived rfl
    rw [← hmoved] at hlater
    obtain ⟨hwhole, -, -, -⟩ := crawlUrl_goes_on_unfetched rfl moving_leadsOn rfl
      (congrArg (·.2.result) hlater) (by decide : 3 ≤ 6)
    obtain ⟨_, hrest, -⟩ := @crawlUrl_unfetched _ (moving Crawler.movedSite) {} Log.mute 3 []
      "http://s/two" (twoPagesPlan.withBudget (.int 2)) _ (congrArg (·.2.result) hfirst)
    rw [hwhole, hrest, hlater, hfirst, hmoved] at hrequests
    have hlength : 3 = 2 := congrArg List.length hrequests
    omega

end Scraper

end Gleaner

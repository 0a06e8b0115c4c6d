import Gleaner.Proofs.Crawl.Abort
import Gleaner.Proofs.Http.Attempt

/-! # Crawls without reports

A crawl that reports nothing goes stage by stage as the one that does, until a report fails. That
takes an address with a brace: the one of the first page, or one that was asked for. -/

namespace Gleaner

namespace Crawl

variable {σ : Type}

/-- Whether an event is no log entry. -/
def Event.isSeen : Event → Bool
  | logged _ => false
  | _ => true

/-- What was asked for, and what the caller was shown. -/
def seen (events : List Event) : List Event := events.filter Event.isSeen

theorem seen_append (events more : List Event) : seen (events ++ more) = seen events ++ seen more :=
  List.filter_append ..

theorem seen_logged (entries : List Log.Entry) : seen (entries.map .logged) = [] := by
  simp [seen, Event.isSeen]

theorem seen_fetch (url : String) (entries : List Log.Entry) :
    seen (.requested url :: entries.map .logged) = [.requested url] := by
  change .requested url :: seen _ = _
  rw [seen_logged]

/-- A fetcher does what another one does, but that the reports of the other one may fail. -/
def Quiets (quiet loud : Fetcher σ) : Prop :=
  ∀ outside url, (loud outside url).1 = (quiet outside url).1 ∧
    ((loud outside url).2.result = (quiet outside url).2.result ∨
      ¬ Template.Plain url ∧ ∃ fault, (loud outside url).2.result = .error (.template fault))

/-- Two crawls differ only in what was logged. -/
def Agrees (s s' : State σ) : Prop := ∃ events, s' = { s with events } ∧ seen events = seen s.events

theorem Agrees.refl (s : State σ) : Agrees s s := ⟨s.events, rfl, rfl⟩

theorem Agrees.tell {s s' : State σ} (h : Agrees s s') {events more : List Event}
    (he : seen more = seen events) : Agrees (s.tell events) (s'.tell more) := by
  obtain ⟨before, rfl, hseen⟩ := h
  exact ⟨before ++ more, rfl, by rw [State.tell, seen_append, seen_append, hseen, he]⟩

theorem Agrees.after {s s' : State σ} (h : Agrees s s') {α : Type} {x y : Traced Event α}
    (hr : x.result = y.result) (he : seen y.events = seen x.events) {go : State σ → α → State σ}
    (hgo : ∀ {s s' : State σ} a, Agrees s s' → Agrees (go s a) (go s' a)) :
    Agrees (s.after x go) (s'.after y go) := by
  unfold State.after
  rw [← hr]
  cases x.result with
  | ok a => exact hgo a (h.tell he)
  | error e =>
    obtain ⟨events, heq, hseen⟩ := h.tell he
    exact ⟨events, by rw [heq], hseen⟩

theorem Agrees.finish {s s' : State σ} (h : Agrees s s') (reason : String) :
    Agrees (Crawler.finish reason s) (Crawler.finish reason s') := by
  obtain ⟨events, rfl, hseen⟩ := h
  refine ⟨_, rfl, ?_⟩
  change seen (events ++ _) = seen (s.events ++ _)
  rw [seen_append, seen_append, hseen]

end Crawl

namespace Http

open Crawl

theorem Client.quiets (client : Client) (site : Site) (floor : Log.Floor) :
    Quiets (client.fetch site Log.mute) (client.fetch site floor) := by
  intro traffic url
  refine ⟨(fetch_reported floor).1, ?_⟩
  rw [fetch_mute]
  exact result_fetch floor

end Http

namespace Crawler

open Crawl

variable {σ : Type} {c : Crawler σ} {quiet : Fetcher σ} {t : Task} {s s' : State σ}

/-- The crawler without reports, over a fetcher without reports. -/
def muted (c : Crawler σ) (quiet : Fetcher σ) : Crawler σ :=
  { c with fetch := quiet, floor := Log.mute }

/-- How the scan of a page comes out: its records are read, they are reported, and the caller is
shown them. -/
theorem scanPage_eq (number : Nat) (p : Page) :
    c.scanPage t number p =
      let scan := c.scanner.scan p.place t.scope t.fields
      match scan.result with
      | .error e => ⟨scan.events.map Event.logged, .error e⟩
      | .ok found =>
        match items found with
        | .error e => ⟨scan.events.map Event.logged, .error e⟩
        | .ok records =>
          let report := (Log.PageScan.ofCrawl p.url number records.length).report c.floor
          match report.result with
          | .error e => ⟨(scan.events ++ report.events).map Event.logged, .error e⟩
          | .ok () =>
            ⟨(scan.events ++ report.events).map Event.logged ++ [.observed number found],
              .ok records⟩ := by
  unfold scanPage
  dsimp only
  cases hscan : (c.scanner.scan p.place t.scope t.fields).result with
  | error e => exact Traced.bind_of_error (x := Traced.mapEvents Event.logged _) hscan _
  | ok found =>
  rw [Traced.bind_of_ok (x := Traced.mapEvents Event.logged _) hscan]
  dsimp only [Traced.mapEvents]
  cases hitems : items found with
  | error e =>
    rw [Traced.bind_of_error (x := .ofExcept (.error e)) rfl]
    dsimp only
    rw [Traced.events_ofExcept, List.append_nil]
  | ok records =>
  rw [Traced.bind_of_ok (x := .ofExcept (.ok records)) rfl]
  dsimp only
  cases hreport : ((Log.PageScan.ofCrawl p.url number records.length).report c.floor).result with
  | error e =>
    rw [Traced.bind_of_error (x := ⟨_, .error e⟩) rfl]
    dsimp only
    rw [Traced.events_ofExcept, List.nil_append, List.map_append]
  | ok _ =>
    rw [Traced.bind_of_ok (x := ⟨_, .ok ()⟩) rfl]
    dsimp only
    rw [Traced.events_ofExcept, List.nil_append, List.map_append, List.append_assoc]
    rfl

theorem scanPage_muted (quiet : Fetcher σ) (number : Nat) (p : Page) :
    ((c.scanPage t number p).result = ((c.muted quiet).scanPage t number p).result ∧
        seen ((c.muted quiet).scanPage t number p).events = seen (c.scanPage t number p).events) ∨
      (∃ fault, (c.scanPage t number p).result = .error (.template fault)) ∧
        ∃ url, p.url = some url ∧ ¬ Template.Plain url := by
  rw [scanPage_eq, scanPage_eq]
  dsimp only [muted]
  cases (c.scanner.scan p.place t.scope t.fields).result with
  | error e => exact .inl ⟨rfl, rfl⟩
  | ok found =>
  dsimp only
  cases items found with
  | error e => exact .inl ⟨rfl, rfl⟩
  | ok records =>
  dsimp only
  -- The records are there, and all that is left to differ in is the report.
  rw [(Log.PageScan.reported Log.mute p.url number records.length).of_mute]
  rcases (Log.PageScan.reported c.floor p.url number records.length).result with
    hok | ⟨hexpand, fault, hfault⟩
  · rw [hok]
    refine .inl ⟨rfl, ?_⟩
    dsimp only [Traced.result_pure]
    rw [seen_append, seen_append, seen_logged, seen_logged]
  · rw [hfault]
    refine .inr ⟨⟨fault, rfl⟩, ?_⟩
    by_contra hall
    refine hexpand _ (Template.expand_plain _ (Log.PageScan.plain_shownAddress fun url hurl => ?_))
    exact not_not.mp fun hn => hall ⟨url, hurl, hn⟩

theorem fetchNext_muted (hq : Quiets quiet c.fetch) (url : String) (h : Agrees s s') :
    Agrees (c.fetchNext url s) ((c.muted quiet).fetchNext url s') ∨
      (∃ fault, (c.fetchNext url s).stage = .failed (.template fault)) ∧ ¬ Template.Plain url := by
  obtain ⟨events, rfl, hseen⟩ := h
  obtain ⟨houtside, hresult⟩ := hq s.outside url
  rcases hresult with hresult | ⟨hn, fault, hfault⟩
  · left
    have hseen' (more more' : List Event) (hmore : seen more = seen more') :
        seen (events ++ more) = seen (s.events ++ more') := by
      rw [seen_append, seen_append, hseen, hmore]
    cases hm : (c.fetch s.outside url).2.result with
    | error e =>
      rw [fetchNext_unfetched hm, fetchNext_unfetched (c := c.muted quiet) (s := { s with events })
        (hresult.symm.trans hm), houtside]
      exact ⟨_, rfl, hseen' _ _ (by rw [seen_append, seen_append, seen_fetch, seen_fetch])⟩
    | ok markup =>
    have hm' := hresult.symm.trans hm
    cases hr : c.read markup url with
    | error e =>
      rw [fetchNext_unread hm hr,
        fetchNext_unread (c := c.muted quiet) (s := { s with events }) hm' hr, houtside]
      exact ⟨_, rfl, hseen' _ _ (by rw [seen_fetch, seen_fetch])⟩
    | ok page =>
      rw [fetchNext_read hm hr,
        fetchNext_read (c := c.muted quiet) (s := { s with events }) hm' hr, houtside]
      exact ⟨_, rfl, hseen' _ _ (by rw [seen_fetch, seen_fetch])⟩
  · right
    rw [fetchNext_unfetched hfault]
    exact ⟨⟨fault, rfl⟩, hn⟩

/-- **One stage without reports** goes as one with reports, unless a report fails. -/
theorem step_agrees (hq : Quiets quiet c.fetch) (h : Agrees s s') :
    Agrees (c.step t s) ((c.muted quiet).step t s') ∨
      (∃ fault, (c.step t s).stage = .failed (.template fault)) ∧
        ∃ url, ¬ Template.Plain url ∧
          (s.page.url = some url ∨ url ∈ requests (c.step t s).events) := by
  obtain ⟨hstage, hpage, hnumber, hnext⟩ :
      s'.stage = s.stage ∧ s'.page = s.page ∧ s'.number = s.number ∧ s'.next = s.next := by
    obtain ⟨events, rfl, -⟩ := h
    exact ⟨rfl, rfl, rfl, rfl⟩
  cases hs : s.stage with
  | fetched =>
    unfold step
    rw [hstage, hpage, hnumber, hs]
    dsimp only
    rcases scanPage_muted (c := c) (t := t) quiet s.number s.page with
      ⟨hresult, hseen⟩ | ⟨⟨fault, hfault⟩, url, hurl, hn⟩
    · refine .inl (h.after hresult hseen ?_)
      rintro s s' found ⟨events, rfl, hseen⟩
      exact ⟨events, rfl, hseen⟩
    · refine .inr ⟨⟨fault, ?_⟩, url, hn, .inl hurl⟩
      rw [State.after, hfault]
  | scanned =>
    unfold step
    rw [hstage, hpage, hs]
    refine .inl (h.after rfl rfl ?_)
    rintro s s' next ⟨events, rfl, hseen⟩
    exact ⟨events, rfl, hseen⟩
  | resolved =>
    unfold step
    rw [hstage, hnext, hnumber, hs]
    dsimp only
    cases s.next with
    | none => exact .inl (h.finish _)
    | some url =>
    dsimp only
    split
    · exact .inl (h.finish _)
    · rcases fetchNext_muted hq url h with hagrees | ⟨hfault, hn⟩
      · exact .inl hagrees
      · refine .inr ⟨hfault, url, hn, .inr ?_⟩
        rw [(fetchNext_cases (c := c) url s).1]
        simp
  | done | failed =>
    rw [step_of_isOver (by rw [State.isOver, hs]),
      step_of_isOver (by rw [State.isOver, hstage, hs])]
    exact .inl h

/-- A crawl is at its first page, or at one that it asked for. -/
def Visits (t : Task) (s : State σ) : Prop :=
  ∀ url, s.page.url = some url → t.first.url = some url ∨ url ∈ requests s.events

/-- A stage asks for nothing and stays at its page, or it asks for one page and may go to it. -/
theorem step_visits (c : Crawler σ) (t : Task) (s : State σ) :
    (requests (c.step t s).events = requests s.events ∧ (c.step t s).page = s.page) ∨
      ∃ url, requests (c.step t s).events = requests s.events ++ [url] ∧
        ((c.step t s).page.url = some url ∨ (c.step t s).page = s.page) := by
  cases hs : s.stage with
  | fetched =>
    have hreqs := requests_tell_scanPage (c := c) (t := t) (s := s) s.number s.page
    unfold step
    rw [hs]
    rcases after_cases s (c.scanPage t s.number s.page) _ with ⟨found, -, heq⟩ | ⟨e, -, heq⟩ <;>
      rw [heq] <;>
      exact .inl ⟨hreqs, rfl⟩
  | scanned =>
    have hreqs := requests_tell_nextUrl (c := c) (t := t) (s := s) s.page
    unfold step
    rw [hs]
    rcases after_cases s (c.nextUrl t s.page) _ with ⟨next, -, heq⟩ | ⟨e, -, heq⟩ <;>
      rw [heq] <;>
      exact .inl ⟨hreqs, rfl⟩
  | resolved =>
    cases hn : s.next with
    | none =>
      rw [step_resolved_none hs hn]
      exact .inl ⟨requests_finish _ s, rfl⟩
    | some url =>
    rw [step_resolved_some hs hn]
    split
    · exact .inl ⟨requests_finish _ s, rfl⟩
    · obtain ⟨hreqs, hpage⟩ := fetchNext_cases (c := c) url s
      exact .inr ⟨url, hreqs, hpage.imp And.right fun ⟨_, _, h⟩ => h⟩
  | done | failed =>
    rw [step_of_isOver (by rw [State.isOver, hs])]
    exact .inl ⟨rfl, rfl⟩

theorem mem_requests_step {url : String} (h : url ∈ requests s.events) :
    url ∈ requests (c.step t s).events := by
  rcases step_visits c t s with ⟨hreqs, -⟩ | ⟨_, hreqs, -⟩
  · rwa [hreqs]
  · rw [hreqs]
    exact List.mem_append_left _ h

theorem Visits.start (t : Task) (outside : σ) : Visits t (Crawler.start t outside) :=
  fun _ h => .inl h

theorem Visits.step (h : Visits t s) : Visits t (c.step t s) := by
  have hstays (hpage : (c.step t s).page = s.page) : Visits t (c.step t s) := fun url hurl =>
    (h url (hpage ▸ hurl)).imp_right mem_requests_step
  rcases step_visits c t s with ⟨-, hpage⟩ | ⟨url, hreqs, hurl | hpage⟩
  · exact hstays hpage
  · intro url' hurl'
    rw [hurl] at hurl'
    cases hurl'
    rw [hreqs]
    exact .inr (List.mem_append_right _ List.mem_cons_self)
  · exact hstays hpage

/-- **So do all stages**: a crawl without reports agrees with the one with reports, unless a report
of the latter fails, and that takes an address with a brace. -/
theorem advance_agrees (hq : Quiets quiet c.fetch) (h : Agrees s s') (hv : Visits t s) (n : Nat) :
    Agrees (c.advance t n s) ((c.muted quiet).advance t n s') ∨
      (∃ fault, (c.advance t n s).stage = .failed (.template fault)) ∧
        ∃ url, ¬ Template.Plain url ∧
          (t.first.url = some url ∨ url ∈ requests (c.advance t n s).events) := by
  induction n generalizing s s' with
  | zero => exact .inl h
  | succ n ih =>
    rw [advance_succ, advance_succ]
    rcases step_agrees (t := t) hq h with hagrees | ⟨⟨fault, hfault⟩, url, hn, hurl⟩
    · exact ih hagrees hv.step
    · rw [advance_of_isOver n (by rw [State.isOver, hfault])]
      refine .inr ⟨⟨fault, hfault⟩, url, hn, ?_⟩
      rcases hurl with hurl | hurl
      · exact (hv url hurl).imp_right mem_requests_step
      · exact .inr hurl

section Crawls

variable {source : Source} {plan : Plan}

theorem crawl_muted (hq : Quiets quiet c.fetch) (source : Source) (plan : Plan) (outside : σ)
    (stages : Nat) :
    ((c.crawl stages outside source plan).1 =
          ((c.muted quiet).crawl stages outside source plan).1 ∧
        (c.crawl stages outside source plan).2.result =
          ((c.muted quiet).crawl stages outside source plan).2.result ∧
        seen (c.crawl stages outside source plan).2.events =
          seen ((c.muted quiet).crawl stages outside source plan).2.events) ∨
      (∃ fault, (c.crawl stages outside source plan).2.result = .error (.template fault)) ∧
        ∃ url, ¬ Template.Plain url ∧ (plan.url = some url ∨
          url ∈ requests (c.crawl stages outside source plan).2.events) := by
  have hcheck : (c.muted quiet).check source plan = c.check source plan := rfl
  unfold crawl
  rw [hcheck]
  cases h : c.check source plan with
  | error e => exact .inl ⟨rfl, rfl, rfl⟩
  | ok t =>
  dsimp only
  rcases advance_agrees hq (.refl (start t outside)) (Visits.start t outside) stages with
    ⟨events, heq, hseen⟩ | ⟨⟨fault, hfault⟩, url, hn, hurl⟩
  · rw [heq]
    exact .inl ⟨rfl, rfl, hseen.symm⟩
  · rw [first_url h] at hurl
    refine .inr ⟨⟨fault, ?_⟩, url, hn, hurl⟩
    rw [State.summary, hfault]

/-- The way of a crawl to a page takes three stages for each page before it. -/
theorem Trail.advance {outside before : σ} {visited : List (Page × List Value)}
    {urls : List String} {p : Page} (h : Trail c t outside visited urls p before)
    (hp : ∀ q ∈ visited.map (·.1), q.HasPlainUrl) :
    ∃ next events, requests events = urls ∧
      c.advance t (3 * visited.length) (start t outside) =
        { page := p, number := visited.length + 1, records := visited.flatMap (·.2), next,
          outside := before, events } := by
  induction h with
  | first => exact ⟨none, [], rfl, rfl⟩
  | @onward visited urls p page before after found url _ hturn ih =>
    obtain ⟨next, events, hreqs, hadv⟩ :=
      ih fun q hq => hp q (by rw [List.map_append]; exact List.mem_append_left _ hq)
    obtain ⟨events', hreqs', hadv'⟩ :=
      advance_three_onward (s := c.advance t (3 * visited.length) (start t outside))
        (by rw [hadv]) (by rw [hadv]; exact hp p (by simp)) (by rw [hadv]; exact hturn)
    refine ⟨some url, events', ?_, ?_⟩
    · rw [hreqs', hadv, hreqs]
    · rw [List.length_append, List.length_singleton, Nat.mul_add, advance_add, hadv', hadv]
      simp

theorem scanPage_refused {number : Nat} {p : Page} {found : List Value}
    (hr : c.recordsOf t p = .ok found) (hw : c.floor ≤ Log.Level.info.severity)
    (hx : ∀ shown, Template.expand (Log.PageScan.data p.url number found.length)
      (Log.PageScan.shownAddress p.url) ≠ .ok shown) :
    ∃ fault, (c.scanPage t number p).result = .error (.template fault) := by
  have hreported := Log.PageScan.reported c.floor p.url number found.length
  rw [result_scanPage_eq, hr]
  change ∃ fault, (((Log.PageScan.ofCrawl p.url number found.length).report c.floor).result >>= _) = _
  generalize (Log.PageScan.ofCrawl p.url number found.length).report c.floor = report at hreported ⊢
  cases hreported with
  | unwanted hlow => exact absurd hw (Nat.not_le_of_lt hlow)
  | written _ hshown => exact absurd hshown (hx _)
  | @refused fault => exact ⟨fault, rfl⟩

/-- **A page whose report fails breaks the crawl off**, and all records are lost. -/
theorem crawl_of_unreported (h : c.check source plan = .ok t) {outside before : σ}
    {visited : List (Page × List Value)} {urls : List String} {p : Page}
    (htrail : Trail c t outside visited urls p before) {found : List Value}
    (hr : c.recordsOf t p = .ok found) (hp : ∀ q ∈ visited.map (·.1), q.HasPlainUrl)
    (hw : c.floor ≤ Log.Level.info.severity)
    (hx : ∀ shown, Template.expand (Log.PageScan.data p.url (visited.length + 1) found.length)
      (Log.PageScan.shownAddress p.url) ≠ .ok shown) {stages : Nat}
    (hn : 3 * visited.length < stages) :
    ∃ events fault, c.crawl stages outside source plan =
        (before, ⟨events, .error (.template fault)⟩) ∧ requests events = urls := by
  obtain ⟨next, events, hreqs, hadv⟩ := htrail.advance hp
  obtain ⟨fault, hfault⟩ := scanPage_refused hr hw hx
  obtain ⟨more, rfl⟩ := Nat.exists_eq_add_of_lt hn
  have hstep : c.step t (c.advance t (3 * visited.length) (start t outside)) =
      { (c.advance t (3 * visited.length) (start t outside)).tell
          (c.scanPage t (visited.length + 1) p).events with
        stage := .failed (.template fault) } := by
    simp only [hadv, step, State.after, hfault]
  refine ⟨events ++ (c.scanPage t (visited.length + 1) p).events, fault, ?_, ?_⟩
  · rw [crawl, h]
    dsimp only
    rw [Nat.add_assoc, advance_add, advance_succ, hstep, advance_of_isOver more rfl, hadv]
    rfl
  · rw [requests_append, requests_scanPage, List.append_nil, hreqs]

end Crawls

end Crawler

open Crawl Http

/-- **Reports read addresses as templates.** The report of a scan or of a fetch is one entry that
shows the address as it expands, and as it stands if it is plain; an address that does not expand
makes the report fail. A fetch is its report and then what it comes to without one. A crawl comes to
what it comes to without reports, unless one of them fails over a brace in the address of the first
page or in one that was asked for. At a page whose address does not expand it is broken off, and the
records of all pages are lost. -/
theorem reports_expand_addresses {σ : Type} :
    (∀ (floor : Log.Floor) (url : Option String) (page items : Nat),
      Log.Reported floor .info (Log.PageScan.data url page items) (Log.PageScan.front page)
        (Log.PageScan.shownAddress url) (Log.PageScan.back items)
        ((Log.PageScan.ofCrawl url page items).report floor)) ∧
    (∀ (floor : Log.Floor) (level : Log.Level) (data : Template.Names) (front address back : String)
        (report : Traced Log.Entry Unit),
      Log.Reported floor level data front address back report → floor ≤ level.severity →
      Template.Plain address → report = .tell [⟨level, front ++ address ++ back, data⟩]) ∧
    (∀ (client : Client) (site : Site) (floor : Log.Floor) (traffic : Traffic) (url : String),
      client.fetch site Log.mute traffic url =
          ((client.attempt site traffic url).1,
            .ofExcept (client.attempt site traffic url).2.result) ∧
        (client.fetch site floor traffic url).1 = (client.fetch site Log.mute traffic url).1 ∧
        ∃ report, (client.attempt site traffic url).2.Reports floor url report ∧
          (client.fetch site floor traffic url).2 =
            report >>= fun _ => (client.fetch site Log.mute traffic url).2) ∧
    (∀ (client : Client) (site : Site) (floor : Log.Floor),
      Quiets (client.fetch site Log.mute) (client.fetch site floor)) ∧
    (∀ (c : Crawler σ) (quiet : Fetcher σ) (source : Source) (plan : Plan) (outside : σ)
        (stages : Nat), Quiets quiet c.fetch →
      let loud := c.crawl stages outside source plan
      let calm := (c.muted quiet).crawl stages outside source plan
      (loud.1 = calm.1 ∧ loud.2.result = calm.2.result ∧ seen loud.2.events = seen calm.2.events) ∨
        (∃ fault, loud.2.result = .error (.template fault)) ∧
          ∃ url, ¬ Template.Plain url ∧
            (plan.url = some url ∨ url ∈ requests loud.2.events)) ∧
    ∀ (c : Crawler σ) (source : Source) (plan : Plan) (t : Task) (outside before : σ)
        (visited : List (Page × List Value)) (urls : List String) (p : Page) (found : List Value),
      c.check source plan = .ok t →
      c.Trail t outside visited urls p before →
      c.recordsOf t p = .ok found →
      (∀ q ∈ visited.map (·.1), q.HasPlainUrl) →
      c.floor ≤ Log.Level.info.severity →
      (∀ shown, Template.expand (Log.PageScan.data p.url (visited.length + 1) found.length)
        (Log.PageScan.shownAddress p.url) ≠ .ok shown) →
      ∀ stages, 3 * visited.length < stages →
        ∃ events fault, c.crawl stages outside source plan =
            (before, ⟨events, .error (.template fault)⟩) ∧ requests events = urls := by
  refine ⟨Log.PageScan.reported, ?_, ?_, Client.quiets, ?_, ?_⟩
  · intro floor level data front address back report h hw hp
    exact h.of_plain hw hp
  · intro client site floor traffic url
    exact ⟨Client.fetch_mute, Client.fetch_reported floor⟩
  · intro c quiet source plan outside stages hq
    exact Crawler.crawl_muted hq source plan outside stages
  · intro c source plan t outside before visited urls p found h htrail hr hp hw hx stages hn
    exact Crawler.crawl_of_unreported h htrail hr hp hw hx hn

/-- A crawler of an empty site, with everybody listening. -/
def Crawler.watched : Crawler Traffic where
  scanner := Crawler.circular.scanner
  parser := Crawler.circular.parser
  follow := false
  fetch := ({ followRedirects := false } : Client).fetch {} 0

/-- A page without links. -/
def Crawler.lonePage (url : String) : Page where
  place := some (.document [.element "p" [] [.text .plain "x"]])
  url := some url

def Crawler.lonePlan (url : String) : Plan := { Crawler.circularPlan with url := some url }

def Crawler.loneTask (url : String) : Task :=
  { Crawler.circularTask with first := Crawler.lonePage url }

/-- The page is scanned and its record is there, but with reports the crawl fails over the name in
braces. At an address without braces it comes to the same with and without them, and its report
shows the address as it stands. -/
theorem reports_expand_braces :
    (∃ events fault, Crawler.watched.crawl 3 []
        (.place (Crawler.lonePage "http://s/\x7bx\x7d").place)
        (Crawler.lonePlan "http://s/\x7bx\x7d") = ([], ⟨events, .error (.template fault)⟩) ∧
      requests events = []) ∧
    ((Crawler.watched.muted (({ followRedirects := false } : Client).fetch {} Log.mute)).crawl 3 []
      (.place (Crawler.lonePage "http://s/\x7bx\x7d").place)
      (Crawler.lonePlan "http://s/\x7bx\x7d")).2.result = .ok [.dict [("text", .str "x")]] ∧
    (Crawler.watched.crawl 3 [] (.place (Crawler.lonePage "http://s/a").place)
        (Crawler.lonePlan "http://s/a")).2.result =
      ((Crawler.watched.muted (({ followRedirects := false } : Client).fetch {} Log.mute)).crawl 3 []
        (.place (Crawler.lonePage "http://s/a").place) (Crawler.lonePlan "http://s/a")).2.result ∧
    (Log.PageScan.ofCrawl (some "http://s/a") 1 3).report 0 =
      .tell [⟨.info, "Page scanned | page=1 | url=http://s/a | items=3 | status=SUCCESS",
        Log.PageScan.data (some "http://s/a") 1 3⟩] := by
  obtain ⟨hscan, hplain, -, hquiets, hmuted, hbroken⟩ := reports_expand_addresses (σ := Traffic)
  have hexpand : Template.expand (Log.PageScan.data (some "http://s/\x7bx\x7d") 1 1)
      (Log.PageScan.shownAddress (some "http://s/\x7bx\x7d")) = .error (.unknownName "x") := by
    rw [Template.expand, Template.expandWithin]
    rfl
  refine ⟨?_, rfl, ?_, ?_⟩
  · exact hbroken Crawler.watched _ _ (Crawler.loneTask "http://s/\x7bx\x7d") [] [] [] []
      (Crawler.lonePage "http://s/\x7bx\x7d") [.dict [("text", .str "x")]] rfl .first rfl
      (fun _ hq => absurd hq List.not_mem_nil) (by decide)
      (fun shown h => by
        rw [List.length_nil, List.length_singleton, Crawler.lonePage, hexpand] at h
        cases h) 3
      (by decide)
  · have hturn : Crawler.watched.turn (Crawler.loneTask "http://s/a")
        (Crawler.watched.nextOf (Crawler.loneTask "http://s/a")) (Crawler.lonePage "http://s/a") 1
        [] = .last [.dict [("text", .str "x")]] [] .finished [] := rfl
    have hurl : (Crawler.lonePage "http://s/a").HasPlainUrl := by
      rintro url ⟨⟩
      decide
    have hcheck : Crawler.watched.check (.place (Crawler.lonePage "http://s/a").place)
        (Crawler.lonePlan "http://s/a") = .ok (Crawler.loneTask "http://s/a") := rfl
    obtain ⟨events, hcrawl, -⟩ := (Crawler.crawl_of_walk hcheck (.last hturn)
      (List.forall_mem_singleton.mpr hurl) (Nat.le_refl 3)).2
    refine ((hmuted Crawler.watched _ _ _ [] 3 (hquiets _ _ 0)).resolve_right ?_).2.1
    rw [hcrawl]
    rintro ⟨⟨fault, hfault⟩, -⟩
    cases hfault
  · exact hplain 0 .info _ _ _ _ _ (hscan 0 (some "http://s/a") 1 3) (by decide) (by decide)

end Gleaner

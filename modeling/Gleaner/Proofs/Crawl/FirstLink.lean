import Gleaner.Proofs.Crawl.Outcome

/-! # Crawls by the link of the first page

A crawl that looks up each link on its first page asks for one address over and over. Without such a
link it is over after the first page; with one it never stops by itself, and a budget of pages lets
it gather the answers to one request fewer. The main statement is `Crawler.crawl_first_link`. -/

namespace Gleaner

namespace Crawler

open Crawl

variable {σ : Type} {c : Crawler σ} {t : Task} {s : State σ} {url : String}

/-- So many requests for one address, one after another, are answered by pages, which hold some
records. -/
inductive Answers (c : Crawler σ) (t : Task) (url : String) :
    σ → List (Page × List Value) → σ → Prop where
  | nil {outside : σ} : Answers c t url outside [] outside
  | cons {outside after : σ} {markup : String} {page : Page} {found : List Value}
      {rest : List (Page × List Value)} :
    (c.fetch outside url).2.result = .ok markup → c.read markup url = .ok page →
    c.recordsOf t page = .ok found → Answers c t url (c.fetch outside url).1 rest after →
    Answers c t url outside ((page, found) :: rest) after

/-- What holds all along a crawl whose link leads to one address. -/
structure KeepsTo (t : Task) (url : String) (s : State σ) : Prop where
  mem_requests : ∀ u ∈ requests s.events, u = url
  next_eq : s.stage = .resolved → s.next = some url
  limited : s.stage = .done → t.budget.limit ≠ none

section Steps

theorem nextOf_of_not_follow (h : c.follow = false) (p : Page) :
    c.nextOf t p = c.linkOn t t.first := by
  rw [nextOf, linkPage, h]
  rfl

theorem KeepsTo.start (t : Task) (url : String) (outside : σ) :
    KeepsTo t url (Crawler.start t outside) :=
  ⟨fun _ h => absurd h List.not_mem_nil, nofun, nofun⟩

/-- **One stage keeps to the address.** -/
theorem KeepsTo.step (hfollow : c.follow = false) (hlink : c.linkOn t t.first = .ok (some url))
    (h : KeepsTo t url s) : KeepsTo t url (c.step t s) := by
  cases hs : s.stage with
  | fetched =>
    have hreqs := requests_tell_scanPage (c := c) (t := t) (s := s) s.number s.page
    unfold Crawler.step
    rw [hs]
    rcases after_cases s (c.scanPage t s.number s.page) _ with ⟨found, -, heq⟩ | ⟨e, -, heq⟩ <;>
      rw [heq] <;>
      exact ⟨hreqs ▸ h.mem_requests, nofun, nofun⟩
  | scanned =>
    have hreqs := requests_tell_nextUrl (c := c) (t := t) (s := s) s.page
    rw [step_scanned hs, nextOf_of_not_follow hfollow, hlink]
    exact ⟨hreqs ▸ h.mem_requests, fun _ => rfl, nofun⟩
  | resolved =>
    rw [step_resolved_some hs (h.next_eq hs)]
    split
    next hb =>
      refine ⟨?_, nofun, ?_⟩
      · rw [requests_finish]
        exact h.mem_requests
      · intro _ hlimit
        simp [Budget.isSpent, hlimit] at hb
    next =>
      obtain ⟨hreqs, hcases⟩ := fetchNext_cases (c := c) url s
      have hstage : (c.fetchNext url s).stage = .fetched ∨
          ∃ e, (c.fetchNext url s).stage = .failed e := by
        rcases hcases with ⟨hstage, -⟩ | ⟨e, hstage, -⟩
        · exact .inl hstage
        · exact .inr ⟨e, hstage⟩
      refine ⟨?_, ?_, ?_⟩
      · rw [hreqs]
        intro u hu
        rcases List.mem_append.mp hu with hu | hu
        · exact h.mem_requests u hu
        · exact List.mem_singleton.mp hu
      · rcases hstage with hstage | ⟨_, hstage⟩ <;> simp [hstage]
      · rcases hstage with hstage | ⟨_, hstage⟩ <;> simp [hstage]
  | done => rwa [step_of_isOver (by rw [State.isOver, hs])]
  | failed e => rwa [step_of_isOver (by rw [State.isOver, hs])]

theorem KeepsTo.advance (hfollow : c.follow = false)
    (hlink : c.linkOn t t.first = .ok (some url)) (h : KeepsTo t url s) (n : Nat) :
    KeepsTo t url (c.advance t n s) := by
  induction n generalizing s with
  | zero => exact h
  | succ n ih =>
    rw [advance_succ]
    exact ih (h.step hfollow hlink)

end Steps

section Walks

/-- A walk that always goes on to one address gathers the answers to its requests, until the budget
is spent. -/
theorem walk_of_answers {next : Page → Except Error (Option String)}
    (hnext : ∀ p, next p = .ok (some url)) {limit : Nat} (hlimit : t.budget.limit = some limit)
    {outside after : σ} {answers : List (Page × List Value)}
    (ha : Answers c t url outside answers after) {p : Page} {number : Nat} {found : List Value}
    (hr : c.recordsOf t p = .ok found) (hn : number + answers.length = limit) :
    c.Walk t next p number outside
      ⟨p :: answers.map (·.1), found ++ answers.flatMap (·.2), List.replicate answers.length url,
        .finished, after⟩ := by
  induction ha generalizing p number found with
  | @nil outside =>
    have hb : t.budget.isSpent number = true := by
      rw [Budget.isSpent, hlimit]
      simpa using hn.ge
    have hturn : c.turn t next p number outside = .last found [] .finished outside := by
      simp only [turn, hr, hnext, hb, ↓reduceIte]
    simpa using Walk.last hturn
  | @cons outside after markup page more rest hm hp hmore _ ih =>
    rw [List.length_cons] at hn
    have hturn : c.turn t next p number outside =
        .onward found url page (c.fetch outside url).1 := by
      refine turn_eq_onward_iff.mpr ⟨hr, hnext p, ?_, markup, hm, hp, rfl⟩
      exact (isSpent_eq_false_iff hlimit).mpr (by omega)
    have hwalk := Walk.onward hturn (ih hmore (by omega))
    simpa only [Course.cons, List.map_cons, List.flatMap_cons, List.length_cons,
      List.replicate_succ, List.append_assoc] using hwalk

theorem Answers.hasPlainUrl {outside after : σ} {answers : List (Page × List Value)}
    (ha : Answers c t url outside answers after) (hurl : Template.Plain url) :
    ∀ p ∈ answers.map (·.1), p.HasPlainUrl := by
  induction ha with
  | nil => simp
  | cons _ hp _ _ ih =>
    rw [List.map_cons, List.forall_mem_cons]
    refine ⟨?_, ih⟩
    intro u hu
    rw [read_url hp] at hu
    cases hu
    exact hurl

theorem exists_answers_replicate {markup : String} {page : Page} {more : List Value}
    (hm : ∀ outside, (c.fetch outside url).2.result = .ok markup)
    (hp : c.read markup url = .ok page) (hr : c.recordsOf t page = .ok more) (n : Nat)
    (outside : σ) : ∃ after, Answers c t url outside (List.replicate n (page, more)) after := by
  induction n generalizing outside with
  | zero => exact ⟨outside, .nil⟩
  | succ n ih =>
    obtain ⟨after, ha⟩ := ih (c.fetch outside url).1
    exact ⟨after, .cons (hm outside) hp hr ha⟩

end Walks

section Crawls

variable {source : Source} {plan : Plan} {link : Value}

/-- Where the first page leads: nowhere, or to the text of its link made absolute. -/
theorem linkOn_first (h : c.check source plan = .ok t)
    (hlink : (c.scanner.extractor.extract t.first.place t.link).result = .ok link) :
    c.linkOn t t.first =
      if link.isNone ∨ Text.trimmed link.display = "" then .ok none
      else match Url.absolute (Text.trimmed link.display) plan.url with
        | .ok url => .ok (if url = "" then none else some url)
        | .error fault => .error (.badHost fault) := by
  rw [linkOn, hlink]
  change resolve t.first link = _
  rw [resolve, first_url h]
  by_cases hnone : link.isNone
  · simp only [hnone, true_or, ↓reduceIte]
  · by_cases htext : Text.trimmed link.display = ""
    · simp only [hnone, htext, or_true, Bool.false_eq_true, ↓reduceIte]
    · cases habs : Url.absolute (Text.trimmed link.display) plan.url <;>
        simp only [hnone, htext, habs, or_false, Bool.false_eq_true, ↓reduceIte]

theorem crawl_of_no_link (h : c.check source plan = .ok t) (hfollow : c.follow = false)
    (hn : c.linkOn t t.first = .ok none) (hp : t.first.HasPlainUrl) {found : List Value}
    (hr : c.recordsOf t t.first = .ok found) (outside : σ) {stages : Nat} (hs : 3 ≤ stages) :
    ∃ events, c.crawl stages outside source plan = (outside, ⟨events, .ok found⟩) ∧
      requests events = [] := by
  have hturn : c.turn t (c.nextOf t) t.first 1 outside = .last found [] .finished outside := by
    simp only [turn, hr, nextOf_of_not_follow hfollow, hn]
  exact (crawl_of_walk h (.last hturn) (by simpa using hp) hs).2

theorem crawl_of_answers (h : c.check source plan = .ok t) (hfollow : c.follow = false)
    (hn : c.linkOn t t.first = .ok (some url)) (hp : t.first.HasPlainUrl)
    (hurl : Template.Plain url) {limit : Nat} (hlimit : t.budget.limit = some limit)
    {found : List Value} (hr : c.recordsOf t t.first = .ok found) {outside after : σ}
    {answers : List (Page × List Value)} (ha : Answers c t url outside answers after)
    (hlength : answers.length + 1 = limit) {stages : Nat} (hs : 3 * limit ≤ stages) :
    ∃ events, c.crawl stages outside source plan =
        (after, ⟨events, .ok (found ++ answers.flatMap (·.2))⟩) ∧
      requests events = List.replicate (limit - 1) url := by
  have hnext : ∀ p, c.nextOf t p = .ok (some url) := fun p => by
    rw [nextOf_of_not_follow hfollow, hn]
  have hnumber : 1 + answers.length = limit := by omega
  have hwalk := walk_of_answers hnext hlimit ha hr hnumber
  have hplain : ∀ p ∈ t.first :: answers.map (·.1), p.HasPlainUrl :=
    List.forall_mem_cons.mpr ⟨hp, ha.hasPlainUrl hurl⟩
  have hpages : 3 * (t.first :: answers.map (·.1)).length ≤ stages := by
    simpa [hlength] using hs
  have hrun := (crawl_of_walk h hwalk hplain hpages).2
  rwa [show limit - 1 = answers.length by omega]

/-- **A crawl by the link of the first page asks for one address only**, the one that this link
leads to from the address of the first page. Without a link nothing is asked for, and the records
are those of the first page. With a link a crawl without a limit is never done. With a limit, and if
all requests are answered, the records of the first page are followed by those of the answers, one
fewer than the limit. -/
theorem crawl_first_link (hfollow : c.follow = false) (h : c.check source plan = .ok t)
    (hlink : (c.scanner.extractor.extract t.first.place t.link).result = .ok link)
    (outside : σ) :
    (link.isNone ∨ Text.trimmed link.display = "" ∨
        Url.absolute (Text.trimmed link.display) plan.url = .ok "" →
      t.first.HasPlainUrl → ∀ found, c.recordsOf t t.first = .ok found →
      ∀ stages, 3 ≤ stages → ∃ events,
        c.crawl stages outside source plan = (outside, ⟨events, .ok found⟩) ∧
          requests events = []) ∧
    ∀ url, link.isNone = false → Text.trimmed link.display ≠ "" →
      Url.absolute (Text.trimmed link.display) plan.url = .ok url → url ≠ "" →
      (∀ stages, ∀ u ∈ requests (c.crawl stages outside source plan).2.events, u = url) ∧
      (t.budget.limit = none → ∀ stages, (c.advance t stages (start t outside)).stage ≠ .done) ∧
      ∀ limit, t.budget.limit = some limit → t.first.HasPlainUrl → Template.Plain url →
        ∀ found, c.recordsOf t t.first = .ok found →
        (∀ answers after, Answers c t url outside answers after → answers.length + 1 = limit →
          ∀ stages, 3 * limit ≤ stages → ∃ events,
            c.crawl stages outside source plan =
              (after, ⟨events, .ok (found ++ answers.flatMap (·.2))⟩) ∧
            requests events = List.replicate (limit - 1) url) ∧
        ∀ markup page more, (∀ o, (c.fetch o url).2.result = .ok markup) →
          c.read markup url = .ok page → c.recordsOf t page = .ok more →
          ∀ stages, 3 * limit ≤ stages → ∃ after events,
            c.crawl stages outside source plan =
              (after, ⟨events, .ok (found ++ (List.replicate (limit - 1) more).flatten)⟩) ∧
            requests events = List.replicate (limit - 1) url := by
  have hfirst := linkOn_first h hlink
  constructor
  · intro hno hp found hr stages hs
    refine crawl_of_no_link h hfollow ?_ hp hr outside hs
    rw [hfirst]
    rcases hno with hno | hno | hno <;> simp [hno]
  · intro url hsome hne habs hurl
    have hn : c.linkOn t t.first = .ok (some url) := by
      rw [hfirst]
      simp [hsome, hne, habs, hurl]
    have hkeeps := KeepsTo.start t url outside
    refine ⟨?_, ?_, ?_⟩
    · intro stages
      rw [crawl, h]
      exact (hkeeps.advance hfollow hn stages).mem_requests
    · intro hlimit stages hdone
      exact (hkeeps.advance hfollow hn stages).limited hdone hlimit
    · intro limit hlimit hp hplain found hr
      refine ⟨fun answers after ha hlength stages hs =>
        crawl_of_answers h hfollow hn hp hplain hlimit hr ha hlength hs, ?_⟩
      intro markup page more hm hpage hmore stages hs
      obtain ⟨after, ha⟩ := exists_answers_replicate hm hpage hmore (limit - 1) outside
      have hone := one_le_limit h hlimit
      have hrun := crawl_of_answers h hfollow hn hp hplain hlimit hr ha
        (by rw [List.length_replicate]; omega) hs
      have hflat : (List.replicate (limit - 1) (page, more)).flatMap (·.2) =
          (List.replicate (limit - 1) more).flatten := by
        rw [List.flatMap_def, List.map_replicate]
      rw [hflat] at hrun
      exact ⟨after, hrun⟩

/-- A site on which every page but the first leads to the page `c` beside it. -/
def winding : Crawler Unit where
  scanner := circular.scanner
  parser := circular.parser
  follow := false
  fetch _ _ := ((), pure "<p>y</p><a href=\"c\">")

/-- The page at the link of the first page. -/
def windingPage : Page where
  place := some (.document [.element "p" [] [.text .plain "y"], .element "a" [("href", "c")] []])
  url := some "http://s/b"

/-- A page without any link. -/
def linklessTask : Task :=
  { circularTask with
    first := ⟨some (.document [.element "p" [] [.text .plain "x"]]), some "http://s/a"⟩ }

/-- The link of the first page is asked for twice, and the links of its answers never. Without a
budget the crawl is never done, and without a link it is done after the first page. -/
theorem crawl_first_link_winding :
    (∃ after events, winding.crawl 9 () (.place circularTask.first.place) circularPlan =
        (after, ⟨events, .ok ([.dict [("text", .str "x")]] ++
          (List.replicate 2 [.dict [("text", .str "y")]]).flatten)⟩) ∧
      requests events = ["http://s/b", "http://s/b"]) ∧
    (∀ stages, (winding.advance { circularTask with budget := ⟨none, "-1"⟩ } stages
      (start { circularTask with budget := ⟨none, "-1"⟩ } ())).stage ≠ .done) ∧
    ∃ events, winding.crawl 3 () (.place linklessTask.first.place) circularPlan =
        ((), ⟨events, .ok [.dict [("text", .str "x")]]⟩) ∧
      requests events = [] := by
  have hplain : circularTask.first.HasPlainUrl := circularPage_hasPlainUrl (by decide)
  have hfirst : winding.recordsOf circularTask circularTask.first =
    .ok [.dict [("text", .str "x")]] := rfl
  have hpage : winding.read "<p>y</p><a href=\"c\">" "http://s/b" = .ok windingPage := rfl
  have hmore : winding.recordsOf circularTask windingPage = .ok [.dict [("text", .str "y")]] := rfl
  have hlinkless : winding.recordsOf linklessTask linklessTask.first =
    .ok [.dict [("text", .str "x")]] := rfl
  have habsolute : Url.absolute (Text.trimmed (Value.str "b").display) circularPlan.url =
    .ok "http://s/b" := rfl
  have hcheck : winding.check (.place circularTask.first.place) circularPlan =
    .ok circularTask := rfl
  have hcheck' : winding.check (.place circularTask.first.place)
      { circularPlan with budget := .int (-1) } =
    .ok { circularTask with budget := ⟨none, "-1"⟩ } := rfl
  have hcheck'' : winding.check (.place linklessTask.first.place) circularPlan =
    .ok linklessTask := rfl
  have hlink : (winding.scanner.extractor.extract circularTask.first.place
    circularTask.link).result = .ok (.str "b") := rfl
  have hlink' : (winding.scanner.extractor.extract linklessTask.first.place
    linklessTask.link).result = .ok .none := rfl
  refine ⟨?_, ?_, ?_⟩
  · have hcrawl := (crawl_first_link rfl hcheck hlink ()).2 "http://s/b" rfl (by decide) habsolute
      (by decide)
    exact (hcrawl.2.2 3 rfl hplain (by decide) _ hfirst).2 _ _ _ (fun _ => rfl) hpage hmore 9
      (by decide)
  · have hcrawl := (crawl_first_link rfl hcheck' hlink ()).2 "http://s/b" rfl (by decide) habsolute
      (by decide)
    exact hcrawl.2.1 rfl
  · have hcrawl := (crawl_first_link rfl hcheck'' hlink' ()).1 (.inl rfl)
    refine hcrawl ?_ _ hlinkless 3 (Nat.le_refl 3)
    rintro _ ⟨⟩
    decide

end Crawls

end Crawler

end Gleaner

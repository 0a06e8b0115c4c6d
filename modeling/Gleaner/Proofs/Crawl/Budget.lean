import Gleaner.Proofs.Crawl.Abort
import Gleaner.Proofs.Crawl.Stage

/-! # Crawls under two budgets

Two crawls that differ in their budgets only are at the same place after every stage, until the
smaller budget is spent. Then the first is done, and whatever the second goes on to gather and to ask
for comes behind (`Crawler.advance_parts`). The main statement is
`Crawler.smaller_budget_cuts_short`. -/

namespace Gleaner

namespace Budget

variable {b larger : Budget} {limit : Nat}

/-- A budget that is spent whenever a larger one is. -/
def Within (b larger : Budget) : Prop :=
  ∀ pages, larger.isSpent pages = true → b.isSpent pages = true

theorem within_of_limit (h : b.limit = some limit)
    (hle : ∀ more, larger.limit = some more → limit ≤ more) : b.Within larger := by
  intro pages hspent
  cases hm : larger.limit with
  | none => simp [isSpent, hm] at hspent
  | some more =>
    have hmore := hle more hm
    simp only [isSpent, hm, h, decide_eq_true_eq] at hspent ⊢
    exact hmore.trans hspent

theorem Within.isSpent_eq_false (h : b.Within larger) {pages : Nat}
    (hspent : b.isSpent pages = false) : larger.isSpent pages = false := by
  cases hlarger : larger.isSpent pages with
  | false => rfl
  | true =>
    rw [h pages hlarger] at hspent
    cases hspent

end Budget

namespace Crawler

open Crawl

variable {σ : Type} {c : Crawler σ} {t : Task} {s s' : State σ} {b : Budget}

/-- Where two crawls stand that started alike: at the same place, or the first is done and the
second has gone on from there. -/
inductive Parts (s : State σ) : State σ → Prop where
  | together : Parts s s
  | apart {s' : State σ} : s.stage = .done → s.records <+: s'.records →
    requests s.events <+: requests s'.events → Parts s s'

section Stages

theorem Parts.records (h : Parts s s') : s.records <+: s'.records := by
  cases h with
  | together => exact List.prefix_rfl
  | apart _ hrecords _ => exact hrecords

theorem Parts.requests (h : Parts s s') : requests s.events <+: Crawl.requests s'.events := by
  cases h with
  | together => exact List.prefix_rfl
  | apart _ _ hreqs => exact hreqs

theorem Parts.eq_of_failed (h : Parts s s') {e : Error} (hs : s.stage = .failed e) : s' = s := by
  cases h with
  | together => rfl
  | apart hdone =>
    rw [hdone] at hs
    cases hs

/-- Two budgets part a crawl nowhere but where it has come to a link, and the smaller one is
spent. -/
theorem step_budget (hb : t.budget.Within b) :
    c.step { t with budget := b } s = c.step t s ∨
      (c.step t s).stage = .done ∧ (c.step t s).records = s.records ∧
        requests (c.step t s).events = requests s.events := by
  cases hs : s.stage with
  | fetched | scanned =>
    left
    unfold step
    rw [hs]
    rfl
  | resolved =>
    cases hn : s.next with
    | none =>
      rw [step_resolved_none hs hn, step_resolved_none hs hn]
      exact .inl rfl
    | some url =>
      rw [step_resolved_some hs hn, step_resolved_some hs hn]
      cases hspent : t.budget.isSpent s.number with
      | true => exact .inr ⟨rfl, rfl, requests_finish _ s⟩
      | false =>
        rw [hb.isSpent_eq_false hspent]
        exact .inl rfl
  | done | failed =>
    rw [step_of_isOver (by rw [State.isOver, hs]), step_of_isOver (by rw [State.isOver, hs])]
    exact .inl rfl

/-- **One stage parts two crawls only if the first is done by it.** -/
theorem step_parts (hb : t.budget.Within b) (h : Parts s s') :
    Parts (c.step t s) (c.step { t with budget := b } s') := by
  have hgrows := (step_moves c { t with budget := b } s').grows
  cases h with
  | together =>
    rcases step_budget (c := c) (s := s) hb with hsame | ⟨hdone, hrecords, hreqs⟩
    · rw [hsame]
      exact .together
    · exact .apart hdone (hrecords ▸ hgrows.records) (hreqs ▸ hgrows.requests)
  | apart hdone hrecords hreqs =>
    rw [step_of_isOver (t := t) (by rw [State.isOver, hdone])]
    exact .apart hdone (hrecords.trans hgrows.records) (hreqs.trans hgrows.requests)

/-- **So do all stages.** -/
theorem advance_parts (hb : t.budget.Within b) (h : Parts s s') (n : Nat) :
    Parts (c.advance t n s) (c.advance { t with budget := b } n s') := by
  induction n generalizing s s' with
  | zero => exact h
  | succ n ih =>
    rw [advance_succ, advance_succ]
    exact ih (step_parts hb h)

/-- The same holds when the second crawl goes on for longer, once the first is over. -/
theorem advance_parts_of_isOver (hb : t.budget.Within b) {n : Nat}
    (hover : (c.advance t n s).isOver) {stages more : Nat} (hstages : n ≤ stages)
    (hmore : n ≤ more) :
    Parts (c.advance t stages s) (c.advance { t with budget := b } more s) := by
  obtain ⟨k, rfl⟩ := Nat.exists_eq_add_of_le hstages
  obtain ⟨m, rfl⟩ := Nat.exists_eq_add_of_le hmore
  have hparts := advance_parts (c := c) (t := t) hb (.together (s := s)) (n + m)
  rwa [advance_add n m, advance_of_isOver m hover, ← advance_of_isOver k hover, ← advance_add]
    at hparts

end Stages

section Crawls

variable {source : Source} {plan : Plan}

theorem check_budget (h : c.check source plan = .ok t) {larger : Value}
    (hlarger : Budget.ofValue larger = .ok b) :
    c.check source { plan with budget := larger } = .ok { t with budget := b } := by
  obtain ⟨-, hlink, hfirst, hscope, hfields⟩ := check_eq_ok_iff.mp h
  exact check_eq_ok_iff.mpr ⟨hlarger, hlink, hfirst, hscope, hfields⟩

/-- **A smaller budget only cuts a crawl short.** A crawl with a limit comes to an end. If it fails,
then so does every crawl with a larger budget or none, with the same failure after the same
requests. If it gathers records, then they and its requests come first in a larger crawl: in what
that one gathers, whether it is over or still on its way, and in what it takes along if a fetch
breaks it off. -/
theorem smaller_budget_cuts_short (h : c.check source plan = .ok t) {limit : Nat}
    (hlimit : t.budget.limit = some limit) {larger : Value}
    (hlarger : Budget.ofValue larger = .ok b)
    (hle : ∀ more, b.limit = some more → limit ≤ more) (outside : σ) :
    (∀ stages, 3 * limit ≤ stages → (c.advance t stages (start t outside)).isOver) ∧
    ∀ stages more, 3 * limit ≤ stages → 3 * limit ≤ more →
      (∀ e, (c.crawl stages outside source plan).2.result = .error e →
        c.crawl more outside source { plan with budget := larger } =
          c.crawl stages outside source plan) ∧
      ∀ records, (c.crawl stages outside source plan).2.result = .ok records →
        requests (c.crawl stages outside source plan).2.events <+:
          requests (c.crawl more outside source { plan with budget := larger }).2.events ∧
        (∀ records', (c.crawl more outside source { plan with budget := larger }).2.result =
          .ok records' → records <+: records') ∧
        ∀ f, (c.crawl more outside source { plan with budget := larger }).2.result =
            .error (.fetch f) →
          records <+: f.records ∨
            ∃ p ∈ c.scanned { t with budget := b } more (start t outside),
              c.FailsLikeFetch t p f := by
  have hover (stages : Nat) (hstages : 3 * limit ≤ stages) :
      (c.advance t stages (start t outside)).isOver :=
    isOver_of_limit hlimit (one_le_limit h hlimit) outside hstages
  refine ⟨hover, fun stages more hstages hmore => ?_⟩
  have hparts : Parts (c.advance t stages (start t outside))
      (c.advance { t with budget := b } more (start t outside)) :=
    advance_parts_of_isOver (Budget.within_of_limit hlimit hle) (hover _ (Nat.le_refl _)) hstages
      hmore
  have haccounts : c.Accounts { t with budget := b }
      (c.scanned { t with budget := b } more (start t outside))
      (c.advance { t with budget := b } more (start t outside)) :=
    accounts_advance c { t with budget := b } outside more
  have hsmall : c.crawl stages outside source plan =
      (c.advance t stages (start t outside)).summary := by
    rw [crawl, h]
  have hlarge : c.crawl more outside source { plan with budget := larger } =
      (c.advance { t with budget := b } more (start t outside)).summary := by
    rw [crawl, check_budget h hlarger]
    rfl
  rw [hsmall, hlarge]
  generalize c.advance t stages (start t outside) = s at hparts ⊢
  generalize c.advance { t with budget := b } more (start t outside) = s' at hparts haccounts ⊢
  constructor
  · intro e he
    rw [hparts.eq_of_failed (State.result_eq_error_iff.mp he)]
  · intro records hrecords
    rw [← State.records_of_result hrecords]
    refine ⟨hparts.requests, fun records' hrecords' => ?_, fun f hf => ?_⟩
    · rw [← State.records_of_result hrecords']
      exact hparts.records
    · rcases haccounts.records f (State.result_eq_error_iff.mp hf) with hheld | hfails
      · rw [hheld]
        exact .inl hparts.records
      · exact .inr hfails

/-- Three pages of a site that fails the second request. -/
def failingCourse : Course Nat where
  pages := [circularPage "http://s/a", circularPage "http://s/b"]
  records := [.dict [("text", .str "x")], .dict [("text", .str "x")]]
  requests := ["http://s/b", "http://s/b"]
  ending := .unfetched (.fetch ⟨"http://s/b", "HTTP 404", some 404, [.none]⟩)
  outside := 2

/-- Two pages of it, which takes one request. -/
def twoPagesCourse : Course Nat :=
  { failingCourse with requests := ["http://s/b"], ending := .finished, outside := 1 }

def twoPagesTask : Task := { circularTask with budget := ⟨some 2, "2"⟩ }

theorem walk_failing : failing.Walk circularTask (failing.nextOf circularTask) circularTask.first 1 0
    failingCourse := by
  have hturn1 : failing.turn circularTask (failing.nextOf circularTask) (circularPage "http://s/a")
      1 0 = .onward [.dict [("text", .str "x")]] "http://s/b" (circularPage "http://s/b") 1 := rfl
  have hturn2 : failing.turn circularTask (failing.nextOf circularTask) (circularPage "http://s/b")
      2 1 = .last [.dict [("text", .str "x")]] ["http://s/b"] failingCourse.ending 2 := rfl
  have hwalk := Walk.onward hturn1 (.last hturn2)
  exact hwalk

theorem walk_twoPages : failing.Walk twoPagesTask (failing.nextOf twoPagesTask) twoPagesTask.first 1 0
    twoPagesCourse := by
  have hturn1 : failing.turn twoPagesTask (failing.nextOf twoPagesTask) (circularPage "http://s/a")
      1 0 = .onward [.dict [("text", .str "x")]] "http://s/b" (circularPage "http://s/b") 1 := rfl
  have hturn2 : failing.turn twoPagesTask (failing.nextOf twoPagesTask) (circularPage "http://s/b")
      2 1 = .last [.dict [("text", .str "x")]] [] .finished 1 := rfl
  have hwalk := Walk.onward hturn1 (.last hturn2)
  exact hwalk

theorem failingCourse_hasPlainUrls : ∀ p ∈ failingCourse.pages, p.HasPlainUrl :=
  List.forall_mem_cons.mpr ⟨circularPage_hasPlainUrl (by decide),
    List.forall_mem_singleton.mpr (circularPage_hasPlainUrl (by decide))⟩

/-- Two pages give the first two of the records that a crawl of three pages takes along when its
second request fails, and without a budget that one fails alike. On the circular site a crawl without
a budget never ends, and it gathers what a crawl of three pages does before anything else. -/
theorem smaller_budget_cuts_short_failing :
    (∃ f : FetchFailure,
      (failing.crawl 9 0 (.place (circularPage "http://s/a").place) circularPlan).2.result =
        .error (.fetch f) ∧
      [.dict [("text", .str "x")], .dict [("text", .str "x")]] <+: f.records ∧
      failing.crawl 30 0 (.place (circularPage "http://s/a").place)
          { circularPlan with budget := .int (-1) } =
        failing.crawl 9 0 (.place (circularPage "http://s/a").place) circularPlan) ∧
    ∀ more, 9 ≤ more → ∀ records,
      (circular.crawl more () (.place (circularPage "http://s/a").place)
        { circularPlan with budget := .int (-1) }).2.result = .ok records →
      List.replicate 3 (.dict [("text", .str "x")]) <+: records := by
  have hcheck : failing.check (.place (circularPage "http://s/a").place) circularPlan =
    .ok circularTask := rfl
  have hcheck' : failing.check (.place (circularPage "http://s/a").place)
    { circularPlan with budget := .int 2 } = .ok twoPagesTask := rfl
  have hcheck'' : circular.check (.place (circularPage "http://s/a").place) circularPlan =
    .ok circularTask := rfl
  have hthree : Budget.ofValue (.int 3) = .ok circularTask.budget := rfl
  have hunlimited : Budget.ofValue (.int (-1)) = .ok ⟨none, "-1"⟩ := rfl
  obtain ⟨hruns, events, hfails, -⟩ :=
    crawl_of_walk hcheck walk_failing failingCourse_hasPlainUrls
      (show 3 * failingCourse.pages.length ≤ 9 by decide)
  obtain ⟨-, events', htwo, -⟩ :=
    crawl_of_walk hcheck' walk_twoPages failingCourse_hasPlainUrls
      (show 3 * twoPagesCourse.pages.length ≤ 6 by decide)
  obtain ⟨-, events'', hgathered, -⟩ :=
    crawl_of_walk hcheck'' walk_circular circularCourse_hasPlainUrls
      (show 3 * circularCourse.pages.length ≤ 9 by decide)
  refine ⟨⟨⟨"http://s/b", "HTTP 404", some 404, _⟩, congrArg (·.2.result) hfails, ?_, ?_⟩, ?_⟩
  · have hcut := (smaller_budget_cuts_short hcheck' rfl hthree (by decide) 0).2 6 9 (Nat.le_refl 6)
      (by decide)
    rcases (hcut.2 _ (congrArg (·.2.result) htwo)).2.2 _ (congrArg (·.2.result) hfails) with
      hrecords | ⟨p, hp, hreads⟩
    · exact hrecords
    · have hp' : p ∈ failingCourse.pages := hruns.scanned ▸ hp
      rcases List.mem_cons.mp hp' with rfl | hp'
      · rcases hreads with hreads | hreads <;> cases hreads
      · cases List.mem_singleton.mp hp'
        rcases hreads with hreads | hreads <;> cases hreads
  · have hcut := (smaller_budget_cuts_short hcheck rfl hunlimited (by decide) 0).2 9 30 (Nat.le_refl 9)
      (by decide)
    exact hcut.1 _ (congrArg (·.2.result) hfails)
  · intro more hmore records hrecords
    have hcut := (smaller_budget_cuts_short hcheck'' rfl hunlimited (by decide) ()).2 9 more
      (Nat.le_refl 9) hmore
    exact (hcut.2 _ (congrArg (·.2.result) hgathered)).2.1 records hrecords

end Crawls

end Crawler

end Gleaner

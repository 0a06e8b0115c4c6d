import Gleaner.Proofs.Crawl.Walk

/-! # What crawls come to

A crawl whose plan was accepted is the walk from its first page, with the number one. If it looks up
each link on the page just scanned, the walk is the plain recursion over pages. A budget is at least
one page, so a walk with a limit always ends, whatever cycles the links form. -/

namespace Gleaner

namespace Budget

theorem one_le_roundUp {m : Nat} {e : Int} (h : 1 ≤ Double.truncate false m e) :
    1 ≤ roundUp m e := by
  have htrunc : 1 ≤ (Double.ratio m e).1 / (Double.ratio m e).2 := by
    simp only [Double.truncate, Bool.false_eq_true, ↓reduceIte] at h
    omega
  have hpos : 0 < (Double.ratio m e).2 := by
    unfold Double.ratio
    split
    · exact Nat.one_pos
    · exact Nat.pow_pos (by decide)
  change 1 ≤ ((Double.ratio m e).1 + (Double.ratio m e).2 - 1) / (Double.ratio m e).2
  exact htrunc.trans (Nat.div_le_div_right (by omega))

/-- A limit of pages lets at least one page through. -/
theorem one_le_limitOf {v : Value} {n : Nat} (h : limitOf v = .ok (some n)) : 1 ≤ n := by
  cases v with
  | int i =>
    simp only [limitOf] at h
    split at h
    · cases h
    split at h
    · cases h
    · cases h; omega
  | bool b => cases b <;> cases h; exact Nat.le_refl 1
  | float d =>
    simp only [limitOf] at h
    split at h
    · cases h
    cases d with
    | nan => cases h
    | infinite negative => cases negative <;> cases h
    | finite negative m e =>
      dsimp only at h
      split at h
      · cases h
      next hd =>
        cases h
        simp only [Bool.or_eq_true, decide_eq_true_eq, not_or, Int.not_lt] at hd
        exact one_le_roundUp hd.2
  | _ => cases h

theorem one_le_of_ofValue {v : Value} {b : Budget} (h : ofValue v = .ok b) {n : Nat}
    (hn : b.limit = some n) : 1 ≤ n := by
  obtain ⟨limit, hlimit, hb⟩ := bind_eq_ok_iff.mp h
  cases hb
  exact one_le_limitOf (hlimit.trans (congrArg Except.ok hn))

end Budget

namespace Crawler

open Crawl

variable {σ : Type} {c : Crawler σ} {source : Source} {plan : Plan} {t : Task}

/-- What it takes for a plan to be accepted. -/
theorem check_eq_ok_iff : c.check source plan = .ok t ↔
    Budget.ofValue plan.budget = .ok t.budget ∧
      c.scanner.extractor.compile plan.link = .ok t.link ∧
      c.firstPage source plan.url = .ok t.first ∧ t.scope = plan.scope ∧ t.fields = plan.fields := by
  unfold check
  cases Budget.ofValue plan.budget with
  | error e => simp [bind, Except.bind]
  | ok b =>
    cases c.scanner.extractor.compile plan.link with
    | error e => simp [bind, Except.bind]
    | ok d =>
      cases c.firstPage source plan.url with
      | error e => simp [bind, Except.bind]
      | ok p =>
        simp only [bind, Except.bind, pure, Except.pure, Except.ok.injEq]
        constructor
        · rintro rfl; exact ⟨rfl, rfl, rfl, rfl, rfl⟩
        · rintro ⟨rfl, rfl, rfl, hs, hf⟩; rw [← hs, ← hf]

/-- The first page has the address that the plan gives it. -/
theorem first_url (h : c.check source plan = .ok t) : t.first.url = plan.url := by
  have hfirst := (check_eq_ok_iff.mp h).2.2.1
  cases source with
  | markup text => exact read_url hfirst
  | document d => exact congrArg Page.url (Except.ok.inj hfirst).symm
  | place p => exact congrArg Page.url (Except.ok.inj hfirst).symm

theorem one_le_limit (h : c.check source plan = .ok t) {n : Nat} (hn : t.budget.limit = some n) :
    1 ≤ n :=
  Budget.one_le_of_ofValue (check_eq_ok_iff.mp h).1 hn

/-- **A crawl by an accepted plan is the walk from its first page.** -/
theorem crawl_of_walk (h : c.check source plan = .ok t) {outside : σ} {x : Course σ}
    (hx : c.Walk t (c.nextOf t) t.first 1 outside x) (hp : ∀ p ∈ x.pages, p.HasPlainUrl)
    {stages : Nat} (hn : 3 * x.pages.length ≤ stages) :
    c.Runs t stages (start t outside) x ∧
      ∃ events, c.crawl stages outside source plan = (x.outside, ⟨events, x.result⟩) ∧
        requests events = x.requests := by
  have hrun := (runs_of_walk (s := start t outside) hx hp rfl rfl rfl rfl).mono hn
  refine ⟨hrun, (c.advance t stages (start t outside)).events, ?_, hrun.requests⟩
  have hcrawl : c.crawl stages outside source plan =
      (c.advance t stages (start t outside)).summary := by
    rw [crawl, h]
  rw [hcrawl]
  exact Prod.ext hrun.outside (congrArg (Traced.mk _) hrun.result)

/-! ## Following the link of each page -/

theorem nextOf_of_follow (h : c.follow = true) : c.nextOf t = c.linkOn t := by
  funext p
  rw [nextOf, linkPage, if_pos h]

/-- **A crawl that follows the link of each page is the plain recursion**: it runs as the walk does
that reads a page, looks up the link on that page from its address and goes on to where the link
leads. It comes to an end only if the walk does. With a limit it always ends, having scanned no more
pages than the limit and asked for fewer. -/
theorem crawl_follow_eq_walk (hfollow : c.follow = true) (h : c.check source plan = .ok t)
    (outside : σ) :
    t.first.url = plan.url ∧
    (∀ x, c.Walk t (c.linkOn t) t.first 1 outside x → (∀ p ∈ x.pages, p.HasPlainUrl) →
      ∀ stages, 3 * x.pages.length ≤ stages →
        c.Runs t stages (start t outside) x ∧
          ∃ events, c.crawl stages outside source plan = (x.outside, ⟨events, x.result⟩) ∧
            requests events = x.requests) ∧
    (∀ stages, (c.advance t stages (start t outside)).isOver →
      (∀ p ∈ c.scanned t stages (start t outside), p.HasPlainUrl) →
      ∃ x, c.Walk t (c.linkOn t) t.first 1 outside x) ∧
    ∀ limit, t.budget.limit = some limit →
      ∃ x, c.Walk t (c.linkOn t) t.first 1 outside x ∧
        x.pages.length ≤ limit ∧ x.requests.length + 1 ≤ limit := by
  rw [← nextOf_of_follow hfollow]
  refine ⟨first_url h, fun x hx hp stages hn => crawl_of_walk h hx hp hn, ?_, ?_⟩
  · intro stages hover hp
    exact exists_walk_of_isOver rfl hover hp
  · intro limit hlimit
    obtain ⟨x, hx, hpages, hreqs⟩ := exists_walk_of_limit hlimit (one_le_limit h hlimit)
    exact ⟨x, hx, by omega, by omega⟩

/-- A site on which every page shows one word and leads to the page `b` beside it. -/
def circular : Crawler Unit where
  scanner := ⟨⟨⟨⟨"own", []⟩, ⟨"fallback", []⟩⟩, false⟩, true⟩
  parser := "html.parser"
  follow := true
  fetch _ _ := ((), pure "<p>x</p><a href=\"b\">")

/-- Three pages of that site, from the page `a` on. -/
def circularPlan : Plan where
  link := "a@href"
  scope := some "p"
  fields := some [("text", "&")]
  budget := .int 3
  url := some "http://s/a"

def circularPage (url : String) : Page where
  place := some (.document [.element "p" [] [.text .plain "x"], .element "a" [("href", "b")] []])
  url := some url

def circularTask : Task where
  link := .of "a" "href"
  scope := some "p"
  fields := some [("text", "&")]
  budget := ⟨some 3, "3"⟩
  first := circularPage "http://s/a"

def circularCourse : Course Unit where
  pages := [circularPage "http://s/a", circularPage "http://s/b", circularPage "http://s/b"]
  records := [.dict [("text", .str "x")], .dict [("text", .str "x")], .dict [("text", .str "x")]]
  requests := ["http://s/b", "http://s/b"]
  ending := .finished
  outside := ()

theorem walk_circular : circular.Walk circularTask (circular.linkOn circularTask)
    circularTask.first 1 () circularCourse := by
  have hturn1 : circular.turn circularTask (circular.linkOn circularTask) (circularPage "http://s/a")
      1 () = .onward [.dict [("text", .str "x")]] "http://s/b" (circularPage "http://s/b") () := rfl
  have hturn2 : circular.turn circularTask (circular.linkOn circularTask) (circularPage "http://s/b")
      2 () = .onward [.dict [("text", .str "x")]] "http://s/b" (circularPage "http://s/b") () := rfl
  have hturn3 : circular.turn circularTask (circular.linkOn circularTask) (circularPage "http://s/b")
      3 () = .last [.dict [("text", .str "x")]] [] .finished () := rfl
  have hwalk := Walk.onward hturn1 (.onward hturn2 (.last hturn3))
  exact hwalk

theorem circularPage_hasPlainUrl {url : String} (h : Template.Plain url) :
    (circularPage url).HasPlainUrl := by
  rintro _ ⟨⟩
  exact h

theorem circularCourse_hasPlainUrls : ∀ p ∈ circularCourse.pages, p.HasPlainUrl := by
  simp only [circularCourse, List.forall_mem_cons, List.not_mem_nil, false_implies, implies_true,
    and_true]
  exact ⟨circularPage_hasPlainUrl (by decide), circularPage_hasPlainUrl (by decide),
    circularPage_hasPlainUrl (by decide)⟩

/-- Three pages of the site, two of them the same, and two requests. -/
theorem crawl_follow_circular :
    circular.follow = true ∧
    circular.check (.place (circularPage "http://s/a").place) circularPlan = .ok circularTask ∧
    (∀ p ∈ circularCourse.pages, p.HasPlainUrl) ∧
    ∃ events, circular.crawl 9 () (.place (circularPage "http://s/a").place) circularPlan =
        ((), ⟨events, .ok (List.replicate 3 (.dict [("text", .str "x")]))⟩) ∧
      requests events = ["http://s/b", "http://s/b"] :=
  ⟨rfl, rfl, circularCourse_hasPlainUrls,
    ((crawl_follow_eq_walk rfl rfl ()).2.1 _ walk_circular circularCourse_hasPlainUrls 9
      (Nat.le_refl 9)).2⟩

end Crawler

end Gleaner

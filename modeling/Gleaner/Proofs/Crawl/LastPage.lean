import Gleaner.Filter.Builtin
import Gleaner.Proofs.Crawl.LinkText
import Gleaner.Proofs.Crawl.Observer

/-! # The last page of a budget

Once the page is scanned that spends the budget, no further link is needed, but it is looked up all
the same. Wherever it leads, the crawl ends with its records; if it cannot be looked up, the crawl
fails and they are lost (`Crawler.spent_budget_looks_up_link`). -/

namespace Gleaner

namespace Crawler

open Crawl

variable {σ : Type} {c : Crawler σ} {source : Source} {plan : Plan} {t : Task} {s s' : State σ}

/-- What was gathered from some pages: how many they are, and their records. -/
structure Gathers (c : Crawler σ) (t : Task) (pages : List Page) (s : State σ) : Prop where
  ahead : s.stage = .fetched → s.number = pages.length + 1
  behind : s.stage = .scanned ∨ s.stage = .resolved → s.number = pages.length
  records : (∀ e, s.stage ≠ .failed e) → ∃ founds : List (List Value),
    List.Forall₂ (fun p found => c.recordsOf t p = .ok found) pages founds ∧
      s.records = founds.flatten

section Gathered

/-- One stage gathers what its page has. -/
theorem Moves.gathers (h : c.Moves t s s') {pages : List Page} (hg : c.Gathers t pages s) :
    c.Gathers t (pages ++ c.scanned t 1 s) s' := by
  cases h with
  | rest hover =>
    have hs : s.stage ≠ .fetched := by
      intro hs
      rw [State.isOver, hs] at hover
      cases hover
    rw [scanned_one_of_ne hs, List.append_nil]
    exact hg
  | @scanned found hs hscan =>
    obtain ⟨founds, hfounds, hrecords⟩ := hg.records (by simp [hs])
    rw [scanned_one hs]
    refine ⟨by simp, fun _ => ?_, fun _ => ⟨founds ++ [found], ?_, ?_⟩⟩
    · rw [List.length_append]
      exact hg.ahead hs
    · exact List.rel_append hfounds (.cons (recordsOf_of_scanPage hscan) .nil)
    · simp [hrecords]
  | linked hs =>
    rw [scanned_one_of_ne (by simp [hs]), List.append_nil]
    exact ⟨by simp, fun _ => hg.behind (.inl hs), fun _ => hg.records (by simp [hs])⟩
  | linkless hs | spent hs =>
    rw [scanned_one_of_ne (by simp [hs]), List.append_nil]
    exact ⟨by simp [finish], by simp [finish], fun _ => hg.records (by simp [hs])⟩
  | onward hs =>
    rw [scanned_one_of_ne (by simp [hs]), List.append_nil]
    refine ⟨fun _ => ?_, by simp, fun _ => hg.records (by simp [hs])⟩
    exact congrArg (· + 1) (hg.behind (.inr hs))
  | unscanned | unlinked | unfetched | unread =>
    -- The crawl is broken off, and nothing is said about what it has gathered.
    exact ⟨by simp, by simp, fun hf => absurd rfl (hf _)⟩

/-- **So does a whole crawl.** -/
theorem gathers_advance (c : Crawler σ) (t : Task) (outside : σ) (n : Nat) :
    c.Gathers t (c.scanned t n (start t outside)) (c.advance t n (start t outside)) := by
  induction n with
  | zero => exact ⟨fun _ => rfl, by simp [start], fun _ => ⟨[], .nil, rfl⟩⟩
  | succ n ih =>
    rw [scanned_add n 1, advance_add n 1, advance_succ, advance_zero]
    exact (step_moves c t _).gathers ih

end Gathered

/-- A crawl comes to a result without anything more that is asked for or shown than in a state. -/
structure Settles (crawl : σ × Traced Event (List Value)) (s : State σ)
    (result : Except Error (List Value)) : Prop where
  outside : crawl.1 = s.outside
  seen : seen crawl.2.events = seen s.events
  result : crawl.2.result = result

section Lookup

/-- What makes the lookup of a link fail: the link cannot be extracted, or its host or that of its
page is malformed. -/
theorem nextOf_eq_error_iff {p : Page} {e : Error} : c.nextOf t p = .error e ↔
    (c.scanner.extractor.extract (c.linkPage t p).place t.link).result = .error e ∨
      ∃ link fault,
        (c.scanner.extractor.extract (c.linkPage t p).place t.link).result = .ok link ∧
        linkText link ≠ "" ∧
        Url.absolute (linkText link) (c.linkPage t p).url = .error fault ∧ e = .badHost fault := by
  cases hlink : (c.scanner.extractor.extract (c.linkPage t p).place t.link).result with
  | error e' =>
    rw [nextOf, linkOn, hlink]
    simp [bind, Except.bind]
  | ok link =>
    rw [nextOf_of_link hlink, resolve_eq]
    constructor
    · intro h
      split at h
      · cases h
      next htext =>
      split at h
      · cases h
      next fault habs =>
      exact .inr ⟨link, fault, rfl, htext, habs, (Except.error.inj h).symm⟩
    · rintro (h | ⟨link', fault, h, htext, habs, rfl⟩)
      · cases h
      · cases h
        rw [if_neg htext, habs]

theorem seen_nextUrl (p : Page) : seen (c.nextUrl t p).events = [] := by
  rw [events_nextUrl]
  exact seen_logged _

theorem seen_finish (reason : String) (s : State σ) :
    seen (finish reason s).events = seen s.events := by
  rw [finish, State.tell, seen_append]
  exact List.append_nil _

/-- Behind a spent budget a crawl is done two stages after its last scan, wherever the link leads. -/
theorem advance_two_of_spent (hs : s.stage = .scanned) (hspent : t.budget.isSpent s.number = true)
    {next : Option String} (hn : c.nextOf t s.page = .ok next) :
    ∃ reason, c.advance t 2 s =
      finish reason { s.tell (c.nextUrl t s.page).events with stage := .resolved, next } := by
  rw [advance_succ, step_scanned hs, hn, advance_succ, advance_zero]
  dsimp only
  cases next with
  | none => exact ⟨_, step_resolved_none rfl rfl⟩
  | some url =>
    rw [step_resolved_some rfl rfl]
    exact ⟨_, if_pos hspent⟩

theorem advance_one_of_unlinked (hs : s.stage = .scanned) {e : Error}
    (hn : c.nextOf t s.page = .error e) :
    c.advance t 1 s = { s.tell (c.nextUrl t s.page).events with stage := .failed e } := by
  rw [advance_succ, step_scanned hs, hn, advance_zero]

theorem settles_of_spent (h : c.check source plan = .ok t) {outside : σ} {n stages : Nat}
    (hs : (c.advance t n (start t outside)).stage = .scanned)
    (hspent : t.budget.isSpent (c.advance t n (start t outside)).number = true)
    (hn : n + 2 ≤ stages) :
    Settles (c.crawl stages outside source plan) (c.advance t n (start t outside))
      (c.nextOf t (c.advance t n (start t outside)).page >>= fun _ =>
        .ok (c.advance t n (start t outside)).records) := by
  obtain ⟨more, rfl⟩ := Nat.exists_eq_add_of_le hn
  have hcrawl : c.crawl (n + 2 + more) outside source plan =
      (c.advance t more (c.advance t 2 (c.advance t n (start t outside)))).summary := by
    rw [crawl, h]
    dsimp only
    rw [advance_add, advance_add]
  -- The first stage behind the scan looks up the link, and only the second one minds the budget.
  generalize c.advance t n (start t outside) = s at hs hspent hcrawl ⊢
  cases hnext : c.nextOf t s.page with
  | error e =>
    rw [advance_add 1 1, advance_one_of_unlinked hs hnext, advance_of_isOver 1 rfl,
      advance_of_isOver more rfl] at hcrawl
    refine ⟨by rw [hcrawl]; rfl, ?_, by rw [hcrawl]; rfl⟩
    rw [hcrawl]
    dsimp only [State.summary, State.tell]
    rw [seen_append, seen_nextUrl, List.append_nil]
  | ok next =>
    obtain ⟨reason, hadvance⟩ := advance_two_of_spent hs hspent hnext
    rw [hadvance, advance_of_isOver more rfl] at hcrawl
    refine ⟨by rw [hcrawl]; rfl, ?_, by rw [hcrawl]; rfl⟩
    rw [hcrawl]
    dsimp only [State.summary]
    rw [seen_finish]
    dsimp only [State.tell]
    rw [seen_append, seen_nextUrl, List.append_nil]

/-- With a budget of one page a crawl is the scan of the first page and the lookup of its link. -/
theorem settles_of_one (h : c.check source plan = .ok t) (hone : t.budget.limit = some 1)
    (outside : σ) {stages : Nat} (hn : 3 ≤ stages) :
    Settles (c.crawl stages outside source plan)
      ((start t outside).tell (c.scanPage t 1 t.first).events)
      ((c.scanPage t 1 t.first).result >>= fun found =>
        c.nextOf t t.first >>= fun _ => .ok found) := by
  cases hscan : (c.scanPage t 1 t.first).result with
  | error e =>
    obtain ⟨more, rfl⟩ := Nat.exists_eq_add_of_le hn
    have hstep : c.step t (start t outside) =
        { (start t outside).tell (c.scanPage t 1 t.first).events with stage := .failed e } := by
      unfold step State.after
      dsimp only [start]
      rw [hscan]
    have hcrawl : c.crawl (3 + more) outside source plan =
        (c.step t (start t outside)).summary := by
      rw [crawl, h]
      dsimp only
      rw [Nat.add_comm, advance_succ, advance_of_isOver _ (by rw [hstep]; rfl)]
    rw [hcrawl, hstep]
    exact ⟨rfl, rfl, rfl⟩
  | ok found =>
    have hstep : c.advance t 1 (start t outside) =
        { (start t outside).tell (c.scanPage t 1 t.first).events with
          stage := .scanned, records := found } := by
      rw [advance_succ, step_of_scanPage (s := start t outside) rfl hscan, advance_zero]
      rfl
    have hspent : t.budget.isSpent 1 = true := by
      rw [Budget.isSpent, hone]
      rfl
    have hsettles := settles_of_spent h (by rw [hstep]) (by rw [hstep]; exact hspent) hn
    rw [hstep] at hsettles
    exact ⟨hsettles.outside, hsettles.seen, hsettles.result⟩

end Lookup

/-- **A spent budget does not spare the lookup of a link.** When the page is scanned that spends the
budget, nothing more is asked for or shown, and the crawl comes to the records of all pages wherever
the link leads. But if the link cannot be looked up, because it cannot be extracted or has a malformed
host, then the crawl fails like that. With a budget of one page, link selectors make a difference only
by whether and how their lookup on the first page fails. -/
theorem spent_budget_looks_up_link (h : c.check source plan = .ok t) (outside : σ) :
    (∀ n, (c.advance t n (start t outside)).stage = .scanned →
      t.budget.isSpent (c.advance t n (start t outside)).number = true →
      ∃ founds : List (List Value),
        List.Forall₂ (fun p found => c.recordsOf t p = .ok found)
          (c.scanned t n (start t outside)) founds ∧
        founds.length = (c.advance t n (start t outside)).number ∧
        ∀ stages, n + 2 ≤ stages →
          Settles (c.crawl stages outside source plan) (c.advance t n (start t outside))
            (c.nextOf t (c.advance t n (start t outside)).page >>= fun _ => .ok founds.flatten)) ∧
    (∀ p e, c.nextOf t p = .error e ↔
      (c.scanner.extractor.extract (c.linkPage t p).place t.link).result = .error e ∨
        ∃ link fault,
          (c.scanner.extractor.extract (c.linkPage t p).place t.link).result = .ok link ∧
          linkText link ≠ "" ∧
          Url.absolute (linkText link) (c.linkPage t p).url = .error fault ∧ e = .badHost fault) ∧
    (t.budget.limit = some 1 → ∀ link d, c.scanner.extractor.compile link = .ok d →
      ∀ stages, 3 ≤ stages →
        Settles (c.crawl stages outside source { plan with link })
          ((start t outside).tell (c.scanPage t 1 t.first).events)
          ((c.scanPage t 1 t.first).result >>= fun found =>
            c.nextOf { t with link := d } t.first >>= fun _ => .ok found)) := by
  refine ⟨fun n hs hspent => ?_, fun p e => nextOf_eq_error_iff, fun hone link d hlink stages hn => ?_⟩
  · have hgathers := gathers_advance c t outside n
    obtain ⟨founds, hfounds, hrecords⟩ := hgathers.records (by simp [hs])
    refine ⟨founds, hfounds, ?_, fun stages hn => ?_⟩
    · rw [hgathers.behind (.inl hs), hfounds.length_eq]
    · rw [← hrecords]
      exact settles_of_spent h hs hspent hn
  · obtain ⟨hbudget, -, hfirst, hscope, hfields⟩ := check_eq_ok_iff.mp h
    have hcheck : c.check source { plan with link } = .ok { t with link := d } :=
      check_eq_ok_iff.mpr ⟨hbudget, hlink, hfirst, hscope, hfields⟩
    exact settles_of_one hcheck hone outside hn

def booming : Crawler Unit where
  scanner := ⟨⟨⟨⟨"own", [("boom", .filter .boom)]⟩, ⟨"fallback", []⟩⟩, false⟩, true⟩
  parser := circular.parser
  follow := true
  fetch _ _ := ((), pure "")
  floor := Log.mute

/-- One page with a record, and a link to a malformed host. -/
def onePage (link : String) : Plan := { linkedPlan 1 with link }

/-- One page is scanned. The record is the result if the link is a word or is missing, and lost if a
filter fails, if the link has a malformed host and if the selector has malformed CSS. -/
theorem spent_budget_looks_up_link_one_page :
    (booming.crawl 3 () (.place (linkedPage "http://[b").place) (onePage "p")).2.result =
        .ok [.dict [("text", .str "x")]] ∧
      (booming.crawl 3 () (.place (linkedPage "http://[b").place) (onePage "b")).2.result =
        .ok [.dict [("text", .str "x")]] ∧
      (booming.crawl 3 () (.place (linkedPage "http://[b").place) (onePage "p|boom")).2.result =
        .error .divisionByZero ∧
      (booming.crawl 3 () (.place (linkedPage "http://[b").place) (onePage "a@href")).2.result =
        .error (.badHost .unbalanced) ∧
      (booming.crawl 3 () (.place (linkedPage "http://[b").place) (onePage "a[")).2.result =
        .error (.malformedSelector "a[" .badCss) := by
  have hcheck : booming.check (.place (linkedPage "http://[b").place) (onePage "a@href") =
    .ok (linkedTask "http://[b" 1) := rfl
  obtain ⟨hspent, -, hone⟩ := spent_budget_looks_up_link hcheck ()
  have hword := (hone rfl "p" _ rfl 3 (Nat.le_refl 3)).result
  have hmissing := (hone rfl "b" _ rfl 3 (Nat.le_refl 3)).result
  have hfilter := (hone rfl "p|boom" _ rfl 3 (Nat.le_refl 3)).result
  have hcss := (hone rfl "a[" _ rfl 3 (Nat.le_refl 3)).result
  obtain ⟨founds, hfounds, hlength, hhost⟩ := hspent 1 rfl rfl
  exact ⟨hword, hmissing, hfilter, (hhost 3 (Nat.le_refl 3)).result, hcss⟩

end Crawler

end Gleaner

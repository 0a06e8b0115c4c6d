import Gleaner.Proofs.Crawl.Walk

/-! # What one stage of a crawl can do

Every stage takes a crawl on in one of a few ways (`Crawler.step_moves`). What holds all along a crawl
is shown for each of them: a crawl takes nothing back, the failure of a fetch holds the gathered
records, and a limit of pages ends every crawl, whatever the addresses of its pages are. -/

namespace Gleaner

namespace Crawl

variable {σ : Type} {s s' s'' : State σ}

/-- How many stages a crawl is behind the first one of its page. -/
def Stage.rank : Stage → Nat
  | .scanned => 1
  | .resolved => 2
  | _ => 0

theorem Stage.rank_le (stage : Stage) : stage.rank ≤ 2 := by
  cases stage <;> simp [rank]

/-- A crawl that has gathered and reported no less than it had before. -/
structure Grows (s s' : State σ) : Prop where
  records : s.records <+: s'.records
  events : s.events <+: s'.events

namespace Grows

theorem refl (s : State σ) : Grows s s := ⟨List.prefix_rfl, List.prefix_rfl⟩

theorem trans (h : Grows s s') (h' : Grows s' s'') : Grows s s'' :=
  ⟨h.records.trans h'.records, h.events.trans h'.events⟩

theorem requests (h : Grows s s') : requests s.events <+: Crawl.requests s'.events :=
  h.events.filterMap Event.address?

end Grows

theorem State.result_eq_error_iff {e : Error} :
    s.summary.2.result = .error e ↔ s.stage = .failed e := by
  unfold summary
  cases s.stage <;> simp

theorem State.records_of_result {records : List Value} (h : s.summary.2.result = .ok records) :
    s.records = records := by
  unfold summary at h
  split at h
  · cases h
  · exact Except.ok.inj h

end Crawl

namespace Crawler

open Crawl

variable {σ : Type} {c : Crawler σ} {t : Task} {s s' : State σ}

/-- The ways in which a stage takes a crawl on. -/
inductive Moves (c : Crawler σ) (t : Task) (s : State σ) : State σ → Prop where
  | rest : s.isOver → Moves c t s s
  | unscanned {e : Error} : s.stage = .fetched →
    (c.scanPage t s.number s.page).result = .error e →
    Moves c t s { s.tell (c.scanPage t s.number s.page).events with stage := .failed e }
  | scanned {found : List Value} : s.stage = .fetched →
    (c.scanPage t s.number s.page).result = .ok found →
    Moves c t s { s.tell (c.scanPage t s.number s.page).events with
      stage := .scanned, records := s.records ++ found }
  | unlinked {e : Error} : s.stage = .scanned → c.nextOf t s.page = .error e →
    Moves c t s { s.tell (c.nextUrl t s.page).events with stage := .failed e }
  | linked {next : Option String} : s.stage = .scanned → c.nextOf t s.page = .ok next →
    Moves c t s { s.tell (c.nextUrl t s.page).events with stage := .resolved, next }
  | linkless : s.stage = .resolved → s.next = none →
    Moves c t s (finish s!"No next page link after page {s.number}" s)
  | spent {url : String} : s.stage = .resolved → s.next = some url →
    t.budget.isSpent s.number = true →
    Moves c t s (finish s!"Page budget reached | max_pages={t.budget.text}" s)
  | unfetched {url : String} {e : Error} : s.stage = .resolved → s.next = some url →
    t.budget.isSpent s.number = false → (c.fetch s.outside url).2.result = .error e →
    Moves c t s { s with
      stage := .failed (abort s.records e), outside := (c.fetch s.outside url).1
      events := s.events ++ (.requested url :: (c.fetch s.outside url).2.events.map .logged ++
        abortNotice (s.number + 1) e) }
  | unread {url markup : String} {e : Error} : s.stage = .resolved → s.next = some url →
    t.budget.isSpent s.number = false → (c.fetch s.outside url).2.result = .ok markup →
    c.read markup url = .error e →
    Moves c t s { s with
      stage := .failed e, number := s.number + 1, outside := (c.fetch s.outside url).1
      events := s.events ++ .requested url :: (c.fetch s.outside url).2.events.map .logged }
  | onward {url markup : String} {page : Page} : s.stage = .resolved → s.next = some url →
    t.budget.isSpent s.number = false → (c.fetch s.outside url).2.result = .ok markup →
    c.read markup url = .ok page →
    Moves c t s { s with
      stage := .fetched, page, number := s.number + 1, outside := (c.fetch s.outside url).1
      events := s.events ++ .requested url :: (c.fetch s.outside url).2.events.map .logged }

section Moves

theorem step_moves (c : Crawler σ) (t : Task) (s : State σ) : c.Moves t s (c.step t s) := by
  cases hs : s.stage with
  | fetched =>
    have hstep : c.step t s = s.after (c.scanPage t s.number s.page) fun s found =>
        { s with stage := .scanned, records := s.records ++ found } := by
      unfold step
      rw [hs]
    rw [hstep]
    rcases after_cases s (c.scanPage t s.number s.page) _ with ⟨found, hr, heq⟩ | ⟨e, hr, heq⟩
    · rw [heq]
      exact .scanned hs hr
    · rw [heq]
      exact .unscanned hs hr
  | scanned =>
    rw [step_scanned hs]
    cases hn : c.nextOf t s.page with
    | error e => exact .unlinked hs hn
    | ok next => exact .linked hs hn
  | resolved =>
    cases hn : s.next with
    | none =>
      rw [step_resolved_none hs hn]
      exact .linkless hs hn
    | some url =>
      rw [step_resolved_some hs hn]
      cases hb : t.budget.isSpent s.number with
      | true => exact .spent hs hn hb
      | false =>
        rw [if_neg Bool.false_ne_true]
        cases hm : (c.fetch s.outside url).2.result with
        | error e =>
          rw [fetchNext_unfetched hm]
          exact .unfetched hs hn hb hm
        | ok markup =>
          cases hr : c.read markup url with
          | error e =>
            rw [fetchNext_unread hm hr]
            exact .unread hs hn hb hm hr
          | ok page =>
            rw [fetchNext_read hm hr]
            exact .onward hs hn hb hm hr
  | done | failed =>
    have hover : s.isOver := by rw [State.isOver, hs]
    rw [step_of_isOver hover]
    exact .rest hover

/-- **A stage takes nothing back.** -/
theorem Moves.grows (h : c.Moves t s s') : Grows s s' := by
  cases h with
  | rest => exact .refl s
  | scanned => exact ⟨List.prefix_append .., List.prefix_append ..⟩
  | _ => exact ⟨List.prefix_rfl, List.prefix_append ..⟩

/-- So do all stages of a crawl. -/
theorem grows_advance (c : Crawler σ) (t : Task) (n : Nat) (s : State σ) :
    Grows s (c.advance t n s) := by
  induction n generalizing s with
  | zero => exact .refl s
  | succ n ih =>
    rw [advance_succ]
    exact (step_moves c t s).grows.trans (ih (c.step t s))

end Moves

section Limit

variable {limit : Nat}

/-- A stage is the last one, or it brings the crawl one stage further, within the limit. -/
theorem Moves.rank (h : c.Moves t s s') (hlimit : t.budget.limit = some limit)
    (hle : s.number ≤ limit) :
    s'.isOver ∨
      s'.number ≤ limit ∧ 3 * s'.number + s'.stage.rank = 3 * s.number + s.stage.rank + 1 := by
  cases h with
  | rest hover => exact .inl hover
  | scanned hs | linked hs =>
    rw [hs]
    exact .inr ⟨hle, rfl⟩
  | onward hs _ hb =>
    have hlt := (isSpent_eq_false_iff hlimit).mp hb
    rw [hs]
    refine .inr ⟨hlt, ?_⟩
    simp only [Stage.rank]
    omega
  | _ => exact .inl rfl

/-- **A limit ends every crawl**, after three stages for each page that it allows. -/
theorem isOver_of_limit (hlimit : t.budget.limit = some limit) (hone : 1 ≤ limit) (outside : σ)
    {stages : Nat} (hn : 3 * limit ≤ stages) :
    (c.advance t stages (start t outside)).isOver := by
  have hrank (n : Nat) : (c.advance t n (start t outside)).isOver ∨
      (c.advance t n (start t outside)).number ≤ limit ∧
        3 * (c.advance t n (start t outside)).number +
          (c.advance t n (start t outside)).stage.rank = n + 3 := by
    induction n with
    | zero => exact .inr ⟨hone, rfl⟩
    | succ n ih =>
      rw [advance_add n 1]
      rcases ih with hover | ⟨hle, hrank⟩
      · rw [advance_of_isOver 1 hover]
        exact .inl hover
      · rw [advance_succ, advance_zero]
        rcases (step_moves c t _).rank hlimit hle with hover | ⟨hle', hrank'⟩
        · exact .inl hover
        · exact .inr ⟨hle', by omega⟩
  rcases hrank stages with hover | ⟨hle, hrank⟩
  · exact hover
  · have hle' := (c.advance t stages (start t outside)).stage.rank_le
    omega

end Limit

section Failures

/-- The records or the link of a page cannot be read, for a failure like that of a fetch. -/
def FailsLikeFetch (c : Crawler σ) (t : Task) (p : Page) (f : FetchFailure) : Prop :=
  c.recordsOf t p = .error (.fetch f) ∨ c.nextOf t p = .error (.fetch f)

theorem read_error {markup : String} {url : Option String} {e : Error}
    (h : c.read markup url = .error e) : e = .unknownParser := by
  unfold read Document.parse at h
  split at h
  · cases h
  · cases h
    rfl

/-- A page is not scanned if its records cannot be read, or if its report fails. -/
theorem scanPage_error {number : Nat} {p : Page} {e : Error}
    (h : (c.scanPage t number p).result = .error e) :
    c.recordsOf t p = .error e ∨ ∃ fault, e = .template fault := by
  rw [result_scanPage_eq] at h
  rcases bind_eq_error_iff.mp h with hrecords | ⟨records, -, h⟩
  · exact .inl hrecords
  rcases bind_eq_error_iff.mp h with hreport | ⟨_, -, h⟩
  · rcases (Log.PageScan.reported c.floor p.url number records.length).result with
      hok | ⟨-, fault, hfault⟩
    · rw [hok] at hreport
      cases hreport
    · rw [hfault] at hreport
      cases hreport
      exact .inr ⟨fault, rfl⟩
  · cases h

theorem recordsOf_of_scanPage {number : Nat} {p : Page} {found : List Value}
    (h : (c.scanPage t number p).result = .ok found) : c.recordsOf t p = .ok found := by
  rw [result_scanPage_eq] at h
  obtain ⟨records, hrecords, h⟩ := bind_eq_ok_iff.mp h
  obtain ⟨_, -, h⟩ := bind_eq_ok_iff.mp h
  cases h
  exact hrecords

/-- A crawl is at a page that it scanned, and if a fetch broke it off then the failure holds its
records, unless a page that it scanned failed like that. -/
structure Accounts (c : Crawler σ) (t : Task) (pages : List Page) (s : State σ) : Prop where
  page : s.stage = .scanned → s.page ∈ pages
  records : ∀ f, s.stage = .failed (.fetch f) →
    f.records = s.records ∨ ∃ p ∈ pages, c.FailsLikeFetch t p f

theorem scanned_one (hs : s.stage = .fetched) : c.scanned t 1 s = [s.page] := by
  rw [Crawler.scanned, hs]
  rfl

theorem scanned_one_of_ne (hs : s.stage ≠ .fetched) : c.scanned t 1 s = [] := by
  unfold scanned
  split
  next h => exact absurd h hs
  · rfl

theorem Moves.accounts (h : c.Moves t s s') {pages : List Page} (ha : c.Accounts t pages s) :
    c.Accounts t (pages ++ c.scanned t 1 s) s' := by
  have hmem (hs : s.stage = .fetched) : s.page ∈ pages ++ c.scanned t 1 s := by
    rw [scanned_one hs]
    exact List.mem_append_right _ List.mem_cons_self
  cases h with
  | rest =>
    refine ⟨fun hs => List.mem_append_left _ (ha.page hs), fun f hf => ?_⟩
    exact (ha.records f hf).imp_right fun ⟨p, hp, h⟩ => ⟨p, List.mem_append_left _ hp, h⟩
  | unscanned hs he =>
    refine ⟨nofun, ?_⟩
    rintro f ⟨⟩
    rcases scanPage_error he with herror | ⟨fault, ⟨⟩⟩
    exact .inr ⟨s.page, hmem hs, .inl herror⟩
  | scanned hs => exact ⟨fun _ => hmem hs, nofun⟩
  | unlinked hs he =>
    refine ⟨nofun, ?_⟩
    rintro f ⟨⟩
    exact .inr ⟨s.page, List.mem_append_left _ (ha.page hs), .inr he⟩
  | @unfetched _ e =>
    refine ⟨nofun, fun f hf => .inl ?_⟩
    cases e <;> cases hf
    rfl
  | unread _ _ _ _ hr =>
    rw [read_error hr]
    exact ⟨nofun, nofun⟩
  | linked | linkless | spent | onward => exact ⟨nofun, nofun⟩

/-- **A crawl that a fetch broke off has its records in the failure**, unless a page that it scanned
could not be read for a failure of that kind. -/
theorem accounts_advance (c : Crawler σ) (t : Task) (outside : σ) (n : Nat) :
    c.Accounts t (c.scanned t n (start t outside)) (c.advance t n (start t outside)) := by
  induction n with
  | zero => exact ⟨nofun, nofun⟩
  | succ n ih =>
    rw [scanned_add n 1, advance_add n 1, advance_succ, advance_zero]
    exact (step_moves c t _).accounts ih

end Failures

end Crawler

end Gleaner

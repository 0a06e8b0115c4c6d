import Gleaner.Proofs.Extract.Strict
import Gleaner.Proofs.Http.Attempt
import Gleaner.Scraper.Basic

/-! # Reports of pages

The report of a page tells how many items there were. No other entry does: not what the built-in
filters write, nor what scans and fetches do. So the pages that a crawl reports are those that it
scans itself (`Scraper.reportsAlone`). -/

namespace Gleaner

open Http (Access Client Traffic)

namespace Log.PageScan

/-- The entry of a numbered page. -/
def entry (url : Option String) (page items : Nat) : Entry :=
  ⟨.info, front page ++ shownAddress url ++ back items, data url page items⟩

/-- Whether an entry reports the scan of a page: its data tell how many items there were. -/
def isEntry (e : Entry) : Bool := (e.extra.lookup "items_count").isSome

/-- What is written of a numbered page if somebody reads such entries. -/
def entries (floor : Floor) (url : Option String) (page items : Nat) : List Entry :=
  if floor ≤ Level.info.severity then [entry url page items] else []

theorem entries_of_le {floor : Floor} (hw : floor ≤ Level.info.severity) (url : Option String)
    (page items : Nat) : entries floor url page items = [entry url page items] := if_pos hw

end Log.PageScan

namespace Log

theorem Reported.extra {floor : Floor} {level : Level} {data : Template.Names}
    {front address back : String} {report : Traced Entry Unit}
    (h : Reported floor level data front address back report) {e : Entry} (he : e ∈ report.events) :
    e.extra = data := by
  cases h with
  | unwanted | refused => cases he
  | written =>
    cases List.mem_singleton.mp he
    rfl

end Log

/-! ## Computations -/

/-- A computation reports no page. -/
def Traced.SparesPages {α : Type} (x : Traced Log.Entry α) : Prop :=
  ∀ e ∈ x.events, Log.PageScan.isEntry e = false

namespace Traced.SparesPages

variable {α β : Type} {x : Traced Log.Entry α} {f : α → Traced Log.Entry β}

theorem of_silent (h : x.events = []) : x.SparesPages := by
  rw [SparesPages, h]
  exact List.forall_mem_nil _

theorem one {message : String} {level : Log.Level} {result : Except Error α} :
    (⟨[{ level, message }], result⟩ : Traced Log.Entry α).SparesPages :=
  List.forall_mem_singleton.mpr rfl

theorem bind (hx : x.SparesPages) (hf : ∀ a, (f a).SparesPages) : (x >>= f).SparesPages := by
  intro e he
  rcases Traced.mem_events_bind he with hfirst | ⟨a, hsecond⟩
  · exact hx e hfirst
  · exact hf a e hsecond

theorem mapM (hf : ∀ a, (f a).SparesPages) (xs : List α) : (xs.mapM f).SparesPages := by
  induction xs with
  | nil => exact of_silent rfl
  | cons a xs ih =>
    rw [List.mapM_cons]
    exact (hf a).bind fun b => ih.bind fun bs => of_silent rfl

end Traced.SparesPages

/-! ## Filters -/

/-- A filter reports no page. -/
def Filter.SparesPages (f : Filter) : Prop := ∀ v args, (f.run v args).SparesPages

theorem Filter.define_sparesPages {name callee : String} {required : List String} {optional : Nat}
    {body : Value → List String → Traced Log.Entry Value}
    (h : ∀ v args, (body v args).SparesPages) :
    (define name callee required optional body).SparesPages := by
  intro v args
  unfold define
  dsimp only
  split
  · exact .of_silent rfl
  · exact h v args

theorem Filter.plain_sparesPages {name callee : String} {body : Value → Except Error Value} :
    (plain name callee body).SparesPages := define_sparesPages fun _ _ => .of_silent rfl

theorem Normalize.PriceRule.normalize_sparesPages (rule : PriceRule) (v : Value) :
    (rule.normalize v).SparesPages := by
  unfold normalize
  split
  · exact .of_silent rfl
  dsimp only
  split
  · exact .of_silent rfl
  split
  · exact .one
  · split <;> exact .of_silent rfl

theorem Filter.builtins_sparesPages : ∀ f ∈ builtins, f.SparesPages := by
  simp only [builtins, List.forall_mem_cons, List.not_mem_nil, false_implies, implies_true, and_true]
  refine ⟨plain_sparesPages, plain_sparesPages, plain_sparesPages, plain_sparesPages,
    define_sparesPages fun _ _ => .of_silent rfl, define_sparesPages fun v args => ?_,
    define_sparesPages fun v args => ?_,
    define_sparesPages fun _ _ => Normalize.PriceRule.normalize_sparesPages _ _,
    define_sparesPages fun _ _ => .of_silent rfl, plain_sparesPages,
    define_sparesPages fun _ _ => .of_silent rfl, define_sparesPages fun _ _ => .of_silent rfl⟩
  · split <;> exact .of_silent rfl
  · split <;> exact .of_silent rfl

/-- The filters of a registry report no pages. -/
def Registry.SparesPages (r : Registry) : Prop :=
  ∀ name f, (name, .filter f) ∈ r.table → f.SparesPages

theorem Registry.sparesPages_nil (label : String) : Registry.SparesPages ⟨label, []⟩ := nofun

theorem Registry.shared_sparesPages : shared.SparesPages := by
  intro name f hmem
  obtain ⟨g, hg, heq⟩ := List.mem_map.mp hmem
  cases heq
  exact Filter.builtins_sparesPages _ hg

theorem FilterTable.mem_of_get {t : FilterTable} {name : String} {f : Filter}
    (h : t.get name = .filter f) : (name, .filter f) ∈ t := by
  unfold get at h
  cases hfound : t.lookup name with
  | none =>
    rw [hfound] at h
    cases h
  | some c =>
    rw [hfound] at h
    cases h
    obtain ⟨before, after, rfl, -⟩ := List.lookup_eq_some_iff.mp hfound
    exact List.mem_append_right _ List.mem_cons_self

/-! ## Scans -/

section Scans

variable {x : Extractor} (hown : x.chain.own.SparesPages)
  (hfallback : x.chain.fallback.SparesPages)

include hown hfallback

theorem Chain.resolve_sparesPages {name : String} {f : Filter}
    (h : x.chain.resolve name = .filter f) : f.SparesPages := by
  unfold resolve at h
  split at h
  · exact hfallback name f (FilterTable.mem_of_get h)
  · exact hown name f (FilterTable.mem_of_get h)

theorem Extractor.applyFilter_sparesPages (v : Value) (f : Invocation) :
    (x.applyFilter v f).SparesPages := by
  unfold applyFilter
  dsimp only
  split
  · exact .one
  cases hfound : x.chain.resolve f.name with
  | filter g => exact Chain.resolve_sparesPages hown hfallback hfound v f.args
  | nothing | other => exact .of_silent rfl

theorem Extractor.extract_sparesPages (place : Option Markup.Cursor) (d : Directive) :
    (x.extract place d).SparesPages := by
  unfold extract
  split
  · exact .of_silent rfl
  · exact .of_silent rfl
  dsimp only
  split
  · exact applyFilter_sparesPages hown hfallback _ _
  · exact .of_silent rfl

theorem Scanner.scan_sparesPages (drop : Bool) (place : Option Markup.Cursor)
    (scope : Option String) (fields : Option FieldMap) :
    ((⟨x, drop⟩ : Scanner).scan place scope fields).SparesPages := by
  have hextract := Extractor.extract_sparesPages hown hfallback
  cases fields with
  | some fields =>
    refine .bind ?_ fun _ => .of_silent rfl
    refine .bind (.of_silent rfl) fun directives => .bind (.of_silent rfl) fun found => ?_
    refine .bind (.mapM (fun c => .mapM (fun field => ?_) _) _) fun records => ?_
    · exact (hextract (some c) field.2).bind fun _ => .of_silent rfl
    · exact .bind .one fun _ => .of_silent rfl
  | none =>
    unfold scan scanValue
    dsimp only
    split
    · unfold Extractor.extractBy
      split
      · exact hextract _ _
      · exact .of_silent rfl
    · exact .of_silent rfl

end Scans

/-! ## Fetches -/

namespace Http

theorem Client.fetch_sparesPages (client : Client) (site : Site) (floor : Log.Floor)
    (traffic : Traffic) (url : String) : (client.fetch site floor traffic url).2.SparesPages := by
  obtain ⟨-, report, hreports, hfetch⟩ := @fetch_reported client site traffic url floor
  rw [hfetch, fetch_mute]
  refine .bind (fun e he => ?_) fun _ => .of_silent rfl
  cases hattempt : (client.attempt site traffic url).2 with
  | unreported =>
    rw [hattempt] at hreports
    cases (hreports : report = pure ())
    cases he
  | reported status result =>
    rw [hattempt] at hreports
    have hextra := Log.Reported.extra hreports he
    unfold Log.PageScan.isEntry
    rw [hextra]
    rfl

theorem Access.fetcher_sparesPages (access : Access) (site : Site) (settings : Settings)
    (floor : Log.Floor) (traffic : Traffic) (url : String) :
    (access.fetcher site settings floor traffic url).2.SparesPages := by
  cases access with
  | direct =>
    unfold fetcher directFetch
    dsimp only
    split
    · split <;> exact .of_silent rfl
    · exact .of_silent rfl
  | client options =>
    unfold fetcher
    dsimp only
    cases Client.ofOptions settings options with
    | ok made => exact made.fetch_sparesPages site floor traffic url
    | error e =>
      unfold fetchWithoutClient ifAbsolute
      dsimp only
      split <;> exact .of_silent rfl

end Http

/-! ## Crawls -/

/-- Nothing but the crawl itself reports pages: neither scans nor links nor fetches do. -/
structure Crawler.ReportsAlone {σ : Type} (c : Crawler σ) (t : Crawl.Task) : Prop where
  scan : ∀ p : Crawl.Page, (c.scanner.scan p.place t.scope t.fields).SparesPages
  link : ∀ p : Crawl.Page, (c.scanner.extractor.extract p.place t.link).SparesPages
  fetch : ∀ outside url, (c.fetch outside url).2.SparesPages

theorem Crawler.reportsAlone {σ : Type} {c : Crawler σ}
    (hown : c.scanner.extractor.chain.own.SparesPages)
    (hfallback : c.scanner.extractor.chain.fallback.SparesPages)
    (hfetch : ∀ outside url, (c.fetch outside url).2.SparesPages) (t : Crawl.Task) :
    c.ReportsAlone t where
  scan _ := Scanner.scan_sparesPages hown hfallback _ _ _ _
  link _ := Extractor.extract_sparesPages hown hfallback _ _
  fetch := hfetch

/-- **The crawls of a scraper report pages alone** if its filters report none. Those of the process
do not, and neither do its fetchers. -/
theorem Scraper.reportsAlone {s : Scraper Traffic} {a : Ambient} {access : Access}
    {site : Http.Site} {settings : Settings} {within : Log.Floor}
    (hfetch : s.fetch = access.fetcher site settings within) (hown : s.own.SparesPages)
    (hfallback : (s.fallback.getD a.shared).SparesPages) (floor : Log.Floor) (t : Crawl.Task) :
    (s.crawler a floor).ReportsAlone t :=
  Crawler.reportsAlone (c := s.crawler a floor) hown hfallback
    (fun outside url => by
      change (s.fetch outside url).2.SparesPages
      rw [hfetch]
      exact access.fetcher_sparesPages site settings within outside url) t

theorem Scraper.standard_reportsAlone (access : Access) (site : Http.Site) (settings : Settings)
    (within floor : Log.Floor) (t : Crawl.Task) :
    ((Scraper.standard { settings } (access.fetcher site settings within)).crawler { settings }
      floor).ReportsAlone t :=
  reportsAlone (s := .standard { settings } _) (a := { settings }) rfl (Registry.sparesPages_nil _)
    Registry.shared_sparesPages floor t

end Gleaner

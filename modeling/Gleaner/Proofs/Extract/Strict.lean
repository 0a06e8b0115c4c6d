import Gleaner.Proofs.Extract.Records
import Gleaner.Proofs.Filter.History

/-! # Strict and lenient scans

A strict scan refuses the selectors that name an unregistered filter before it reads anything. With
that check passed it is the lenient scan, and since a name that is registered has a filter
(`Registry.Made.callable`) no value goes by its filter unchanged. -/

namespace Gleaner

open Markup (Cursor)

/-- A selector that names a filter. -/
def Directive.NamesFilter (selector name : String) : Prop :=
  ∃ d f, compile selector = .ok d ∧ d.filter = some f ∧ f.name = name

/-- What is wrong with a selector that may only name filters of a chain. -/
inductive Chain.Faults (chain : Chain) (selector : String) : Error → Prop where
  | malformed {fault : SelectorFault} :
    Directive.compile selector = .error (.malformedSelector selector fault) →
    Faults chain selector (.malformedSelector selector fault)
  | unregistered {name : String} : Directive.NamesFilter selector name → chain.has name = false →
    Faults chain selector (.unknownFilter name selector)

/-- The selectors that a scan compiles, in order. -/
def Scanner.selectors (scope : Option String) : Option FieldMap → List String
  | some fields => fields.map (·.2)
  | none => (scope.filter (· ≠ "")).toList

section Compile

variable {chain : Chain} {selector name : String} {d : Directive} {f : Invocation} {e : Error}

/-- To compile with known names is to compile, and then to look the filter up. -/
theorem Directive.compile_names (selector : String) (names : Names) :
    compile selector names = compile selector >>= fun d =>
      match d.filter with
      | some f => if names.accepts f.name then .ok d else .error (.unknownFilter f.name selector)
      | none => .ok d := by
  rw [compile, compile]
  cases read selector with
  | error fault => rfl
  | ok d =>
    cases hf : d.filter with
    | none => simp [hf, bind, Except.bind]
    | some f => simp [hf, Names.accepts, bind, Except.bind]

theorem Directive.compile_error (h : compile selector = .error e) :
    ∃ fault, e = .malformedSelector selector fault := by
  rw [compile] at h
  split at h
  next fault _ => exact ⟨fault, (Except.error.inj h).symm⟩
  next d _ =>
    split at h
    · simp [Names.accepts] at h
    · cases h

theorem Directive.namesFilter_iff (h : compile selector = .ok d) :
    NamesFilter selector name ↔ ∃ f, d.filter = some f ∧ f.name = name := by
  constructor
  · rintro ⟨d', f, hd, hf, hname⟩
    rw [h] at hd
    cases hd
    exact ⟨f, hf, hname⟩
  · rintro ⟨f, hf, hname⟩
    exact ⟨d, f, h, hf, hname⟩

namespace Extractor

theorem compile_lenient (chain : Chain) (selector : String) :
    (⟨chain, false⟩ : Extractor).compile selector = Directive.compile selector := by
  rw [compile, Directive.compile_names]
  cases h : Directive.compile selector with
  | error e => rfl
  | ok d => cases hf : d.filter <;> simp [hf, Directive.Names.accepts, bind, Except.bind]

theorem compile_strict_of_error (h : Directive.compile selector = .error e) :
    (⟨chain, true⟩ : Extractor).compile selector = .error e := by
  rw [compile, Directive.compile_names, h]
  rfl

theorem compile_strict_of_has (h : Directive.compile selector = .ok d)
    (hhas : ∀ f, d.filter = some f → chain.has f.name = true) :
    (⟨chain, true⟩ : Extractor).compile selector = .ok d := by
  rw [compile, Directive.compile_names, h]
  cases hf : d.filter with
  | none => simp [hf, bind, Except.bind]
  | some f => simp [hf, hhas f hf, Directive.Names.accepts, bind, Except.bind]

theorem compile_strict_of_not_has (h : Directive.compile selector = .ok d)
    (hf : d.filter = some f) (hhas : chain.has f.name = false) :
    (⟨chain, true⟩ : Extractor).compile selector = .error (.unknownFilter f.name selector) := by
  rw [compile, Directive.compile_names, h]
  simp [hf, hhas, Directive.Names.accepts, bind, Except.bind]

/-- What comes of a selector in strict mode: it is at fault, or it names registered filters only and
means what it means otherwise. -/
theorem compile_strict (chain : Chain) (selector : String) :
    (∃ e, chain.Faults selector e ∧ (⟨chain, true⟩ : Extractor).compile selector = .error e) ∨
      (∀ name, Directive.NamesFilter selector name → chain.has name = true) ∧
        ∃ d, Directive.compile selector = .ok d ∧
          (⟨chain, true⟩ : Extractor).compile selector = .ok d := by
  cases h : Directive.compile selector with
  | error e =>
    obtain ⟨fault, rfl⟩ := Directive.compile_error h
    exact .inl ⟨_, .malformed h, compile_strict_of_error h⟩
  | ok d =>
    by_cases hhas : ∀ f, d.filter = some f → chain.has f.name = true
    · refine .inr ⟨fun name hname => ?_, d, rfl, compile_strict_of_has h hhas⟩
      obtain ⟨f, hf, rfl⟩ := (Directive.namesFilter_iff h).mp hname
      exact hhas f hf
    · push Not at hhas
      obtain ⟨f, hf, hnot⟩ := hhas
      have hhas : chain.has f.name = false := Bool.eq_false_iff.mpr hnot
      exact .inl ⟨_, .unregistered ⟨d, f, h, hf, rfl⟩ hhas, compile_strict_of_not_has h hf hhas⟩

theorem compile_eq_ok (h : (⟨chain, true⟩ : Extractor).compile selector = .ok d) :
    Directive.compile selector = .ok d ∧
      ∀ name, Directive.NamesFilter selector name → chain.has name = true := by
  rcases compile_strict chain selector with ⟨e, -, he⟩ | ⟨hhas, d', hd, hs⟩
  · rw [h] at he
    cases he
  · rw [h] at hs
    cases hs
    exact ⟨hd, hhas⟩

/-- A selector at fault is refused for its fault, so it has no other. -/
theorem compile_of_faults (h : chain.Faults selector e) :
    (⟨chain, true⟩ : Extractor).compile selector = .error e := by
  cases h with
  | malformed h => exact compile_strict_of_error h
  | unregistered hname hhas =>
    obtain ⟨d, f, hd, hf, rfl⟩ := hname
    exact compile_strict_of_not_has hd hf hhas

/-- When its filter is registered, a selector means the same in both modes. -/
theorem compile_strict_eq_lenient
    (h : ∀ name, Directive.NamesFilter selector name → chain.has name = true) :
    (⟨chain, true⟩ : Extractor).compile selector =
      (⟨chain, false⟩ : Extractor).compile selector := by
  rw [compile_lenient]
  cases hd : Directive.compile selector with
  | error e => exact compile_strict_of_error hd
  | ok d => exact compile_strict_of_has hd fun f hf => h f.name ⟨d, f, hd, hf, rfl⟩

end Extractor

end Compile

section Filters

variable {x : Extractor} {place : Option Cursor} {selector : String} {entry : Log.Entry}

/-- A field reports what its filter reports. -/
theorem Extractor.mem_events_extractBy (h : entry ∈ (x.extractBy place selector).events) :
    ∃ d f v, x.compile selector = .ok d ∧ d.filter = some f ∧
      entry ∈ (x.applyFilter v f).events := by
  rw [extractBy] at h
  split at h
  next d hd =>
    rw [extract] at h
    split at h
    next => cases h
    next => cases h
    next c _ =>
      split at h
      next f hf => exact ⟨d, f, read c d.mode, hd, hf, h⟩
      next => cases h
  next => cases h

/-- A filter that only takes the value has nothing to report. -/
theorem Filter.plain_events (name callee : String) (body : Value → Except Error Value) (v : Value)
    (args : List String) : ((plain name callee body).run v args).events = [] := by
  rw [plain, define]
  simp only
  split <;> rfl

theorem Extractor.applyFilter_of_resolve {g : Filter} {f : Invocation}
    (h : x.chain.resolve f.name = .filter g) (v : Value) : x.applyFilter v f = g.run v f.args := by
  rw [applyFilter, h]
  rfl

end Filters

namespace Scanner

variable {chain : Chain} {drop : Bool} {place : Option Cursor} {scope : Option String}
  {fields : Option FieldMap}

theorem mem_selectors_of_mem {fields : FieldMap} {field : String × String} (h : field ∈ fields) :
    field.2 ∈ selectors scope (some fields) := List.mem_map_of_mem h

theorem mem_selectors_none {selector : String} :
    selector ∈ selectors scope none ↔ scope.filter (· ≠ "") = some selector := Option.mem_toList

theorem compileFields_congr {s s' : Scanner} {fields : FieldMap}
    (h : ∀ field ∈ fields, s.extractor.compile field.2 = s'.extractor.compile field.2) :
    s.compileFields fields = s'.compileFields fields := by
  rw [compileFields, compileFields]
  induction fields with
  | nil => rfl
  | cons field fields ih =>
    obtain ⟨hfield, hrest⟩ := List.forall_mem_cons.mp h
    obtain ⟨name, selector⟩ := field
    simp only [List.mapM_cons, ih hrest, hfield]

/-- With every filter registered the check finds nothing, and nothing else depends on the mode. -/
theorem strict_scan_eq_lenient
    (h : ∀ selector ∈ selectors scope fields,
      ∀ name, Directive.NamesFilter selector name → chain.has name = true) :
    (⟨⟨chain, true⟩, drop⟩ : Scanner).scan place scope fields =
      (⟨⟨chain, false⟩, drop⟩ : Scanner).scan place scope fields := by
  cases fields with
  | some fields =>
    have hfields : (⟨⟨chain, true⟩, drop⟩ : Scanner).compileFields fields =
        (⟨⟨chain, false⟩, drop⟩ : Scanner).compileFields fields :=
      compileFields_congr fun field hfield =>
        Extractor.compile_strict_eq_lenient (h field.2 (mem_selectors_of_mem hfield))
    rw [scan, scan, scanRecords, scanRecords, hfields]
    rfl
  | none =>
    rw [scan, scan, scanValue, scanValue]
    cases hscope : scope.filter (· ≠ "") with
    | none => rfl
    | some selector =>
      have hselector := h selector (mem_selectors_none.mpr hscope)
      change Extractor.extractBy _ place selector = Extractor.extractBy _ place selector
      rw [Extractor.extractBy, Extractor.extractBy, Extractor.compile_strict_eq_lenient hselector]
      rfl

/-- The first selector at fault ends a strict scan at once. -/
theorem strict_scan_of_faults {before after : List String} {selector : String} {e : Error}
    (hsplit : selectors scope fields = before ++ selector :: after)
    (hbefore : ∀ other ∈ before, ∀ e, ¬ chain.Faults other e) (hfault : chain.Faults selector e) :
    (⟨⟨chain, true⟩, drop⟩ : Scanner).scan place scope fields = .fail e := by
  cases fields with
  | some fields =>
    obtain ⟨front, rest, rfl, rfl, hrest⟩ := List.map_eq_append_iff.mp hsplit
    obtain ⟨field, back, rfl, rfl, rfl⟩ := List.map_eq_cons_iff.mp hrest
    have hfields : (⟨⟨chain, true⟩, drop⟩ : Scanner).compileFields (front ++ field :: back) =
        .error e := by
      refine mapM_of_error ?_ ?_
      · rintro ⟨name, other⟩ hother
        rcases Extractor.compile_strict chain other with ⟨e', he', -⟩ | ⟨-, d, -, hd⟩
        · exact absurd he' (hbefore other (List.mem_map_of_mem hother) e')
        · exact ⟨(name, d), by simp only [hd]; rfl⟩
      · simp only [Extractor.compile_of_faults hfault]
        rfl
    rw [scan, scanRecords, hfields]
    rfl
  | none =>
    have hmem : selector ∈ selectors scope none := by
      rw [hsplit]
      exact List.mem_append_right _ List.mem_cons_self
    rw [scan, scanValue, mem_selectors_none.mp hmem]
    change Extractor.extractBy _ place selector = _
    rw [Extractor.extractBy, Extractor.compile_of_faults hfault]

/-- A strict scan that comes to an end has compiled all its selectors. -/
theorem compile_of_strict_scan {v : Value}
    (h : ((⟨⟨chain, true⟩, drop⟩ : Scanner).scan place scope fields).result = .ok v) :
    ∀ selector ∈ selectors scope fields,
      ∃ d, (⟨chain, true⟩ : Extractor).compile selector = .ok d := by
  intro selector hselector
  cases fields with
  | some fields =>
    obtain ⟨field, hfield, rfl⟩ := List.mem_map.mp hselector
    rw [scan, Traced.result_bind] at h
    obtain ⟨kept, hkept, -⟩ := bind_eq_ok_iff.mp h
    obtain ⟨-, -, hcompile, -⟩ := exists_of_scanRecords hkept
    exact hcompile field hfield
  | none =>
    rw [scan, scanValue, mem_selectors_none.mp hselector] at h
    change (Extractor.extractBy _ place selector).result = _ at h
    rw [Extractor.extractBy] at h
    split at h
    next d hd => exact ⟨d, hd⟩
    next => cases h

/-- What a scan that comes to an end has reported: what its fields reported, and a summary. -/
theorem mem_events_scan {s : Scanner} {v : Value} {entry : Log.Entry}
    (h : (s.scan place scope fields).result = .ok v)
    (hentry : entry ∈ (s.scan place scope fields).events) :
    (∃ seen kept, entry = summary scope seen kept) ∨
      ∃ selector ∈ selectors scope fields, ∃ place',
        entry ∈ (s.extractor.extractBy place' selector).events := by
  cases fields with
  | some fields =>
    rw [scan, Traced.result_bind] at h
    obtain ⟨kept, hkept, -⟩ := bind_eq_ok_iff.mp h
    obtain ⟨found, records, hcompile, hfound, hrecords⟩ := exists_of_scanRecords hkept
    rw [scan, scanRecords_eq hcompile hfound hrecords, Traced.bind_of_ok rfl, Traced.events_pure,
      List.append_nil, List.mem_append] at hentry
    rcases hentry with hentry | hentry
    · obtain ⟨c, -, hentry⟩ := List.mem_flatMap.mp hentry
      obtain ⟨field, hfield, hentry⟩ := List.mem_flatMap.mp hentry
      exact .inr ⟨field.2, mem_selectors_of_mem hfield, some c, hentry⟩
    · exact .inl ⟨_, _, List.mem_singleton.mp hentry⟩
  | none =>
    rw [scan, scanValue] at hentry
    cases hscope : scope.filter (· ≠ "") with
    | none =>
      rw [hscope] at hentry
      cases hentry
    | some selector =>
      rw [hscope] at hentry
      exact .inr ⟨selector, mem_selectors_none.mpr hscope, place, hentry⟩

/-- **A strict scan is the lenient scan behind a check.** With every filter name in one of the two
registries both scans are the same. The first selector that is malformed or names an unregistered
filter is what a strict scan fails with, before it has selected anything or called a filter. When a
strict scan comes to an end, every filter name it used was that of a registered filter, and it has
reported no more than these filters did and its summary. -/
theorem strict_scan_checks_first (hown : chain.own.Made) (hfallback : chain.fallback.Made)
    (drop : Bool) (place : Option Cursor) (scope : Option String) (fields : Option FieldMap) :
    ((∀ selector ∈ selectors scope fields,
        ∀ name, Directive.NamesFilter selector name → chain.has name = true) →
      (⟨⟨chain, true⟩, drop⟩ : Scanner).scan place scope fields =
        (⟨⟨chain, false⟩, drop⟩ : Scanner).scan place scope fields) ∧
    (∀ before selector after e, selectors scope fields = before ++ selector :: after →
      (∀ other ∈ before, ∀ e, ¬ chain.Faults other e) → chain.Faults selector e →
      (⟨⟨chain, true⟩, drop⟩ : Scanner).scan place scope fields = .fail e) ∧
    ∀ v, ((⟨⟨chain, true⟩, drop⟩ : Scanner).scan place scope fields).result = .ok v →
      (∀ selector ∈ selectors scope fields, ∀ name, Directive.NamesFilter selector name →
        ∃ g, chain.resolve name = .filter g) ∧
      (∀ entry ∈ ((⟨⟨chain, true⟩, drop⟩ : Scanner).scan place scope fields).events,
        (∃ seen kept, entry = summary scope seen kept) ∨
          ∃ name g w args, chain.resolve name = .filter g ∧ entry ∈ (g.run w args).events) ∧
      ∀ name, (∀ other g w args, chain.resolve other = .filter g →
          Extractor.unknownFilter name ∉ (g.run w args).events) →
        Extractor.unknownFilter name ∉
          ((⟨⟨chain, true⟩, drop⟩ : Scanner).scan place scope fields).events := by
  refine ⟨strict_scan_eq_lenient, fun _ _ _ _ => strict_scan_of_faults, fun v hv => ?_⟩
  have hnames : ∀ selector ∈ selectors scope fields, ∀ name,
      Directive.NamesFilter selector name → ∃ g, chain.resolve name = .filter g := by
    intro selector hselector name hname
    obtain ⟨d, hd⟩ := compile_of_strict_scan hv selector hselector
    have hhas := (Extractor.compile_eq_ok hd).2 name hname
    rcases Chain.resolve_spec hown hfallback name with ⟨-, hg⟩ | ⟨hnot, -⟩
    · exact hg
    · rw [hhas] at hnot
      cases hnot
  have hevents : ∀ entry ∈ ((⟨⟨chain, true⟩, drop⟩ : Scanner).scan place scope fields).events,
      (∃ seen kept, entry = summary scope seen kept) ∨
        ∃ name g w args, chain.resolve name = .filter g ∧ entry ∈ (g.run w args).events := by
    intro entry hentry
    refine (mem_events_scan hv hentry).imp_right ?_
    rintro ⟨selector, hselector, place', hfield⟩
    obtain ⟨d, f, w, hd, hf, hcall⟩ := Extractor.mem_events_extractBy hfield
    have hname : Directive.NamesFilter selector f.name :=
      ⟨d, f, (Extractor.compile_eq_ok hd).1, hf, rfl⟩
    obtain ⟨g, hg⟩ := hnames selector hselector f.name hname
    rw [Extractor.applyFilter_of_resolve hg] at hcall
    exact ⟨f.name, g, w, f.args, hg, hcall⟩
  refine ⟨hnames, hevents, fun name hquiet hwarned => ?_⟩
  rcases hevents _ hwarned with ⟨seen, kept, hsummary⟩ | ⟨other, g, w, args, hg, hcall⟩
  · -- The summary is no warning.
    cases congrArg Log.Entry.level hsummary
  · exact hquiet other g w args hg hcall

/-- A chain with one filter. -/
def trimChain : Chain := ⟨⟨"instance", [("trim", .filter .trim)]⟩, ⟨"fallback", []⟩⟩

theorem trimChain_own_made : trimChain.own.Made :=
  .build (show (Registry.build "instance" [("trim", .filter .trim)]).result = .ok _ from rfl)

theorem trimChain_fallback_made : trimChain.fallback.Made :=
  .build (show (Registry.build "fallback" []).result = .ok _ from rfl)

theorem eq_trim_of_resolve {name : String} {g : Filter} (h : trimChain.resolve name = .filter g) :
    g = .trim := by
  rw [Chain.resolve_eq trimChain_own_made] at h
  split at h
  next =>
    change FilterTable.get [("trim", .filter .trim)] name = _ at h
    rw [FilterTable.get_cons] at h
    split at h
    next => exact (Candidate.filter.inj h).symm
    next => cases h
  next => cases h

/-- The misspelt filter is refused, although a selector behind it is malformed. -/
theorem strict_scan_refuses_trmi :
    trimChain.own.Made ∧ trimChain.fallback.Made ∧
    (∀ place, (⟨⟨trimChain, true⟩, true⟩ : Scanner).scan place (some "li")
        (some [("id", "&@id|trim"), ("name", "&|trmi"), ("url", "@href")]) =
      .fail (.unknownFilter "trmi" "&|trmi")) ∧
    (⟨⟨trimChain, true⟩, true⟩ : Scanner).scan (some Scraper.tripleList) (some "li")
        (some [("id", "&@id|trim")]) =
      (⟨⟨trimChain, false⟩, true⟩ : Scanner).scan (some Scraper.tripleList) (some "li")
        (some [("id", "&@id|trim")]) ∧
    Extractor.unknownFilter "trim" ∉
      ((⟨⟨trimChain, true⟩, true⟩ : Scanner).scan (some Scraper.tripleList) (some "li")
        (some [("id", "&@id|trim")])).events := by
  have hown := trimChain_own_made
  have hfallback := trimChain_fallback_made
  have hid : Directive.compile "&@id|trim" = .ok (.of "&" "id" (some ⟨"trim", []⟩)) := rfl
  have htrim : ∀ name, Directive.NamesFilter "&@id|trim" name → name = "trim" := by
    intro name hname
    obtain ⟨f, hf, rfl⟩ := (Directive.namesFilter_iff hid).mp hname
    cases hf
    rfl
  refine ⟨hown, hfallback, fun place => ?_, ?_, ?_⟩
  · obtain ⟨-, hrefused, -⟩ := strict_scan_checks_first hown hfallback true place (some "li")
      (some [("id", "&@id|trim"), ("name", "&|trmi"), ("url", "@href")])
    refine hrefused ["&@id|trim"] "&|trmi" ["@href"] _ rfl ?_
      (.unregistered ⟨.of "&" "text" (some ⟨"trmi", []⟩), ⟨"trmi", []⟩, rfl, rfl, rfl⟩ rfl)
    intro other hother e hfault
    cases List.mem_singleton.mp hother
    cases hfault with
    | malformed h =>
      rw [hid] at h
      cases h
    | unregistered hname hhas =>
      cases htrim _ hname
      cases hhas
  · refine (strict_scan_checks_first hown hfallback true _ _ _).1 ?_
    intro selector hselector name hname
    cases List.mem_singleton.mp hselector
    cases htrim name hname
    rfl
  · obtain ⟨-, -, hdone⟩ := strict_scan_checks_first hown hfallback true
      (some Scraper.tripleList) (some "li") (some [("id", "&@id|trim")])
    obtain ⟨-, -, hquiet⟩ := hdone _ rfl
    refine hquiet "trim" fun other g w args hg => ?_
    cases eq_trim_of_resolve hg
    rw [Filter.trim, Filter.plain_events]
    exact List.not_mem_nil

end Scanner

end Gleaner

import Gleaner.Proofs.Crawl.LastPage
import Gleaner.Proofs.Extract.Strict

/-! # What crawls check first

A crawl checks its budget, the selector of its link, those of its fields and its scope, in this order,
and fails at the first one that is no good before anything else happens
(`Crawler.bad_plans_stop_first`). Later pages are scanned by selectors that have passed. -/

namespace Gleaner

open Markup (Cursor)

/-- The whole number that a value is. Truth values count as one and zero. -/
def Value.whole? : Value → Option Int
  | .int i => some i
  | .bool b => some b.toNat
  | _ => Option.none

/-- A whole number is refused as a budget if it is below one and not minus one. -/
theorem Budget.ofValue_eq_error_iff {v : Value} {i : Int} (h : v.whole? = some i) {e : Error} :
    ofValue v = .error e ↔ (i ≠ -1 ∧ i < 1) ∧ e = .badBudget v.display := by
  have hvalue : ofValue v = (limitOf v).map fun limit => ⟨limit, v.display⟩ := by
    unfold ofValue
    cases limitOf v <;> rfl
  rw [hvalue]
  cases v with
  | bool b => cases h; cases b <;> simp [limitOf, Except.map, Value.display, Value.quoted, eq_comm]
  | int j =>
    cases h
    have hlimit : limitOf (.int i) = if i = -1 then .ok none
        else if i < 1 then .error (.badBudget (toString i)) else .ok (some i.toNat) := rfl
    rw [hlimit]
    by_cases hone : i = -1
    · simp [Except.map, hone]
    · by_cases hlt : i < 1
      · rw [if_neg hone, if_pos hlt]
        constructor
        · rintro ⟨⟩
          exact ⟨⟨hone, hlt⟩, rfl⟩
        · rintro ⟨-, rfl⟩
          rfl
      · simp [Except.map, hone, hlt]
  | _ => cases h

/-- What makes the selector of a field or a link fail: it is malformed, or in strict mode it names a
filter that is not registered. -/
theorem Extractor.compile_eq_error_iff {x : Extractor} {selector : String} {e : Error} :
    x.compile selector = .error e ↔
      Directive.compile selector = .error e ∨
        x.strict = true ∧ ∃ name, Directive.NamesFilter selector name ∧ x.chain.has name = false ∧
          e = .unknownFilter name selector := by
  obtain ⟨chain, strict⟩ := x
  cases strict with
  | false =>
    rw [compile_lenient]
    simp
  | true =>
    constructor
    · intro h
      rcases compile_strict chain selector with ⟨e', hfault, he'⟩ | ⟨-, d, -, hd⟩
      · rw [h] at he'
        cases he'
        cases hfault with
        | malformed hmalformed => exact .inl hmalformed
        | unregistered hname hhas => exact .inr ⟨rfl, _, hname, hhas, rfl⟩
      · rw [h] at hd
        cases hd
    · rintro (h | ⟨-, name, hname, hhas, rfl⟩)
      · exact compile_strict_of_error h
      · exact compile_of_faults (.unregistered hname hhas)

namespace Scanner

variable {s : Scanner} {place : Option Cursor} {scope : Option String} {fields : FieldMap}
  {e : Error}

theorem scan_of_uncompiled (h : s.compileFields fields = .error e) :
    s.scan place scope (some fields) = .fail e := by
  rw [scan, scanRecords, h]
  rfl

theorem scan_of_unselected {directives : List (String × Directive)}
    (h : s.compileFields fields = .ok directives) (hscope : elements place scope = .error e) :
    s.scan place scope (some fields) = .fail e := by
  rw [scan, scanRecords, h, hscope]
  rfl

theorem compileFields_of_error {before after : FieldMap} {name selector : String}
    (hbefore : ∀ field ∈ before, ∃ d, s.extractor.compile field.2 = .ok d)
    (h : s.extractor.compile selector = .error e) :
    s.compileFields (before ++ (name, selector) :: after) = .error e := by
  refine mapM_of_error (fun field hfield => ?_) ?_
  · obtain ⟨d, hd⟩ := hbefore field hfield
    exact ⟨(field.1, d), by simp only [hd]; rfl⟩
  · simp only [h]
    rfl

/-- A scope that could be read for one page can be read for every page. -/
theorem exists_elements {found : List Cursor} (h : elements place scope = .ok found)
    (root : Cursor) : ∃ found, elements (some root) scope = .ok found := by
  unfold elements at h ⊢
  cases hscope : scope.filter (· ≠ "") with
  | none => exact ⟨_, rfl⟩
  | some css =>
    rw [hscope] at h
    cases place with
    | none => cases h
    | some c =>
      dsimp only [select] at h ⊢
      split at h
      · exact ⟨_, rfl⟩
      · cases h

/-- Once fields and scope have passed, a scan fails only where a directive is extracted from an
element. -/
theorem exists_extract_error {directives : List (String × Directive)} {found : List Cursor}
    (h : s.compileFields fields = .ok directives) (hfound : elements place scope = .ok found)
    (he : (s.scan place scope (some fields)).result = .error e) :
    ∃ c ∈ found, ∃ d ∈ directives, (s.extractor.extract (some c) d.2).result = .error e := by
  rw [scan, Traced.result_bind] at he
  have hrecords : (s.scanRecords place scope fields).result = .error e := by
    rcases bind_eq_error_iff.mp he with hrecords | ⟨_, -, ⟨⟩⟩
    exact hrecords
  rw [scanRecords, h, hfound, Traced.bind_of_ok rfl, Traced.bind_of_ok rfl] at hrecords
  dsimp only at hrecords
  rw [Traced.result_bind] at hrecords
  have hmapM : (found.mapM (s.record directives)).result = .error e := by
    rcases bind_eq_error_iff.mp hrecords with hmapM | ⟨_, -, ⟨⟩⟩
    exact hmapM
  rw [Traced.result_mapM] at hmapM
  obtain ⟨c, hc, hrecord⟩ := exists_of_mapM_error hmapM
  rw [record, Traced.result_mapM] at hrecord
  obtain ⟨d, hd, hextract⟩ := exists_of_mapM_error hrecord
  refine ⟨c, hc, d, hd, ?_⟩
  rw [Traced.result_bind] at hextract
  rcases bind_eq_error_iff.mp hextract with hextract | ⟨_, -, ⟨⟩⟩
  exact hextract

end Scanner

namespace Crawler

open Crawl

variable {σ : Type} {c : Crawler σ} {source : Source} {plan : Plan} {t : Task} {fields : FieldMap}

/-- The first thing that is no good about a plan, and how a crawl fails for it: the budget, the link,
a field in the order of the field map, and last the scope. -/
inductive Rejects (c : Crawler σ) (source : Source) (plan : Plan) : Error → Prop where
  | budget {e : Error} : Budget.ofValue plan.budget = .error e → Rejects c source plan e
  | link {b : Budget} {e : Error} : Budget.ofValue plan.budget = .ok b →
    c.scanner.extractor.compile plan.link = .error e → Rejects c source plan e
  | field {t : Task} {before after : FieldMap} {name selector : String} {e : Error} :
    c.check source plan = .ok t → plan.fields = some (before ++ (name, selector) :: after) →
    (∀ field ∈ before, ∃ d, c.scanner.extractor.compile field.2 = .ok d) →
    c.scanner.extractor.compile selector = .error e → Rejects c source plan e
  | scope {t : Task} {fields : FieldMap} {root : Cursor} {css : String} {fault : Css.Fault} :
    c.check source plan = .ok t → plan.fields = some fields →
    (∀ field ∈ fields, ∃ d, c.scanner.extractor.compile field.2 = .ok d) →
    t.first.place = some root → plan.scope = some css → css ≠ "" → Css.parse css = .error fault →
    Rejects c source plan (cssError css fault)

section First

/-- A crawl whose first scan fails at once has done nothing at all. -/
theorem crawl_of_scan_fail (h : c.check source plan = .ok t) {e : Error}
    (hscan : c.scanner.scan t.first.place t.scope t.fields = .fail e) (outside : σ) {stages : Nat}
    (hn : 1 ≤ stages) : c.crawl stages outside source plan = (outside, .fail e) := by
  have hpage : c.scanPage t 1 t.first = .fail e := by
    rw [scanPage, hscan]
    rfl
  have hstep : c.step t (start t outside) = { start t outside with stage := .failed e } := by
    unfold step State.after
    dsimp only [start]
    rw [hpage]
    rfl
  obtain ⟨more, rfl⟩ := Nat.exists_eq_add_of_le hn
  rw [crawl, h]
  dsimp only
  rw [Nat.add_comm, advance_succ, hstep, advance_of_isOver more rfl]
  rfl

theorem crawl_of_check_error {e : Error} (h : c.check source plan = .error e) (outside : σ)
    (stages : Nat) : c.crawl stages outside source plan = (outside, .fail e) := by
  rw [crawl, h]

/-- **A plan that is rejected stops a crawl before it does anything.** -/
theorem Rejects.crawl {e : Error} (h : Rejects c source plan e) (outside : σ) {stages : Nat}
    (hn : 1 ≤ stages) : c.crawl stages outside source plan = (outside, .fail e) := by
  cases h with
  | budget hbudget =>
    refine crawl_of_check_error ?_ outside stages
    rw [check, hbudget]
    rfl
  | link hbudget hlink =>
    refine crawl_of_check_error ?_ outside stages
    rw [check, hbudget, hlink]
    rfl
  | field hcheck hfields hbefore hfield =>
    have htask := (check_eq_ok_iff.mp hcheck).2.2.2.2.trans hfields
    refine crawl_of_scan_fail hcheck ?_ outside hn
    rw [htask]
    exact Scanner.scan_of_uncompiled (Scanner.compileFields_of_error hbefore hfield)
  | @scope t fields root css fault hcheck hfields hcompile hroot hscope hne hcss =>
    have htask := (check_eq_ok_iff.mp hcheck).2.2.2.2.trans hfields
    have htask' := (check_eq_ok_iff.mp hcheck).2.2.2.1.trans hscope
    obtain ⟨directives, hdirectives⟩ := Scanner.exists_compileFields_iff.mpr hcompile
    refine crawl_of_scan_fail hcheck ?_ outside hn
    rw [htask, htask', hroot]
    refine Scanner.scan_of_unselected hdirectives ?_
    rw [Scanner.elements_of_css root hne, select, hcss]

/-- A plan that nothing is wrong with is accepted: fields and scope can be read for the first page. -/
theorem rejects_or_accepts {root : Cursor} {url : Option String}
    (hfirst : c.firstPage source plan.url = .ok ⟨some root, url⟩)
    (hfields : plan.fields = some fields) :
    (∃ e, Rejects c source plan e) ∨ ∃ t directives found, c.check source plan = .ok t ∧
      c.scanner.compileFields fields = .ok directives ∧
      Scanner.elements (some root) plan.scope = .ok found := by
  cases hbudget : Budget.ofValue plan.budget with
  | error e => exact .inl ⟨e, .budget hbudget⟩
  | ok b =>
  cases hlink : c.scanner.extractor.compile plan.link with
  | error e => exact .inl ⟨e, .link hbudget hlink⟩
  | ok d =>
  have hcheck : c.check source plan = .ok ⟨d, plan.scope, plan.fields, b, ⟨some root, url⟩⟩ :=
    check_eq_ok_iff.mpr ⟨hbudget, hlink, hfirst, rfl, rfl⟩
  rcases forall_ok_or_exists_error (fun field => c.scanner.extractor.compile field.2) fields with
    hcompile | ⟨before, field, after, e, rfl, hbefore, hfield⟩
  · obtain ⟨directives, hdirectives⟩ := Scanner.exists_compileFields_iff.mpr hcompile
    cases hscope : plan.scope with
    | none => exact .inr ⟨_, _, _, hcheck, hdirectives, rfl⟩
    | some css =>
      by_cases hne : css = ""
      · rw [hne]
        exact .inr ⟨_, _, _, hcheck, hdirectives, rfl⟩
      · cases hcss : Css.parse css with
        | error fault => exact .inl ⟨_, .scope hcheck hfields hcompile rfl hscope hne hcss⟩
        | ok sel =>
          refine .inr ⟨_, _, sel.select root, hcheck, hdirectives, ?_⟩
          rw [Scanner.elements_of_css root hne, select, hcss]
  · exact .inl ⟨e, .field hcheck hfields hbefore hfield⟩

end First

section Later

theorem exists_root_of_read {markup : String} {url : Option String} {p : Page}
    (h : c.read markup url = .ok p) : ∃ root, p.place = some root := by
  obtain ⟨d, -, hp⟩ := bind_eq_ok_iff.mp h
  cases hp
  exact ⟨d.root, rfl⟩

/-- Every page behind the first one has been read from markup, so it has a root. -/
theorem exists_root_of_fetched {n : Nat} {s : State σ} (hs : (c.advance t (n + 1) s).stage = .fetched) :
    ∃ root, (c.advance t (n + 1) s).page.place = some root := by
  rw [advance_add n 1, advance_succ, advance_zero] at hs ⊢
  have hmoves := step_moves c t (c.advance t n s)
  generalize c.step t (c.advance t n s) = s' at hmoves hs ⊢
  cases hmoves with
  | rest hover =>
    rw [State.isOver, hs] at hover
    cases hover
  | onward _ _ _ _ hread => exact exists_root_of_read hread
  | _ => cases hs

/-- A page that was scanned has let fields and scope pass. -/
theorem passed_of_recordsOf (hfields : t.fields = some fields) {p : Page} {found : List Value}
    (h : c.recordsOf t p = .ok found) :
    (∃ directives, c.scanner.compileFields fields = .ok directives) ∧
      ∃ elements, Scanner.elements p.place t.scope = .ok elements := by
  obtain ⟨value, hscan, -⟩ := bind_eq_ok_iff.mp h
  rw [hfields, Scanner.scan, Traced.result_bind] at hscan
  obtain ⟨kept, hkept, -⟩ := bind_eq_ok_iff.mp hscan
  obtain ⟨elements, -, hcompile, helements, -⟩ := Scanner.exists_of_scanRecords hkept
  exact ⟨Scanner.exists_compileFields_iff.mpr hcompile, elements, helements⟩

/-- The records of fields are a list, so a page has no records only if its scan fails. -/
theorem scan_of_recordsOf_error (hfields : t.fields = some fields) {p : Page} {e : Error}
    (h : c.recordsOf t p = .error e) :
    (c.scanner.scan p.place t.scope (some fields)).result = .error e := by
  rw [recordsOf, hfields] at h
  rcases bind_eq_error_iff.mp h with hscan | ⟨value, hvalue, hitems⟩
  · exact hscan
  · rw [Scanner.scan, Traced.result_bind] at hvalue
    obtain ⟨kept, -, hkept⟩ := bind_eq_ok_iff.mp hvalue
    cases hkept
    cases hitems

/-- **Behind the first page fields and scope have passed**, and a scan fails only where a field is
extracted, or in its report. -/
theorem later_page_passes (hfields : t.fields = some fields) {outside : σ} {n : Nat}
    (hs : (c.advance t n (start t outside)).stage = .fetched)
    (hlater : 2 ≤ (c.advance t n (start t outside)).number) :
    ∃ root directives elements,
      (c.advance t n (start t outside)).page.place = some root ∧
      c.scanner.compileFields fields = .ok directives ∧
      Scanner.elements (some root) t.scope = .ok elements ∧
      ∀ e, (c.scanPage t (c.advance t n (start t outside)).number
          (c.advance t n (start t outside)).page).result = .error e →
        (∃ place ∈ elements, ∃ d ∈ directives,
          (c.scanner.extractor.extract (some place) d.2).result = .error e) ∨
        ∃ fault, e = .template fault := by
  have hgathers := gathers_advance c t outside n
  obtain ⟨founds, hfounds, -⟩ := hgathers.records (by simp [hs])
  have hnumber := hgathers.ahead hs
  -- A page was scanned before this one, and by its scan the fields and the scope have passed.
  obtain ⟨p, pages, hpages⟩ : ∃ p pages, c.scanned t n (start t outside) = p :: pages := by
    refine List.exists_cons_of_ne_nil fun hnil => ?_
    rw [hnil, List.length_nil] at hnumber
    omega
  rw [hpages, List.forall₂_cons_left_iff] at hfounds
  obtain ⟨found, -, hfound, -, -⟩ := hfounds
  obtain ⟨⟨directives, hdirectives⟩, _, hpassed⟩ := passed_of_recordsOf hfields hfound
  obtain ⟨root, hroot⟩ : ∃ root, (c.advance t n (start t outside)).page.place = some root := by
    cases n with
    | zero => cases hpages
    | succ n => exact exists_root_of_fetched hs
  obtain ⟨elements, helements⟩ := Scanner.exists_elements hpassed root
  refine ⟨root, directives, elements, hroot, hdirectives, helements, fun e he => ?_⟩
  refine (scanPage_error he).imp_left fun hrecords => ?_
  have hscan := scan_of_recordsOf_error hfields hrecords
  rw [hroot] at hscan
  exact Scanner.exists_extract_error hdirectives helements hscan

end Later

/-- **A bad plan stops a crawl before it does anything.** The first thing that is no good about the
plan is what the crawl fails with: nothing is asked for, shown or logged. Nothing else stops a crawl
over a document before its first page is scanned. A whole number is refused as a budget if it is below
one and not minus one, a selector if it is malformed or names an unknown filter in strict mode. On
later pages fields and scope have passed, however long the crawl gets. -/
theorem bad_plans_stop_first (c : Crawler σ) (source : Source) (plan : Plan) (outside : σ) :
    (∀ e, Rejects c source plan e → ∀ stages, 1 ≤ stages →
      c.crawl stages outside source plan = (outside, ⟨[], .error e⟩)) ∧
    (∀ root url fields, c.firstPage source plan.url = .ok ⟨some root, url⟩ →
      plan.fields = some fields →
      (∃ e, Rejects c source plan e) ∨ ∃ t directives elements, c.check source plan = .ok t ∧
        c.scanner.compileFields fields = .ok directives ∧
        Scanner.elements (some root) plan.scope = .ok elements) ∧
    (∀ i e, plan.budget.whole? = some i → (Budget.ofValue plan.budget = .error e ↔
      (i ≠ -1 ∧ i < 1) ∧ e = .badBudget plan.budget.display)) ∧
    (∀ selector e, c.scanner.extractor.compile selector = .error e ↔
      (∃ fault, e = .malformedSelector selector fault ∧ Directive.compile selector = .error e) ∨
        c.scanner.extractor.strict = true ∧ ∃ name, Directive.NamesFilter selector name ∧
          c.scanner.extractor.chain.has name = false ∧ e = .unknownFilter name selector) ∧
    ∀ t n fields, c.check source plan = .ok t → plan.fields = some fields →
      (c.advance t n (start t outside)).stage = .fetched →
      2 ≤ (c.advance t n (start t outside)).number →
      ∃ root directives elements,
        (c.advance t n (start t outside)).page.place = some root ∧
        c.scanner.compileFields fields = .ok directives ∧
        Scanner.elements (some root) plan.scope = .ok elements ∧
        ∀ e, (c.scanPage t (c.advance t n (start t outside)).number
            (c.advance t n (start t outside)).page).result = .error e →
          (∃ place ∈ elements, ∃ d ∈ directives,
            (c.scanner.extractor.extract (some place) d.2).result = .error e) ∨
          ∃ fault, e = .template fault := by
  refine ⟨fun e h stages hn => h.crawl outside hn, fun root url fields hfirst hfields =>
    rejects_or_accepts hfirst hfields, fun i e hi => Budget.ofValue_eq_error_iff hi, ?_, ?_⟩
  · intro selector e
    rw [Extractor.compile_eq_error_iff]
    refine or_congr_left ⟨fun h => ?_, fun ⟨_, _, h⟩ => h⟩
    obtain ⟨fault, hfault⟩ := Directive.compile_error h
    exact ⟨fault, hfault, h⟩
  · intro t n fields hcheck hfields hs hlater
    obtain ⟨-, -, -, hscope, hfields'⟩ := check_eq_ok_iff.mp hcheck
    rw [← hscope]
    exact later_page_passes (hfields'.trans hfields) hs hlater

def strictly : Crawler Unit :=
  { circular with scanner := ⟨⟨⟨⟨"own", []⟩, ⟨"fallback", []⟩⟩, true⟩, true⟩ }

def planOf (budget : Int) (link : String) (fields : FieldMap) (scope : String) : Plan where
  link
  scope := some scope
  fields := some fields
  budget := .int budget
  url := some "http://s/a"

/-- Plans with several faults fail for the first one, also over a scope without elements. On the
second page of the circular site the field passes. -/
theorem bad_plans_stop_first_in_order :
    strictly.crawl 1 () (.place (circularPage "http://s/a").place)
        (planOf 0 "@href" [("text", "@x")] "p[") = ((), ⟨[], .error (.badBudget "0")⟩) ∧
      strictly.crawl 1 () (.place (circularPage "http://s/a").place)
        (planOf 1 "a@href|nope" [("text", "@x")] "p[") =
          ((), ⟨[], .error (.unknownFilter "nope" "a@href|nope")⟩) ∧
      strictly.crawl 1 () (.place (circularPage "http://s/a").place)
        (planOf 1 "a@href" [("text", "&"), ("word", "@x")] "h1") =
          ((), ⟨[], .error (.malformedSelector "@x" .noSubSelector)⟩) ∧
      strictly.crawl 1 () (.place (circularPage "http://s/a").place)
        (planOf 1 "a@href" [("text", "&")] "p[") =
          ((), ⟨[], .error (.malformedSelector "p[" .badCss)⟩) ∧
      ∃ directives, circular.scanner.compileFields [("text", "&")] = .ok directives := by
  have hlink : strictly.scanner.extractor.compile "a@href" = .ok (.of "a" "href") := rfl
  have hcheck (fields : FieldMap) (scope : String) :
      strictly.check (.place (circularPage "http://s/a").place) (planOf 1 "a@href" fields scope) =
        .ok ⟨.of "a" "href", some scope, some fields, ⟨some 1, "1"⟩, circularPage "http://s/a"⟩ :=
    check_eq_ok_iff.mpr ⟨rfl, hlink, rfl, rfl, rfl⟩
  have htext : ∀ field ∈ [("text", "&")], ∃ d, strictly.scanner.extractor.compile field.2 = .ok d :=
    List.forall_mem_singleton.mpr ⟨_, rfl⟩
  have hcircular : circular.check (.place (circularPage "http://s/a").place) circularPlan =
    .ok circularTask := rfl
  have hsecond := advance_three_onward_eq (s := start circularTask ()) rfl
    (circularPage_hasPlainUrl (by decide))
    (show circular.turn circularTask _ _ 1 () = .onward [.dict [("text", .str "x")]] "http://s/b"
      (circularPage "http://s/b") () from rfl)
  obtain ⟨_, directives, _, -, hdirectives, -⟩ :=
    (bad_plans_stop_first circular _ circularPlan ()).2.2.2.2 circularTask 3 _ hcircular rfl
      (by rw [hsecond]) (by rw [hsecond]; decide)
  have hcss : Css.parse "p[" = .error .malformed := rfl
  refine ⟨?_, ?_, ?_, ?_, directives, hdirectives⟩
  · exact (bad_plans_stop_first ..).1 _ (.budget rfl) 1 (Nat.le_refl 1)
  · exact (bad_plans_stop_first ..).1 _ (.link rfl rfl) 1 (Nat.le_refl 1)
  · exact (bad_plans_stop_first ..).1 _ (.field (hcheck _ _) rfl htext rfl) 1 (Nat.le_refl 1)
  · exact (bad_plans_stop_first ..).1 _ (.scope (hcheck _ _) rfl htext rfl rfl (by decide)
      hcss) 1 (Nat.le_refl 1)

end Crawler

end Gleaner

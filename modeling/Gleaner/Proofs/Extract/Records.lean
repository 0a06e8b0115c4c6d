import Gleaner.Proofs.Traced
import Gleaner.Scraper.Basic

/-! # The records of a scan

A scan compiles the selectors of its field map once and reads every element by the compiled
directives. That comes to the same as to read every field of every element by its selector on its
own (`record_eq_recordBy`). Which records are kept is decided record by record (`kept_eq`). -/

namespace Gleaner

open Markup (Cursor)

/-- A record with a value in a field. An empty text, a zero and an empty list are values. -/
def Record.HasValue (r : Record) : Prop := ∃ entry ∈ r, entry.2 ≠ .none

theorem Record.isEmpty_eq_false_iff {r : Record} : r.isEmpty = false ↔ r.HasValue := by
  have hnone (v : Value) : v.isNone = false ↔ v ≠ .none := by cases v <;> simp [Value.isNone]
  simp [isEmpty, HasValue, hnone]

instance (r : Record) : Decidable r.HasValue := decidable_of_iff _ Record.isEmpty_eq_false_iff

/-- A record of an element: the fields of the map in their order, each with what its selector reads
off the element. -/
def Extractor.IsRecordOf (x : Extractor) (fields : FieldMap) (c : Cursor) (r : Record) : Prop :=
  List.Forall₂ (fun field entry =>
    entry.1 = field.1 ∧ (x.extractBy (some c) field.2).result = .ok entry.2) fields r

/-- Reads every field of an element by its selector. -/
def Extractor.recordBy (x : Extractor) (fields : FieldMap) (c : Cursor) : Traced Log.Entry Record :=
  fields.mapM fun field => do return (field.1, ← x.extractBy (some c) field.2)

section Record

variable {x : Extractor} {fields : FieldMap} {c : Cursor} {r : Record}

theorem Extractor.recordBy_eq_ok_iff :
    (x.recordBy fields c).result = .ok r ↔ x.IsRecordOf fields c r := by
  rw [recordBy, Traced.result_mapM]
  simp only [Traced.result_bind, Traced.result_pure]
  exact mapM_named_eq_ok_iff (f := fun selector => (x.extractBy (some c) selector).result)

theorem Extractor.events_recordBy (h : x.IsRecordOf fields c r) :
    (x.recordBy fields c).events =
      fields.flatMap fun field => (x.extractBy (some c) field.2).events := by
  rw [recordBy, Traced.events_mapM (recordBy_eq_ok_iff.mpr h)]
  refine List.flatMap_congr fun field hfield => ?_
  rw [Traced.events_bind]
  split <;> simp

namespace Scanner

variable {s : Scanner} {directives : List (String × Directive)}

theorem compileFields_eq_ok_iff : s.compileFields fields = .ok directives ↔
    List.Forall₂ (fun field d => d.1 = field.1 ∧ s.extractor.compile field.2 = .ok d.2)
      fields directives := mapM_named_eq_ok_iff

theorem exists_compileFields_iff :
    (∃ directives, s.compileFields fields = .ok directives) ↔
      ∀ field ∈ fields, ∃ d, s.extractor.compile field.2 = .ok d := by
  simp only [compileFields_eq_ok_iff, exists_forall₂_iff]
  refine forall₂_congr fun field _ => ⟨?_, ?_⟩
  · rintro ⟨d, -, hd⟩
    exact ⟨d.2, hd⟩
  · rintro ⟨d, hd⟩
    exact ⟨(field.1, d), rfl, hd⟩

/-- **To read by the compiled directives is to read by the selectors.** -/
theorem record_eq_recordBy (h : s.compileFields fields = .ok directives) (c : Cursor) :
    s.record directives c = s.extractor.recordBy fields c := by
  rw [compileFields_eq_ok_iff] at h
  rw [record, Extractor.recordBy]
  induction h with
  | nil => rfl
  | @cons field d fields directives hd _ ih =>
    have hfield : s.extractor.extractBy (some c) field.2 = s.extractor.extract (some c) d.2 := by
      rw [Extractor.extractBy, hd.2]
    rw [List.mapM_cons, List.mapM_cons, ih, hfield, ← hd.1]

theorem mapM_recordBy_eq_ok_iff {found : List Cursor} {records : List Record} :
    (found.mapM (x.recordBy fields)).result = .ok records ↔
      List.Forall₂ (x.IsRecordOf fields) found records := by
  rw [Traced.result_mapM, mapM_eq_ok_iff]
  refine iff_of_eq (congrArg (List.Forall₂ · found records) ?_)
  funext c r
  exact propext Extractor.recordBy_eq_ok_iff

theorem events_mapM_recordBy {found : List Cursor} {records : List Record}
    (h : List.Forall₂ (x.IsRecordOf fields) found records) :
    (found.mapM (x.recordBy fields)).events =
      found.flatMap fun c => fields.flatMap fun field =>
        (x.extractBy (some c) field.2).events := by
  rw [Traced.events_mapM (mapM_recordBy_eq_ok_iff.mpr h)]
  induction h with
  | nil => rfl
  | cons hr _ ih => rw [List.flatMap_cons, List.flatMap_cons, Extractor.events_recordBy hr, ih]

theorem exists_forall₂_isRecordOf {found : List Cursor}
    (h : ∀ c ∈ found, ∀ field ∈ fields, ∃ v, (x.extractBy (some c) field.2).result = .ok v) :
    ∃ records, List.Forall₂ (x.IsRecordOf fields) found records := by
  refine exists_forall₂_iff.mpr fun c hc => exists_forall₂_iff.mpr fun field hfield => ?_
  obtain ⟨v, hv⟩ := h c hc field hfield
  exact ⟨(field.1, v), rfl, hv⟩

/-- Without fields no record has a value. -/
theorem filter_hasValue_of_no_fields {found : List Cursor} {records : List Record}
    (h : List.Forall₂ (x.IsRecordOf []) found records) : records.filter (·.HasValue) = [] := by
  induction h with
  | nil => rfl
  | cons hr _ ih =>
    rw [Extractor.IsRecordOf, List.forall₂_nil_left_iff] at hr
    rw [List.filter_cons_of_neg (by simp [hr, Record.HasValue]), ih]

theorem elements_of_css (c : Cursor) {css : String} (h : css ≠ "") :
    elements (some c) (some css) = select css c := by
  have hscope : (some css).filter (· ≠ "") = some css := by simp [h]
  unfold elements
  rw [hscope]

theorem kept_eq (s : Scanner) (records : List Record) :
    s.kept records = if s.dropEmpty then records.filter (·.HasValue) else records := by
  have hkeep : (fun r : Record => !r.isEmpty) = fun r => decide r.HasValue := by
    funext r
    rw [Bool.eq_iff_iff, Bool.not_eq_true', decide_eq_true_eq, Record.isEmpty_eq_false_iff]
  rw [kept, hkeep]

/-- **The scan of a page**: the records of its elements, of which some are kept, and behind what the
fields reported the summary. -/
theorem scanRecords_eq {place : Option Cursor} {scope : Option String} {found : List Cursor}
    {records : List Record}
    (hcompile : ∀ field ∈ fields, ∃ d, s.extractor.compile field.2 = .ok d)
    (hfound : elements place scope = .ok found)
    (hrecords : List.Forall₂ (s.extractor.IsRecordOf fields) found records) :
    s.scanRecords place scope fields =
      ⟨(found.flatMap fun c => fields.flatMap fun field =>
          (s.extractor.extractBy (some c) field.2).events) ++
          [summary scope found.length (s.kept records).length],
        .ok (s.kept records)⟩ := by
  obtain ⟨directives, hdirectives⟩ := exists_compileFields_iff.mpr hcompile
  have hrecord : s.record directives = s.extractor.recordBy fields :=
    funext (record_eq_recordBy hdirectives)
  have hresult := mapM_recordBy_eq_ok_iff.mpr hrecords
  rw [scanRecords, hdirectives, hfound, ← events_mapM_recordBy hrecords]
  change (found.mapM (s.record directives) >>= fun records =>
    Traced.tell [_] >>= fun _ => pure _) = _
  rw [hrecord, Traced.bind_of_ok hresult]
  rfl

/-- A scan that comes to an end has read a record off every element. -/
theorem exists_of_scanRecords {place : Option Cursor} {scope : Option String} {kept : List Record}
    (h : (s.scanRecords place scope fields).result = .ok kept) :
    ∃ found records, (∀ field ∈ fields, ∃ d, s.extractor.compile field.2 = .ok d) ∧
      elements place scope = .ok found ∧
      List.Forall₂ (s.extractor.IsRecordOf fields) found records := by
  rw [scanRecords, Traced.result_bind] at h
  obtain ⟨directives, hdirectives, h⟩ := bind_eq_ok_iff.mp h
  rw [Traced.result_bind] at h
  obtain ⟨found, hfound, h⟩ := bind_eq_ok_iff.mp h
  rw [Traced.result_bind] at h
  obtain ⟨records, hrecords, -⟩ := bind_eq_ok_iff.mp h
  have hrecord : s.record directives = s.extractor.recordBy fields :=
    funext (record_eq_recordBy hdirectives)
  rw [hrecord] at hrecords
  refine ⟨found, records, ?_, hfound, mapM_recordBy_eq_ok_iff.mp hrecords⟩
  exact exists_compileFields_iff.mp ⟨directives, hdirectives⟩

end Scanner

end Record

namespace Scraper

variable {σ : Type}

/-- **What a scan finds.** The elements are those that the scope selects, or the top-level ones.
Every element has a record with the fields of the map in their order, and under each name what its
selector reads off the element on its own. Kept are all records, or those with a value; that is up
to the scraper's choice, or else to the settings at the time of the scan. -/
theorem scan_eq_records (s : Scraper σ) (a : Ambient) (c : Cursor) (scope : Option String)
    (fields : FieldMap) {found : List Cursor}
    (hcompile : ∀ field ∈ fields, ∃ d, (s.scanner a).extractor.compile field.2 = .ok d)
    (hfound : Scanner.elements (some c) scope = .ok found)
    (hextract : ∀ e ∈ found, ∀ field ∈ fields,
      ∃ v, ((s.scanner a).extractor.extractBy (some e) field.2).result = .ok v) :
    (scope = none ∨ scope = some "" → found = c.topLevel) ∧
    (∀ css, scope = some css → css ≠ "" → select css c = .ok found) ∧
    ∃ records, List.Forall₂ ((s.scanner a).extractor.IsRecordOf fields) found records ∧
      (∀ choice settings, ∀ kept,
        kept = (if choice.getD settings.dropEmptyRecords then records.filter (·.HasValue)
          else records) →
        ({ s with dropEmpty := choice }.scanner { a with settings := settings }).scan
            (some c) scope (some fields) =
          ⟨(found.flatMap fun e => fields.flatMap fun field =>
              ((s.scanner a).extractor.extractBy (some e) field.2).events) ++
              [Scanner.summary scope found.length kept.length],
            .ok (.list (kept.map .dict))⟩) ∧
      (records.filter (·.HasValue)).length + (records.filter (¬ ·.HasValue)).length =
        found.length ∧
      (fields = [] → records.filter (·.HasValue) = []) := by
  obtain ⟨records, hrecords⟩ := Scanner.exists_forall₂_isRecordOf hextract
  refine ⟨?_, ?_, records, hrecords, ?_, ?_, ?_⟩
  · rintro (rfl | rfl)
    · exact (Except.ok.inj hfound).symm
    · exact (Except.ok.inj hfound).symm
  · rintro css rfl hcss
    exact (Scanner.elements_of_css c hcss).symm.trans hfound
  · rintro choice settings kept rfl
    -- What is read depends neither on the choice nor on the settings.
    have hscanner : { s with dropEmpty := choice }.scanner { a with settings := settings } =
        ⟨(s.scanner a).extractor, choice.getD settings.dropEmptyRecords⟩ := rfl
    rw [hscanner, Scanner.scan,
      Scanner.scanRecords_eq
        (s := ⟨(s.scanner a).extractor, choice.getD settings.dropEmptyRecords⟩) hcompile hfound
        hrecords, Scanner.kept_eq, Traced.bind_of_ok rfl, Traced.events_pure, List.append_nil]
    rfl
  · rw [hrecords.length_eq, List.length_eq_length_filter_add (l := records) (·.HasValue)]
    simp
  · rintro rfl
    exact Scanner.filter_hasValue_of_no_fields hrecords

/-- Three entries, the second without an identifier and the third with an empty one, and a
paragraph. -/
def tripleList : Cursor :=
  .document [.element "li" [("id", " x ")] [], .element "li" [] [], .element "p" [] [],
    .element "li" [("id", "")] []]

/-- A scraper with the built-in filters that follows the settings. -/
def plainScraper : Scraper Unit := .standard {} fun _ _ => ((), pure "")

/-- The entry without an identifier is dropped, unless the scraper keeps all, and the one with an
empty identifier is not. -/
theorem scan_eq_triple_records :
    (plainScraper.scanner {}).scan (some tripleList) (some "li") (some [("id", "&@id|trim")]) =
      ⟨[Scanner.summary (some "li") 3 2],
        .ok (.list [.dict [("id", .str "x")], .dict [("id", .str "")]])⟩ ∧
    ({ plainScraper with dropEmpty := some false }.scanner {}).scan (some tripleList) (some "li")
        (some [("id", "&@id|trim")]) =
      ⟨[Scanner.summary (some "li") 3 3],
        .ok (.list
          [.dict [("id", .str "x")], .dict [("id", .none)], .dict [("id", .str "")]])⟩ := by
  have hfound : Scanner.elements (some tripleList) (some "li") =
    .ok ([(0, [("id", " x ")]), (1, []), (3, [("id", "")])].map fun (i, attrs) =>
      .child tripleList i (.element "li" attrs [])) := rfl
  obtain ⟨-, -, records, hrecords, hscan, -⟩ := scan_eq_records plainScraper {} tripleList
    (some "li") [("id", "&@id|trim")]
    (by simpa using ⟨Directive.of "&" "id" (some ⟨"trim", []⟩), rfl⟩) hfound
    (by
      simp only [List.map_cons, List.map_nil, List.forall_mem_cons]
      exact ⟨⟨⟨.str "x", rfl⟩, by simp⟩, ⟨⟨.none, rfl⟩, by simp⟩, ⟨⟨.str "", rfl⟩, by simp⟩,
        by simp⟩)
  have hvalues : records = [[("id", .str "x")], [("id", .none)], [("id", .str "")]] := by
    have hread := Scanner.mapM_recordBy_eq_ok_iff.mpr hrecords
    rw [Traced.result_mapM] at hread
    exact (Except.ok.inj hread).symm
  rw [hvalues] at hscan
  constructor
  · exact hscan none {} [[("id", .str "x")], [("id", .str "")]] rfl
  · exact hscan (some false) {} [[("id", .str "x")], [("id", .none)], [("id", .str "")]] rfl

end Scraper

end Gleaner

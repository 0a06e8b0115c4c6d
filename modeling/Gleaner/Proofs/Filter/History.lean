import Gleaner.Filter.Registry
import Gleaner.Proofs.Filter.Table
import Gleaner.Proofs.Traced

/-! # The history of registries

The registries of a chain and of the process change by replacements and registrations, some of which
are refused. After any history a registry holds what its last accepted replacement wrote, overlaid
with the registrations it accepted since, and nothing that cannot be called (`run_holds_writes`). -/

namespace Gleaner

/-- A registry that was made, or made and changed. -/
inductive Registry.Made : Registry → Prop where
  | build {label : String} {table : FilterTable} {r : Registry} :
    (Registry.build label table).result = .ok r → Made r
  | shared : Made .shared
  | change {r r' : Registry} {e : RegistryEdit} {c : Candidate} :
    Made r → (Registries.change r e).result = .ok (r', c) → Made r'

namespace RegistryEdit

/-- A change that is refused: it brings something that cannot be called. To register nothing is not
refused, since the filter is still to come; a table with nothing in it is. -/
def Refused : RegistryEdit → Prop
  | .replace table => ∃ x ∈ table, x.2.isCallable = false
  | .register _ c | .decorate _ c => c.isCallable = false ∧ c.isNothing = false

/-- The filter that a change registers. -/
def registered? : RegistryEdit → Option (String × Candidate)
  | .replace _ => none
  | .register name c | .decorate name c => if c.isCallable then some (name, c) else none

/-- A table after a change, which leaves it alone if it is refused. -/
def apply (t : FilterTable) (e : RegistryEdit) : FilterTable :=
  match e with
  | .replace table => if table.firstBad?.isSome then t else table.distinct
  | .register name c | .decorate name c => if c.isCallable then t.insert name c else t

end RegistryEdit

namespace Registries

/-- The registries after a history of changes. -/
def run (r : Registries) (history : List (RegistryPlace × RegistryEdit)) : Registries :=
  history.foldl (fun r x => (r.edit x.1 x.2).1) r

/-- The chain of the registries at two places. -/
def chain (r : Registries) (first second : RegistryPlace) : Chain := ⟨r.pick first, r.pick second⟩

/-- The changes of a history that act on one place. -/
def editsAt (place : RegistryPlace) (history : List (RegistryPlace × RegistryEdit)) :
    List RegistryEdit :=
  (history.filter (·.1 = place)).map (·.2)

end Registries

section Change

variable {t : FilterTable} {r : Registry}

theorem FilterTable.firstBad?_eq_none_iff : t.firstBad? = none ↔ t.Callable := by
  simp [firstBad?, Callable]

theorem RegistryEdit.refused_replace_iff :
    (RegistryEdit.replace t).Refused ↔ t.firstBad? ≠ none := by
  rw [Ne, FilterTable.firstBad?_eq_none_iff]
  simp [Refused, FilterTable.Callable]

/-- What comes of a change: it is refused for something that cannot be called, or the table is
changed. -/
theorem change_cases (r : Registry) (e : RegistryEdit) :
    (e.Refused ∧ e.apply r.table = r.table ∧
      ∃ name, (Registries.change r e).result = .error (.notCallable name)) ∨
    (¬ e.Refused ∧ ∃ c, (Registries.change r e).result =
      .ok ({ r with table := e.apply r.table }, c)) := by
  cases e with
  | replace table =>
    rw [RegistryEdit.refused_replace_iff, Registries.change, Traced.result_bind, Registry.replace]
    cases h : table.firstBad? with
    | some name => exact .inl ⟨by simp, by simp [RegistryEdit.apply, h], name, rfl⟩
    | none => exact .inr ⟨by simp, .nothing, by simp [RegistryEdit.apply, h]; rfl⟩
  | register name c | decorate name c =>
    cases c with
    | filter f =>
      exact .inr ⟨by simp [RegistryEdit.Refused, Candidate.isCallable], .filter f, rfl⟩
    | nothing =>
      exact .inr ⟨by simp [RegistryEdit.Refused, Candidate.isNothing], .nothing, rfl⟩
    | other v => exact .inl ⟨⟨rfl, rfl⟩, rfl, name, rfl⟩

theorem RegistryEdit.apply_callable (h : t.Callable) (e : RegistryEdit) : (e.apply t).Callable := by
  cases e with
  | replace table =>
    rw [apply]
    split
    next => exact h
    next hbad =>
      have htable : table.Callable := FilterTable.firstBad?_eq_none_iff.mp (by simpa using hbad)
      exact htable.foldl_insert (List.forall_mem_nil _)
  | register name c | decorate name c =>
    rw [apply]
    split
    next hc => exact h.insert hc
    next => exact h

theorem RegistryEdit.apply_nodup (h : (t.map (·.1)).Nodup) (e : RegistryEdit) :
    ((e.apply t).map (·.1)).Nodup := by
  cases e with
  | replace table =>
    rw [apply]
    split
    next => exact h
    next => exact FilterTable.nodup_foldl_insert (t := []) List.nodup_nil table
  | register name c | decorate name c =>
    rw [apply]
    split
    next => exact FilterTable.nodup_insert h name c
    next => exact h

end Change

section Made

variable {r : Registry}

/-- The table that a registry is made with is written into an empty one. -/
theorem Registry.build_table {label : String} {t : FilterTable}
    (h : (Registry.build label t).result = .ok r) :
    r.table = (RegistryEdit.replace t).apply [] := by
  rw [build] at h
  split at h
  next ht =>
    cases h
    rw [ht]
    rfl
  next =>
    rw [replace] at h
    split at h
    next => cases h
    next hbad =>
      cases h
      simp [RegistryEdit.apply, hbad]

theorem shared_callable : Registry.shared.table.Callable := by
  intro x hx
  obtain ⟨f, -, rfl⟩ := List.mem_map.mp hx
  rfl

theorem shared_nodup : (Registry.shared.table.map (·.1)).Nodup := by decide

namespace Registry.Made

/-- What holds of the empty table and of the built-in one and is kept by every change holds of the
table of every registry. -/
theorem table_induction {P : FilterTable → Prop} (h : r.Made) (hnil : P [])
    (hshared : P Registry.shared.table)
    (happly : ∀ t e, P t → P (RegistryEdit.apply t e)) : P r.table := by
  induction h with
  | build h =>
    rw [build_table h]
    exact happly [] _ hnil
  | shared => exact hshared
  | @change r r' e c _ h ih =>
    rcases change_cases r e with ⟨-, -, name, he⟩ | ⟨-, c, he⟩
    · rw [he] at h
      cases h
    · rw [he] at h
      cases h
      exact happly r.table e ih

/-- **Whatever can be found in a registry can be called.** -/
theorem callable (h : r.Made) : r.table.Callable :=
  h.table_induction (List.forall_mem_nil _) shared_callable fun _ e ht =>
    RegistryEdit.apply_callable ht e

theorem nodup (h : r.Made) : (r.table.map (·.1)).Nodup :=
  h.table_induction (P := fun t => (t.map (·.1)).Nodup) List.nodup_nil shared_nodup fun _ e ht =>
    RegistryEdit.apply_nodup ht e

/-- A name is registered just when there is a filter for it. -/
theorem get_spec (h : r.Made) (name : String) :
    (r.has name = true ∧ ∃ f, r.get name = .filter f) ∨
      (r.has name = false ∧ r.get name = .nothing) :=
  FilterTable.get_spec h.callable name

end Registry.Made

theorem Chain.resolve_eq {c : Chain} (hown : c.own.Made) (name : String) :
    c.resolve name = if c.own.has name then c.own.get name else c.fallback.get name := by
  rcases hown.get_spec name with ⟨hhas, f, hget⟩ | ⟨hhas, hget⟩
  · rw [resolve, hhas, hget, if_pos rfl]
  · rw [resolve, hhas, hget, if_neg Bool.false_ne_true]

/-- A chain has a name just when it finds a filter for it. -/
theorem Chain.resolve_spec {c : Chain} (hown : c.own.Made) (hfallback : c.fallback.Made)
    (name : String) :
    (c.has name = true ∧ ∃ f, c.resolve name = .filter f) ∨
      (c.has name = false ∧ c.resolve name = .nothing) := by
  rw [resolve_eq hown, has]
  rcases hown.get_spec name with ⟨hhas, hf⟩ | ⟨hhas, -⟩
  · simpa [hhas] using hf
  · simpa [hhas] using hfallback.get_spec name

theorem Chain.has_iff {c : Chain} (hown : c.own.Made) (hfallback : c.fallback.Made)
    (name : String) : c.has name = true ↔ c.resolve name ≠ .nothing := by
  rcases resolve_spec hown hfallback name with ⟨hhas, f, hf⟩ | ⟨hhas, hnone⟩
  · simp [hhas, hf]
  · simp [hhas, hnone]

end Made

namespace Registries

section Run

variable {r : Registries}

theorem pick_put (x : Registry) (place p : RegistryPlace) :
    (r.put x place).pick p = if place = p then x else r.pick p := by
  cases place <;> cases p <;> rfl

/-- A refused change leaves every registry as it is. -/
theorem edit_refused {place : RegistryPlace} {e : RegistryEdit} {err : Error}
    (h : (r.edit place e).2.result = .error err) :
    (r.edit place e).1 = r ∧ e.Refused ∧ ∃ name, err = .notCallable name := by
  rw [edit] at h ⊢
  rcases change_cases (r.pick place) e with ⟨he, -, name, hres⟩ | ⟨-, c, hres⟩
  · rw [hres] at h ⊢
    cases h
    exact ⟨rfl, he, name, rfl⟩
  · rw [hres] at h
    cases h

theorem exists_error_of_refused (place : RegistryPlace) {e : RegistryEdit} (h : e.Refused) :
    ∃ err, (r.edit place e).2.result = .error err := by
  rw [edit]
  rcases change_cases (r.pick place) e with ⟨-, -, name, hres⟩ | ⟨hacc, -⟩
  · exact ⟨.notCallable name, by rw [hres]⟩
  · exact absurd h hacc

/-- A change reaches the registry at its place and no other. -/
theorem table_edit (place : RegistryPlace) (e : RegistryEdit) (p : RegistryPlace) :
    ((r.edit place e).1.pick p).table =
      if place = p then e.apply (r.pick p).table else (r.pick p).table := by
  rcases change_cases (r.pick place) e with ⟨-, happly, name, hres⟩ | ⟨-, c, hres⟩
  · have hsame : (r.edit place e).1 = r := by rw [edit, hres]
    rw [hsame]
    split
    next hp => rw [← hp, happly]
    next => rfl
  · have hput : (r.edit place e).1 =
        r.put { r.pick place with table := e.apply (r.pick place).table } place := by
      rw [edit, hres]
    rw [hput, pick_put]
    split
    next hp => rw [hp]
    next => rfl

theorem made_edit (h : ∀ p, (r.pick p).Made) (place : RegistryPlace) (e : RegistryEdit) :
    ∀ p, ((r.edit place e).1.pick p).Made := by
  intro p
  rw [edit]
  split
  next x c hx =>
    rw [pick_put]
    split
    next => exact .change (h place) hx
    next => exact h p
  next => exact h p

theorem made_run (h : ∀ p, (r.pick p).Made) (history : List (RegistryPlace × RegistryEdit)) :
    ∀ p, ((r.run history).pick p).Made := by
  induction history generalizing r with
  | nil => exact h
  | cons x history ih => exact ih (made_edit h x.1 x.2)

/-- A registry goes through the changes at its place, whatever happens at the others. -/
theorem table_run (history : List (RegistryPlace × RegistryEdit)) (p : RegistryPlace) :
    ((r.run history).pick p).table =
      (editsAt p history).foldl RegistryEdit.apply (r.pick p).table := by
  induction history generalizing r with
  | nil => rfl
  | cons x history ih =>
    obtain ⟨place, e⟩ := x
    have hstep : (r.run ((place, e) :: history)).pick p =
        ((r.edit place e).1.run history).pick p := rfl
    rw [hstep, ih, table_edit]
    by_cases hp : place = p <;> simp [hp, editsAt]

/-- Without an accepted replacement, a table is overlaid with what is registered. -/
theorem foldl_apply {edits : List RegistryEdit}
    (h : ∀ t, .replace t ∈ edits → (RegistryEdit.replace t).Refused) (t : FilterTable) :
    edits.foldl RegistryEdit.apply t =
      (edits.filterMap RegistryEdit.registered?).foldl (fun t (n, c) => t.insert n c) t := by
  induction edits generalizing t with
  | nil => rfl
  | cons e edits ih =>
    have hrest := ih fun t ht => h t (List.mem_cons_of_mem e ht)
    rw [List.foldl_cons, hrest, List.filterMap_cons]
    cases e with
    | replace table =>
      have hbad : table.firstBad?.isSome = true := by
        have hr := h table List.mem_cons_self
        rwa [RegistryEdit.refused_replace_iff, ← Option.isSome_iff_ne_none] at hr
      rw [RegistryEdit.apply, if_pos hbad]
      rfl
    | register name c | decorate name c =>
      rw [RegistryEdit.apply, RegistryEdit.registered?]
      split <;> simp_all

/-- **What a history of changes makes of the registries.** Everything in them can be called. A
change is refused just when it brings something that cannot be, and then changes none of them. A
registry holds what its last accepted replacement wrote, or else what it held before, overlaid with
what was registered in it since. A chain finds the filter of its first registry, or else the one of
its second, and has a name just when it finds a filter. -/
theorem run_holds_writes {start : Registries} (hstart : ∀ p, (start.pick p).Made)
    (history : List (RegistryPlace × RegistryEdit)) :
    (∀ p, ∀ x ∈ ((start.run history).pick p).table, x.2.isCallable = true) ∧
    (∀ p e, (e.Refused ↔ ∃ err, ((start.run history).edit p e).2.result = .error err) ∧
      ∀ err, ((start.run history).edit p e).2.result = .error err →
        ((start.run history).edit p e).1 = start.run history ∧ ∃ name, err = .notCallable name) ∧
    (∀ p,
      ((∀ t, .replace t ∈ editsAt p history → (RegistryEdit.replace t).Refused) →
        ((start.run history).pick p).table.Holds
          ((start.pick p).table ++ (editsAt p history).filterMap RegistryEdit.registered?)) ∧
      ∀ before t after, editsAt p history = before ++ .replace t :: after →
        ¬ (RegistryEdit.replace t).Refused →
        (∀ t', .replace t' ∈ after → (RegistryEdit.replace t').Refused) →
        ((start.run history).pick p).table.Holds
          (t ++ after.filterMap RegistryEdit.registered?)) ∧
    ∀ p q name,
      (((start.run history).chain p q).resolve name =
        if ((start.run history).pick p).has name then ((start.run history).pick p).get name
        else ((start.run history).pick q).get name) ∧
      (((start.run history).chain p q).has name = true ↔
        ((start.run history).chain p q).resolve name ≠ .nothing) := by
  have hmade := made_run hstart history
  refine ⟨fun p => (hmade p).callable, ?_, ?_, ?_⟩
  · intro p e
    refine ⟨⟨exists_error_of_refused p, ?_⟩, ?_⟩
    · rintro ⟨err, herr⟩
      exact (edit_refused herr).2.1
    · intro err herr
      obtain ⟨hsame, -, hname⟩ := edit_refused herr
      exact ⟨hsame, hname⟩
  · intro p
    rw [table_run]
    constructor
    · intro hrefused
      rw [foldl_apply hrefused]
      exact (FilterTable.holds_self (hstart p).nodup).foldl_insert _
    · intro before t after hedits haccepted hrefused
      have ht : ¬ t.firstBad?.isSome = true := by
        rwa [RegistryEdit.refused_replace_iff, ← Option.isSome_iff_ne_none] at haccepted
      rw [hedits, List.foldl_append, List.foldl_cons, RegistryEdit.apply, if_neg ht,
        foldl_apply hrefused]
      exact (FilterTable.holds_distinct t).foldl_insert _
  · intro p q name
    exact ⟨Chain.resolve_eq (hmade p) name, Chain.has_iff (hmade p) (hmade q) name⟩

/-- Registries with one filter besides the built-in ones. -/
def fewFilters : Registries :=
  ⟨⟨"instance", []⟩, ⟨"fallback", [("trim", .filter Filter.squish)]⟩, .shared⟩

/-- Changes, of which the second, the third and the last one are refused or register nothing. -/
def mixedHistory : List (RegistryPlace × RegistryEdit) :=
  [(.own, .replace [("a", .filter Filter.trim), ("b", .filter Filter.squish)]),
    (.own, .replace [("c", .filter Filter.lower), ("a", .nothing)]),
    (.own, .decorate "c" .nothing),
    (.own, .register "a" (.filter Filter.upper)),
    (.shared, .replace [("d", .filter Filter.lower)]),
    (.own, .decorate "d" (.filter Filter.bool)),
    (.fallback, .register "a" (.ofValue (.str "x")))]

theorem fewFilters_made (p : RegistryPlace) : (fewFilters.pick p).Made := by
  cases p with
  | own => exact .build (show (Registry.build "instance" []).result = .ok _ from rfl)
  | fallback =>
    exact .build
      (show (Registry.build "fallback" [("trim", .filter Filter.squish)]).result = .ok _ from rfl)
  | shared => exact .shared

/-- The name that is registered again keeps its place. -/
theorem run_holds_mixed_history :
    (∀ p, (fewFilters.pick p).Made) ∧
    ((fewFilters.run mixedHistory).pick .own).names = ["a", "b", "d"] ∧
    ((fewFilters.run mixedHistory).pick .own).get "a" = .filter Filter.upper ∧
    ((fewFilters.run mixedHistory).pick .fallback).names = ["trim"] := by
  obtain ⟨-, -, hcontent, -⟩ := run_holds_writes fewFilters_made mixedHistory
  have hown := (hcontent .own).2 [] [("a", .filter Filter.trim), ("b", .filter Filter.squish)]
    [.replace [("c", .filter Filter.lower), ("a", .nothing)], .decorate "c" .nothing,
      .register "a" (.filter Filter.upper), .decorate "d" (.filter Filter.bool)] rfl
    (by simp [RegistryEdit.Refused, Candidate.isCallable])
    (by rintro t ht
        obtain rfl : t = [("c", .filter Filter.lower), ("a", .nothing)] := by simpa using ht
        exact ⟨("a", .nothing), by simp, rfl⟩)
  have hfallback := (hcontent .fallback).1 (by simp [editsAt, mixedHistory])
  refine ⟨fewFilters_made, ?_, ?_, ?_⟩
  · exact hown.names.trans (by decide)
  · exact hown.values "a"
  · exact hfallback.names.trans (by decide)

end Run

end Registries

end Gleaner

import Gleaner.Filter.Registry
import Mathlib.Data.List.Nodup

/-! # What a table of filters holds

A table answers two questions: which names it has, in order, and which candidate a name has. Both
answers follow the writes that made the table: a name stands where it was first written and has the
candidate that was written last (`Holds.foldl_insert`). -/

namespace Gleaner.FilterTable

variable {t : FilterTable} {name : String} {c : Candidate}

/-- Whether everything in a table can be called. -/
def Callable (t : FilterTable) : Prop := ∀ x ∈ t, x.2.isCallable = true

/-- A table that holds what was written, the oldest write first. -/
structure Holds (t : FilterTable) (writes : List (String × Candidate)) : Prop where
  names : t.map (·.1) = (writes.map (·.1)).eraseDups
  values : ∀ name, t.get name = get writes.reverse name

section Get

theorem get_cons (n m : String) (c : Candidate) (t : FilterTable) :
    get ((n, c) :: t) m = if m = n then c else t.get m := by
  by_cases h : m = n
  · subst h
    simp [get]
  · have hb : (m == n) = false := by simpa using h
    simp [get, List.lookup_cons, hb, h]

theorem get_insert (t : FilterTable) (n m : String) (c : Candidate) :
    (t.insert n c).get m = if m = n then c else t.get m := by
  induction t with
  | nil => exact get_cons n m c []
  | cons x t ih =>
    obtain ⟨k, d⟩ := x
    rw [insert]
    split
    next h =>
      subst h
      rw [get_cons, get_cons]
      split <;> rfl
    next h =>
      rw [get_cons, ih, get_cons]
      -- The name cannot be both the one in front and the one that is set.
      by_cases hk : m = k
      · have hn : m ≠ n := fun hn => h (hk.symm.trans hn)
        rw [if_pos hk, if_neg hn, if_pos hk]
      · rw [if_neg hk, if_neg hk]

theorem has_cons (n m : String) (c : Candidate) (t : FilterTable) :
    has ((n, c) :: t) m = (decide (n = m) || t.has m) := rfl

theorem get_of_has_eq_false (h : t.has name = false) : t.get name = .nothing := by
  induction t with
  | nil => rfl
  | cons x t ih =>
    obtain ⟨n, c⟩ := x
    rw [has_cons, Bool.or_eq_false_iff, decide_eq_false_iff_not] at h
    rw [get_cons, if_neg (Ne.symm h.1), ih h.2]

/-- In a table of filters a name that occurs has one, and a name that does not has nothing. -/
theorem get_spec (h : t.Callable) (name : String) :
    (t.has name = true ∧ ∃ f, t.get name = .filter f) ∨
      (t.has name = false ∧ t.get name = .nothing) := by
  induction t with
  | nil => exact .inr ⟨rfl, rfl⟩
  | cons x t ih =>
    obtain ⟨n, c⟩ := x
    obtain ⟨hc, ht⟩ := List.forall_mem_cons.mp h
    rw [has_cons, get_cons]
    by_cases hn : name = n
    · subst hn
      cases c with
      | filter f => exact .inl ⟨by simp, f, if_pos rfl⟩
      | nothing | other => simp [Candidate.isCallable] at hc
    · rw [if_neg hn, decide_eq_false (Ne.symm hn), Bool.false_or]
      exact ih ht

end Get

section Insert

theorem map_fst_insert (t : FilterTable) (n : String) (c : Candidate) :
    (t.insert n c).map (·.1) =
      if n ∈ t.map (·.1) then t.map (·.1) else t.map (·.1) ++ [n] := by
  induction t with
  | nil => rfl
  | cons x t ih =>
    obtain ⟨k, d⟩ := x
    rw [insert]
    split
    next h =>
      subst h
      simp
    next h =>
      have hk : n ≠ k := Ne.symm h
      simp only [List.map_cons, List.mem_cons, hk, false_or, ih]
      split <;> rfl

theorem insert_of_notMem (h : name ∉ t.map (·.1)) : t.insert name c = t ++ [(name, c)] := by
  induction t with
  | nil => rfl
  | cons x t ih =>
    rw [List.map_cons, List.mem_cons, not_or] at h
    rw [insert, if_neg (Ne.symm h.1), ih h.2]
    rfl

theorem mem_insert {x : String × Candidate} (h : x ∈ t.insert name c) : x = (name, c) ∨ x ∈ t := by
  induction t with
  | nil => exact .inl (List.mem_singleton.mp h)
  | cons y t ih =>
    obtain ⟨n, d⟩ := y
    rw [insert] at h
    split at h
    next hn =>
      rcases List.mem_cons.mp h with rfl | h
      · exact .inl (by rw [hn])
      · exact .inr (List.mem_cons_of_mem _ h)
    next =>
      rcases List.mem_cons.mp h with rfl | h
      · exact .inr List.mem_cons_self
      · exact (ih h).imp_right (List.mem_cons_of_mem _)

theorem nodup_insert (h : (t.map (·.1)).Nodup) (name : String) (c : Candidate) :
    ((t.insert name c).map (·.1)).Nodup := by
  rw [map_fst_insert]
  split
  next => exact h
  next hn =>
    refine List.nodup_append.mpr ⟨h, List.nodup_singleton name, ?_⟩
    rintro a ha b hb rfl
    exact hn (List.mem_singleton.mp hb ▸ ha)

theorem nodup_foldl_insert (h : (t.map (·.1)).Nodup) (writes : List (String × Candidate)) :
    ((writes.foldl (fun t (n, c) => t.insert n c) t).map (·.1)).Nodup := by
  induction writes generalizing t with
  | nil => exact h
  | cons w writes ih => exact ih (nodup_insert h w.1 w.2)

theorem Callable.insert (h : t.Callable) (hc : c.isCallable = true) :
    (t.insert name c).Callable := by
  intro x hx
  rcases mem_insert hx with rfl | hx
  · exact hc
  · exact h x hx

theorem Callable.foldl_insert {writes : List (String × Candidate)} (hw : Callable writes)
    (h : t.Callable) : (writes.foldl (fun t (n, c) => t.insert n c) t).Callable := by
  induction writes generalizing t with
  | nil => exact h
  | cons w writes ih =>
    obtain ⟨hc, hw⟩ := List.forall_mem_cons.mp hw
    exact ih hw (h.insert hc)

end Insert

section Holds

variable {writes more : List (String × Candidate)}

theorem holds_nil : Holds [] [] := ⟨rfl, fun _ => rfl⟩

/-- A write goes to the end of the table if its name is new, and else to where the name stands. -/
theorem Holds.insert (h : t.Holds writes) (name : String) (c : Candidate) :
    (t.insert name c).Holds (writes ++ [(name, c)]) := by
  constructor
  · have hmem : name ∈ t.map (·.1) ↔ name ∈ writes.map (·.1) := by
      rw [h.names, List.mem_eraseDups]
    rw [map_fst_insert, List.map_append, List.eraseDups_append, h.names]
    by_cases hn : name ∈ writes.map (·.1)
    · have hold : [name].removeAll (writes.map (·.1)) = [] := by
        simpa [List.removeAll] using hn
      rw [if_pos (by rwa [List.mem_eraseDups]), List.map_singleton, hold]
      simp
    · have hnew : [name].removeAll (writes.map (·.1)) = [name] := by
        simpa [List.removeAll] using hn
      rw [if_neg (by rwa [List.mem_eraseDups]), List.map_singleton, hnew]
      rfl
  · intro m
    rw [get_insert, List.reverse_append, List.reverse_singleton, List.singleton_append, get_cons,
      h.values]

/-- **Later writes overlay a table.** -/
theorem Holds.foldl_insert (h : t.Holds writes) (more : List (String × Candidate)) :
    (more.foldl (fun t (n, c) => t.insert n c) t).Holds (writes ++ more) := by
  induction more generalizing t writes with
  | nil => simpa using h
  | cons w more ih =>
    rw [← List.singleton_append, ← List.append_assoc]
    exact ih (h.insert w.1 w.2)

theorem holds_distinct (t : FilterTable) : t.distinct.Holds t := holds_nil.foldl_insert t

theorem foldl_insert_of_nodup (h : ((t ++ more).map (·.1)).Nodup) :
    more.foldl (fun t (n, c) => t.insert n c) t = t ++ more := by
  induction more generalizing t with
  | nil => exact (List.append_nil t).symm
  | cons w more ih =>
    obtain ⟨n, c⟩ := w
    have hn : n ∉ t.map (·.1) := by
      rw [List.map_append, List.nodup_append] at h
      exact fun hn => h.2.2 n hn n (by simp) rfl
    have hsplit : t ++ (n, c) :: more = (t ++ [(n, c)]) ++ more := by simp
    rw [List.foldl_cons, hsplit]
    change more.foldl _ (t.insert n c) = _
    rw [insert_of_notMem hn]
    exact ih (hsplit ▸ h)

/-- A table holds itself when no name occurs twice. -/
theorem holds_self (h : (t.map (·.1)).Nodup) : t.Holds t := by
  have hd : t.distinct = t := foldl_insert_of_nodup (t := []) h
  conv => lhs; rw [← hd]
  exact holds_distinct t

end Holds

end Gleaner.FilterTable

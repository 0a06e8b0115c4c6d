import Gleaner.Text.Basic
import Mathlib.Data.List.Basic
import Mathlib.Data.List.Flatten
import Mathlib.Data.List.TakeWhile

/-! # Trimming, cutting and splitting

What the three ways of taking a text apart give back. Each of them only drops characters, and each
of them undoes the way of writing that it reads. -/

namespace Gleaner.Text

section Trim

variable {s : List Char}

theorem trimStart_sublist (s : List Char) : (trimStart s).Sublist s := List.dropWhile_sublist _

theorem trimEnd_sublist (s : List Char) : (trimEnd s).Sublist s := by
  simpa [trimEnd] using (List.dropWhile_sublist isBlank (l := s.reverse)).reverse

theorem trim_sublist (s : List Char) : (trim s).Sublist s :=
  (trimEnd_sublist _).trans (trimStart_sublist s)

theorem trimStart_suffix (s : List Char) : trimStart s <:+ s := List.dropWhile_suffix _

theorem trimEnd_prefix (s : List Char) : trimEnd s <+: s := by
  rw [trimEnd, ← List.reverse_suffix, List.reverse_reverse]
  exact List.dropWhile_suffix isBlank

theorem trimStart_eq_nil_iff : trimStart s = [] ↔ ∀ c ∈ s, isBlank c = true :=
  List.dropWhile_eq_nil_iff

theorem trimEnd_eq_nil_iff : trimEnd s = [] ↔ ∀ c ∈ s, isBlank c = true := by
  rw [trimEnd, List.reverse_eq_nil_iff, List.dropWhile_eq_nil_iff]
  simp only [List.mem_reverse]

theorem trimStart_eq_self_iff : trimStart s = s ↔ ∀ c ∈ s.head?, isBlank c = false := by
  cases s with
  | nil => simp [trimStart]
  | cons c r => simp [trimStart]

theorem trimEnd_eq_self_iff : trimEnd s = s ↔ ∀ c ∈ s.getLast?, isBlank c = false := by
  rw [← List.head?_reverse, ← trimStart_eq_self_iff (s := s.reverse), trimEnd, trimStart]
  exact List.reverse_eq_iff

/-- A text is trimmed when no blank stands at either end. -/
theorem trim_eq_self_iff :
    trim s = s ↔ (∀ c ∈ s.head?, isBlank c = false) ∧ (∀ c ∈ s.getLast?, isBlank c = false) := by
  rw [← trimStart_eq_self_iff, ← trimEnd_eq_self_iff, trim]
  refine ⟨fun h => ?_, fun ⟨hs, he⟩ => by rw [hs, he]⟩
  have hs : trimStart s = s := by
    refine (trimStart_sublist s).eq_of_length_le ?_
    conv => lhs; rw [← h]
    exact (trimEnd_sublist _).length_le
  exact ⟨hs, by rwa [hs] at h⟩

/-- What is left once the leading blanks are off does not begin with a blank. -/
theorem isBlank_of_mem_head? {c : Char} (h : c ∈ (trimStart s).head?) : isBlank c = false := by
  have hnot := List.head?_dropWhile_not isBlank s
  rwa [show (s.dropWhile isBlank).head? = some c from h] at hnot

theorem trim_trim (s : List Char) : trim (trim s) = trim s := by
  rw [trim_eq_self_iff]
  constructor
  · intro c hc
    obtain ⟨t, ht⟩ := trimEnd_prefix (trimStart s)
    refine isBlank_of_mem_head? (s := s) ?_
    rw [← ht, List.head?_append, show (trimEnd (trimStart s)).head? = some c from hc]
    rfl
  · intro c hc
    rw [trim, trimEnd, List.getLast?_reverse] at hc
    exact isBlank_of_mem_head? (s := (trimStart s).reverse) hc

theorem trim_eq_nil_iff : trim s = [] ↔ ∀ c ∈ s, isBlank c = true := by
  refine ⟨fun h => ?_, fun h => ?_⟩
  · have hend : ∀ c ∈ trimStart s, isBlank c = true := trimEnd_eq_nil_iff.mp h
    -- A first character would have to be blank and not blank.
    have hstart : trimStart s = [] := by
      rw [← List.head?_eq_none_iff, Option.eq_none_iff_forall_not_mem]
      intro c hc
      have := hend c (List.mem_of_mem_head? hc)
      rw [isBlank_of_mem_head? hc] at this
      exact absurd this (by simp)
    exact trimStart_eq_nil_iff.mp hstart
  · rw [trim, trimStart_eq_nil_iff.mpr h]
    rfl

theorem hasBlank_eq_false_iff : hasBlank s = false ↔ ∀ c ∈ s, isBlank c = false := by
  simp [hasBlank]

theorem trim_cons_of_isBlank {c : Char} (h : isBlank c = true) (s : List Char) :
    trim (c :: s) = trim s := by
  rw [trim, trimStart, List.dropWhile_cons_of_pos h]
  rfl

theorem trim_concat_of_isBlank {c : Char} (h : isBlank c = true) (s : List Char) :
    trim (s ++ [c]) = trim s := by
  rw [trim, trimStart, List.dropWhile_append]
  split
  next hall =>
    -- Nothing but blanks: both sides are empty.
    have hnil : s.dropWhile isBlank = [] := by simpa using hall
    rw [List.dropWhile_cons_of_pos h, trim, trimStart, hnil]
    rfl
  next =>
    rw [trimEnd, List.reverse_append, List.reverse_singleton, List.singleton_append,
      List.dropWhile_cons_of_pos h]
    rfl

theorem trimStart_append {t : List Char} (ht : ∀ c ∈ t.head?, isBlank c = false) (p : List Char) :
    trimStart (p ++ t) = trimStart p ++ t := by
  have hself : t.dropWhile isBlank = t := trimStart_eq_self_iff.mpr ht
  rw [trimStart, List.dropWhile_append, hself]
  split
  next hnil => rw [trimStart, List.isEmpty_iff.mp hnil, List.nil_append]
  next => rfl

theorem trimEnd_append {t : List Char} (ht : ∀ c ∈ t.getLast?, isBlank c = false)
    (q : List Char) : trimEnd (t ++ q) = t ++ trimEnd q := by
  have h := trimStart_append (t := t.reverse) (by simpa using ht) q.reverse
  rw [trimStart, trimStart, ← List.reverse_append] at h
  rw [trimEnd, h, List.reverse_append, List.reverse_reverse]
  rfl

/-- Trimming takes blanks off both ends. -/
theorem exists_blanks_around (s : List Char) : ∃ p q, s = p ++ trim s ++ q ∧
    (∀ c ∈ p, isBlank c = true) ∧ ∀ c ∈ q, isBlank c = true := by
  refine ⟨s.takeWhile isBlank, ((trimStart s).reverse.takeWhile isBlank).reverse, ?_,
    fun c hc => List.mem_takeWhile_imp hc, fun c hc => ?_⟩
  · have hend : trimStart s = trim s ++ ((trimStart s).reverse.takeWhile isBlank).reverse := by
      rw [trim, trimEnd, ← List.reverse_append, List.takeWhile_append_dropWhile,
        List.reverse_reverse]
    rw [List.append_assoc, ← hend]
    exact List.takeWhile_append_dropWhile.symm
  · exact List.mem_takeWhile_imp (List.mem_reverse.mp hc)

/-- Trimming leaves a beginning without blanks where it is. -/
theorem prefix_trim {t : List Char} (h : t <+: s) (ht : ∀ c ∈ t, isBlank c = false) :
    t <+: trim s := by
  obtain ⟨r, rfl⟩ := h
  cases t with
  | nil => exact List.nil_prefix
  | cons c t =>
    have hstart : trimStart (c :: t ++ r) = c :: t ++ r :=
      trimStart_eq_self_iff.mpr (by simpa using ht c List.mem_cons_self)
    rw [trim, hstart, trimEnd_append fun d hd => ht d (List.mem_of_mem_getLast? hd)]
    exact List.prefix_append (c :: t) (trimEnd r)

theorem trim_prefix_of_head (h : ∀ c ∈ s.head?, isBlank c = false) : trim s <+: s := by
  rw [trim, trimStart_eq_self_iff.mpr h]
  exact trimEnd_prefix s

/-- A text that is not trimmed loses blanks when it is. -/
theorem countP_trim_lt (h : trim s ≠ s) : (trim s).countP isBlank < s.countP isBlank := by
  obtain ⟨p, q, hs, hp, hq⟩ := exists_blanks_around s
  have hcount : s.countP isBlank = p.length + (trim s).countP isBlank + q.length := by
    conv => lhs; rw [hs]
    rw [List.countP_append, List.countP_append, List.countP_eq_length.mpr hp,
      List.countP_eq_length.mpr hq]
  by_contra hle
  obtain rfl : p = [] := List.eq_nil_of_length_eq_zero (by omega)
  obtain rfl : q = [] := List.eq_nil_of_length_eq_zero (by omega)
  exact h (by rw [List.nil_append, List.append_nil] at hs; exact hs.symm)

/-- Around a text without blanks each side is trimmed on its own. -/
theorem trim_around {t : List Char} (hne : t ≠ []) (ht : ∀ c ∈ t, isBlank c = false)
    (p q : List Char) : trim (p ++ t ++ q) = trimStart p ++ t ++ trimEnd q := by
  have hhead : ∀ c ∈ (t ++ q).head?, isBlank c = false := by
    intro c hc
    rw [List.head?_append_of_ne_nil t hne] at hc
    exact ht c (List.mem_of_mem_head? hc)
  have hlast : ∀ c ∈ (trimStart p ++ t).getLast?, isBlank c = false := by
    intro c hc
    rw [List.getLast?_append_of_ne_nil _ hne] at hc
    exact ht c (List.mem_of_mem_getLast? hc)
  rw [trim, List.append_assoc, trimStart_append hhead, ← List.append_assoc, trimEnd_append hlast]

/-- Blanks around a text without blanks come off. -/
theorem trim_blanks_around {p t q : List Char} (hne : t ≠ []) (ht : ∀ c ∈ t, isBlank c = false)
    (hp : ∀ c ∈ p, isBlank c = true) (hq : ∀ c ∈ q, isBlank c = true) :
    trim (p ++ t ++ q) = t := by
  rw [trim_around hne ht, trimStart_eq_nil_iff.mpr hp, trimEnd_eq_nil_iff.mpr hq, List.nil_append,
    List.append_nil]

/-- A text between two others without blanks keeps its blanks. -/
theorem trim_between {s t : List Char} (hs : s ≠ []) (hs' : ∀ c ∈ s, isBlank c = false)
    (ht : t ≠ []) (ht' : ∀ c ∈ t, isBlank c = false) (gap : List Char) :
    trim (s ++ gap ++ t) = s ++ gap ++ t := by
  rw [trim_eq_self_iff]
  constructor
  · intro c hc
    rw [List.append_assoc, List.head?_append_of_ne_nil s hs] at hc
    exact hs' c (List.mem_of_mem_head? hc)
  · intro c hc
    rw [List.getLast?_append_of_ne_nil _ ht] at hc
    exact ht' c (List.mem_of_mem_getLast? hc)

/-- A text without blanks is trimmed. -/
theorem trim_of_hasBlank (h : hasBlank s = false) : trim s = s := by
  rw [hasBlank_eq_false_iff] at h
  exact trim_eq_self_iff.mpr ⟨fun c hc => h c (List.mem_of_mem_head? hc),
    fun c hc => h c (List.mem_of_mem_getLast? hc)⟩

end Trim

section Cut

variable {sep : Char}

theorem cutAt_of_notMem {s : List Char} (h : sep ∉ s) : cutAt sep s = (s, none) := by
  have hall : ∀ c ∈ s, decide (c ≠ sep) = true := fun c hc =>
    decide_eq_true (ne_of_mem_of_not_mem hc h)
  rw [cutAt, List.takeWhile_eq_self_iff.mpr hall, List.dropWhile_eq_nil_iff.mpr hall]

theorem cutAt_append {a : List Char} (h : sep ∉ a) (b : List Char) :
    cutAt sep (a ++ sep :: b) = (a, some b) := by
  have hall : ∀ c ∈ a, decide (c ≠ sep) = true := fun c hc =>
    decide_eq_true (ne_of_mem_of_not_mem hc h)
  rw [cutAt, List.takeWhile_append_of_pos hall, List.dropWhile_append_of_pos hall]
  simp

/-- A text is cut at its first separator, if it has one. -/
theorem cutAt_spec (sep : Char) (s : List Char) : ∃ before after,
    cutAt sep s = (before, after) ∧ sep ∉ before ∧ before ++ after.elim [] (sep :: ·) = s := by
  by_cases h : sep ∈ s
  · obtain ⟨a, b, rfl, ha⟩ := List.eq_append_cons_of_mem h
    exact ⟨a, some b, cutAt_append ha b, ha, rfl⟩
  · exact ⟨s, none, cutAt_of_notMem h, h, List.append_nil s⟩

theorem notMem_cutAt (sep : Char) (s : List Char) : sep ∉ (cutAt sep s).1 := by
  obtain ⟨before, after, hcut, hsep, -⟩ := cutAt_spec sep s
  rwa [hcut]

theorem prefix_of_cutAt (sep : Char) (s : List Char) : (cutAt sep s).1 <+: s :=
  List.takeWhile_prefix _

theorem mem_of_mem_cutAt {s : List Char} {c : Char} (h : c ∈ (cutAt sep s).2.getD []) : c ∈ s := by
  obtain ⟨before, after, hcut, -, hs⟩ := cutAt_spec sep s
  rw [hcut] at h
  rw [← hs]
  cases after with
  | none => cases h
  | some after => exact List.mem_append_right _ (List.mem_cons_of_mem _ h)

theorem cutAtLast?_eq_some {s before after : List Char}
    (h : cutAtLast? sep s = some (before, after)) : s = before ++ sep :: after := by
  obtain ⟨a, b, hcut, -, hs⟩ := cutAt_spec sep s.reverse
  unfold cutAtLast? at h
  rw [hcut] at h
  cases b with
  | none => cases h
  | some b =>
    cases h
    rw [← List.reverse_reverse s, ← hs]
    simp

theorem cutAtLast?_of_notMem {s : List Char} (h : sep ∉ s) : cutAtLast? sep s = none := by
  rw [cutAtLast?, cutAt_of_notMem (by simpa using h)]

theorem cutAtLast?_append {b : List Char} (h : sep ∉ b) (a : List Char) :
    cutAtLast? sep (a ++ sep :: b) = some (a, b) := by
  have hreverse : (a ++ sep :: b).reverse = b.reverse ++ sep :: a.reverse := by simp
  rw [cutAtLast?, hreverse, cutAt_append (by simpa using h)]
  dsimp only
  rw [List.reverse_reverse, List.reverse_reverse]

end Cut

section Split

variable {sep : Char}

/-- The pieces between separators are those of the library. -/
theorem splitOn_eq (sep : Char) (s : List Char) : splitOn sep s = s.splitOn sep := by
  induction s with
  | nil => rfl
  | cons c r ih =>
    rw [splitOn, List.splitOn_cons_eq_if_modifyHead, ← ih]
    by_cases h : c = sep
    · simp [h]
    · simp only [h, if_false, beq_iff_eq]
      cases hr : splitOn sep r with
      | nil => exact absurd (ih.symm.trans hr) (List.splitOn_ne_nil sep r)
      | cons p ps => rfl

theorem splitOn_ne_nil (sep : Char) (s : List Char) : splitOn sep s ≠ [] := by
  rw [splitOn_eq]
  exact List.splitOn_ne_nil sep s

theorem notMem_of_mem_splitOn {s p : List Char} (h : p ∈ splitOn sep s) : sep ∉ p := by
  induction s generalizing p with
  | nil => simp_all [splitOn]
  | cons c r ih =>
    rw [splitOn] at h
    split at h
    · rcases List.mem_cons.mp h with rfl | h
      · exact List.not_mem_nil
      · exact ih h
    next hc =>
      split at h
      next hr => exact absurd hr (splitOn_ne_nil sep r)
      next p' ps hr =>
        rcases List.mem_cons.mp h with rfl | h
        · have := ih (p := p') (by rw [hr]; exact List.mem_cons_self)
          simpa [this] using fun h : sep = c => hc h.symm
        · exact ih (by rw [hr]; exact List.mem_cons_of_mem _ h)

theorem join_splitOn (sep : Char) (s : List Char) : join [sep] (splitOn sep s) = s := by
  rw [splitOn_eq, join, List.intercalate_splitOn]

theorem splitOn_join {ps : List (List Char)} (hne : ps ≠ []) (h : ∀ p ∈ ps, sep ∉ p) :
    splitOn sep (join [sep] ps) = ps := by
  rw [splitOn_eq, join, List.splitOn_intercalate sep h hne]

theorem join_cons {p : List Char} {ps : List (List Char)} (hne : ps ≠ []) (sep : Char) :
    join [sep] (p :: ps) = p ++ sep :: join [sep] ps := by
  simp [join, List.intercalate_cons_of_ne_nil hne]

@[simp]
theorem join_singleton (sep p : List Char) : join sep [p] = p := List.intercalate_singleton

/-- Joining commutes with a map that leaves the separator alone and keeps appending. -/
theorem flatMap_join {f : Char → List Char} (hf : f sep = [sep]) (ps : List (List Char)) :
    (join [sep] ps).flatMap f = join [sep] (ps.map (·.flatMap f)) := by
  induction ps with
  | nil => rfl
  | cons p ps ih =>
    cases ps with
    | nil => simp
    | cons q qs =>
      have hne : (q :: qs).map (·.flatMap f) ≠ [] := by simp
      rw [join_cons (List.cons_ne_nil q qs), List.map_cons, join_cons hne, List.flatMap_append,
        List.flatMap_cons, hf, ih]
      rfl

theorem join_map_sublist {f : List Char → List Char} (hf : ∀ p, (f p).Sublist p)
    (ps : List (List Char)) : (join [sep] (ps.map f)).Sublist (join [sep] ps) := by
  induction ps with
  | nil => exact .slnil
  | cons p ps ih =>
    cases ps with
    | nil => simpa using hf p
    | cons q qs =>
      rw [List.map_cons, join_cons (by simp), join_cons (by simp)]
      exact (hf p).append (ih.cons_cons sep)

/-- What trimmed texts are joined to is trimmed, when the separator is not blank. -/
theorem trim_join (hsep : isBlank sep = false) {ps : List (List Char)}
    (h : ∀ p ∈ ps, trim p = p) : trim (join [sep] ps) = join [sep] ps := by
  induction ps with
  | nil => rfl
  | cons p ps ih =>
    cases ps with
    | nil => simpa using h p List.mem_cons_self
    | cons q qs =>
      have hp := trim_eq_self_iff.mp (h p List.mem_cons_self)
      have hq := trim_eq_self_iff.mp (ih fun r hr => h r (List.mem_cons_of_mem p hr))
      rw [join_cons (by simp), trim_eq_self_iff]
      constructor
      · intro c hc
        cases p with
        | nil =>
          obtain rfl : sep = c := by simpa using hc
          exact hsep
        | cons d p => exact hp.1 c (by simpa using hc)
      · intro c hc
        rw [List.getLast?_append, List.getLast?_cons] at hc
        cases hl : (join [sep] (q :: qs)).getLast? with
        | none =>
          obtain rfl : sep = c := by simpa [hl] using hc
          exact hsep
        | some d => exact hq.2 c (by simpa [hl] using hc)

end Split

end Gleaner.Text

import Gleaner.Text.Basic
import Mathlib.Data.List.Infix

/-! # Occurrences in a text

Where one text occurs in another, what is left when every occurrence is replaced, and where a
character stands last. A text whose characters stand nowhere else occurs just where it was put. -/

namespace Gleaner.Text

section Occurs

theorem occursIn_iff {sub s : List Char} : occursIn sub s = true ↔ sub <:+: s := by
  induction s with
  | nil => simp [occursIn]
  | cons c r ih =>
    rw [occursIn, Bool.or_eq_true, List.isPrefixOf_iff_prefix, ih, List.infix_cons_iff]

theorem infix_of_infix_append_left {sub a t : List Char} (hne : sub ≠ []) (ha : ∀ c ∈ sub, c ∉ a)
    (h : sub <:+: a ++ t) : sub <:+: t := by
  induction a with
  | nil => exact h
  | cons d a ih =>
    have ha' : ∀ c ∈ sub, c ∉ a := fun c hc hmem => ha c hc (List.mem_cons_of_mem d hmem)
    rw [List.cons_append, List.infix_cons_iff] at h
    rcases h with hstart | h
    · -- An occurrence at the front would begin with `d`.
      cases sub with
      | nil => exact absurd rfl hne
      | cons c sub =>
        obtain rfl : c = d := (List.cons_prefix_cons.mp hstart).1
        exact absurd List.mem_cons_self (ha c List.mem_cons_self)
    · exact ih ha' h

/-- A text that shares no character with what stands around occurs in the middle. -/
theorem infix_of_infix_middle {sub a m b : List Char} (hne : sub ≠ []) (ha : ∀ c ∈ sub, c ∉ a)
    (hb : ∀ c ∈ sub, c ∉ b) (h : sub <:+: a ++ m ++ b) : sub <:+: m := by
  have hright : sub <:+: m ++ b := by
    rw [List.append_assoc] at h
    exact infix_of_infix_append_left hne ha h
  rw [← List.reverse_infix, List.reverse_append] at hright
  rw [← List.reverse_infix]
  refine infix_of_infix_append_left (by simpa using hne) ?_ hright
  intro c hc
  rw [List.mem_reverse] at hc ⊢
  exact hb c hc

/-- An occurrence does not reach over a character that it lacks. -/
theorem infix_or_infix_of_cons {sub a b : List Char} {d : Char} (hd : d ∉ sub)
    (h : sub <:+: a ++ d :: b) : sub <:+: a ∨ sub <:+: b := by
  induction a with
  | nil =>
    rw [List.nil_append, List.infix_cons_iff] at h
    refine h.imp_left fun hstart => ?_
    cases sub with
    | nil => exact List.nil_infix
    | cons c sub =>
      obtain rfl : c = d := (List.cons_prefix_cons.mp hstart).1
      exact absurd List.mem_cons_self hd
  | cons c a ih =>
    rw [List.cons_append, List.infix_cons_iff] at h
    rcases h with hstart | h
    · refine .inl (List.IsPrefix.isInfix ?_)
      have hfront : c :: a <+: c :: (a ++ d :: b) := List.prefix_append (c :: a) (d :: b)
      rcases List.prefix_or_prefix_of_prefix hstart hfront with hsub | ⟨u, hu⟩
      · exact hsub
      · -- What goes on behind `a` would go on with `d`.
        cases u with
        | nil => rw [← hu, List.append_nil]
        | cons e u =>
          have htail : e :: u <+: d :: b := by
            rw [← hu] at hstart
            exact (List.prefix_append_right_inj (c :: a)).mp hstart
          obtain rfl : e = d := (List.cons_prefix_cons.mp htail).1
          exact absurd (hu ▸ by simp) hd
    · exact (ih h).imp_left fun h => h.trans (List.suffix_cons c a).isInfix

/-- A text that shares no character with the middle occurs on one side of it. -/
theorem infix_or_infix_around {sub a t b : List Char} (hne : t ≠ []) (ht : ∀ c ∈ sub, c ∉ t)
    (h : sub <:+: a ++ t ++ b) : sub <:+: a ∨ sub <:+: b := by
  cases t with
  | nil => exact absurd rfl hne
  | cons d r =>
    have hd : d ∉ sub := fun hmem => ht d hmem List.mem_cons_self
    rw [List.append_assoc, List.cons_append] at h
    refine (infix_or_infix_of_cons hd h).imp_right fun hright => ?_
    by_cases hnil : sub = []
    · rw [hnil]
      exact List.nil_infix
    · exact infix_of_infix_append_left hnil
        (fun c hc hmem => ht c hc (List.mem_cons_of_mem d hmem)) hright

end Occurs

section Replace

variable {old new : List Char}

theorem replaceFrom_append {a : List Char} (hne : old ≠ []) (ha : ∀ c ∈ old, c ∉ a)
    (t : List Char) : replaceFrom old new 0 (a ++ t) = a ++ replaceFrom old new 0 t := by
  induction a with
  | nil => rfl
  | cons d a ih =>
    have ha' : ∀ c ∈ old, c ∉ a := fun c hc hmem => ha c hc (List.mem_cons_of_mem d hmem)
    rw [List.cons_append, replaceFrom, if_neg, ih ha', List.cons_append]
    intro hstart
    cases old with
    | nil => exact hne rfl
    | cons c old =>
      rw [List.isPrefixOf_iff_prefix, List.cons_prefix_cons] at hstart
      exact ha c List.mem_cons_self (by rw [hstart.1]; exact List.mem_cons_self)

theorem replaceFrom_of_notMem {s : List Char} (hne : old ≠ []) (hs : ∀ c ∈ old, c ∉ s) :
    replaceFrom old new 0 s = s := by
  simpa [replaceFrom] using replaceFrom_append hne hs []

theorem replaceFrom_skip (u t : List Char) :
    replaceFrom old new u.length (u ++ t) = replaceFrom old new 0 t := by
  induction u with
  | nil => rfl
  | cons c u ih =>
    rw [List.length_cons, List.cons_append, replaceFrom]
    exact ih

theorem replaceFrom_self_append (hne : old ≠ []) (t : List Char) :
    replaceFrom old new 0 (old ++ t) = new ++ replaceFrom old new 0 t := by
  cases old with
  | nil => exact absurd rfl hne
  | cons c old =>
    rw [List.cons_append, replaceFrom, if_pos (by simp), List.length_cons, Nat.add_sub_cancel,
      replaceFrom_skip]

theorem replace_eq_replaceFrom (hne : old ≠ []) (s : List Char) :
    replace old new s = replaceFrom old new 0 s := by
  cases old with
  | nil => exact absurd rfl hne
  | cons c old => rfl

/-- The one occurrence is replaced. -/
theorem replace_middle {a b : List Char} (hne : old ≠ []) (ha : ∀ c ∈ old, c ∉ a)
    (hb : ∀ c ∈ old, c ∉ b) : replace old new (a ++ old ++ b) = a ++ new ++ b := by
  rw [replace_eq_replaceFrom hne, List.append_assoc, replaceFrom_append hne ha,
    replaceFrom_self_append hne, replaceFrom_of_notMem hne hb, List.append_assoc]

theorem filter_ne_of_notMem {c : Char} {s : List Char} (h : c ∉ s) : s.filter (· ≠ c) = s :=
  List.filter_eq_self.mpr fun _ hd => decide_eq_true (ne_of_mem_of_not_mem hd h)

/-- To replace a character by nothing is to leave it out. -/
theorem replace_singleton (c : Char) (s : List Char) : replace [c] [] s = s.filter (· ≠ c) := by
  rw [replace_eq_replaceFrom (List.cons_ne_nil c [])]
  induction s with
  | nil => rfl
  | cons d s ih =>
    by_cases h : d = c
    · subst h
      rw [List.filter_cons_of_neg (by simp), ← ih]
      exact replaceFrom_self_append (List.cons_ne_nil d []) s
    · rw [List.filter_cons_of_pos (by simpa using h), ← ih]
      refine replaceFrom_append (a := [d]) (List.cons_ne_nil c []) ?_ s
      intro e he
      rw [List.mem_singleton] at he ⊢
      exact fun hd => h (hd.symm.trans he)

end Replace

section LastIndex

variable {c : Char}

/-- A character that occurs has a last place. -/
theorem exists_last_split {s : List Char} (h : c ∈ s) : ∃ a b, s = a ++ c :: b ∧ c ∉ b := by
  obtain ⟨b, a, hs, hb⟩ := List.eq_append_cons_of_mem (List.mem_reverse.mpr h)
  refine ⟨a.reverse, b.reverse, ?_, by simpa using hb⟩
  rw [← List.reverse_reverse s, hs]
  simp

theorem findIdx?_reverse_eq_none {s : List Char} (h : c ∉ s) :
    s.reverse.findIdx? (· == c) = none := by
  rw [List.findIdx?_eq_none_iff]
  intro d hd
  simpa using ne_of_mem_of_not_mem (List.mem_reverse.mp hd) h

theorem lastIndex?_eq_none {s : List Char} (h : c ∉ s) : lastIndex? c s = none := by
  rw [lastIndex?, findIdx?_reverse_eq_none h]

theorem lastIndex?_append_cons {b : List Char} (a : List Char) (h : c ∉ b) :
    lastIndex? c (a ++ c :: b) = some a.length := by
  have hfirst : (a ++ c :: b).reverse.findIdx? (· == c) = some b.length := by
    rw [List.reverse_append, List.reverse_cons, List.append_assoc, List.findIdx?_append,
      findIdx?_reverse_eq_none h, List.singleton_append, List.findIdx?_cons]
    simp
  rw [lastIndex?, hfirst]
  simp only [List.length_append, List.length_cons, Option.some.injEq]
  omega

theorem exists_lastIndex? {s : List Char} (h : c ∈ s) :
    ∃ i, lastIndex? c s = some i ∧ i < s.length := by
  obtain ⟨a, b, rfl, hb⟩ := exists_last_split h
  exact ⟨a.length, lastIndex?_append_cons a hb, by simp⟩

/-- What stands behind does not matter, if the character is not in it. -/
theorem lastIndex?_append_of_notMem {b : List Char} (a : List Char) (h : c ∉ b) :
    lastIndex? c (a ++ b) = lastIndex? c a := by
  by_cases ha : c ∈ a
  · obtain ⟨x, y, rfl, hy⟩ := exists_last_split ha
    rw [List.append_assoc, List.cons_append, lastIndex?_append_cons x (by simpa using ⟨hy, h⟩),
      lastIndex?_append_cons x hy]
  · rw [lastIndex?_eq_none ha, lastIndex?_eq_none (by simpa using ⟨ha, h⟩)]

end LastIndex

end Gleaner.Text

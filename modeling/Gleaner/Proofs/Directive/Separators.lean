import Gleaner.Proofs.Directive.Grammar

/-! # Parts and separators

Splitting at the bare separators is the inverse of escaping and joining. Every text comes back from
its parts, and it has one part more than it has bare separators; a list of parts comes back from its
escaped join unless a part before the last one ends in a backslash. -/

namespace Gleaner.Directive

open Text (join)

variable {sep : Char}

section Count

/-- Whether a character, behind the one directly before it, is a separator without a backslash. -/
def isBare (sep : Char) (x : Option Char × Char) : Bool := x.2 = sep && x.1 ≠ some '\\'

/-- The number of separators that no backslash directly precedes. -/
def bareCount (sep : Char) (t : List Char) : Nat :=
  ((none :: t.map some).zip t).countP (isBare sep)

theorem bareCuts_ne_nil (previous : Option Char) (t : List Char) : bareCuts sep previous t ≠ [] := by
  cases t with
  | nil => simp [bareCuts]
  | cons c r =>
    rw [bareCuts]
    split
    · simp
    · cases bareCuts sep (some c) r <;> simp [extendHead]

theorem length_extendHead (c : Char) {ps : List (List Char)} (h : ps ≠ []) :
    (extendHead c ps).length = ps.length := by
  cases ps with
  | nil => exact absurd rfl h
  | cons p ps => rfl

theorem length_bareCuts (previous : Option Char) (t : List Char) :
    (bareCuts sep previous t).length =
      1 + ((previous :: t.map some).zip t).countP (isBare sep) := by
  induction t generalizing previous with
  | nil => rfl
  | cons c r ih =>
    rw [List.map_cons, List.zip_cons_cons, List.countP_cons, bareCuts]
    by_cases h : c = sep ∧ previous ≠ some '\\'
    · have hbare : isBare sep (previous, c) = true := by simpa [isBare] using h
      rw [if_pos h, List.length_cons, ih, if_pos hbare]
      omega
    · have hbare : isBare sep (previous, c) = false := by simpa [isBare] using h
      rw [if_neg h, length_extendHead c (bareCuts_ne_nil _ r), ih, hbare]
      rfl

theorem length_splitUnescaped (hsep : sep ≠ '\\') (t : List Char) :
    (splitUnescaped sep t).length = 1 + bareCount sep t := by
  rw [bareCount, ← length_bareCuts, bareCuts_eq hsep t (by simp), List.length_map]

end Count

section Join

/-- Parts come back from their escaped join when none before the last ends in a backslash. -/
theorem splitUnescaped_join_escape (hsep : sep ≠ '\\') {ps : List (List Char)} (hne : ps ≠ [])
    (h : ∀ p ∈ ps.dropLast, p.getLast? ≠ some '\\') :
    splitUnescaped sep (join [sep] (ps.map (escape sep))) = ps := by
  induction ps with
  | nil => exact absurd rfl hne
  | cons p ps ih =>
    cases ps with
    | nil => simpa using splitUnescaped_escape hsep p
    | cons q qs =>
      rw [List.dropLast_cons_cons, List.forall_mem_cons] at h
      have hrest := ih (List.cons_ne_nil q qs) h.2
      rw [List.map_cons, Text.join_cons (by simp), splitUnescaped_escape_sep hsep h.1, hrest]

/-- **Splitting is the inverse of escaping and joining**, on texts and on lists of parts. -/
theorem splitUnescaped_inverse (hsep : sep ≠ '\\') :
    (∀ t, join [sep] ((splitUnescaped sep t).map (escape sep)) = t ∧
      (splitUnescaped sep t).length = 1 + bareCount sep t) ∧
    ∀ ps : List (List Char), ps ≠ [] →
      (splitUnescaped sep (join [sep] (ps.map (escape sep))) = ps ↔
        ∀ p ∈ ps.dropLast, p.getLast? ≠ some '\\') := by
  refine ⟨fun t => ⟨join_escape_splitUnescaped hsep t, length_splitUnescaped hsep t⟩, ?_⟩
  intro ps hne
  constructor
  · intro h
    rw [← h]
    exact getLast?_of_mem_dropLast hsep _
  · exact splitUnescaped_join_escape hsep hne

/-- Runs of backslashes before the separator: only the last one of a run counts. -/
theorem splitUnescaped_inverse_runs :
    '|' ≠ '\\' ∧ bareCount '|' "a\\\\|b|\\c||".toList = 3 ∧
    (join ['|'] ((splitUnescaped '|' "a\\\\|b|\\c||".toList).map (escape '|')) =
        "a\\\\|b|\\c||".toList ∧
      (splitUnescaped '|' "a\\\\|b|\\c||".toList).length = 4) ∧
    splitUnescaped '|' (join ['|'] (["a|b".toList, "".toList, "c\\".toList].map (escape '|'))) =
      ["a|b".toList, "".toList, "c\\".toList] ∧
    splitUnescaped '|' (join ['|'] (["a\\".toList, "b".toList].map (escape '|'))) ≠
      ["a\\".toList, "b".toList] := by
  have hsep : '|' ≠ '\\' := by decide
  obtain ⟨htexts, hparts⟩ := splitUnescaped_inverse hsep
  refine ⟨hsep, by decide, htexts _, ?_, ?_⟩
  · exact (hparts _ (by simp)).mpr (by decide)
  · rw [ne_eq, hparts _ (by simp)]
    decide

end Join

end Gleaner.Directive

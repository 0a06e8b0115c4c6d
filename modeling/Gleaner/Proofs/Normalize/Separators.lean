import Gleaner.Normalize.Number
import Gleaner.Proofs.Number.Reading
import Gleaner.Proofs.Text.Occurrence
import Gleaner.Proofs.Text.Pieces

/-! # Separators and numerals of a price

What is left of a price once its currency is out is brought to one form: the separators of thousands
are dropped and a point stands before the fraction. The first numeral of that form is the amount. -/

namespace Gleaner.Normalize

open Text (isDecimal isBlank trim)

theorem isBlank_of_amount {c : Char} (h : isDecimal c = true ∨ c = ',' ∨ c = '.') :
    isBlank c = false := by
  rcases h with hdecimal | rfl | rfl
  · exact Text.isBlank_of_isDecimal hdecimal
  · decide
  · decide

section Unify

theorem isDecimalComma_iff {s : List Char} :
    isDecimalComma s = true ↔ ∃ whole cents, s = whole ++ ',' :: cents ∧ whole ≠ [] ∧
      (∀ c ∈ whole, isDecimal c = true) ∧ cents.length = 2 ∧ ∀ c ∈ cents, isDecimal c = true := by
  obtain ⟨before, after, hcut, hcomma, hs⟩ := Text.cutAt_spec ',' s
  rw [isDecimalComma, hcut]
  cases after with
  | none =>
    refine ⟨nofun, ?_⟩
    rintro ⟨whole, cents, rfl, -⟩
    rw [Option.elim_none, List.append_nil] at hs
    rw [hs] at hcomma
    exact absurd (by simp) hcomma
  | some after =>
    constructor
    · intro h
      simp only [Bool.and_eq_true, decide_eq_true_eq, List.all_eq_true] at h
      obtain ⟨⟨⟨hne, hwhole⟩, hlength⟩, hcents⟩ := h
      exact ⟨before, after, hs.symm, by simpa using hne, hwhole, hlength, hcents⟩
    · rintro ⟨whole, cents, rfl, hne, hwhole, hlength, hcents⟩
      have hnot : ',' ∉ whole := Text.notMem_of_isDecimal (by decide) hwhole
      rw [Text.cutAt_append hnot] at hcut
      cases hcut
      simp only [Bool.and_eq_true, decide_eq_true_eq, List.all_eq_true]
      exact ⟨⟨⟨by simpa using hne, hwhole⟩, hlength⟩, hcents⟩

theorem map_comma_of_notMem {s : List Char} (h : ',' ∉ s) :
    (s.map fun c => if c = ',' then '.' else c) = s := by
  conv_rhs => rw [← List.map_id s]
  exact List.map_congr_left fun c hc => if_neg (ne_of_mem_of_not_mem hc h)

variable {g cents : List Char}

/-- A comma before the point separates thousands. -/
theorem unifySeparators_point (g : List Char) (hcents : ∀ c ∈ cents, isDecimal c = true) :
    unifySeparators [','] (g ++ '.' :: cents) = g.filter (· ≠ ',') ++ '.' :: cents := by
  have hcomma : ',' ∉ '.' :: cents := by
    rw [List.mem_cons, not_or]
    exact ⟨by decide, Text.notMem_of_isDecimal (by decide) hcents⟩
  have hpoint : '.' ∉ cents := Text.notMem_of_isDecimal (by decide) hcents
  have hreplace : Text.replace [','] [] (g ++ '.' :: cents) =
      g.filter (· ≠ ',') ++ '.' :: cents := by
    rw [Text.replace_singleton, List.filter_append, Text.filter_ne_of_notMem hcomma]
  rw [unifySeparators, Text.lastIndex?_append_cons g hpoint,
    Text.lastIndex?_append_of_notMem g hcomma]
  by_cases h : ',' ∈ g
  · obtain ⟨i, hi, hlt⟩ := Text.exists_lastIndex? h
    rw [hi]
    dsimp only
    rw [if_neg (by omega), hreplace]
  · rw [Text.lastIndex?_eq_none h]
    exact hreplace

/-- A point before the comma separates thousands, and without a point the comma has to stand before
two digits. -/
theorem unifySeparators_comma (hne : g ≠ []) (hg : ∀ c ∈ g, isDecimal c = true ∨ c = '.')
    (hcents : ∀ c ∈ cents, isDecimal c = true) (hlength : cents.length = 2)
    (thousands : List Char) :
    unifySeparators thousands (g ++ ',' :: cents) = g.filter (· ≠ '.') ++ '.' :: cents := by
  have hcomma : ',' ∉ cents := Text.notMem_of_isDecimal (by decide) hcents
  have hcomma' : ',' ∉ g := fun h => by
    rcases hg ',' h with h | h <;> revert h <;> decide
  have hpoint : '.' ∉ ',' :: cents := by
    rw [List.mem_cons, not_or]
    exact ⟨by decide, Text.notMem_of_isDecimal (by decide) hcents⟩
  have hmap : ∀ t : List Char, ',' ∉ t →
      ((t ++ ',' :: cents).map fun c => if c = ',' then '.' else c) = t ++ '.' :: cents := by
    intro t ht
    rw [List.map_append, List.map_cons, map_comma_of_notMem ht, map_comma_of_notMem hcomma,
      if_pos rfl]
  rw [unifySeparators, Text.lastIndex?_append_cons g hcomma,
    Text.lastIndex?_append_of_notMem g hpoint]
  by_cases h : '.' ∈ g
  · obtain ⟨i, hi, hlt⟩ := Text.exists_lastIndex? h
    rw [hi]
    dsimp only
    rw [if_pos hlt, List.filter_append, Text.filter_ne_of_notMem hpoint]
    exact hmap _ fun hmem => hcomma' (List.mem_of_mem_filter hmem)
  · have hwhole : ∀ c ∈ g, isDecimal c = true := fun c hc =>
      (hg c hc).resolve_right (ne_of_mem_of_not_mem hc h)
    rw [Text.lastIndex?_eq_none h]
    dsimp only
    rw [if_pos (isDecimalComma_iff.mpr ⟨g, cents, rfl, hne, hwhole, hlength, hcents⟩), hmap g hcomma',
      Text.filter_ne_of_notMem h]

/-- Without a point, a text that is no numeral with a decimal comma loses its commas. -/
theorem unifySeparators_of_no_point {s : List Char} (hpoint : '.' ∉ s)
    (h : isDecimalComma s = false) : unifySeparators [','] s = s.filter (· ≠ ',') := by
  rw [unifySeparators, Text.lastIndex?_eq_none hpoint]
  cases Text.lastIndex? ',' s <;> simp [h, Text.replace_singleton]

end Unify

section Numeral

variable {whole places : List Char}

theorem leadingNumeral?_whole (hne : whole ≠ []) (hwhole : ∀ c ∈ whole, isDecimal c = true)
    {rest : List Char} (hrest : ∀ c ∈ rest, isDecimal c = false ∧ c ≠ '.') :
    leadingNumeral? (whole ++ rest) = some whole := by
  have htake : (whole ++ rest).takeWhile isDecimal = whole := by
    rw [List.takeWhile_append_of_pos hwhole]
    cases rest with
    | nil => simp
    | cons c rest =>
      rw [List.takeWhile_cons_of_neg (by simp [(hrest c List.mem_cons_self).1]), List.append_nil]
  have hdrop : (whole ++ rest).dropWhile isDecimal = rest := by
    rw [List.dropWhile_append_of_pos hwhole]
    cases rest with
    | nil => rfl
    | cons c rest =>
      rw [List.dropWhile_cons_of_neg (by simp [(hrest c List.mem_cons_self).1])]
  rw [leadingNumeral?, htake, hdrop, if_neg hne]
  split
  next r => exact absurd rfl (hrest '.' List.mem_cons_self).2
  next => rfl

theorem leadingNumeral?_point (hne : whole ≠ []) (hwhole : ∀ c ∈ whole, isDecimal c = true)
    (hne' : places ≠ []) (hplaces : ∀ c ∈ places, isDecimal c = true) :
    leadingNumeral? (whole ++ '.' :: places) = some (whole ++ '.' :: places) := by
  have hpoint : ¬ isDecimal '.' = true := by decide
  have htake : (whole ++ '.' :: places).takeWhile isDecimal = whole := by
    rw [List.takeWhile_append_of_pos hwhole, List.takeWhile_cons_of_neg hpoint, List.append_nil]
  have hdrop : (whole ++ '.' :: places).dropWhile isDecimal = '.' :: places := by
    rw [List.dropWhile_append_of_pos hwhole, List.dropWhile_cons_of_neg hpoint]
  simp only [leadingNumeral?, htake, hdrop, List.takeWhile_eq_self_iff.mpr hplaces, if_neg hne,
    if_neg hne']

theorem firstNumeral?_of_leading {s n : List Char} (h : leadingNumeral? s = some n) :
    firstNumeral? s = some n := by
  cases s with
  | nil => cases h
  | cons c r => rw [firstNumeral?, h]

/-- Numerals are looked for behind what has no digits. -/
theorem firstNumeral?_append {p : List Char} (h : ∀ c ∈ p, isDecimal c = false) (s : List Char) :
    firstNumeral? (p ++ s) = firstNumeral? s := by
  induction p with
  | nil => rfl
  | cons c p ih =>
    obtain ⟨hc, hp⟩ := List.forall_mem_cons.mp h
    have hnone : leadingNumeral? (c :: (p ++ s)) = none := by
      rw [leadingNumeral?, List.takeWhile_cons_of_neg (by simp [hc])]
      rfl
    rw [List.cons_append, firstNumeral?, hnone]
    exact ih hp

end Numeral

namespace PriceRule

/-- The amount of a text is what the first numeral of its unified form is read as. -/
theorem normalize_eq {rule : PriceRule} {text rest numeral : List Char} {amount : Double}
    (hamount : rule.amountOnly = true) (hne : trim text ≠ [])
    (hrest : (rule.takeCurrency (trim text)).2 = rest)
    (hnumeral : firstNumeral? (unifySeparators rule.thousands.toList rest) = some numeral)
    (hread : Numeral.readDouble? numeral = some amount) :
    rule.normalize (.str (.ofList text)) = pure (.float amount) := by
  have hread? : rule.read? (trim text) = some ((rule.takeCurrency (trim text)).1, amount) := by
    rw [read?]
    dsimp only
    rw [hrest, hnumeral]
    dsimp only
    rw [hread]
    rfl
  have hdisplay : (Value.str (.ofList text)).display.toList = text := String.toList_ofList
  rw [normalize, hdisplay, if_neg (by simp [Value.isNone])]
  dsimp only
  rw [if_neg hne, hread?]
  dsimp only
  rw [if_pos hamount]

end PriceRule

end Gleaner.Normalize

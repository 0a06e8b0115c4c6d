import Gleaner.Proofs.Normalize.Currency
import Gleaner.Proofs.Normalize.Separators
import Gleaner.Proofs.Number.Nearest

/-! # A comma before two digits

A comma before two digits is a decimal comma when nothing else is left of the text. With words around
it the comma counts as a separator of thousands, and the amount is the hundredfold
(`normalize_decimalComma`). -/

namespace Gleaner.Normalize

open Text (isBlank isDecimal trim trimStart trimEnd decimalsValue)

/-- Words without an amount, a separator or a currency. -/
structure Wording (s : List Char) : Prop where
  decimal : ∀ c ∈ s, isDecimal c = false
  capital : ∀ c ∈ s, isCapital c = false
  comma : ',' ∉ s
  point : '.' ∉ s
  symbol : ∀ x ∈ currencySymbols, ¬ x.1.toList <:+: s

section Wording

variable {p q s t : List Char}

theorem wording_iff : Wording s ↔
    (s.all fun c => !isDecimal c && !isCapital c && c ≠ ',' && c ≠ '.') = true ∧
      ∀ x ∈ currencySymbols, Text.occursIn x.1.toList s = false := by
  simp only [List.all_eq_true, Bool.and_eq_true, Bool.not_eq_true', decide_eq_true_eq,
    ← Bool.not_eq_true, Text.occursIn_iff]
  constructor
  · intro h
    refine ⟨fun c hc => ⟨⟨⟨?_, ?_⟩, ?_⟩, ?_⟩, h.symbol⟩
    · simp [h.decimal c hc]
    · simp [h.capital c hc]
    · exact ne_of_mem_of_not_mem hc h.comma
    · exact ne_of_mem_of_not_mem hc h.point
  · rintro ⟨hchars, hsymbol⟩
    exact ⟨fun c hc => by simpa using (hchars c hc).1.1.1, fun c hc => by
      simpa using (hchars c hc).1.1.2, fun hc => (hchars ',' hc).1.2 rfl,
      fun hc => (hchars '.' hc).2 rfl, hsymbol⟩

instance (s : List Char) : Decidable (Wording s) := decidable_of_iff' _ wording_iff

theorem Wording.nil : Wording [] :=
  ⟨nofun, nofun, List.not_mem_nil, List.not_mem_nil, fun x hx h =>
    symbol_ne_nil x hx (List.infix_nil.mp h)⟩

theorem Wording.of_infix (hs : Wording s) (h : t <:+: s) : Wording t where
  decimal c hc := hs.decimal c (h.subset hc)
  capital c hc := hs.capital c (h.subset hc)
  comma hc := hs.comma (h.subset hc)
  point hc := hs.point (h.subset hc)
  symbol x hx hoccurs := hs.symbol x hx (hoccurs.trans h)

theorem Wording.trimStart (h : Wording p) : Wording (trimStart p) :=
  h.of_infix (Text.trimStart_suffix p).isInfix

theorem Wording.trimEnd (h : Wording q) : Wording (trimEnd q) :=
  h.of_infix (Text.trimEnd_prefix q).isInfix

theorem Wording.not_isDecimalComma (hs : Wording s) (hne : s ≠ []) (h : s ⊆ t) :
    isDecimalComma t = false := by
  rw [← Bool.not_eq_true]
  intro hcomma
  obtain ⟨whole, cents, rfl, -, hwhole, -, hcents⟩ := isDecimalComma_iff.mp hcomma
  obtain ⟨c, hc⟩ := List.exists_mem_of_ne_nil s hne
  have hdecimal := hs.decimal c hc
  rcases List.mem_append.mp (h hc) with hmem | hmem
  · rw [hwhole c hmem] at hdecimal
    cases hdecimal
  · rcases List.mem_cons.mp hmem with rfl | hmem
    · exact hs.comma hc
    · rw [hcents c hmem] at hdecimal
      cases hdecimal

/-- A number among words is left as it stands when currencies are taken out. -/
theorem Wording.takeCurrency (rule : PriceRule) (hp : Wording p) (hq : Wording q)
    (hne : t ≠ []) (ht : ∀ c ∈ t, isDecimal c = true ∨ c = ',') :
    trim (p ++ t ++ q) ≠ [] ∧
      (rule.takeCurrency (trim (p ++ t ++ q))).2 = Text.trimStart p ++ t ++ Text.trimEnd q := by
  have hfree : NoCurrency t := fun c hc =>
    not_isCurrencyChar ((ht c hc).imp_right fun h => .inr (.inl h))
  have hsolid : ∀ c ∈ t, isBlank c = false := fun c hc =>
    isBlank_of_amount ((ht c hc).imp_right .inl)
  have htrim : trim (p ++ t ++ q) = Text.trimStart p ++ t ++ Text.trimEnd q :=
    Text.trim_around hne hsolid p q
  have hcapital : ∀ c ∈ trim (p ++ t ++ q), isCapital c = false := by
    rw [htrim, List.forall_mem_append, List.forall_mem_append]
    exact ⟨⟨hp.trimStart.capital, hfree.isCapital⟩, hq.trimEnd.capital⟩
  have hsymbol : ∀ x ∈ currencySymbols, ¬ x.1.toList <:+: trim (p ++ t ++ q) := by
    intro x hx hoccurs
    rw [htrim] at hoccurs
    rcases Text.infix_or_infix_around hne (hfree.notMem hx) hoccurs with h | h
    · exact hp.trimStart.symbol x hx h
    · exact hq.trimEnd.symbol x hx h
  refine ⟨by rw [htrim]; simp [hne], ?_⟩
  rw [PriceRule.takeCurrency_of_none hcapital hsymbol, Text.trim_trim, htrim]

end Wording

section Amount

variable {p q whole cents : List Char}

theorem firstNumeral?_alone (hne : whole ≠ []) (hwhole : ∀ c ∈ whole, isDecimal c = true)
    (hlength : cents.length = 2) (hcents : ∀ c ∈ cents, isDecimal c = true) :
    firstNumeral? (unifySeparators [','] (whole ++ ',' :: cents)) = some (whole ++ '.' :: cents) := by
  have hpoint : '.' ∉ whole := Text.notMem_of_isDecimal (by decide) hwhole
  have hne' : cents ≠ [] := List.ne_nil_of_length_pos (by omega)
  rw [unifySeparators_comma hne (fun c hc => .inl (hwhole c hc)) hcents hlength,
    Text.filter_ne_of_notMem hpoint]
  exact firstNumeral?_of_leading (leadingNumeral?_point hne hwhole hne' hcents)

/-- Words at either end keep the number from being the whole text, so its comma is dropped. -/
theorem firstNumeral?_among (hp : Wording p) (hq : Wording q) (hwords : p ++ q ≠ [])
    (hne : whole ≠ []) (hwhole : ∀ c ∈ whole, isDecimal c = true)
    (hcents : ∀ c ∈ cents, isDecimal c = true) :
    firstNumeral? (unifySeparators [','] (p ++ (whole ++ ',' :: cents) ++ q)) =
      some (whole ++ cents) := by
  have hdigits : ∀ c ∈ whole ++ cents, isDecimal c = true :=
    List.forall_mem_append.mpr ⟨hwhole, hcents⟩
  have hpoint : '.' ∉ p ++ (whole ++ ',' :: cents) ++ q := by
    have hdigits' : '.' ∉ whole ++ cents := Text.notMem_of_isDecimal (by decide) hdigits
    simp only [List.mem_append, List.mem_cons, not_or] at hdigits' ⊢
    exact ⟨⟨hp.point, hdigits'.1, by decide, hdigits'.2⟩, hq.point⟩
  have hthousands : isDecimalComma (p ++ (whole ++ ',' :: cents) ++ q) = false := by
    by_cases hnil : p = []
    · subst hnil
      exact hq.not_isDecimalComma hwords (List.subset_append_right _ q)
    · exact hp.not_isDecimalComma hnil fun c hc => by simp [hc]
  have hcomma : ',' ∉ whole := Text.notMem_of_isDecimal (by decide) hwhole
  have hcomma' : ',' ∉ cents := Text.notMem_of_isDecimal (by decide) hcents
  have hunified : unifySeparators [','] (p ++ (whole ++ ',' :: cents) ++ q) =
      p ++ (whole ++ cents ++ q) := by
    rw [unifySeparators_of_no_point hpoint hthousands, List.filter_append, List.filter_append,
      List.filter_append, List.filter_cons_of_neg (by simp), Text.filter_ne_of_notMem hp.comma,
      Text.filter_ne_of_notMem hq.comma, Text.filter_ne_of_notMem hcomma,
      Text.filter_ne_of_notMem hcomma', List.append_assoc]
  rw [hunified, firstNumeral?_append hp.decimal]
  exact firstNumeral?_of_leading (leadingNumeral?_whole (by simp [hne]) hdigits fun c hc =>
    ⟨hq.decimal c hc, ne_of_mem_of_not_mem hc hq.point⟩)

theorem normalize_among (hp : Wording p) (hq : Wording q) (hne : whole ≠ [])
    (hwhole : ∀ c ∈ whole, isDecimal c = true) (hlength : cents.length = 2)
    (hcents : ∀ c ∈ cents, isDecimal c = true) :
    PriceRule.normalize {} (.str (.ofList (p ++ (whole ++ ',' :: cents) ++ q))) =
      pure (.float (.ofDecimal false (decimalsValue (whole ++ cents))
        (if (p ++ q).all isBlank then -2 else 0))) := by
  have hchars : ∀ c ∈ whole ++ ',' :: cents, isDecimal c = true ∨ c = ',' := by
    simp only [List.mem_append, List.mem_cons]
    rintro c (hc | rfl | hc)
    · exact .inl (hwhole c hc)
    · exact .inr rfl
    · exact .inl (hcents c hc)
  obtain ⟨htrim, hrest⟩ := hp.takeCurrency {} hq (by simp) hchars
  have hblank : (p ++ q).all isBlank = true ↔ trimStart p ++ trimEnd q = [] := by
    rw [List.append_eq_nil_iff, Text.trimStart_eq_nil_iff, Text.trimEnd_eq_nil_iff,
      List.all_append, Bool.and_eq_true, List.all_eq_true, List.all_eq_true]
  split
  next hall =>
    obtain ⟨hstart, hend⟩ := List.append_eq_nil_iff.mp (hblank.mp hall)
    rw [hstart, hend, List.nil_append, List.append_nil] at hrest
    refine PriceRule.normalize_eq rfl htrim hrest
      (firstNumeral?_alone hne hwhole hlength hcents) ?_
    rw [Numeral.readDouble?_point hne hwhole hcents, hlength]
    rfl
  next hwords =>
    refine PriceRule.normalize_eq rfl htrim hrest
      (firstNumeral?_among hp.trimStart hq.trimEnd (hwords ∘ hblank.mpr) hne hwhole hcents)
      (Numeral.readDouble?_whole (by simp [hne]) ?_)
    exact List.forall_mem_append.mpr ⟨hwhole, hcents⟩

/-- **A comma before two digits is a decimal comma when only blanks stand around the number**: among
words the amount is the hundredfold, which is another one unless it is zero or out of range. -/
theorem normalize_decimalComma (hp : Wording p) (hq : Wording q) (hne : whole ≠ [])
    (hwhole : ∀ c ∈ whole, isDecimal c = true) (hlength : cents.length = 2)
    (hcents : ∀ c ∈ cents, isDecimal c = true) :
    PriceRule.normalize {} (.str (.ofList (p ++ (whole ++ ',' :: cents) ++ q))) =
        pure (.float (.ofDecimal false (decimalsValue (whole ++ cents))
          (if (p ++ q).all isBlank then -2 else 0))) ∧
      (PriceRule.normalize {} (.str (.ofList (p ++ (whole ++ ',' :: cents) ++ q))) =
          PriceRule.normalize {} (.str (.ofList (whole ++ ',' :: cents))) ↔
        (∀ c ∈ p ++ q, isBlank c = true) ∨ decimalsValue (whole ++ cents) = 0 ∨
          Double.ofDecimal false (decimalsValue (whole ++ cents)) (-2) = .infinite false) := by
  have halone := normalize_among .nil .nil hne hwhole hlength hcents
  have hamong := normalize_among hp hq hne hwhole hlength hcents
  rw [List.nil_append, List.append_nil] at halone
  refine ⟨hamong, ?_⟩
  have hpure : ∀ a b : Double, (pure (.float a) : Traced Log.Entry Value) = pure (.float b) ↔
      a = b := fun a b => ⟨fun h => by cases h; rfl, fun h => by rw [h]⟩
  rw [hamong, halone, hpure, List.append_nil, List.all_nil, if_pos rfl, ← List.all_eq_true]
  by_cases hall : (p ++ q).all isBlank = true
  · simp [hall]
  · rw [if_neg hall, Double.ofDecimal_eq_hundredth_iff, or_iff_right hall]

theorem normalize_decimalComma_about :
    PriceRule.normalize {} (.str "about 12,50") = pure (.float (.ofDecimal false 1250 0)) ∧
      PriceRule.normalize {} (.str "12,50") = pure (.float (.ofDecimal false 1250 (-2))) ∧
      PriceRule.normalize {} (.str "about 12,50") ≠ PriceRule.normalize {} (.str "12,50") := by
  have hwords : Wording "about ".toList := by decide
  have hne : ['1', '2'] ≠ [] := by decide
  have hwhole : ∀ c ∈ ['1', '2'], isDecimal c = true := List.all_eq_true.mp rfl
  have hcents : ∀ c ∈ ['5', '0'], isDecimal c = true := List.all_eq_true.mp rfl
  obtain ⟨hamong, hsame⟩ := normalize_decimalComma hwords .nil hne hwhole rfl hcents
  obtain ⟨halone, -⟩ := normalize_decimalComma .nil .nil hne hwhole rfl hcents
  refine ⟨hamong, halone, fun h => ?_⟩
  rcases hsame.mp h with hblank | hzero | hlarge
  · exact absurd (hblank 'a' (by decide)) (by decide)
  · exact absurd hzero (by decide)
  · exact absurd hlarge (by decide)

end Amount

end Gleaner.Normalize

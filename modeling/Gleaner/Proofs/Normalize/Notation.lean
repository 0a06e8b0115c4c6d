import Gleaner.Proofs.Normalize.Currency
import Gleaner.Proofs.Normalize.Separators

/-! # Two notations of an amount

One notation groups the digits in threes by commas and puts a point before the cents, the other has
the signs the other way round. Both are read as the same amount, with or without a currency at either
end (`normalize_notations`). -/

namespace Gleaner.Normalize

open Text (trim isBlank isDecimal decimalsValue)

/-- Digits in groups of three: a separator stands before every three digits that others precede. -/
def groupThrees (sep : Char) : List Char → List Char
  | [] => []
  | c :: r =>
    if r ≠ [] ∧ r.length % 3 = 0 then c :: sep :: groupThrees sep r else c :: groupThrees sep r

/-- The two digits of a number of cents. -/
def centDigits (cents : Nat) : List Char :=
  [Nat.digitChar (cents / 10), Nat.digitChar (cents % 10)]

/-- An amount with its thousands grouped and with two digits of cents. -/
def amountText (group point : Char) (n cents : Nat) : List Char :=
  groupThrees group (digitsOf n) ++ point :: centDigits cents

/-- An amount as it is printed: on its own, or behind or before a currency. -/
inductive Priced (amount : List Char) : List Char → Prop where
  | bare : Priced amount amount
  | behind {m gap : List Char} : CurrencyMark m → (∀ c ∈ gap, isBlank c = true) →
    Priced amount (m ++ gap ++ amount)
  | before {m gap : List Char} : CurrencyMark m → (∀ c ∈ gap, isBlank c = true) →
    Priced amount (amount ++ gap ++ m)

section Group

variable {sep : Char}

theorem filter_groupThrees {s : List Char} (h : sep ∉ s) :
    (groupThrees sep s).filter (· ≠ sep) = s := by
  induction s with
  | nil => rfl
  | cons c r ih =>
    rw [List.mem_cons, not_or] at h
    rw [groupThrees]
    split
    · rw [List.filter_cons_of_pos (by simpa using Ne.symm h.1), List.filter_cons_of_neg (by simp),
        ih h.2]
    · rw [List.filter_cons_of_pos (by simpa using Ne.symm h.1), ih h.2]

theorem mem_groupThrees {s : List Char} {c : Char} (h : c ∈ groupThrees sep s) :
    c ∈ s ∨ c = sep := by
  induction s with
  | nil => cases h
  | cons d r ih =>
    rw [groupThrees] at h
    split at h
    · rw [List.mem_cons, List.mem_cons] at h
      rcases h with rfl | rfl | h
      · exact .inl List.mem_cons_self
      · exact .inr rfl
      · exact (ih h).imp_left (List.mem_cons_of_mem d)
    · rw [List.mem_cons] at h
      rcases h with rfl | h
      · exact .inl List.mem_cons_self
      · exact (ih h).imp_left (List.mem_cons_of_mem d)

theorem groupThrees_ne_nil {s : List Char} (h : s ≠ []) : groupThrees sep s ≠ [] := by
  cases s with
  | nil => exact absurd rfl h
  | cons c r =>
    rw [groupThrees]
    split <;> exact List.cons_ne_nil _ _

theorem isDecimal_of_mem_digitsOf {n : Nat} {c : Char} (h : c ∈ digitsOf n) :
    isDecimal c = true :=
  Text.isDecimal_of_isDigit (Text.isDigit_of_mem_digitsOf h)

theorem mem_groupThrees_digitsOf {n : Nat} {c : Char} (h : c ∈ groupThrees sep (digitsOf n)) :
    isDecimal c = true ∨ c = sep :=
  (mem_groupThrees h).imp_left isDecimal_of_mem_digitsOf

theorem filter_groupThrees_digitsOf (hsep : isDecimal sep = false) (n : Nat) :
    (groupThrees sep (digitsOf n)).filter (· ≠ sep) = digitsOf n :=
  filter_groupThrees fun h => by
    rw [isDecimal_of_mem_digitsOf h] at hsep
    cases hsep

end Group

section Cents

variable {cents : Nat}

theorem isDecimal_of_mem_centDigits (h : cents < 100) :
    ∀ c ∈ centDigits cents, isDecimal c = true := by
  rw [centDigits, List.forall_mem_cons, List.forall_mem_singleton]
  exact ⟨Text.isDecimal_digitChar (by omega), Text.isDecimal_digitChar (by omega)⟩

/-- The digits of a number and its cents are worth the number of cents. -/
theorem decimalsValue_append_cents (h : cents < 100) (n : Nat) :
    decimalsValue (digitsOf n ++ centDigits cents) = 100 * n + cents := by
  rw [Text.decimalsValue_append, Text.decimalsValue_digitsOf, centDigits, List.foldl_cons,
    List.foldl_cons, List.foldl_nil, Text.decimalValue?_digitChar (by omega),
    Text.decimalValue?_digitChar (by omega), Option.getD_some, Option.getD_some]
  omega

end Cents

section Price

variable {n cents : Nat}

/-- Without its currency a printed amount is the amount. -/
theorem Priced.takeCurrency (rule : PriceRule) {amount text : List Char}
    (h : Priced amount text) (hne : amount ≠ []) (hamount : ∀ c ∈ amount, isDecimal c = true ∨ c = ',' ∨ c = '.') :
    trim text ≠ [] ∧ (rule.takeCurrency (trim text)).2 = amount := by
  have hfree : NoCurrency amount := fun c hc =>
    not_isCurrencyChar ((hamount c hc).imp_right .inr)
  have hsolid : ∀ c ∈ amount, isBlank c = false := fun c hc => isBlank_of_amount (hamount c hc)
  have htrim : ∀ {p q : List Char}, (∀ c ∈ p, isBlank c = true) → (∀ c ∈ q, isBlank c = true) →
      trim (p ++ amount ++ q) = amount := Text.trim_blanks_around hne hsolid
  cases h with
  | bare =>
    have hself : trim amount = amount :=
      Text.trim_of_hasBlank (Text.hasBlank_eq_false_iff.mpr hsolid)
    rw [hself, PriceRule.takeCurrency_of_none hfree.isCapital fun x hx => hfree.not_occurs hx]
    exact ⟨hne, hself⟩
  | @behind m gap hm hblank =>
    rw [Text.trim_between hm.ne_nil hm.isBlank_eq_false hne hsolid]
    refine ⟨by simp [hne], ?_⟩
    have hrest := rule.takeCurrency_around hm .nil ((NoCurrency.of_blank hblank).append hfree)
    rw [List.nil_append, ← List.append_assoc, List.nil_append] at hrest
    rw [hrest]
    simpa using htrim (q := []) hblank (by simp)
  | @before m gap hm hblank =>
    rw [Text.trim_between hne hsolid hm.ne_nil hm.isBlank_eq_false]
    refine ⟨by simp [hne], ?_⟩
    have hrest := rule.takeCurrency_around hm (hfree.append (.of_blank hblank)) .nil
    rw [List.append_nil, List.append_nil] at hrest
    rw [hrest]
    simpa using htrim (p := []) (by simp) hblank

theorem unifySeparators_amountText (h : cents < 100) :
    unifySeparators [','] (amountText ',' '.' n cents) = digitsOf n ++ '.' :: centDigits cents ∧
      unifySeparators [','] (amountText '.' ',' n cents) =
        digitsOf n ++ '.' :: centDigits cents := by
  have hcents := isDecimal_of_mem_centDigits h
  constructor
  · rw [amountText, unifySeparators_point _ hcents, filter_groupThrees_digitsOf (by decide)]
  · rw [amountText, unifySeparators_comma (groupThrees_ne_nil (Text.digitsOf_ne_nil n))
      (fun c hc => mem_groupThrees_digitsOf hc) hcents rfl, filter_groupThrees_digitsOf (by decide)]

theorem amountText_ne_nil (group point : Char) (n cents : Nat) :
    amountText group point n cents ≠ [] := by simp [amountText]

theorem mem_amountText {group point c : Char} (h : cents < 100)
    (hc : c ∈ amountText group point n cents) : isDecimal c = true ∨ c = group ∨ c = point := by
  rw [amountText, List.mem_append, List.mem_cons] at hc
  rcases hc with hc | rfl | hc
  · exact (mem_groupThrees_digitsOf hc).imp_right .inl
  · exact .inr (.inr rfl)
  · exact .inl (isDecimal_of_mem_centDigits h c hc)

/-- **Both notations are read as the same amount**, the double nearest to it. -/
theorem normalize_notations (h : cents < 100) :
    Numeral.readDouble? (digitsOf n ++ '.' :: centDigits cents) =
        some (.ofDecimal false (100 * n + cents) (-2)) ∧
      ∀ text, Priced (amountText ',' '.' n cents) text ∨ Priced (amountText '.' ',' n cents) text →
        PriceRule.normalize {} (.str (.ofList text)) =
          pure (.float (.ofDecimal false (100 * n + cents) (-2))) := by
  have hdigits : ∀ c ∈ digitsOf n, isDecimal c = true := fun c => isDecimal_of_mem_digitsOf
  have hcents := isDecimal_of_mem_centDigits h
  have hne := Text.digitsOf_ne_nil n
  have hread : Numeral.readDouble? (digitsOf n ++ '.' :: centDigits cents) =
      some (.ofDecimal false (100 * n + cents) (-2)) := by
    rw [Numeral.readDouble?_point hne hdigits hcents, decimalsValue_append_cents h]
    rfl
  have hfirst : firstNumeral? (digitsOf n ++ '.' :: centDigits cents) =
      some (digitsOf n ++ '.' :: centDigits cents) :=
    firstNumeral?_of_leading (leadingNumeral?_point hne hdigits (List.cons_ne_nil _ _) hcents)
  obtain ⟨hcommas, hpoints⟩ := unifySeparators_amountText (n := n) h
  refine ⟨hread, fun text htext => ?_⟩
  rcases htext with htext | htext
  · obtain ⟨htrim, hrest⟩ := htext.takeCurrency {} (amountText_ne_nil _ _ n cents)
      fun c hc => mem_amountText h hc
    exact PriceRule.normalize_eq rfl htrim hrest (hcommas.symm ▸ hfirst) hread
  · obtain ⟨htrim, hrest⟩ := htext.takeCurrency {} (amountText_ne_nil _ _ n cents)
      fun c hc => (mem_amountText h hc).imp_right Or.symm
    exact PriceRule.normalize_eq rfl htrim hrest (hpoints.symm ▸ hfirst) hread

/-- A million and five cents, on its own, behind a symbol, before one and behind a code. -/
theorem normalize_notations_million :
    5 < 100 ∧
    Numeral.readDouble? "1234567.05".toList = some (.ofDecimal false 123456705 (-2)) ∧
    ∀ text ∈ ["1,234,567.05", "CHF 1.234.567,05", "1.234.567,05kr", "GEL1,234,567.05"],
      PriceRule.normalize {} (.str text) = pure (.float (.ofDecimal false 123456705 (-2))) := by
  have hcents : 5 < 100 := by decide
  have hspace : ∀ c ∈ [' '], isBlank c = true := List.forall_mem_singleton.mpr rfl
  have hnone : ∀ c ∈ ([] : List Char), isBlank c = true := nofun
  obtain ⟨hread, htexts⟩ := normalize_notations (n := 1234567) hcents
  refine ⟨hcents, hread, ?_⟩
  simp only [List.forall_mem_cons, List.not_mem_nil, false_implies, implies_true, and_true]
  refine ⟨htexts _ (.inl .bare), htexts _ (.inr ?_), htexts _ (.inr ?_), htexts _ (.inl ?_)⟩
  · exact .behind (.symbol (x := ("CHF", "CHF")) (by decide)) hspace
  · exact .before (.symbol (x := ("kr", "SEK")) (by decide)) hnone
  · exact .behind (.code (a := 'G') (b := 'E') (c := 'L') (by decide) (by decide) (by decide)) hnone

end Price

end Gleaner.Normalize

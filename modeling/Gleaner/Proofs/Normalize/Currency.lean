import Gleaner.Normalize.Number
import Gleaner.Proofs.Text.Digits
import Gleaner.Proofs.Text.Occurrence

/-! # The currency of a price

A price names its currency by a symbol or by a code of three capitals. Taking the currency out leaves
what stands around it (`takeCurrency_around`), and a text that names none is left alone
(`takeCurrency_of_none`). -/

namespace Gleaner.Normalize

open Text (trim isBlank isDecimal occursIn occursIn_iff)

/-- A currency as it is written at a price. -/
inductive CurrencyMark : List Char → Prop where
  | symbol {x : String × String} : x ∈ currencySymbols → CurrencyMark x.1.toList
  | code {a b c : Char} : isCapital a = true → isCapital b = true → isCapital c = true →
    CurrencyMark [a, b, c]

/-- A character that currencies are written with. -/
def IsCurrencyChar (c : Char) : Prop :=
  isCapital c = true ∨ ∃ x ∈ currencySymbols, c ∈ x.1.toList

/-- A text without any such character. -/
def NoCurrency (s : List Char) : Prop := ∀ c ∈ s, ¬ IsCurrencyChar c

section Characters

theorem symbol_ne_nil : ∀ x ∈ currencySymbols, x.1.toList ≠ [] := by decide

theorem symbol_places : ∀ x ∈ currencySymbols, (x.1.toList.all fun c =>
    c.toNat ∈ [36, 67, 70, 72, 107, 114, 163, 165, 8364, 8377]) = true := by decide

theorem IsCurrencyChar.places {c : Char} (h : IsCurrencyChar c) :
    65 ≤ c.toNat ∧ c.toNat ≤ 90 ∨ c.toNat ∈ [36, 107, 114, 163, 165, 8364, 8377] := by
  rcases h with h | ⟨x, hx, hc⟩
  · rw [isCapital, Bool.and_eq_true, decide_eq_true_eq, decide_eq_true_eq] at h
    exact .inl ⟨UInt32.le_iff_toNat_le.mp h.1, UInt32.le_iff_toNat_le.mp h.2⟩
  · have hplace := List.all_eq_true.mp (symbol_places x hx) c hc
    rw [decide_eq_true_eq] at hplace
    simp only [List.mem_cons, List.not_mem_nil, or_false] at hplace ⊢
    omega

/-- Digits, blanks and separators belong to no currency. -/
theorem not_isCurrencyChar {c : Char}
    (h : isDecimal c = true ∨ isBlank c = true ∨ c = ',' ∨ c = '.') : ¬ IsCurrencyChar c := by
  intro hcurrency
  have hplace := hcurrency.places
  simp only [List.mem_cons, List.not_mem_nil, or_false] at hplace
  rcases h with hdecimal | hblank | rfl | rfl
  · obtain ⟨d, hd⟩ := Text.exists_decimalValue? hdecimal
    have hdigit := Text.decimalValue?_cases hd
    omega
  · simp only [isBlank, Bool.or_eq_true, Bool.and_eq_true, decide_eq_true_eq, beq_iff_eq] at hblank
    omega
  · revert hplace
    decide
  · revert hplace
    decide

namespace CurrencyMark

variable {m : List Char}

theorem ne_nil (h : CurrencyMark m) : m ≠ [] := by
  cases h with
  | symbol hx => exact symbol_ne_nil _ hx
  | code => exact List.cons_ne_nil _ _

theorem isCurrencyChar (h : CurrencyMark m) : ∀ c ∈ m, IsCurrencyChar c := by
  intro c hc
  cases h with
  | symbol hx => exact .inr ⟨_, hx, hc⟩
  | @code x y z hx hy hz =>
    have hcapital : ∀ c ∈ [x, y, z], isCapital c = true := by simp [hx, hy, hz]
    exact .inl (hcapital c hc)

theorem isBlank_eq_false (h : CurrencyMark m) : ∀ c ∈ m, isBlank c = false := by
  intro c hc
  rw [← Bool.not_eq_true]
  exact fun hblank => not_isCurrencyChar (.inr (.inl hblank)) (h.isCurrencyChar c hc)

end CurrencyMark

namespace NoCurrency

variable {s t : List Char}

theorem nil : NoCurrency [] := nofun

theorem of_blank (h : ∀ c ∈ s, isBlank c = true) : NoCurrency s :=
  fun c hc => not_isCurrencyChar (.inr (.inl (h c hc)))

theorem append (hs : NoCurrency s) (ht : NoCurrency t) : NoCurrency (s ++ t) :=
  List.forall_mem_append.mpr ⟨hs, ht⟩

theorem isCapital (h : NoCurrency s) : ∀ c ∈ s, isCapital c = false := by
  intro c hc
  rw [← Bool.not_eq_true]
  exact fun hcapital => h c hc (.inl hcapital)

theorem notMem (h : NoCurrency s) {x : String × String} (hx : x ∈ currencySymbols) :
    ∀ c ∈ x.1.toList, c ∉ s :=
  fun c hc hmem => h c hmem (.inr ⟨x, hx, hc⟩)

theorem not_occurs (h : NoCurrency s) {x : String × String} (hx : x ∈ currencySymbols) :
    ¬ x.1.toList <:+: s := by
  intro hoccurs
  obtain ⟨c, hc⟩ := List.exists_mem_of_ne_nil _ (symbol_ne_nil x hx)
  exact h.notMem hx c hc (hoccurs.subset hc)

end NoCurrency

end Characters

section Codes

theorem dropCodes_eq_self {s : List Char} (h : ∀ c ∈ s, isCapital c = false) : dropCodes s = s := by
  fun_induction dropCodes s with
  | case1 a b c r hcapital ih =>
    simp [h a List.mem_cons_self] at hcapital
  | case2 a b c r hcapital ih =>
    rw [ih (List.forall_mem_cons.mp h).2]
  | case3 s _ => rfl

theorem firstCode?_eq_none {s : List Char} (h : ∀ c ∈ s, isCapital c = false) :
    firstCode? s = none := by
  fun_induction firstCode? s with
  | case1 a b c r hcapital =>
    simp [h a List.mem_cons_self] at hcapital
  | case2 a b c r hcapital ih => exact ih (List.forall_mem_cons.mp h).2
  | case3 s _ => rfl

theorem dropCodes_cons {d : Char} (hd : isCapital d = false) (s : List Char) :
    dropCodes (d :: s) = d :: dropCodes s := by
  match s with
  | [] | [_] => rfl
  | b :: c :: r => rw [dropCodes, if_neg (by simp [hd])]

theorem dropCodes_append {s : List Char} (hs : ∀ c ∈ s, isCapital c = false) (t : List Char) :
    dropCodes (s ++ t) = s ++ dropCodes t := by
  induction s with
  | nil => rfl
  | cons d s ih =>
    obtain ⟨hd, hs⟩ := List.forall_mem_cons.mp hs
    rw [List.cons_append, dropCodes_cons hd, ih hs, List.cons_append]

theorem dropCodes_code {a b c : Char} (ha : isCapital a = true) (hb : isCapital b = true)
    (hc : isCapital c = true) (r : List Char) : dropCodes (a :: b :: c :: r) = dropCodes r := by
  rw [dropCodes, if_pos (by simp [ha, hb, hc])]

end Codes

section Symbols

variable {s a b : List Char}

theorem findSymbol?_eq_none (h : ∀ x ∈ currencySymbols, ¬ x.1.toList <:+: s) :
    findSymbol? s = none := by
  have hnone : (currencySymbols.find? fun x => occursIn x.1.toList s) = none := by
    rw [List.find?_eq_none]
    intro x hx hoccurs
    exact h x hx (occursIn_iff.mp hoccurs)
  rw [findSymbol?]
  exact congrArg (Option.map _) hnone

/-- No symbol occurs in another one. -/
theorem symbol_unique : ∀ x ∈ currencySymbols, ∀ y ∈ currencySymbols,
    y.1.toList <:+: x.1.toList → y = x := by
  simp only [← occursIn_iff]
  decide

/-- Among texts without currencies a symbol occurs only in the currency between them. -/
theorem symbol_infix_middle (ha : NoCurrency a) (hb : NoCurrency b) {x : String × String}
    (hx : x ∈ currencySymbols) {m : List Char} (h : x.1.toList <:+: a ++ m ++ b) :
    x.1.toList <:+: m :=
  Text.infix_of_infix_middle (symbol_ne_nil x hx) (ha.notMem hx) (hb.notMem hx) h

theorem findSymbol?_around (ha : NoCurrency a) (hb : NoCurrency b) {x : String × String}
    (hx : x ∈ currencySymbols) :
    findSymbol? (a ++ x.1.toList ++ b) = some (x.1.toList, x.2) := by
  have hfind : (currencySymbols.find? fun y => occursIn y.1.toList (a ++ x.1.toList ++ b)) =
      some x := by
    cases hf : currencySymbols.find? fun y => occursIn y.1.toList (a ++ x.1.toList ++ b) with
    | none =>
      have hself : occursIn x.1.toList (a ++ x.1.toList ++ b) = true :=
        occursIn_iff.mpr (List.infix_append a x.1.toList b)
      exact absurd hself (List.find?_eq_none.mp hf x hx)
    | some y =>
      have hy := List.mem_of_find?_eq_some hf
      have hoccurs := List.find?_some hf
      rw [symbol_unique x hx y hy (symbol_infix_middle ha hb hy (occursIn_iff.mp hoccurs))]
  rw [findSymbol?]
  exact congrArg (Option.map _) hfind

theorem length_of_capital_symbol : ∀ x ∈ currencySymbols,
    x.1.toList.all isCapital = true → x.1.toList.length = 3 := by decide

/-- A code is a symbol, or no symbol occurs in it and what stands around. -/
theorem symbol_or_none (ha : NoCurrency a) (hb : NoCurrency b) {m : List Char}
    (hlength : m.length = 3) (hcapital : ∀ c ∈ m, isCapital c = true) :
    (∃ x ∈ currencySymbols, x.1.toList = m) ∨
      ∀ x ∈ currencySymbols, ¬ x.1.toList <:+: a ++ m ++ b := by
  by_cases hnone : ∀ x ∈ currencySymbols, ¬ x.1.toList <:+: a ++ m ++ b
  · exact .inr hnone
  · push Not at hnone
    obtain ⟨x, hx, hoccurs⟩ := hnone
    have hm : x.1.toList <:+: m := symbol_infix_middle ha hb hx hoccurs
    have hthree := length_of_capital_symbol x hx
      (List.all_eq_true.mpr fun c hc => hcapital c (hm.subset hc))
    exact .inl ⟨x, hx, hm.eq_of_length (hthree.trans hlength.symm)⟩

end Symbols

namespace PriceRule

variable {rule : PriceRule} {s a b : List Char}

theorem takeCurrency_of_symbol {m : List Char} {code : String}
    (h : findSymbol? s = some (m, code)) :
    (rule.takeCurrency s).2 = trim (dropCodes (Text.replace m [] s)) := by
  rw [takeCurrency, h]

theorem takeCurrency_of_no_symbol (h : findSymbol? s = none) :
    (rule.takeCurrency s).2 = trim (dropCodes s) := by
  rw [takeCurrency, h]

/-- A text that names no currency is only trimmed. -/
theorem takeCurrency_of_none (hcapital : ∀ c ∈ s, isCapital c = false)
    (hsymbol : ∀ x ∈ currencySymbols, ¬ x.1.toList <:+: s) :
    rule.takeCurrency s = (rule.currency, trim s) := by
  rw [takeCurrency, findSymbol?_eq_none hsymbol]
  dsimp only
  rw [firstCode?_eq_none hcapital, dropCodes_eq_self hcapital]
  cases rule.currency <;> rfl

theorem takeCurrency_around_symbol (rule : PriceRule) (ha : NoCurrency a) (hb : NoCurrency b)
    {x : String × String} (hx : x ∈ currencySymbols) :
    (rule.takeCurrency (a ++ x.1.toList ++ b)).2 = trim (a ++ b) := by
  have hreplace : Text.replace x.1.toList [] (a ++ x.1.toList ++ b) = a ++ b := by
    rw [Text.replace_middle (symbol_ne_nil x hx) (ha.notMem hx) (hb.notMem hx), List.append_nil]
  rw [takeCurrency_of_symbol (findSymbol?_around ha hb hx), hreplace,
    dropCodes_eq_self (ha.append hb).isCapital]

/-- **What stands around a currency is left**, whichever way the currency is written. -/
theorem takeCurrency_around (rule : PriceRule) {m : List Char} (hm : CurrencyMark m)
    (ha : NoCurrency a) (hb : NoCurrency b) : (rule.takeCurrency (a ++ m ++ b)).2 = trim (a ++ b) := by
  cases hm with
  | symbol hx => exact takeCurrency_around_symbol rule ha hb hx
  | @code x y z hx hy hz =>
    have hcapital : ∀ c ∈ [x, y, z], isCapital c = true := by simp [hx, hy, hz]
    rcases symbol_or_none ha hb rfl hcapital with ⟨w, hw, hsame⟩ | hnone
    · rw [← hsame]
      exact takeCurrency_around_symbol rule ha hb hw
    · rw [takeCurrency_of_no_symbol (findSymbol?_eq_none hnone), List.append_assoc,
        dropCodes_append ha.isCapital]
      change trim (a ++ dropCodes (x :: y :: z :: b)) = trim (a ++ b)
      rw [dropCodes_code hx hy hz, dropCodes_eq_self hb.isCapital]

end PriceRule

end Gleaner.Normalize

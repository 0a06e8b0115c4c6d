import Gleaner.Proofs.Normalize.Currency
import Gleaner.Proofs.Text.Pieces
import Gleaner.Proofs.Traced

/-! # The currency that is reported

A text names a currency by a symbol of the table or by three capitals in a row. A symbol comes before
the configured currency and a code comes after it. So the currency that is reported for a text depends
on the configuration unless a symbol occurs (`normalize_reports`). -/

namespace Gleaner.Normalize

open Text (isBlank trim occursIn_iff)

/-- The first symbol of the table that occurs in a text, with its code. -/
def IsFirstSymbol (s : List Char) (x : String × String) : Prop :=
  ∃ before after, currencySymbols = before ++ x :: after ∧ x.1.toList <:+: s ∧
    ∀ y ∈ before, ¬ y.1.toList <:+: s

/-- A text in which no symbol of the table occurs. -/
def HasNoSymbol (s : List Char) : Prop := ∀ x ∈ currencySymbols, ¬ x.1.toList <:+: s

/-- Three capitals in a row. -/
def IsCode (m : List Char) : Prop := m.length = 3 ∧ ∀ c ∈ m, isCapital c = true

/-- The code that begins first in a text. -/
def IsFirstCode (s m : List Char) : Prop :=
  IsCode m ∧ ∃ k, (s.drop k).take 3 = m ∧ ∀ j < k, ¬ IsCode ((s.drop j).take 3)

/-- The currency that is reported for a text, given the configured one. -/
inductive Reports (s : List Char) (configured : Option String) : Option String → Prop
  | symbol {x : String × String} : IsFirstSymbol s x → Reports s configured (some x.2)
  | configured {c : String} : HasNoSymbol s → configured = some c → Reports s configured (some c)
  | code {m : List Char} : HasNoSymbol s → configured = none → IsFirstCode s m →
    Reports s configured (some (.ofList m))
  | none : HasNoSymbol s → configured = none → (∀ m, ¬ IsFirstCode s m) → Reports s configured none

section Symbol

variable {s : List Char}

theorem findSymbol?_eq_some_iff {m : List Char} {code : String} :
    findSymbol? s = some (m, code) ↔ ∃ x, IsFirstSymbol s x ∧ x.1.toList = m ∧ x.2 = code := by
  have hfind (x : String × String) :
      currencySymbols.find? (fun x => Text.occursIn x.1.toList s) = some x ↔ IsFirstSymbol s x := by
    rw [List.find?_eq_some_iff_append]
    constructor
    · rintro ⟨hoccurs, before, after, htable, hbefore⟩
      refine ⟨before, after, htable, occursIn_iff.mp hoccurs, fun y hy h => ?_⟩
      simpa [occursIn_iff.mpr h] using hbefore y hy
    · rintro ⟨before, after, htable, hoccurs, hbefore⟩
      refine ⟨occursIn_iff.mpr hoccurs, before, after, htable, fun y hy => ?_⟩
      rw [Bool.not_eq_true', ← Bool.not_eq_true, occursIn_iff]
      exact hbefore y hy
  rw [findSymbol?]
  change Option.map _ (currencySymbols.find? fun x => Text.occursIn x.1.toList s) = _ ↔ _
  rw [Option.map_eq_some_iff]
  simp only [hfind, Prod.mk.injEq]

theorem findSymbol?_eq_none_iff : findSymbol? s = none ↔ HasNoSymbol s := by
  refine ⟨fun h x hx hoccurs => ?_, findSymbol?_eq_none⟩
  rw [findSymbol?] at h
  have hnone := List.find?_eq_none.mp (Option.map_eq_none_iff.mp h) x hx
  exact hnone (occursIn_iff.mpr hoccurs)

theorem IsFirstSymbol.mem {x : String × String} (h : IsFirstSymbol s x) :
    x ∈ currencySymbols ∧ x.1.toList <:+: s := by
  obtain ⟨before, after, htable, hoccurs, -⟩ := h
  exact ⟨by rw [htable]; simp, hoccurs⟩

theorem IsFirstSymbol.unique {x y : String × String} (hx : IsFirstSymbol s x)
    (hy : IsFirstSymbol s y) : x.2 = y.2 := by
  have hsame := (findSymbol?_eq_some_iff.mpr ⟨x, hx, rfl, rfl⟩).symm.trans
    (findSymbol?_eq_some_iff.mpr ⟨y, hy, rfl, rfl⟩)
  simp only [Option.some.injEq, Prod.mk.injEq] at hsame
  exact hsame.2

theorem symbol_infix_trim_iff {x : String × String} (hx : x ∈ currencySymbols) :
    x.1.toList <:+: trim s ↔ x.1.toList <:+: s := by
  have hsolid := (CurrencyMark.symbol hx).isBlank_eq_false
  obtain ⟨p, q, hs, hp, hq⟩ := Text.exists_blanks_around s
  constructor
  · intro h
    rw [hs]
    exact h.trans (List.infix_append p (trim s) q)
  · intro h
    rw [hs] at h
    refine Text.infix_of_infix_middle (symbol_ne_nil x hx) (fun c hc hmem => ?_)
      (fun c hc hmem => ?_) h
    · simpa [hsolid c hc] using hp c hmem
    · simpa [hsolid c hc] using hq c hmem

theorem hasNoSymbol_trim_iff : HasNoSymbol (trim s) ↔ HasNoSymbol s :=
  forall₂_congr fun _ hx => not_congr (symbol_infix_trim_iff hx)

theorem isFirstSymbol_trim_iff {x : String × String} :
    IsFirstSymbol (trim s) x ↔ IsFirstSymbol s x := by
  refine exists₂_congr fun before after => and_congr_right fun htable => ?_
  have hmem : ∀ y ∈ before, y ∈ currencySymbols := fun y hy => by rw [htable]; simp [hy]
  refine and_congr (symbol_infix_trim_iff (by rw [htable]; simp)) (forall₂_congr fun y hy => ?_)
  exact not_congr (symbol_infix_trim_iff (hmem y hy))

end Symbol

section Code

variable {s : List Char}

theorem isCode_iff {a b c : Char} :
    IsCode [a, b, c] ↔ (isCapital a && isCapital b && isCapital c) = true := by
  simp [IsCode, and_assoc]

theorem not_isCode_take {s : List Char} (h : s.length < 3) (k : Nat) :
    ¬ IsCode ((s.drop k).take 3) := by
  rintro ⟨hlength, -⟩
  rw [List.length_take, List.length_drop] at hlength
  omega

/-- Behind a place where no code begins, the first code is that of the rest. -/
theorem isFirstCode_cons {d : Char} {r m : List Char} (h : ¬ IsCode ((d :: r).take 3)) :
    IsFirstCode (d :: r) m ↔ IsFirstCode r m := by
  refine and_congr_right fun hm => ?_
  constructor
  · rintro ⟨k, hk, hfirst⟩
    cases k with
    | zero =>
      rw [List.drop_zero] at hk
      exact absurd (hk ▸ hm) h
    | succ k =>
      refine ⟨k, hk, fun j hj => ?_⟩
      simpa using hfirst (j + 1) (by omega)
  · rintro ⟨k, hk, hfirst⟩
    refine ⟨k + 1, hk, fun j hj => ?_⟩
    cases j with
    | zero => exact h
    | succ j => simpa using hfirst j (by omega)

theorem firstCode?_eq_some_iff {m : List Char} : firstCode? s = some m ↔ IsFirstCode s m := by
  fun_induction firstCode? s with
  | case1 a b c r hcapital =>
    have hcode : IsCode [a, b, c] := isCode_iff.mpr hcapital
    constructor
    · intro h
      obtain rfl := Option.some.inj h
      exact ⟨hcode, 0, rfl, fun j hj => absurd hj (Nat.not_lt_zero j)⟩
    · rintro ⟨-, k, hk, hfirst⟩
      cases k with
      | zero => exact congrArg some hk
      | succ k => exact absurd hcode (hfirst 0 (Nat.succ_pos k))
  | case2 a b c r hcapital ih =>
    have hnot : ¬ IsCode ((a :: b :: c :: r).take 3) := fun h => hcapital (isCode_iff.mp h)
    exact ih.trans (isFirstCode_cons hnot).symm
  | case3 s hshort =>
    have hlength : s.length < 3 := by
      rcases s with _ | ⟨a, _ | ⟨b, _ | ⟨c, r⟩⟩⟩
      · simp
      · simp
      · simp
      · exact absurd rfl (hshort a b c r)
    constructor
    · intro h
      cases h
    · rintro ⟨hcode, k, rfl, -⟩
      exact absurd hcode (not_isCode_take hlength k)

theorem firstCode?_cons {d : Char} (hd : isCapital d = false) (r : List Char) :
    firstCode? (d :: r) = firstCode? r := by
  match r with
  | [] | [_] => rfl
  | b :: c :: r => rw [firstCode?, if_neg (by simp [hd])]

theorem firstCode?_append_left {p : List Char} (hp : ∀ c ∈ p, isCapital c = false) (s : List Char) :
    firstCode? (p ++ s) = firstCode? s := by
  induction p with
  | nil => rfl
  | cons d p ih =>
    obtain ⟨hd, hp⟩ := List.forall_mem_cons.mp hp
    rw [List.cons_append, firstCode?_cons hd, ih hp]

theorem firstCode?_append_right {q : List Char} (hq : ∀ c ∈ q, isCapital c = false)
    (s : List Char) : firstCode? (s ++ q) = firstCode? s := by
  fun_induction firstCode? s with
  | case1 a b c r hcapital =>
    rw [List.cons_append, List.cons_append, List.cons_append, firstCode?, if_pos hcapital]
  | case2 a b c r hcapital ih =>
    rw [List.cons_append, List.cons_append, List.cons_append, firstCode?, if_neg hcapital]
    exact ih
  | case3 s hshort =>
    -- At most two capitals stand before `q`, and `q` has none to make up three.
    match s, hshort with
    | [], _ => exact firstCode?_eq_none hq
    | [a], _ =>
      match q with
      | [] | [_] => rfl
      | d :: e :: q =>
        rw [List.singleton_append, firstCode?, if_neg (by simp [hq d List.mem_cons_self])]
        exact firstCode?_eq_none hq
    | [a, b], _ =>
      match q with
      | [] => rfl
      | d :: q =>
        have hd := hq d List.mem_cons_self
        have hnone : firstCode? (b :: d :: q) = none := by
          match q with
          | [] => rfl
          | e :: q =>
            rw [firstCode?, if_neg (by simp [hd])]
            exact firstCode?_eq_none hq
        rw [List.cons_append, List.singleton_append, firstCode?, if_neg (by simp [hd]), hnone]
    | a :: b :: c :: r, h => exact absurd rfl (h a b c r)

theorem firstCode?_trim (s : List Char) : firstCode? (trim s) = firstCode? s := by
  obtain ⟨p, q, hs, hp, hq⟩ := Text.exists_blanks_around s
  have hsplit : s = p ++ (trim s ++ q) := by rw [← List.append_assoc]; exact hs
  conv_rhs => rw [hsplit]
  rw [firstCode?_append_left (NoCurrency.of_blank hp).isCapital,
    firstCode?_append_right (NoCurrency.of_blank hq).isCapital]

end Code

namespace PriceRule

variable {rule : PriceRule} {v : Value} {s : List Char}

/-- What is left of a text without its currency does not depend on the configured one. -/
theorem takeCurrency_snd (rule : PriceRule) (currency : Option String) (s : List Char) :
    ({ rule with currency } : PriceRule).takeCurrency s =
      ((({ rule with currency } : PriceRule).takeCurrency s).1, (rule.takeCurrency s).2) := by
  unfold takeCurrency
  cases findSymbol? s <;> rfl

theorem reports_takeCurrency (rule : PriceRule) (s : List Char) :
    Reports s rule.currency (rule.takeCurrency (trim s)).1 := by
  unfold takeCurrency
  cases hfind : findSymbol? (trim s) with
  | some found =>
    obtain ⟨m, code⟩ := found
    obtain ⟨x, hx, -, rfl⟩ := findSymbol?_eq_some_iff.mp hfind
    exact .symbol (isFirstSymbol_trim_iff.mp hx)
  | none =>
    have hnone : HasNoSymbol s := hasNoSymbol_trim_iff.mp (findSymbol?_eq_none_iff.mp hfind)
    dsimp only
    rw [firstCode?_trim]
    cases hcurrency : rule.currency with
    | some c => exact .configured hnone rfl
    | none =>
      cases hcode : firstCode? s with
      | some m => exact .code hnone rfl (firstCode?_eq_some_iff.mp hcode)
      | none =>
        refine .none hnone rfl fun m hm => ?_
        rw [firstCode?_eq_some_iff.mpr hm] at hcode
        cases hcode

/-- A price with its currency, as a table. -/
def priceTable (amount : Double) (currency : Option String) (original : String) : Value :=
  .dict [("amount", .float amount), ("currency", .ofText? currency), ("original", .str original)]

/-- A text that becomes a table does so under every configured currency, with the same amount. -/
theorem exists_amount (hrule : rule.amountOnly = false) {entries : List (String × Value)}
    (h : (rule.normalize v).result = .ok (.dict entries)) :
    ∃ amount, ∀ currency, ∃ reported, Reports v.display.toList currency reported ∧
      ({ rule with currency } : PriceRule).normalize v =
        pure (priceTable amount reported v.display) := by
  unfold normalize at h
  split at h
  next => cases h
  next hsome =>
  dsimp only at h
  split at h
  next => cases h
  next hne =>
  cases hnumeral : firstNumeral? (unifySeparators rule.thousands.toList
      (rule.takeCurrency (trim v.display.toList)).2) with
  | none =>
    have hread : rule.read? (trim v.display.toList) = none := by
      rw [read?]
      dsimp only
      rw [hnumeral]
    rw [hread] at h
    cases h
  | some numeral =>
    have hread (currency : Option String) :
        ({ rule with currency } : PriceRule).read? (trim v.display.toList) =
          (Numeral.readDouble? numeral).map fun d =>
            ((({ rule with currency } : PriceRule).takeCurrency (trim v.display.toList)).1, d) := by
      rw [read?, takeCurrency_snd]
      dsimp only
      rw [hnumeral]
    have hself := hread rule.currency
    cases hdouble : Numeral.readDouble? numeral with
    | none =>
      rw [hdouble] at hself
      change rule.read? _ = none at hself
      rw [hself] at h
      cases h
    | some amount =>
      refine ⟨amount, fun currency => ⟨_, reports_takeCurrency { rule with currency } _, ?_⟩⟩
      have hsome' := hread currency
      rw [hdouble, Option.map_some] at hsome'
      rw [normalize, if_neg hsome]
      dsimp only
      rw [if_neg hne, hsome']
      dsimp only
      rw [if_neg (by rw [hrule]; exact Bool.false_ne_true)]
      rfl

theorem priceTable_inj {amount : Double} {c c' : Option String} {original : String} :
    (pure (priceTable amount c original) : Traced Log.Entry Value) =
      pure (priceTable amount c' original) ↔ c = c' := by
  refine ⟨fun h => ?_, fun h => by rw [h]⟩
  have htable := Except.ok.inj (congrArg Traced.result h)
  cases c <;> cases c' <;> simp_all [priceTable, Value.ofText?]

/-- **The currency that is reported is the same under every configuration just when a symbol
occurs**: a code in the text gives way to a configured currency. -/
theorem normalize_reports (hrule : rule.amountOnly = false) {entries : List (String × Value)}
    (h : (rule.normalize v).result = .ok (.dict entries)) :
    (∃ amount, ∀ currency, ∃ reported, Reports v.display.toList currency reported ∧
      ({ rule with currency } : PriceRule).normalize v =
        pure (priceTable amount reported v.display)) ∧
    ((∀ c c' : Option String, ({ rule with currency := c } : PriceRule).normalize v =
        ({ rule with currency := c' } : PriceRule).normalize v) ↔
      ∃ x ∈ currencySymbols, x.1.toList <:+: v.display.toList) := by
  have hamount := exists_amount hrule h
  refine ⟨hamount, ?_⟩
  obtain ⟨amount, hreport⟩ := hamount
  constructor
  · intro hsame
    by_contra hnot
    have hnone : HasNoSymbol v.display.toList := fun x hx hoccurs => hnot ⟨x, hx, hoccurs⟩
    -- Without a symbol every configured currency is the one reported.
    have hown (c : String) : ({ rule with currency := some c } : PriceRule).normalize v =
        pure (priceTable amount (some c) v.display) := by
      obtain ⟨reported, hreported, heq⟩ := hreport (some c)
      rw [heq]
      cases hreported with
      | symbol hx => exact absurd hx.mem.2 (hnone _ hx.mem.1)
      | configured _ hc => rw [hc]
      | code _ hc => cases hc
      | none _ hc => cases hc
    have hboth := hsame (some "") (some "EUR")
    rw [hown, hown, priceTable_inj] at hboth
    exact absurd hboth (by decide)
  · rintro ⟨x, hx, hoccurs⟩ c c'
    obtain ⟨reported, hreported, heq⟩ := hreport c
    obtain ⟨reported', hreported', heq'⟩ := hreport c'
    have hsymbol {configured out : Option String} (h : Reports v.display.toList configured out) :
        ∃ y, IsFirstSymbol v.display.toList y ∧ out = some y.2 := by
      cases h with
      | symbol hy => exact ⟨_, hy, rfl⟩
      | configured hnone | code hnone | none hnone => exact absurd hoccurs (hnone x hx)
    obtain ⟨y, hy, rfl⟩ := hsymbol hreported
    obtain ⟨y', hy', rfl⟩ := hsymbol hreported'
    rw [heq, heq', hy.unique hy']

/-- Pounds by a code, with euros configured. -/
theorem normalize_reports_pounds :
    (({ amountOnly := false } : PriceRule).normalize (.str "12 GBP")).result =
        .ok (priceTable (.ofDecimal false 12 0) (some "GBP") "12 GBP") ∧
      IsFirstCode "12 GBP".toList "GBP".toList ∧
      ({ amountOnly := false, currency := some "EUR" } : PriceRule).normalize (.str "12 GBP") ≠
        ({ amountOnly := false } : PriceRule).normalize (.str "12 GBP") ∧
      ∃ amount, ({ amountOnly := false, currency := some "EUR" } : PriceRule).normalize
        (.str "12 GBP") = pure (priceTable amount (some "EUR") "12 GBP") := by
  have hnamed : (({ amountOnly := false } : PriceRule).normalize (.str "12 GBP")).result =
      .ok (priceTable (.ofDecimal false 12 0) (some "GBP") "12 GBP") := rfl
  have hsymbol : HasNoSymbol "12 GBP".toList := findSymbol?_eq_none_iff.mp rfl
  obtain ⟨⟨amount, hreport⟩, -⟩ := normalize_reports rfl hnamed
  obtain ⟨reported, hreported, heuro⟩ := hreport (some "EUR")
  obtain rfl : reported = some "EUR" := by
    cases hreported with
    | symbol hx => exact absurd hx.mem.2 (hsymbol _ hx.mem.1)
    | configured _ hc => exact hc.symm
    | code _ hc => cases hc
    | none _ hc => cases hc
  refine ⟨hnamed, firstCode?_eq_some_iff.mp rfl, fun h => ?_, amount, heuro⟩
  have htable := (congrArg Traced.result heuro).symm.trans ((congrArg Traced.result h).trans hnamed)
  simp [priceTable, Value.ofText?] at htable

end PriceRule

end Gleaner.Normalize

import Gleaner.Filter.Builtin
import Gleaner.Proofs.Normalize.Notation
import Gleaner.Proofs.Number.Rounded

/-! # Whole numbers among words

A whole number is found wherever it stands in a text, with a minus sign and with commas between its
digits. But it is read as a double first. So the answer is the number rounded to 53 binary digits, and
there is none for a number out of the range of doubles (`number_whole`). -/

namespace Gleaner.Normalize

open Text (isDecimal isBlank trim trimStart trimEnd decimalsValue)
open Numeral (minusIf)
open Double (rounded excess)

/-- Characters that stand in no numeral. -/
def Apart (s : List Char) : Prop := ∀ c ∈ s, isDecimal c = false ∧ c ≠ '-' ∧ c ≠ '.' ∧ c ≠ ','

instance (s : List Char) : Decidable (Apart s) :=
  List.decidableBAll (fun c => isDecimal c = false ∧ c ≠ '-' ∧ c ≠ '.' ∧ c ≠ ',') s

/-- A number in decimal digits, with commas among them. -/
structure Grouped (v : Nat) (s : List Char) : Prop where
  chars : ∀ c ∈ s, isDecimal c = true ∨ c = ','
  ne_nil : s.filter (· ≠ ',') ≠ []
  value : decimalsValue (s.filter (· ≠ ',')) = v

/-- A number with a minus sign or without. -/
def signed (negative : Bool) (v : Nat) : Int := if negative then -(v : Int) else v

variable {negative : Bool} {v : Nat} {p q body digits s : List Char}

section Written

/-- The usual ways to write a number are among these. -/
theorem grouped_digitsOf (v : Nat) :
    Grouped v (digitsOf v) ∧ Grouped v (groupThrees ',' (digitsOf v)) := by
  have hdigits : ∀ c ∈ digitsOf v, isDecimal c = true := fun c => isDecimal_of_mem_digitsOf
  have hcomma : ',' ∉ digitsOf v := Text.notMem_of_isDecimal (by decide) hdigits
  have hplain : (digitsOf v).filter (· ≠ ',') = digitsOf v := Text.filter_ne_of_notMem hcomma
  have hgroups : (groupThrees ',' (digitsOf v)).filter (· ≠ ',') = digitsOf v :=
    filter_groupThrees hcomma
  constructor
  · exact ⟨fun c hc => .inl (hdigits c hc), by rw [hplain]; exact Text.digitsOf_ne_nil v,
      by rw [hplain, Text.decimalsValue_digitsOf]⟩
  · exact ⟨fun c hc => mem_groupThrees_digitsOf hc, by rw [hgroups]; exact Text.digitsOf_ne_nil v,
      by rw [hgroups, Text.decimalsValue_digitsOf]⟩

theorem Grouped.isDecimal_filter (h : Grouped v body) :
    ∀ c ∈ body.filter (· ≠ ','), isDecimal c = true := by
  intro c hc
  obtain ⟨hmem, hcomma⟩ := List.mem_filter.mp hc
  exact (h.chars c hmem).resolve_right (by simpa using hcomma)

theorem Apart.of_subset (h : Apart s) {t : List Char} (ht : t ⊆ s) : Apart t :=
  fun c hc => h c (ht hc)

theorem Apart.filter_comma (h : Apart s) : s.filter (· ≠ ',') = s :=
  Text.filter_ne_of_notMem fun hc => (h ',' hc).2.2.2 rfl

/-- Trimmed and without its commas a text has the digits next to each other. -/
theorem filter_trim_among (hp : Apart p) (hbody : Grouped v body) (hq : Apart q)
    (negative : Bool) :
    ∃ p' q', Apart p' ∧ Apart q' ∧
      (trim (p ++ (minusIf negative ++ body) ++ q)).filter (· ≠ ',') =
        p' ++ (minusIf negative ++ body.filter (· ≠ ',') ++ q') := by
  have hne : minusIf negative ++ body ≠ [] := by
    intro h
    have hnil := (List.append_eq_nil_iff.mp h).2
    exact hbody.ne_nil (by rw [hnil]; rfl)
  have hsolid : ∀ c ∈ minusIf negative ++ body, isBlank c = false := by
    intro c hc
    rcases List.mem_append.mp hc with hsign | hc
    · cases negative with
      | false => cases hsign
      | true =>
        obtain rfl := List.mem_singleton.mp hsign
        decide
    · exact isBlank_of_amount ((hbody.chars c hc).imp_right .inl)
  have hp' : Apart (trimStart p) := hp.of_subset (Text.trimStart_sublist p).subset
  have hq' : Apart (trimEnd q) := hq.of_subset (Text.trimEnd_sublist q).subset
  have hsign : (minusIf negative).filter (· ≠ ',') = minusIf negative := by
    cases negative <;> rfl
  refine ⟨trimStart p, trimEnd q, hp', hq', ?_⟩
  rw [Text.trim_around hne hsolid, List.filter_append, List.filter_append, List.filter_append,
    hp'.filter_comma, hq'.filter_comma, hsign, List.append_assoc]

end Written

section Found

theorem leadingNumeral?_cons_eq_none {c : Char} (h : isDecimal c = false) (r : List Char) :
    leadingNumeral? (c :: r) = none := by
  rw [leadingNumeral?, List.takeWhile_cons_of_neg (by simp [h])]
  rfl

/-- Signed numerals are looked for behind what is in none. -/
theorem firstSigned?_append (hp : Apart p) (s : List Char) :
    firstSigned? (p ++ s) = firstSigned? s := by
  induction p with
  | nil => rfl
  | cons c p ih =>
    obtain ⟨⟨hdecimal, hminus, -, -⟩, hp⟩ := List.forall_mem_cons.mp hp
    rw [List.cons_append, firstSigned?, if_neg hminus]
    dsimp only
    rw [leadingNumeral?_cons_eq_none hdecimal]
    exact ih hp

theorem firstSigned?_digits (hne : digits ≠ []) (hdigits : ∀ c ∈ digits, isDecimal c = true)
    (hq : Apart q) (negative : Bool) :
    firstSigned? (minusIf negative ++ digits ++ q) = some (minusIf negative ++ digits) := by
  have hlead : leadingNumeral? (digits ++ q) = some digits :=
    leadingNumeral?_whole hne hdigits fun c hc => ⟨(hq c hc).1, (hq c hc).2.2.1⟩
  cases negative with
  | true =>
    change firstSigned? ('-' :: (digits ++ q)) = some ('-' :: digits)
    rw [firstSigned?, if_pos rfl, hlead]
  | false =>
    obtain ⟨c, r, rfl⟩ := List.exists_cons_of_ne_nil hne
    have hminus : c ≠ '-' := by
      rintro rfl
      exact absurd (hdigits '-' List.mem_cons_self) (by decide)
    change firstSigned? (c :: (r ++ q)) = some (c :: r)
    rw [firstSigned?, if_neg hminus]
    dsimp only
    rw [← List.cons_append, hlead]

end Found

section Rule

/-- A whole number in a text is read as the double nearest to it. -/
theorem NumberRule.ofText_among (rule : NumberRule) (hp : Apart p) (hbody : Grouped v body)
    (hq : Apart q) (negative : Bool) :
    rule.ofText (p ++ (minusIf negative ++ body) ++ q) =
      rule.ofDouble (.nearest negative v 1) := by
  obtain ⟨p', q', hp', hq', hfilter⟩ := filter_trim_among hp hbody hq negative
  have hfirst := firstSigned?_digits hbody.ne_nil hbody.isDecimal_filter hq' negative
  have hread := Numeral.readDouble?_signed_whole negative hbody.ne_nil hbody.isDecimal_filter
  rw [hbody.value, Double.ofDecimal_whole] at hread
  rw [NumberRule.ofText, hfilter, firstSigned?_append hp', hfirst]
  dsimp only
  rw [hread]
  rfl

theorem truncate_nearest_eq (negative : Bool) (v : Nat) :
    (rounded v < 2 ^ 1024 →
      truncate (.nearest negative v 1) = .ok (signed negative (rounded v))) ∧
    (¬ rounded v < 2 ^ 1024 → truncate (.nearest negative v 1) = .error .infinityToInt) := by
  obtain ⟨hfinite, hinfinite⟩ := Double.truncate_nearest negative v
  constructor
  · intro hlt
    obtain ⟨m, e, hnearest, hvalue⟩ := hfinite hlt
    rw [hnearest, truncate, hvalue]
    rfl
  · intro hge
    rw [hinfinite hge]
    rfl

theorem signed_inj {a b : Nat} : signed negative a = signed negative b ↔ a = b := by
  unfold signed
  cases negative <;> simp

/-- **A whole number is read as itself just when its binary digits behind the first 53 are zeros and it
is below `2 ^ 1024`.** Every other one is rounded to 53 digits, if the result is still in range. -/
theorem number_whole (hp : Apart p) (hbody : Grouped v body) (hq : Apart q) (negative : Bool) :
    (rounded v < 2 ^ 1024 →
      Filter.number.run (.str (.ofList (p ++ (minusIf negative ++ body) ++ q))) ["int"] =
        pure (.int (signed negative (rounded v)))) ∧
    (¬ rounded v < 2 ^ 1024 →
      Filter.number.run (.str (.ofList (p ++ (minusIf negative ++ body) ++ q))) ["int"] =
        .fail .infinityToInt) ∧
    (2 ^ 53 * rounded v ≤ 2 ^ 53 * v + v ∧ 2 ^ 53 * v ≤ 2 ^ 53 * rounded v + v) ∧
    (Filter.number.run (.str (.ofList (p ++ (minusIf negative ++ body) ++ q))) ["int"] =
        pure (.int (signed negative v)) ↔ 2 ^ excess v ∣ v ∧ v < 2 ^ 1024) := by
  have hrun : Filter.number.run (.str (.ofList (p ++ (minusIf negative ++ body) ++ q))) ["int"] =
      .ofExcept ((truncate (.nearest negative v 1)).map .int) := by
    have hrule := NumberRule.ofText_among { kind := .whole } hp hbody hq negative
    change Traced.ofExcept (NumberRule.ofText { kind := .whole }
      (String.ofList (p ++ (minusIf negative ++ body) ++ q)).toList) = _
    rw [String.toList_ofList, hrule]
    rfl
  obtain ⟨hfinite, hinfinite⟩ := truncate_nearest_eq negative v
  rw [hrun]
  refine ⟨fun hlt => by rw [hfinite hlt]; rfl, fun hge => by rw [hinfinite hge]; rfl,
    Double.rounded_close v, ?_⟩
  rw [← Double.rounded_eq_self_iff]
  by_cases hlt : rounded v < 2 ^ 1024
  · rw [hfinite hlt]
    constructor
    · intro h
      have hvalue := Except.ok.inj (congrArg Traced.result h)
      have hsame : rounded v = v := signed_inj.mp (Value.int.inj hvalue)
      exact ⟨hsame, hsame ▸ hlt⟩
    · rintro ⟨hsame, -⟩
      rw [hsame]
      rfl
  · rw [hinfinite hlt]
    refine ⟨nofun, ?_⟩
    rintro ⟨hsame, hsmall⟩
    rw [hsame] at hlt
    exact absurd hsmall hlt

/-- The first whole number that is no double, with a sign, with groups and among words. -/
theorem number_whole_views :
    Apart "fell by ".toList ∧ Grouped 9007199254740993 "9,007,199,254,740,993".toList ∧
      Apart " views".toList ∧
      Filter.number.run (.str "fell by -9,007,199,254,740,993 views") ["int"] =
        pure (.int (-9007199254740992)) ∧
      Filter.number.run (.str "fell by -9,007,199,254,740,993 views") ["int"] ≠
        pure (.int (-9007199254740993)) := by
  have hp : Apart "fell by ".toList := by decide
  have hq : Apart " views".toList := by decide
  have hbody : Grouped 9007199254740993 "9,007,199,254,740,993".toList :=
    (grouped_digitsOf 9007199254740993).2
  obtain ⟨hfinite, -, -, hexact⟩ := number_whole hp hbody hq true
  have hrounded : rounded 9007199254740993 = 9007199254740992 := by decide
  have hrange : rounded 9007199254740993 < 2 ^ 1024 := by decide +kernel
  have hvalue := hfinite hrange
  rw [hrounded] at hvalue
  refine ⟨hp, hbody, hq, hvalue, fun h => ?_⟩
  exact absurd (hexact.mp h).1 (by decide)

end Rule

end Gleaner.Normalize

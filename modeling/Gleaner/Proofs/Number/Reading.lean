import Gleaner.Number.Numeral
import Gleaner.Proofs.Text.Digits
import Gleaner.Proofs.Text.Occurrence
import Mathlib.Data.List.TakeWhile

/-! # Reading digits

Digits of any script, with a point and places behind them or without, are read as the double nearest
to what they are worth. -/

namespace Gleaner.Numeral

open Text (isDecimal decimalValue? decimalsValue exists_decimalValue? decimalValue?_lt)

section Ascii

theorem toAscii_append (s t : List Char) : toAscii (s ++ t) = toAscii s ++ toAscii t :=
  List.map_append

/-- The ASCII digit of the same worth. -/
def asciiDigit (c : Char) : Char := Nat.digitChar ((decimalValue? c).getD 0)

theorem toAscii_singleton {c : Char} (h : isDecimal c = true) : toAscii [c] = [asciiDigit c] := by
  obtain ⟨d, hd⟩ := exists_decimalValue? h
  have hlt := decimalValue?_lt hd
  rw [asciiDigit, hd, toAscii, List.map_singleton, Option.getD_some]
  split
  next hascii =>
    rw [decimalValue?, if_pos hascii] at hd
    split at hd
    next hdigit =>
      obtain rfl := Option.some.inj hd
      have hc := Char.isDigit_iff_toNat.mp hdigit
      have hzero : '0'.toNat = 48 := rfl
      have hsame : Nat.digitChar (c.toNat - 48) = c := by
        apply Char.toNat_inj.mp
        rw [Nat.toNat_digitChar_of_lt_ten hlt]
        omega
      rw [hsame]
    next => cases hd
  next =>
    have hall : ∀ d < 10, Char.ofNat (48 + d) = Nat.digitChar d := by decide
    rw [hd]
    exact congrArg (fun c => [c]) (hall d hlt)

theorem toAscii_decimals {s : List Char} (h : ∀ c ∈ s, isDecimal c = true) :
    toAscii s = s.map asciiDigit :=
  List.map_congr_left fun c hc => List.singleton_inj.mp (toAscii_singleton (h c hc))

theorem isDigit_of_mem_toAscii {s : List Char} (h : ∀ c ∈ s, isDecimal c = true) :
    ∀ c ∈ toAscii s, c.isDigit = true := by
  intro c hc
  rw [toAscii_decimals h] at hc
  obtain ⟨a, ha, rfl⟩ := List.mem_map.mp hc
  obtain ⟨d, hd⟩ := exists_decimalValue? (h a ha)
  rw [asciiDigit, hd, Nat.isDigit_digitChar, decide_eq_true_eq]
  exact decimalValue?_lt hd

theorem digitsValue_toAscii {s : List Char} (h : ∀ c ∈ s, isDecimal c = true) :
    digitsValue (toAscii s) = decimalsValue s := by
  rw [toAscii_decimals h, digitsValue, decimalsValue, List.foldl_map]
  refine List.foldl_ext _ _ 0 fun n c hc => ?_
  obtain ⟨d, hd⟩ := exists_decimalValue? (h c hc)
  rw [asciiDigit, hd, Option.getD_some, Nat.toNat_digitChar_of_lt_ten (decimalValue?_lt hd),
    Nat.add_sub_cancel_left]

theorem trimAscii_eq_self {s : List Char} (h : ∀ c ∈ s, isAsciiSpace c = false) :
    trimAscii s = s := by
  have hkeep : ∀ t : List Char, (∀ c ∈ t, isAsciiSpace c = false) →
      t.dropWhile isAsciiSpace = t := by
    intro t ht
    cases t with
    | nil => rfl
    | cons c t => rw [List.dropWhile_cons_of_neg (by simp [ht c List.mem_cons_self])]
  rw [trimAscii, hkeep s h, hkeep s.reverse (by simpa using h), List.reverse_reverse]

theorem underscoresOk_of_notMem {before : Char} {s : List Char} (hbefore : before ≠ '_')
    (hs : '_' ∉ s) : underscoresOk before s = true := by
  induction s generalizing before with
  | nil => simpa [underscoresOk] using hbefore
  | cons c r ih =>
    rw [List.mem_cons, not_or] at hs
    rw [underscoresOk, if_neg (Ne.symm hs.1), ih (Ne.symm hs.1) hs.2]
    simp [hbefore]

end Ascii

section Decimal

theorem ne_of_isDigit {c d : Char} (hc : c.isDigit = true) (hd : d.isDigit = false) : c ≠ d := by
  rintro rfl
  rw [hc] at hd
  cases hd

theorem isAsciiSpace_of_isDigit {c : Char} (h : c.isDigit = true) : isAsciiSpace c = false := by
  have hlow := (Char.isDigit_iff_toNat.mp h).1
  have hzero : '0'.toNat = 48 := rfl
  rw [isAsciiSpace, Bool.or_eq_false_iff, Bool.and_eq_false_iff]
  refine ⟨decide_eq_false (ne_of_isDigit h (by decide)), .inr (decide_eq_false ?_)⟩
  omega

theorem toLower_of_isDigit {c : Char} (h : c.isDigit = true) : c.toLower = c := by
  have hsmall : ¬ (c.val ≥ 'A'.val ∧ c.val ≤ 'Z'.val) := by
    rintro ⟨hcapital, -⟩
    have hlow : 'A'.toNat ≤ c.toNat := UInt32.le_iff_toNat_le.mp hcapital
    exact absurd (Nat.le_trans hlow (Char.isDigit_iff_toNat.mp h).2) (by decide)
  exact dif_neg hsmall

theorem takeSign_of_isDigit {c : Char} (h : c.isDigit = true) (r : List Char) :
    takeSign (c :: r) = (false, c :: r) := by
  rw [takeSign]
  · intro r' hr
    exact ne_of_isDigit h (by decide : '-'.isDigit = false) (List.cons.inj hr).1
  · intro r' hr
    exact ne_of_isDigit h (by decide : '+'.isDigit = false) (List.cons.inj hr).1

/-- A minus sign, if there is one. -/
def minusIf (negative : Bool) : List Char := if negative then ['-'] else []

/-- Digits and points that begin with a digit are read as a decimal, with a minus sign before them or
without. -/
theorem readDouble?_signed (negative : Bool) {text body r : List Char} {c : Char}
    (htext : toAscii text = minusIf negative ++ body) (hbody : body = c :: r)
    (hc : c.isDigit = true) (hall : ∀ c ∈ body, c.isDigit = true ∨ c = '.') :
    readDouble? text =
      (readDecimal? body).map fun d => .ofDecimal negative d.digits d.exponent := by
  have hspace : ∀ c ∈ minusIf negative ++ body, isAsciiSpace c = false := by
    intro c hc
    rcases List.mem_append.mp hc with hsign | hc
    · cases negative with
      | false => cases hsign
      | true =>
        obtain rfl := List.mem_singleton.mp hsign
        decide
    rcases hall c hc with hdigit | rfl
    · exact isAsciiSpace_of_isDigit hdigit
    · decide
  have hbar : '_' ∉ minusIf negative ++ body := fun hmem => by
    rcases List.mem_append.mp hmem with hsign | hmem
    · cases negative <;> simp [minusIf] at hsign
    · rcases hall '_' hmem with h | h <;> revert h <;> decide
  have hfilter : (minusIf negative ++ body).filter (· ≠ '_') = minusIf negative ++ body :=
    Text.filter_ne_of_notMem hbar
  have hsign : takeSign (minusIf negative ++ body) = (negative, body) := by
    cases negative with
    | false =>
      rw [hbody]
      exact takeSign_of_isDigit hc r
    | true => rfl
  -- A word would begin with a letter.
  have hword : ∀ (d : Char) (w : List Char), d.isDigit = false →
      body.map Char.toLower ≠ d :: w := by
    intro d w hd h
    rw [hbody, List.map_cons, toLower_of_isDigit hc] at h
    exact ne_of_isDigit hc hd (List.cons.inj h).1
  have hinf : ¬ (body.map Char.toLower = "inf".toList ∨
      body.map Char.toLower = "infinity".toList) :=
    not_or.mpr ⟨hword 'i' _ (by decide), hword 'i' _ (by decide)⟩
  have hnan : ¬ body.map Char.toLower = "nan".toList := hword 'n' _ (by decide)
  rw [readDouble?, htext, trimAscii_eq_self hspace,
    if_neg (not_not.mpr (underscoresOk_of_notMem (by decide) hbar)), hfilter, hsign]
  dsimp only
  rw [if_neg hinf, if_neg hnan]

variable {whole places : List Char}

theorem readDecimal?_whole (hne : whole ≠ []) (hwhole : ∀ c ∈ whole, c.isDigit = true) :
    readDecimal? whole = some ⟨digitsValue whole, 0⟩ := by
  rw [readDecimal?, List.takeWhile_eq_self_iff.mpr hwhole, List.dropWhile_eq_nil_iff.mpr hwhole]
  simp [hne]

theorem readDecimal?_point (hne : whole ≠ []) (hwhole : ∀ c ∈ whole, c.isDigit = true)
    (hplaces : ∀ c ∈ places, c.isDigit = true) :
    readDecimal? (whole ++ '.' :: places) =
      some ⟨digitsValue (whole ++ places), -(places.length : Int)⟩ := by
  have htake : (whole ++ '.' :: places).takeWhile Char.isDigit = whole := by
    rw [List.takeWhile_append_of_pos hwhole, List.takeWhile_cons_of_neg (by decide),
      List.append_nil]
  have hdrop : (whole ++ '.' :: places).dropWhile Char.isDigit = '.' :: places := by
    rw [List.dropWhile_append_of_pos hwhole, List.dropWhile_cons_of_neg (by decide)]
  simp only [readDecimal?, htake, hdrop]
  rw [List.takeWhile_eq_self_iff.mpr hplaces, List.dropWhile_eq_nil_iff.mpr hplaces]
  simp [hne]

/-- **Digits are read as a whole number**, a negative one behind a minus sign. -/
theorem readDouble?_signed_whole (negative : Bool) (hne : whole ≠ [])
    (hwhole : ∀ c ∈ whole, isDecimal c = true) :
    readDouble? (minusIf negative ++ whole) =
      some (.ofDecimal negative (decimalsValue whole) 0) := by
  have hdigits := isDigit_of_mem_toAscii hwhole
  have htext : toAscii (minusIf negative ++ whole) = minusIf negative ++ toAscii whole := by
    rw [toAscii_append]
    cases negative <;> rfl
  obtain ⟨c, r, hcons⟩ := List.exists_cons_of_ne_nil (l := toAscii whole) (by simpa [toAscii])
  rw [readDouble?_signed negative htext hcons (hdigits c (by rw [hcons]; exact List.mem_cons_self))
    (fun c hc => .inl (hdigits c hc)), readDecimal?_whole (by simp [hcons]) hdigits,
    digitsValue_toAscii hwhole]
  rfl

theorem readDouble?_whole (hne : whole ≠ []) (hwhole : ∀ c ∈ whole, isDecimal c = true) :
    readDouble? whole = some (.ofDecimal false (decimalsValue whole) 0) :=
  readDouble?_signed_whole false hne hwhole

/-- **Digits around a point are read as a decimal.** -/
theorem readDouble?_point (hne : whole ≠ []) (hwhole : ∀ c ∈ whole, isDecimal c = true)
    (hplaces : ∀ c ∈ places, isDecimal c = true) :
    readDouble? (whole ++ '.' :: places) =
      some (.ofDecimal false (decimalsValue (whole ++ places)) (-(places.length : Int))) := by
  have hdigits := isDigit_of_mem_toAscii hwhole
  have hdigits' := isDigit_of_mem_toAscii hplaces
  have hascii : toAscii (whole ++ '.' :: places) =
      minusIf false ++ (toAscii whole ++ '.' :: toAscii places) := by
    rw [toAscii_append]
    rfl
  obtain ⟨c, r, hcons⟩ := List.exists_cons_of_ne_nil (l := toAscii whole) (by simpa [toAscii])
  have hbody : toAscii whole ++ '.' :: toAscii places = c :: (r ++ '.' :: toAscii places) := by
    rw [hcons]
    rfl
  have hall : ∀ d ∈ toAscii whole ++ '.' :: toAscii places, d.isDigit = true ∨ d = '.' := by
    intro d hd
    rw [List.mem_append, List.mem_cons] at hd
    rcases hd with hd | rfl | hd
    · exact .inl (hdigits d hd)
    · exact .inr rfl
    · exact .inl (hdigits' d hd)
  have hvalue : digitsValue (toAscii whole ++ toAscii places) = decimalsValue (whole ++ places) := by
    rw [← toAscii_append]
    exact digitsValue_toAscii fun c hc => (List.mem_append.mp hc).elim (hwhole c) (hplaces c)
  rw [readDouble?_signed false hascii hbody
      (hdigits c (by rw [hcons]; exact List.mem_cons_self)) hall,
    readDecimal?_point (by simp [hcons]) hdigits hdigits', hvalue]
  simp [toAscii]

end Decimal

end Gleaner.Numeral

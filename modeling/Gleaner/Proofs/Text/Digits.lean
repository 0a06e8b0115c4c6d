import Gleaner.Number.Decimal
import Gleaner.Text.Basic
import Gleaner.Text.Property
import Mathlib.Data.List.Basic

/-! # Decimal digits

The decimal digits of all scripts, in rows of ten above ASCII. A digit is no blank, it is worth less
than ten, and the digits that a number is written with are worth the number. -/

namespace Gleaner.Text

section Rows

/-- A row has ten digits, and it lies between the blanks. -/
theorem decimal_rows : ∀ r ∈ decimalZeroTable.ranges.toList, r.2 = r.1 + 9 ∧
    (0x660 ≤ r.1 ∧ r.2 < 0x1680 ∨ 0x1680 < r.1 ∧ r.2 < 0x2000 ∨ 0x3000 < r.1) := by
  rw [decimalZeroTable, CodeSet.ofText, tableEntries, String.toList_ofList]
  decide +kernel

theorem CodeSet.exists_range {s : CodeSet} {c : Char} {d : Nat} (h : s.offset? c = some d) :
    ∃ r ∈ s.ranges.toList, r.1 ≤ c.toNat ∧ c.toNat ≤ r.2 ∧ d = c.toNat - r.1 := by
  rw [offset?, Option.bind_eq_bind, Option.bind_eq_some_iff] at h
  obtain ⟨⟨a, z⟩, hr, h⟩ := h
  rw [rangeBefore?, ← Array.getElem?_toList] at hr
  refine ⟨(a, z), List.mem_of_getElem? hr, ?_⟩
  dsimp only at h
  split at h
  next hin => exact ⟨hin.1, hin.2, (Option.some.inj h).symm⟩
  next => cases h

theorem isDecimal_of_isDigit {c : Char} (h : c.isDigit = true) : isDecimal c = true := by
  have hascii : c.val < 128 := by
    rw [Char.isDigit_iff_toNat] at h
    exact UInt32.lt_iff_toNat_lt.mpr (by simpa using Nat.lt_of_le_of_lt h.2 (by decide))
  rw [isDecimal, decimalValue?, if_pos hascii, if_pos h]
  rfl

/-- Where decimal digits stand, and what they are worth. -/
theorem decimalValue?_cases {c : Char} {d : Nat} (h : decimalValue? c = some d) :
    (48 ≤ c.toNat ∧ c.toNat ≤ 57 ∧ d = c.toNat - 48) ∨ d < 10 ∧
      (0x660 ≤ c.toNat ∧ c.toNat < 0x1680 ∨ 0x1680 < c.toNat ∧ c.toNat < 0x2000 ∨
        0x3000 < c.toNat) := by
  rw [decimalValue?] at h
  split at h
  · split at h
    next hdigit =>
      rw [Char.isDigit_iff_toNat] at hdigit
      exact .inl ⟨hdigit.1, hdigit.2, (Option.some.inj h).symm⟩
    next => cases h
  · obtain ⟨r, hr, hlow, hhigh, rfl⟩ := CodeSet.exists_range h
    obtain ⟨hten, hplace⟩ := decimal_rows r hr
    right
    omega

theorem exists_decimalValue? {c : Char} (h : isDecimal c = true) :
    ∃ d, decimalValue? c = some d := Option.isSome_iff_exists.mp h

theorem decimalValue?_lt {c : Char} {d : Nat} (h : decimalValue? c = some d) : d < 10 := by
  rcases decimalValue?_cases h with h | h <;> omega

theorem isBlank_of_isDecimal {c : Char} (h : isDecimal c = true) : isBlank c = false := by
  obtain ⟨d, hd⟩ := exists_decimalValue? h
  have hplace := decimalValue?_cases hd
  rw [← Bool.not_eq_true]
  intro hblank
  simp only [isBlank, Bool.or_eq_true, Bool.and_eq_true, decide_eq_true_eq, beq_iff_eq] at hblank
  omega

theorem notMem_of_isDecimal {s : List Char} {d : Char} (hd : isDecimal d = false)
    (h : ∀ c ∈ s, isDecimal c = true) : d ∉ s := by
  intro hmem
  rw [h d hmem] at hd
  cases hd

end Rows

section Value

/-- The number that decimal digits write. -/
def decimalsValue (s : List Char) : Nat :=
  s.foldl (fun n c => 10 * n + (decimalValue? c).getD 0) 0

theorem decimalsValue_append (s t : List Char) :
    decimalsValue (s ++ t) =
      t.foldl (fun n c => 10 * n + (decimalValue? c).getD 0) (decimalsValue s) :=
  List.foldl_append

theorem decimalValue?_digitChar {d : Nat} (h : d < 10) :
    decimalValue? (Nat.digitChar d) = some d := by
  have hall : ∀ d < 10, decimalValue? (Nat.digitChar d) = some d := by decide
  exact hall d h

theorem isDecimal_digitChar {d : Nat} (h : d < 10) : isDecimal (Nat.digitChar d) = true := by
  rw [isDecimal, decimalValue?_digitChar h]
  rfl

theorem isDigit_of_mem_digitsOf {n : Nat} {c : Char} (h : c ∈ digitsOf n) : c.isDigit = true :=
  Nat.isDigit_of_mem_toDigits (by decide) (by decide) h

theorem digitsOf_ne_nil (n : Nat) : digitsOf n ≠ [] := Nat.toDigits_ne_nil

theorem decimalsValue_of_isDigit {s : List Char} (h : ∀ c ∈ s, c.isDigit = true) :
    decimalsValue s = Nat.ofDigitChars 10 s 0 := by
  rw [Nat.ofDigitChars_eq_foldl, decimalsValue]
  refine List.foldl_ext _ _ 0 fun n c hc => ?_
  obtain ⟨d, hd⟩ := exists_decimalValue? (isDecimal_of_isDigit (h c hc))
  have hdigit := Char.isDigit_iff_toNat.mp (h c hc)
  have hvalue : d = c.toNat - 48 := by
    rcases decimalValue?_cases hd with hascii | hrow
    · exact hascii.2.2
    · have hnine : '9'.toNat = 57 := rfl
      omega
  rw [hd, hvalue]
  rfl

/-- The digits of a number are worth the number. -/
theorem decimalsValue_digitsOf (n : Nat) : decimalsValue (digitsOf n) = n := by
  rw [decimalsValue_of_isDigit fun _ => isDigit_of_mem_digitsOf]
  exact Nat.ofDigitChars_toDigits (by decide) (by decide)

end Value

end Gleaner.Text

import Gleaner.Proofs.Number.Nearest
import Mathlib.Algebra.Order.Ring.Nat
import Mathlib.Tactic.Ring

/-! # Whole numbers as doubles

The double nearest to a whole number keeps its first 53 binary digits. Its whole part is the number
rounded to so many digits, and there is none from `2 ^ 1024` on (`truncate_nearest`). -/

namespace Gleaner.Double

/-- How many binary digits a number has behind its first 53. -/
def excess (v : Nat) : Nat := Nat.log2 v - 52

/-- A number rounded to its first 53 binary digits, a tie to the even one. -/
def rounded (v : Nat) : Nat := roundDiv v (Nat.pow 2 (excess v)) * Nat.pow 2 (excess v)

variable {negative : Bool} {v w m : Nat} {e : Int}

section Quotient

variable {num den : Nat}

theorem roundDiv_mul (h : 0 < den) (q : Nat) : roundDiv (q * den) den = q := by
  unfold roundDiv
  dsimp only
  rw [Nat.mul_div_cancel q h, Nat.mul_mod_left, if_neg (by omega)]

theorem roundDiv_one (num : Nat) : roundDiv num 1 = num := by
  simpa using roundDiv_mul Nat.one_pos num

theorem roundDiv_cases (num den : Nat) :
    roundDiv num den = num / den ∨ roundDiv num den = num / den + 1 := by
  unfold roundDiv
  dsimp only
  split
  · exact .inr rfl
  · exact .inl rfl

/-- What is rounded is at most half a unit away. -/
theorem roundDiv_near (h : 0 < den) (num : Nat) :
    2 * (roundDiv num den * den) ≤ 2 * num + den ∧
      2 * num ≤ 2 * (roundDiv num den * den) + den := by
  have hsplit : num / den * den + num % den = num := Nat.div_add_mod' num den
  have hrest := Nat.mod_lt num h
  unfold roundDiv
  dsimp only
  split
  next hup =>
    rw [Nat.add_mul, Nat.one_mul]
    omega
  next hdown => omega

end Quotient

section Rounded

theorem excess_pos_log2 (h : 0 < excess v) : Nat.log2 v = excess v + 52 := by
  unfold excess at h ⊢
  omega

theorem rounded_near (v : Nat) :
    2 * rounded v ≤ 2 * v + 2 ^ excess v ∧ 2 * v ≤ 2 * rounded v + 2 ^ excess v :=
  roundDiv_near (Nat.two_pow_pos (excess v)) v

/-- A number is rounded to itself when it has no digits behind its first 53. -/
theorem rounded_eq_self_iff : rounded v = v ↔ 2 ^ excess v ∣ v := by
  constructor
  · intro h
    exact ⟨_, (Nat.mul_comm _ _).symm.trans h |>.symm⟩
  · rintro ⟨q, hq⟩
    have hround : roundDiv v (2 ^ excess v) = q := by
      have hmul := roundDiv_mul (Nat.two_pow_pos (excess v)) q
      rwa [Nat.mul_comm, ← hq] at hmul
    change roundDiv v (2 ^ excess v) * 2 ^ excess v = v
    rw [hround, Nat.mul_comm]
    exact hq.symm

theorem rounded_of_excess_eq_zero (h : excess v = 0) : rounded v = v := by
  rw [rounded_eq_self_iff, h]
  exact Nat.one_dvd v

/-- Rounding changes a number by at most one part in `2 ^ 53`. -/
theorem rounded_close (v : Nat) :
    2 ^ 53 * rounded v ≤ 2 ^ 53 * v + v ∧ 2 ^ 53 * v ≤ 2 ^ 53 * rounded v + v := by
  rcases Nat.eq_zero_or_pos (excess v) with hnone | hsome
  · rw [rounded_of_excess_eq_zero hnone]
    omega
  · have hlog := excess_pos_log2 hsome
    have hne : v ≠ 0 := by
      rintro rfl
      simp [excess] at hsome
    have hself : 2 ^ Nat.log2 v ≤ v := Nat.log2_self_le hne
    rw [hlog, Nat.pow_add] at hself
    have hnear := rounded_near v
    omega

end Rounded

section Binary

/-- The mantissa and the exponent of a normal double with a given value. -/
structure Holds (m : Nat) (e : Int) (w : Nat) : Prop where
  least : 2 ^ 52 ≤ m
  most : m < 2 ^ 53
  value : m * 2 ^ e.toNat = w * 2 ^ (-e).toNat

theorem Holds.quotient (h : Holds m e w) : (ratio m e).1 / (ratio m e).2 = w := by
  have hvalue := h.value
  unfold ratio
  split
  next hle =>
    have hzero : (-e).toNat = 0 := by omega
    rw [hzero, Nat.pow_zero, Nat.mul_one] at hvalue
    rw [Nat.div_one]
    exact hvalue
  next hlt =>
    have hzero : e.toNat = 0 := by omega
    rw [hzero, Nat.pow_zero, Nat.mul_one] at hvalue
    rw [hvalue]
    exact Nat.mul_div_cancel w (Nat.two_pow_pos _)

/-- The exponent of a double says how many binary digits its value has. -/
theorem Holds.lt_two_pow_iff (h : Holds m e w) {k : Nat} (hk : 53 ≤ k) :
    w < 2 ^ k ↔ e + 53 ≤ k := by
  obtain ⟨hleast, hmost, hvalue⟩ := h
  obtain ⟨j, rfl⟩ := Nat.exists_eq_add_of_le' hk
  constructor
  · intro hlt
    by_contra hgt
    have hzero : (-e).toNat = 0 := by omega
    have hexp : j + 1 ≤ e.toNat := by omega
    rw [hzero, Nat.pow_zero, Nat.mul_one] at hvalue
    have hlarge : 2 ^ (j + 53) ≤ w := by
      calc 2 ^ (j + 53) = 2 ^ 52 * 2 ^ (j + 1) := by ring
        _ ≤ m * 2 ^ e.toNat := Nat.mul_le_mul hleast (Nat.pow_le_pow_right Nat.two_pos hexp)
        _ = w := hvalue
    exact absurd hlt (Nat.not_lt.mpr hlarge)
  · intro hle
    have hexp : e.toNat ≤ j := by omega
    calc w ≤ w * 2 ^ (-e).toNat := Nat.le_mul_of_pos_right w (Nat.two_pow_pos _)
      _ = m * 2 ^ e.toNat := hvalue.symm
      _ ≤ m * 2 ^ j := Nat.mul_le_mul_left m (Nat.pow_le_pow_right Nat.two_pos hexp)
      _ < 2 ^ 53 * 2 ^ j := Nat.mul_lt_mul_of_pos_right hmost (Nat.two_pow_pos j)
      _ = 2 ^ (j + 53) := by ring

/-- The mantissa that is found for a whole number, before it is brought below `2 ^ 53`. -/
theorem roundDiv_scaled (h : v ≠ 0) {e : Int} (he : e = (Nat.log2 v : Int) - 52) :
    2 ^ 52 ≤ roundDiv (scaled v 1 e).1 (scaled v 1 e).2 ∧
      roundDiv (scaled v 1 e).1 (scaled v 1 e).2 ≤ 2 ^ 53 ∧
      (e < 0 → roundDiv (scaled v 1 e).1 (scaled v 1 e).2 < 2 ^ 53) ∧
      roundDiv (scaled v 1 e).1 (scaled v 1 e).2 * 2 ^ e.toNat =
        rounded v * 2 ^ (-e).toNat := by
  have hlow : 2 ^ Nat.log2 v ≤ v := Nat.log2_self_le h
  have hhigh : v < 2 ^ (Nat.log2 v + 1) := Nat.lt_log2_self
  unfold scaled
  split
  next hle =>
    obtain ⟨k, hk⟩ : ∃ k, Nat.log2 v = k + 52 := ⟨Nat.log2 v - 52, by omega⟩
    have hexcess : excess v = k := by rw [excess, hk, Nat.add_sub_cancel]
    have hexp : e.toNat = k := by omega
    have hneg : (-e).toNat = 0 := by omega
    have hround : rounded v = roundDiv v (2 ^ k) * 2 ^ k := by
      rw [rounded, hexcess]
      rfl
    have hquotient : 2 ^ 52 ≤ v / 2 ^ k ∧ v / 2 ^ k < 2 ^ 53 := by
      rw [hk] at hlow hhigh
      constructor
      · rw [Nat.le_div_iff_mul_le (Nat.two_pow_pos k), ← Nat.pow_add, Nat.add_comm]
        exact hlow
      · rw [Nat.div_lt_iff_lt_mul (Nat.two_pow_pos k), ← Nat.pow_add, Nat.add_comm 53 k]
        exact hhigh
    dsimp only
    rw [hexp, hneg, hround, Nat.one_mul, Nat.pow_zero, Nat.mul_one]
    change 2 ^ 52 ≤ roundDiv v (2 ^ k) ∧ roundDiv v (2 ^ k) ≤ 2 ^ 53 ∧ _ ∧ _
    have hcases := roundDiv_cases v (2 ^ k)
    refine ⟨by omega, by omega, fun hlt => by omega, rfl⟩
  next hlt =>
    obtain ⟨k, hk⟩ : ∃ k, Nat.log2 v + k = 52 := ⟨52 - Nat.log2 v, by omega⟩
    have hexcess : excess v = 0 := by rw [excess]; omega
    have hexp : e.toNat = 0 := by omega
    have hneg : (-e).toNat = k := by omega
    have hlow' : 2 ^ 52 ≤ v * 2 ^ k := by
      rw [← hk, Nat.pow_add]
      exact Nat.mul_le_mul_right _ hlow
    have hhigh' : v * 2 ^ k < 2 ^ 53 := by
      have hk' : 53 = Nat.log2 v + 1 + k := by omega
      rw [hk', Nat.pow_add]
      exact Nat.mul_lt_mul_of_pos_right hhigh (Nat.two_pow_pos k)
    dsimp only
    rw [hexp, hneg, rounded_of_excess_eq_zero hexcess, roundDiv_one, Nat.pow_zero, Nat.mul_one]
    exact ⟨hlow', hhigh'.le, fun _ => hhigh', rfl⟩

theorem exists_nearest (h : v ≠ 0) (negative : Bool) : ∃ m e, Holds m e (rounded v) ∧
    nearest negative v 1 = if e > maxExponent then .infinite negative else .finite negative m e := by
  have hbinade := binade_one h
  obtain ⟨hleast, hmost, hneg, hvalue⟩ := roundDiv_scaled h hbinade
  have hmantissa : leastMantissa = 2 ^ 52 := by decide
  simp only [nearest, if_neg h]
  split
  next hcarry =>
    -- Only a number with more than 53 digits is rounded up to the next power of two.
    have hle : 0 ≤ binade v 1 := by
      by_contra hlt
      have := hneg (by omega)
      omega
    refine ⟨leastMantissa, binade v 1 + 1, ⟨by omega, by omega, ?_⟩, rfl⟩
    have hexp : (binade v 1 + 1).toNat = (binade v 1).toNat + 1 := by omega
    have hzero : (-(binade v 1 + 1)).toNat = (-binade v 1).toNat := by omega
    rw [hexp, hzero, ← hvalue, hcarry, Nat.pow_succ]
    ring
  next hsmall => exact ⟨_, binade v 1, ⟨hleast, by omega, hvalue⟩, rfl⟩

end Binary

theorem truncate_zero (negative : Bool) (e : Int) : truncate negative 0 e = 0 := by
  unfold truncate ratio
  by_cases h : 0 ≤ e <;> simp [h]

/-- The whole part of the double nearest to a whole number, if there is one. -/
theorem truncate_nearest (negative : Bool) (v : Nat) :
    (rounded v < 2 ^ 1024 → ∃ m e, nearest negative v 1 = .finite negative m e ∧
      truncate negative m e = if negative then -(rounded v : Int) else rounded v) ∧
    (¬ rounded v < 2 ^ 1024 → nearest negative v 1 = .infinite negative) := by
  by_cases h : v = 0
  · subst h
    have hzero : rounded 0 = 0 := rounded_of_excess_eq_zero rfl
    rw [hzero]
    refine ⟨fun _ => ⟨0, minExponent, rfl, ?_⟩, fun hnot => absurd (pow_pos Nat.two_pos 1024) hnot⟩
    rw [truncate_zero]
    cases negative <;> rfl
  obtain ⟨m, e, hholds, heq⟩ := exists_nearest h negative
  have hmax : maxExponent = 971 := rfl
  rw [hholds.lt_two_pow_iff (by decide)]
  constructor
  · intro hle
    refine ⟨m, e, by rw [heq, if_neg (by omega)], ?_⟩
    unfold truncate
    dsimp only
    rw [hholds.quotient]
  · intro hgt
    rw [heq, if_pos (by omega)]

end Gleaner.Double

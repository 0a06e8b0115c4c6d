import Gleaner.Number.Double

/-! # The double nearest to a number and to its hundredth

The exponent of the nearest double follows the number of binary digits. So a number and its hundredth
are never read as the same double, unless the number is zero or both are out of range
(`ofDecimal_eq_hundredth_iff`). -/

namespace Gleaner.Double

variable {negative : Bool} {v : Nat}

section Binade

theorem binade_one (h : v ≠ 0) : binade v 1 = (Nat.log2 v : Int) - 52 := by
  have hlog : Nat.log2 1 = 0 := rfl
  have hmin : minExponent = -1074 := rfl
  have hleast : leastMantissa = 2 ^ 52 := rfl
  have hself : 2 ^ Nat.log2 v ≤ v := Nat.log2_self_le h
  have hnot : ¬ (scaled v 1 ((Nat.log2 v : Int) - 52)).1 /
      (scaled v 1 ((Nat.log2 v : Int) - 52)).2 < leastMantissa := by
    rw [scaled, hleast, Nat.not_lt]
    split
    next hle =>
      obtain ⟨k, hk⟩ : ∃ k, Nat.log2 v = k + 52 := ⟨Nat.log2 v - 52, by omega⟩
      have hexp : ((Nat.log2 v : Int) - 52).toNat = k := by omega
      rw [hk, Nat.pow_add] at hself
      rw [hexp, Nat.one_mul]
      exact (Nat.le_div_iff_mul_le (Nat.two_pow_pos k)).mpr (by rwa [Nat.mul_comm] at hself)
    next hlt =>
      obtain ⟨k, hk⟩ : ∃ k, Nat.log2 v + k = 52 := ⟨52 - Nat.log2 v, by omega⟩
      have hexp : (-((Nat.log2 v : Int) - 52)).toNat = k := by omega
      rw [hexp, Nat.div_one, ← hk, Nat.pow_add]
      exact Nat.mul_le_mul_right _ hself
  have hscaled : (Nat.log2 v : Int) - (Nat.log2 1 : Nat) - 52 = (Nat.log2 v : Int) - 52 := by omega
  simp only [binade]
  rw [hscaled, if_neg hnot]
  omega

theorem binade_hundred_le (v : Nat) : binade v 100 ≤ (Nat.log2 v : Int) - 58 := by
  have hlog : Nat.log2 100 = 6 := rfl
  have hmin : minExponent = -1074 := rfl
  simp only [binade]
  rw [hlog]
  split <;> omega

end Binade

section Nearest

/-- A double has the exponent of the binade, or the next one. -/
theorem nearest_cases {num : Nat} (h : num ≠ 0) (negative : Bool) (den : Nat) : ∃ m e,
    (e = binade num den ∨ e = binade num den + 1) ∧
      nearest negative num den =
        if e > maxExponent then .infinite negative else .finite negative m e := by
  simp only [nearest, if_neg h]
  split
  · exact ⟨_, _, .inr rfl, rfl⟩
  · exact ⟨_, _, .inl rfl, rfl⟩

/-- **A number and its hundredth are different doubles**, unless both are out of range. -/
theorem nearest_eq_hundredth_iff (h : v ≠ 0) :
    nearest negative v 1 = nearest negative v 100 ↔ nearest negative v 100 = .infinite negative := by
  obtain ⟨m, e, he, hone⟩ := nearest_cases h negative 1
  obtain ⟨m', e', he', hhundred⟩ := nearest_cases h negative 100
  have hbinade := binade_one h
  have hbinade' := binade_hundred_le v
  -- A hundred has seven binary digits: rounding up cannot make up for them.
  have hlt : e' < e := by omega
  rw [hone, hhundred]
  split <;> split
  · simp
  · simp
  · omega
  · simp only [finite.injEq, reduceCtorEq, iff_false]
    omega

end Nearest

section Decimal

theorem ofDecimal_whole (negative : Bool) (v : Nat) :
    ofDecimal negative v 0 = nearest negative v 1 := by
  have hmax : maxExponent = 971 := rfl
  rw [ofDecimal]
  by_cases h : v = 0
  · simp [h, nearest]
  rw [if_neg h]
  split
  next hlarge =>
    obtain ⟨m, e, he, hone⟩ := nearest_cases h negative 1
    have hbinade := binade_one h
    rw [hone, if_pos (by omega)]
  next =>
    rw [if_neg (by omega), if_pos (Int.le_refl 0)]
    exact congrArg (nearest negative · 1) (Nat.mul_one v)

theorem ofDecimal_hundredths (negative : Bool) (v : Nat) :
    ofDecimal negative v (-2) = nearest negative v 100 := by
  rw [ofDecimal]
  by_cases h : v = 0
  · simp [h, nearest]
  rw [if_neg h, if_neg (by omega), if_neg (by omega), if_neg (by omega)]
  rfl

theorem ofDecimal_eq_hundredth_iff :
    ofDecimal negative v 0 = ofDecimal negative v (-2) ↔
      v = 0 ∨ ofDecimal negative v (-2) = .infinite negative := by
  rw [ofDecimal_whole, ofDecimal_hundredths]
  by_cases h : v = 0
  · simp [h, nearest]
  · rw [nearest_eq_hundredth_iff h, or_iff_right h]

end Decimal

end Gleaner.Double

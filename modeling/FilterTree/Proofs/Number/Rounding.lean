/-
Module: FilterTree.Proofs.Number.Rounding
Layer: Proofs
Purpose: What rounding to the nearest magnitude gives where nothing has to be rounded, and far above and far
  below everything: a magnitude is its own nearest, a common factor does not matter, a
  high power of ten is infinite and what is below half a unit is zero.
Imports: Mathlib, FilterTree.Number.Basic
Main exports: Number.nearestRank_units, Number.nearestRank_scale, Number.rankBound_le_nearestRank,
  Number.nearestRank_eq_zero
-/
import Mathlib
import FilterTree.Number.Basic

namespace FilterTree.Number

/-! ### Powers -/

/-- The exponent is a variable, so that nothing computes the power. -/
theorem unitsPerOne_eq {e : Nat} (h : e = 1074) : unitsPerOne = 2 ^ e :=
  congrArg (Nat.pow 2) h.symm

theorem units_eq (rank : Nat) :
    units rank = (rank - (rank / 2 ^ 52 - 1) * 2 ^ 52) * 2 ^ (rank / 2 ^ 52 - 1) := rfl

theorem nearestRank_eq (num den : Nat) : nearestRank num den =
    ((num / den).log2 - 52) * 2 ^ 52 + roundEven num (den * 2 ^ ((num / den).log2 - 52)) := rfl

/-! ### Whole numbers -/

/-- A whole number is nearest to itself. -/
theorem roundEven_whole {den : Nat} (hden : 0 < den) (n : Nat) : roundEven (n * den) den = n := by
  simp [roundEven, Nat.mul_div_cancel n hden, hden]

/-- A common factor of numerator and denominator does not matter. -/
theorem roundEven_scale {k : Nat} (hk : 0 < k) (num den : Nat) :
    roundEven (num * k) (den * k) = roundEven num den := by
  have hrest : 2 * (num * k % (den * k)) = 2 * (num % den) * k := by
    rw [Nat.mul_mod_mul_right, Nat.mul_assoc]
  simp only [roundEven, Nat.mul_div_mul_right _ _ hk, hrest, Nat.mul_lt_mul_right hk]

/-- The nearest whole number is not below the whole part. -/
theorem div_le_roundEven (num den : Nat) : num / den ≤ roundEven num den := by
  simp only [roundEven]
  split
  · exact Nat.le_refl _
  · split
    · exact Nat.le_succ _
    · split
      · exact Nat.le_refl _
      · exact Nat.le_succ _

/-- What is below a half is nearest to zero. -/
theorem roundEven_eq_zero {num den : Nat} (h : 2 * num < den) : roundEven num den = 0 := by
  have hlt : num < den := by omega
  simp [roundEven, Nat.div_eq_of_lt hlt, Nat.mod_eq_of_lt hlt, h]

/-! ### Magnitudes -/

/-- A common factor of numerator and denominator does not matter for the nearest magnitude either. -/
theorem nearestRank_scale {k : Nat} (hk : 0 < k) (num den : Nat) :
    nearestRank (num * k) (den * k) = nearestRank num den := by
  have hden : ∀ d, den * k * 2 ^ d = den * 2 ^ d * k := fun d => Nat.mul_right_comm den k (2 ^ d)
  simp only [nearestRank_eq, Nat.mul_div_mul_right _ _ hk, hden, roundEven_scale hk]

/-- A whole number of `m` doubled `doublings` times, where `m` has 53 binary digits, has its leading digit at
    the place that this count says. -/
theorem log2_mul_two_pow {m : Nat} (low : 2 ^ 52 ≤ m) (high : m < 2 ^ 53) (doublings : Nat) :
    (m * 2 ^ doublings).log2 = 52 + doublings := by
  have hpow : 0 < 2 ^ doublings := Nat.two_pow_pos doublings
  have hpos : 0 < m * 2 ^ doublings := Nat.mul_pos (by omega) hpow
  rw [Nat.log2_eq_iff (Nat.ne_of_gt hpos)]
  constructor
  · rw [Nat.pow_add]
    exact Nat.mul_le_mul_right _ low
  · rw [show 52 + doublings + 1 = 53 + doublings by omega, Nat.pow_add]
    exact Nat.mul_lt_mul_of_pos_right high hpow

/-- Every magnitude is nearest to itself. -/
theorem nearestRank_units (rank : Nat) : nearestRank (units rank) 1 = rank := by
  by_cases hsmall : rank < 2 ^ 53
  · have hdoublings : rank / 2 ^ 52 - 1 = 0 := by omega
    have hlog : rank.log2 - 52 = 0 := by
      by_cases hzero : rank = 0
      · rw [hzero]
        rfl
      · have := (Nat.log2_lt hzero).mpr hsmall
        omega
    have hunits : units rank = rank := by
      rw [units_eq, hdoublings, Nat.zero_mul, Nat.sub_zero, Nat.pow_zero, Nat.mul_one]
    rw [hunits, nearestRank_eq, Nat.div_one, hlog]
    simpa using roundEven_whole Nat.one_pos rank
  · obtain ⟨doublings, m, hm, low, high⟩ : ∃ doublings m, rank = doublings * 2 ^ 52 + m ∧
        2 ^ 52 ≤ m ∧ m < 2 ^ 53 :=
      ⟨rank / 2 ^ 52 - 1, rank - (rank / 2 ^ 52 - 1) * 2 ^ 52, by omega, by omega, by omega⟩
    have hdoublings : rank / 2 ^ 52 - 1 = doublings := by omega
    have hunits : units rank = m * 2 ^ doublings := by
      simp only [units_eq, hdoublings]
      rw [hm, Nat.add_sub_cancel_left]
    rw [hunits, nearestRank_eq, Nat.div_one, log2_mul_two_pow low high, Nat.add_sub_cancel_left, Nat.one_mul,
      roundEven_whole (Nat.two_pow_pos doublings)]
    exact hm.symm

/-- The rank of what is at least `2 ^ k` units, where `2 ^ k` has 53 binary digits or more. -/
theorem le_nearestRank {num den k : Nat} (hden : 0 < den) (hk : 52 ≤ k) (h : 2 ^ k * den ≤ num) :
    (k - 51) * 2 ^ 52 ≤ nearestRank num den := by
  have hquotient : 2 ^ k ≤ num / den := (Nat.le_div_iff_mul_le hden).mpr h
  have hpos : num / den ≠ 0 := by
    have := Nat.two_pow_pos k
    omega
  have hlog : k ≤ (num / den).log2 := (Nat.le_log2 hpos).mpr hquotient
  have hwhole : 2 ^ 52 ≤ roundEven num (den * 2 ^ ((num / den).log2 - 52)) := by
    refine Nat.le_trans ?_ (div_le_roundEven _ _)
    rw [← Nat.div_div_eq_div_mul, Nat.le_div_iff_mul_le (Nat.two_pow_pos _), ← Nat.pow_add,
      show 52 + ((num / den).log2 - 52) = (num / den).log2 by omega]
    exact Nat.log2_self_le hpos
  calc
    (k - 51) * 2 ^ 52 = (k - 52) * 2 ^ 52 + 2 ^ 52 := by
      rw [show k - 51 = k - 52 + 1 by omega, Nat.succ_mul]
    _ ≤ ((num / den).log2 - 52) * 2 ^ 52 + roundEven num (den * 2 ^ ((num / den).log2 - 52)) :=
      Nat.add_le_add (Nat.mul_le_mul_right _ (Nat.sub_le_sub_right hlog 52)) hwhole

/-- A power of ten is above the power of eight with the same exponent. -/
theorem two_pow_le_ten_pow (e : Nat) : 2 ^ (3 * e) ≤ 10 ^ e := by
  rw [Nat.pow_mul]
  exact Nat.pow_le_pow_left (by decide) e

/-- What is at least a power of ten of which the exponent is 342 or more is infinite. -/
theorem rankBound_le_nearestRank {num den e : Nat} (hden : 0 < den) (he : 342 ≤ e)
    (h : 10 ^ e * unitsPerOne * den ≤ num) : rankBound ≤ nearestRank num den := by
  obtain ⟨units, hunits⟩ : ∃ units, units = 1074 := ⟨1074, rfl⟩
  have hdigits : 52 ≤ 3 * e + units := by omega
  have hplaces : 2047 ≤ 3 * e + units - 51 := by omega
  have hpow : 2 ^ (3 * e + units) * den ≤ num := by
    refine Nat.le_trans (Nat.mul_le_mul_right den ?_) h
    rw [Nat.pow_add, unitsPerOne_eq hunits]
    exact Nat.mul_le_mul_right _ (two_pow_le_ten_pow e)
  calc
    rankBound ≤ (3 * e + units - 51) * 2 ^ 52 := Nat.mul_le_mul_right _ hplaces
    _ ≤ nearestRank num den := le_nearestRank hden hdigits hpow

/-- What is below half a unit is zero. -/
theorem nearestRank_eq_zero {num den : Nat} (h : 2 * num < den) : nearestRank num den = 0 := by
  have hquotient : num / den = 0 := Nat.div_eq_of_lt (by omega)
  simp [nearestRank_eq, hquotient, roundEven_eq_zero h]

end FilterTree.Number

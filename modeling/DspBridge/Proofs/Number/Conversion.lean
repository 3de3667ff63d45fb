import DspBridge.Proofs.Number.Decimal
import DspBridge.Proofs.Number.Rounding

/-!
# The double nearest to a numeral

The magnitude that is made of a numeral is the one that its number rounds to, also where the exponent
alone has decided it.  It is infinity just when the number is too large, and otherwise no magnitude
is nearer to the number.
-/

namespace DspBridge.Number

open Magnitude (Rounds Nearest limit infinity unitExponent)

/-! ## Extreme numbers -/

theorem limit_lt : limit < 10 ^ (400 : Int) := by
  have less : limit < 2 ^ 1024 := sub_lt_self _ (by positivity)
  have power : (2 : ℚ) ^ 1024 ≤ (2 ^ 3) ^ 400 := by
    rw [← pow_mul]
    exact pow_le_pow_right₀ (by norm_num) (by norm_num)
  have base : ((2 : ℚ) ^ 3) ^ 400 ≤ 10 ^ 400 := pow_le_pow_left₀ (by norm_num) (by norm_num) _
  rw [zpow_ofNat]
  exact less.trans_le (power.trans base)

theorem le_limit : (2 : ℚ) ^ 970 ≤ limit := by
  have double : (2 : ℚ) ^ 970 + 2 ^ 970 ≤ 2 ^ 1024 := by
    rw [← mul_two, ← pow_succ]
    exact pow_le_pow_right₀ (by norm_num) (by norm_num)
  exact le_sub_iff_add_le.mpr double

theorem tiny_le : (10 : ℚ) ^ (-401 : Int) * 2 ^ unitExponent ≤ 1 / 2 := by
  have power : (2 : ℚ) ^ (1074 + 1) ≤ (2 ^ 3) ^ 401 := by
    rw [← pow_mul]
    exact pow_le_pow_right₀ (by norm_num) (by norm_num)
  have base : ((2 : ℚ) ^ 3) ^ 401 ≤ 10 ^ 401 := pow_le_pow_left₀ (by norm_num) (by norm_num) _
  have less := power.trans base
  rw [zpow_neg, zpow_ofNat, unitExponent, inv_mul_le_iff₀ (by positivity), mul_one_div,
    le_div_iff₀ two_pos, ← pow_succ]
  exact less

namespace Numeral

section Bounds

variable {numeral : Numeral}

theorem value_nonneg (numeral : Numeral) : 0 ≤ numeral.value :=
  mul_nonneg (Nat.cast_nonneg _) (zpow_nonneg (by norm_num) _)

theorem value_lt (numeral : Numeral) :
    numeral.value < 10 ^ (numeral.exponent + numeral.width) := by
  have ten : (10 : ℚ) ≠ 0 := by norm_num
  have less : (numeral.significand : ℚ) < 10 ^ numeral.width := by
    exact_mod_cast lt_pow_naturalDigits numeral.significand
  rw [value, add_comm, zpow_add₀ ten, zpow_natCast]
  gcongr

theorem le_value (nonzero : numeral.significand ≠ 0) :
    10 ^ (numeral.exponent + numeral.width - 1) ≤ numeral.value := by
  have ten : (10 : ℚ) ≠ 0 := by norm_num
  have positive : 1 ≤ numeral.width := Nat.length_toDigits_pos
  have less : (10 : ℚ) ^ (numeral.width - 1) ≤ numeral.significand := by
    exact_mod_cast pow_le_of_naturalDigits nonzero
  have power : numeral.exponent + numeral.width - 1 =
      (numeral.width - 1 : Nat) + numeral.exponent := by
    omega
  rw [value, power, zpow_add₀ ten, zpow_natCast]
  gcongr

/-- The quotient that is rounded unless the exponent is extreme. -/
theorem value_eq_div (numeral : Numeral) :
    numeral.value * 2 ^ unitExponent =
      (numeral.significand * Nat.pow 10 numeral.exponent.toNat * Nat.pow 2 unitExponent : Nat) /
        (Nat.pow 10 (-numeral.exponent).toNat : Nat) := by
  have ten : (10 : ℚ) ≠ 0 := by norm_num
  have parts : numeral.exponent = numeral.exponent.toNat - (-numeral.exponent).toNat := by
    omega
  have power : (10 : ℚ) ^ numeral.exponent =
      10 ^ numeral.exponent.toNat / 10 ^ (-numeral.exponent).toNat := by
    conv_lhs => rw [parts, zpow_sub₀ ten, zpow_natCast, zpow_natCast]
  rw [value, power, Nat.pow_eq, Nat.pow_eq, Nat.pow_eq]
  push_cast
  ring

end Bounds

/-- The magnitude of a numeral is what its number rounds to, or infinity if that is larger. -/
theorem magnitude_rounds (numeral : Numeral) :
    ∃ code, Rounds (numeral.value * 2 ^ unitExponent) code ∧
      numeral.magnitude = min infinity code := by
  have positive : (0 : ℚ) < 2 ^ unitExponent := by positivity
  have nonnegative : 0 ≤ numeral.value * 2 ^ unitExponent :=
    mul_nonneg numeral.value_nonneg positive.le
  rw [magnitude]
  split
  next zero =>
    have nothing : numeral.value * 2 ^ unitExponent = 0 := by
      rw [value, zero, Nat.cast_zero, zero_mul, zero_mul]
    refine ⟨0, Magnitude.rounds_zero nonnegative ?_, rfl⟩
    rw [nothing]
    norm_num
  next nonzero =>
    split
    next large =>
      obtain ⟨code, rounds⟩ := Magnitude.exists_rounds nonnegative
      have beyond : ¬ code < infinity := by
        rw [rounds.finite_iff, not_lt]
        rw [overflowExponent] at large
        have power : (10 : ℚ) ^ (400 : Int) ≤ 10 ^ (numeral.exponent + numeral.width - 1) :=
          zpow_le_zpow_right₀ (by norm_num) (by omega)
        exact (limit_lt.le.trans power).trans (le_value nonzero)
      exact ⟨code, rounds, (min_eq_left (not_lt.mp beyond)).symm⟩
    next =>
      split
      next small =>
        refine ⟨0, Magnitude.rounds_zero nonnegative ?_, rfl⟩
        rw [underflowExponent] at small
        have power : (10 : ℚ) ^ (numeral.exponent + numeral.width) ≤ 10 ^ (-401 : Int) :=
          zpow_le_zpow_right₀ (by norm_num) (by omega)
        have less := mul_le_mul_of_nonneg_right (numeral.value_lt.le.trans power) positive.le
        exact less.trans tiny_le
      next =>
        have divisor : 0 < Nat.pow 10 (-numeral.exponent).toNat := Nat.pow_pos (by decide)
        have rounds := Magnitude.ofUnits_rounds
          (numeral.significand * Nat.pow 10 numeral.exponent.toNat * Nat.pow 2 unitExponent) divisor
        rw [← value_eq_div] at rounds
        exact ⟨_, rounds, rfl⟩

/-- A numeral that is not too large has the magnitude that is nearest to its number. -/
theorem magnitude_nearest {numeral : Numeral} (fits : numeral.value < limit) :
    Nearest numeral.value numeral.magnitude := by
  obtain ⟨code, rounds, same⟩ := numeral.magnitude_rounds
  have finite := rounds.finite_iff.mpr fits
  rw [same, min_eq_right finite.le]
  exact rounds.nearest finite

theorem magnitude_lt_infinity_iff (numeral : Numeral) :
    numeral.magnitude < infinity ↔ numeral.value < limit := by
  obtain ⟨code, rounds, same⟩ := numeral.magnitude_rounds
  rw [same, min_lt_iff, rounds.finite_iff]
  exact or_iff_right (lt_irrefl _)

theorem magnitude_eq_of_rounds {numeral : Numeral} {code : Nat}
    (rounds : Rounds (numeral.value * 2 ^ unitExponent) code) (finite : code < infinity) :
    numeral.magnitude = code := by
  obtain ⟨other, own, same⟩ := numeral.magnitude_rounds
  rw [same, own.unique rounds]
  exact min_eq_right finite.le

end Numeral
end DspBridge.Number

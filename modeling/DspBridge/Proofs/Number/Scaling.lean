import DspBridge.Number.Scaled
import DspBridge.Proofs.Number.Conversion

/-!
# Scaling with one rounding

Arithmetic on magnitudes rounds the exact result once.  Small whole numbers and small powers of ten
are magnitudes themselves, so scaling the one by the other only rounds once, and makes the magnitude
that is nearest to the number.
-/

namespace DspBridge.Number

namespace Magnitude

/-! ## Nearest magnitudes -/

theorem value_strictMono : StrictMono value := by
  intro code other less
  have positive : (0 : ℚ) < 2 ^ unitExponent := by positivity
  exact div_lt_div_of_pos_right (Nat.cast_lt.mpr (units_lt less)) positive

section Nearest

variable {number : ℚ} {code other : Nat}

/-- Two magnitudes that are equally near to a number and both even have a nearer one between them. -/
theorem Nearest.not_less (nearest : Nearest number code) (nearest' : Nearest number other) :
    ¬ code < other := by
  intro less
  have same : |number - value code| = |number - value other| :=
    le_antisymm (nearest.least other nearest'.finite) (nearest'.least code nearest.finite)
  have even : code % 2 = 0 := nearest.even other nearest'.finite less.ne' same
  have even' : other % 2 = 0 := nearest'.even code nearest.finite less.ne same.symm
  have between : code + 1 < other := by omega
  have nearer := nearest.least (code + 1) (between.trans nearest'.finite)
  have below : value code < value (code + 1) := value_strictMono (Nat.lt_succ_self code)
  have above : value (code + 1) < value other := value_strictMono between
  have middle : number - value code = value other - number := by
    rcases abs_eq_abs.mp same with equal | opposite
    · linarith
    · linarith
  have half : |number - value code| = (value other - value code) / 2 := by
    rw [abs_of_nonneg (by linarith)]
    linarith
  have strict : |number - value (code + 1)| < (value other - value code) / 2 := by
    rw [abs_lt]
    constructor <;> linarith
  exact absurd (half ▸ nearer) (not_le.mpr strict)

theorem Nearest.unique (nearest : Nearest number code) (nearest' : Nearest number other) :
    code = other :=
  le_antisymm (not_lt.mp (nearest'.not_less nearest)) (not_lt.mp (nearest.not_less nearest'))

end Nearest

/-! ## Arithmetic -/

theorem rounds_units (code : Nat) : Rounds (units code) code := by
  have below : (units (code - 1) : ℚ) ≤ units code := Nat.cast_le.mpr (units_le (Nat.sub_le _ _))
  have above : (units code : ℚ) < units (code + 1) := Nat.cast_lt.mpr (units_lt (Nat.lt_succ_self _))
  refine ⟨?_, ?_, ?_⟩
  · rw [lower, Nat.cast_add]
    linarith
  · rw [upper, Nat.cast_add]
    linarith
  · intro odd
    have less : (units (code - 1) : ℚ) < units code := Nat.cast_lt.mpr (units_lt (by omega))
    rw [lower, upper, Nat.cast_add, Nat.cast_add]
    constructor <;> intro same <;> linarith

/-- A quotient is rounded to a magnitude, or to infinity if it is larger. -/
theorem ofRatio_rounds (dividend : Nat) {divisor : Nat} (positive : 0 < divisor) :
    ∃ code, Rounds (dividend / divisor * 2 ^ unitExponent) code ∧
      ofRatio dividend divisor = min infinity code := by
  have rounds := ofUnits_rounds (dividend * Nat.pow 2 unitExponent) positive
  have same : ((dividend * Nat.pow 2 unitExponent : Nat) / divisor : ℚ) =
      dividend / divisor * 2 ^ unitExponent := by
    rw [Nat.pow_eq]
    push_cast
    ring
  rw [same] at rounds
  exact ⟨_, rounds, rfl⟩

/-- A number that is a magnitude is rounded to it. -/
theorem ofRatio_of_value {dividend divisor code : Nat} (positive : 0 < divisor)
    (finite : code < infinity) (same : (dividend / divisor : ℚ) = value code) :
    ofRatio dividend divisor = code := by
  obtain ⟨other, rounds, rounded⟩ := ofRatio_rounds dividend positive
  have scale : (2 : ℚ) ^ unitExponent ≠ 0 := by positivity
  rw [same, value, div_mul_cancel₀ _ scale] at rounds
  rw [rounded, rounds.unique (rounds_units code)]
  exact min_eq_right finite.le

theorem mul_rounds (left right : Magnitude) :
    ∃ code, Rounds (value left * value right * 2 ^ unitExponent) code ∧
      mul left right = min infinity code := by
  have power (exponent : Nat) : Nat.pow 2 exponent = 2 ^ exponent := rfl
  obtain ⟨code, rounds, rounded⟩ :=
    ofRatio_rounds (units left * units right) (Nat.two_pow_pos (2 * unitExponent))
  have same : ((units left * units right : Nat) / (2 ^ (2 * unitExponent) : Nat) : ℚ) =
      value left * value right := by
    rw [value, value, div_mul_div_comm, ← pow_add, ← two_mul, Nat.cast_mul, Nat.cast_pow,
      Nat.cast_two]
  rw [same] at rounds
  rw [mul, power]
  exact ⟨code, rounds, rounded⟩

theorem div_rounds (left : Magnitude) {right : Magnitude} (nonzero : value right ≠ 0) :
    ∃ code, Rounds (value left / value right * 2 ^ unitExponent) code ∧
      div left right = min infinity code := by
  have scale : (2 : ℚ) ^ unitExponent ≠ 0 := by positivity
  have positive : 0 < units right := by
    apply Nat.pos_of_ne_zero
    intro zero
    rw [value, zero, Nat.cast_zero, zero_div] at nonzero
    exact nonzero rfl
  obtain ⟨code, rounds, rounded⟩ := ofRatio_rounds (units left) positive
  rw [← div_div_div_cancel_right₀ scale] at rounds
  exact ⟨code, rounds, rounded⟩

/-! ## Exact numbers -/

/-- A number of up to 53 bits can be shifted to have 53 bits. -/
theorem exists_shift {number : Nat} (positive : 0 < number) (small : number ≤ 2 ^ 53) :
    ∃ shift ≤ 52, binade ≤ number * 2 ^ shift ∧ number * 2 ^ shift ≤ 2 * binade := by
  have count : binade = 2 ^ 52 := by decide
  have least : 2 ^ number.log2 ≤ number := Nat.log2_self_le positive.ne'
  have most : number < 2 ^ (number.log2 + 1) := Nat.lt_log2_self
  rw [count]
  rcases Nat.lt_or_ge 52 number.log2 with full | short
  · have large : 2 ^ 53 ≤ 2 ^ number.log2 := Nat.pow_le_pow_right two_pos full
    exact ⟨0, by omega, by omega, by omega⟩
  · refine ⟨52 - number.log2, Nat.sub_le _ _, ?_, ?_⟩
    · calc 2 ^ 52 = 2 ^ number.log2 * 2 ^ (52 - number.log2) := by
            rw [← Nat.pow_add, Nat.add_sub_cancel' short]
        _ ≤ number * 2 ^ (52 - number.log2) := Nat.mul_le_mul_right _ least
    · calc number * 2 ^ (52 - number.log2)
          ≤ 2 ^ (number.log2 + 1) * 2 ^ (52 - number.log2) := Nat.mul_le_mul_right _ most.le
        _ = 2 * 2 ^ 52 := by
            rw [← Nat.pow_add, Nat.add_right_comm, Nat.add_sub_cancel' short, Nat.pow_succ']

/-- A whole number of up to 53 bits, times a power of two, is a magnitude. -/
theorem exists_value {number power : Nat} (small : number ≤ 2 ^ 53) (moderate : power ≤ 900) :
    ∃ code : Nat, code < infinity ∧ value code = number * 2 ^ power := by
  have scale : (2 : ℚ) ^ unitExponent ≠ 0 := by positivity
  rcases Nat.eq_zero_or_pos number with rfl | positive
  · exact ⟨0, by decide, by rw [value, show units 0 = 0 from rfl]; simp⟩
  obtain ⟨shift, narrow, full, fits⟩ := exists_shift positive small
  have moved : shift + (unitExponent + power - shift) = unitExponent + power := by
    rw [unitExponent]
    omega
  refine ⟨(unitExponent + power - shift) * binade + number * 2 ^ shift, ?_, ?_⟩
  · generalize number * 2 ^ shift = significand at fits ⊢
    unfold binade at fits
    unfold unitExponent infinity binade
    omega
  · rw [value, units_binade fits (.inl full), Nat.mul_assoc, ← Nat.pow_add, moved, Nat.pow_add,
      div_eq_iff scale]
    push_cast
    ring

/-- A whole number that is a magnitude is not rounded. -/
theorem value_ofNat {number power : Nat} (small : number ≤ 2 ^ 53) (moderate : power ≤ 900) :
    value (ofNat (number * 2 ^ power)) = number * 2 ^ power := by
  obtain ⟨code, finite, same⟩ := exists_value small moderate
  have rounded : ofNat (number * 2 ^ power) = code := by
    apply ofRatio_of_value one_pos finite
    rw [same]
    push_cast
    rw [div_one]
  rw [rounded, same]

theorem value_ofNat_small {number : Nat} (small : number ≤ 2 ^ 53) :
    value (ofNat number) = number := by
  have exactly := value_ofNat small (Nat.zero_le 900)
  rwa [Nat.pow_zero, Nat.mul_one, pow_zero, mul_one] at exactly

/-- Powers of ten are not rounded as long as those of five have no more than 53 bits. -/
theorem value_powerOfTen {exponent : Nat} (small : exponent ≤ 22) :
    value (powerOfTen exponent) = 10 ^ exponent := by
  have five : 5 ^ exponent ≤ 2 ^ 53 := (Nat.pow_le_pow_right (by decide) small).trans (by decide)
  have power : Nat.pow 10 exponent = 5 ^ exponent * 2 ^ exponent := by
    rw [Nat.pow_eq, ← Nat.mul_pow]
  have exactly := value_ofNat five (small.trans (by decide))
  rw [powerOfTen, power, exactly]
  push_cast
  rw [← mul_pow]
  norm_num

end Magnitude

open Magnitude (Rounds limit infinity unitExponent value)

/-- Numbers that are scaled by a small power of ten are far below the greatest magnitude. -/
theorem scaled_lt_limit {significand : Nat} {exponent : Int} (small : significand ≤ 2 ^ 53)
    (moderate : exponent ≤ 22) : significand * (10 : ℚ) ^ exponent < limit := by
  have most : (significand : ℚ) ≤ 2 ^ 53 := by exact_mod_cast small
  have power : (10 : ℚ) ^ exponent ≤ 10 ^ (22 : Int) := zpow_le_zpow_right₀ (by norm_num) moderate
  have product : significand * (10 : ℚ) ^ exponent ≤ 2 ^ 53 * 10 ^ (22 : Int) :=
    mul_le_mul most power (zpow_nonneg (by norm_num) _) (by positivity)
  have less : (2 : ℚ) ^ 53 * 10 ^ (22 : Int) < 2 ^ 128 := by norm_num
  have far : (2 : ℚ) ^ 128 ≤ 2 ^ 970 := pow_le_pow_right₀ (by norm_num) (by norm_num)
  exact product.trans_lt (less.trans_le (far.trans le_limit))

section Scale

variable {significand : Nat} {exponent : Int}

theorem scale_up (nonnegative : 0 ≤ exponent) (small : exponent.natAbs ≤ greatestPower)
    (nonzero : significand ≠ 0) :
    scale significand exponent =
      (some ((Magnitude.ofNat significand).mul (.powerOfTen exponent.natAbs))).filter
        (· < infinity) := by
  rw [scale]
  dsimp only
  rw [if_pos nonnegative, if_neg nonzero, if_neg (not_lt.mpr small), Option.filter_some]
  simp only [decide_eq_true_eq]

theorem scale_down (negative : exponent < 0) (small : exponent.natAbs ≤ greatestPower) :
    scale significand exponent =
      some ((Magnitude.ofNat significand).div (.powerOfTen exponent.natAbs)) := by
  rw [scale]
  dsimp only
  rw [if_neg (not_le.mpr negative), if_pos small]

/-- A small significand that is scaled by a small power of ten makes a finite magnitude, the one that
the number rounds to. -/
theorem scale_rounds (small : significand ≤ 2 ^ 53) (moderate : exponent.natAbs ≤ 22) :
    ∃ code < infinity, scale significand exponent = some code ∧
      Rounds (significand * 10 ^ exponent * 2 ^ unitExponent) code := by
  have fits : significand * (10 : ℚ) ^ exponent < limit := scaled_lt_limit small (by omega)
  have power := Magnitude.value_powerOfTen moderate
  have few : exponent.natAbs ≤ greatestPower := moderate.trans (by decide)
  rcases lt_or_ge exponent 0 with negative | nonnegative
  · have ten : value (Magnitude.powerOfTen exponent.natAbs) ≠ 0 := by
      rw [power]
      positivity
    have exponent_eq : exponent = -(exponent.natAbs : Int) := by omega
    obtain ⟨code, rounds, divided⟩ := Magnitude.div_rounds (Magnitude.ofNat significand) ten
    rw [Magnitude.value_ofNat_small small, power, ← zpow_natCast, div_eq_mul_inv, ← zpow_neg,
      ← exponent_eq] at rounds
    have finite := rounds.finite_iff.mpr fits
    refine ⟨code, finite, ?_, rounds⟩
    rw [scale_down negative few, divided, min_eq_right finite.le]
  · by_cases zero : significand = 0
    · refine ⟨0, by decide, ?_, Magnitude.rounds_zero ?_ ?_⟩
      · rw [scale, zero]
        dsimp only
        rw [if_pos nonnegative, if_pos rfl]
      all_goals rw [zero, Nat.cast_zero, zero_mul, zero_mul]
      norm_num
    · have exponent_eq : exponent = exponent.natAbs := by omega
      obtain ⟨code, rounds, multiplied⟩ :=
        Magnitude.mul_rounds (Magnitude.ofNat significand) (.powerOfTen exponent.natAbs)
      rw [Magnitude.value_ofNat_small small, power, ← zpow_natCast, ← exponent_eq] at rounds
      have finite := rounds.finite_iff.mpr fits
      refine ⟨code, finite, ?_, rounds⟩
      rw [scale_up nonnegative few zero, multiplied, min_eq_right finite.le, Option.filter_some,
        if_pos (decide_eq_true finite)]

end Scale

end DspBridge.Number

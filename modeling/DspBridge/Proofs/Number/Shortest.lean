import DspBridge.Number.Shortest
import DspBridge.Proofs.Number.Decimal
import DspBridge.Proofs.Number.Rounding

/-!
# Shortest digits read back

The interval of a code holds just the numbers that round to it.  A grid whose steps are shorter than
the interval has a point in it, and a grid of seventeen digits is fine enough for every code; so
digits are always found, and they stand for a number that rounds to the code.
-/

namespace DspBridge.Number

open Magnitude (Rounds units binade unitExponent)

/-! ## Intervals -/

namespace Interval

/-- The ends of intervals are counted in this part of half a unit. -/
def scale : Nat := 5 ^ decimalPlaces

theorem scale_pos : 0 < scale := Nat.pow_pos (by decide)

theorem le_scale : 5 ^ 25 ≤ scale := Nat.pow_le_pow_right (by decide) (by decide)

section Around

variable (code : Nat)

theorem around_low : (around code).low = (units (code - 1) + units code) * scale := by
  rw [around, scale, Nat.pow_eq]

theorem around_value : (around code).value = 2 * units code * scale := by
  rw [around, scale, Nat.pow_eq]

theorem around_high : (around code).high = (units code + units (code + 1)) * scale := by
  rw [around, scale, Nat.pow_eq]

/-- The numbers in the interval of a code are those that round to it. -/
theorem contains_around_iff (number : Nat) :
    (around code).contains number = true ↔ Rounds (number / (2 * scale : Nat)) code := by
  have positive : 0 < 2 * scale := Nat.mul_pos two_pos scale_pos
  have twice (ends : Nat) : ends * (2 * scale) = ends * scale * 2 := by ring
  rw [Magnitude.rounds_div_iff positive, twice, twice, contains, around_low, around_high]
  generalize (units (code - 1) + units code) * scale = low
  generalize (units code + units (code + 1)) * scale = high
  cases parity : (around code).closed with
  | true =>
      have even : (code : Nat) % 2 = 0 := beq_iff_eq.mp parity
      rw [if_pos rfl, Bool.and_eq_true, decide_eq_true_eq, decide_eq_true_eq]
      omega
  | false =>
      have odd : ¬ (code : Nat) % 2 = 0 := beq_eq_false_iff_ne.mp parity
      rw [if_neg Bool.false_ne_true, Bool.and_eq_true, decide_eq_true_eq, decide_eq_true_eq]
      constructor
      · rintro ⟨above, below⟩
        exact ⟨by omega, by omega, fun _ => by omega⟩
      · rintro ⟨above, below, apart⟩
        have apart := apart (by omega)
        omega

end Around

section Grid

variable {interval : Interval} {step : Nat}

/-- A point of a grid that is taken is in the interval. -/
theorem contains_of_nearest {steps : Nat} (found : interval.nearest step = some steps) :
    interval.contains (steps * step) = true := by
  rw [nearest] at found
  split at found
  next below above =>
    cases found
    split
    · exact below
    · exact above
  next below _ =>
    cases found
    exact below
  next _ above =>
    cases found
    exact above
  next => cases found

/-- A point of the grid is found if the steps are shorter than the interval. -/
theorem exists_nearest (positive : 0 < step) (above : interval.low < interval.value)
    (below : interval.value < interval.high) (fine : interval.low + step < interval.high) :
    ∃ steps, interval.nearest step = some steps := by
  have whole := Nat.div_add_mod' interval.value step
  have small := Nat.mod_lt interval.value positive
  have reached : interval.contains (interval.value / step * step) = true ∨
      interval.contains ((interval.value / step + 1) * step) = true := by
    rw [Nat.add_mul, Nat.one_mul]
    generalize interval.value / step * step = start at *
    simp only [contains]
    split <;> simp only [Bool.and_eq_true, decide_eq_true_eq] <;> omega
  rw [nearest]
  split
  · exact ⟨_, rfl⟩
  · exact ⟨_, rfl⟩
  · exact ⟨_, rfl⟩
  next missed missed' =>
    rw [missed, missed'] at reached
    simp at reached

end Grid

end Interval

/-! ## Grids -/

/-- Neighbours of a code are at least a part in `10^16` of it apart. -/
theorem units_spread {code : Nat} (nonzero : code ≠ 0) :
    2 * units code + 10 ^ 16 * units (code - 1) < 10 ^ 16 * units (code + 1) := by
  obtain ⟨exponent, significand, rfl, fits, full⟩ := Magnitude.exists_binade code
  have next := Magnitude.le_units_succ fits.le full
  have positive : 0 < 2 ^ exponent := Nat.two_pow_pos exponent
  have bound : 2 * binade < 10 ^ 16 := by decide
  rw [Magnitude.units_binade fits.le full]
  rw [Nat.add_mul, Nat.one_mul] at next
  by_cases first : binade < significand ∨ exponent = 0
  · have product := Nat.mul_lt_mul_of_pos_right (fits.trans bound) positive
    rw [Magnitude.units_pred fits.le first, Nat.sub_mul, Nat.one_mul]
    generalize significand * 2 ^ exponent = value at *
    generalize 2 ^ exponent = width at *
    omega
  · obtain rfl : significand = binade := by omega
    obtain ⟨previous, rfl⟩ := Nat.exists_eq_add_one_of_ne_zero (show exponent ≠ 0 by omega)
    have product := Nat.mul_lt_mul_of_pos_right bound positive
    have before := Magnitude.units_pred_binade previous
    rw [Nat.sub_mul, Nat.one_mul] at before
    rw [Nat.mul_assoc] at before product
    generalize units ((previous + 1) * binade + binade - 1) = last at *
    generalize binade * 2 ^ (previous + 1) = value at *
    generalize 2 ^ (previous + 1) = width at *
    omega

section Grids

variable {code : Nat}

/-- The interval of a code holds its value. -/
theorem around_lt (nonzero : code ≠ 0) :
    (Interval.around code).low < (Interval.around code).value ∧
      (Interval.around code).value < (Interval.around code).high := by
  have before : units (code - 1) < units code := Magnitude.units_lt (by omega)
  have after : units code < units (code + 1) := Magnitude.units_lt (by omega)
  rw [Interval.around_low, Interval.around_value, Interval.around_high]
  constructor
  · exact Nat.mul_lt_mul_of_pos_right (by omega) Interval.scale_pos
  · exact Nat.mul_lt_mul_of_pos_right (by omega) Interval.scale_pos

/-- The number of digits of the value of a code, counted like the ends of its interval. -/
def places (code : Nat) : Nat := (naturalDigits (Interval.around code).value).length

theorem le_around (nonzero : code ≠ 0) : 10 ^ 17 ≤ (Interval.around code).value := by
  have one : 1 ≤ units code := Magnitude.units_lt (Nat.pos_of_ne_zero nonzero)
  have product : 2 * 1 * 5 ^ 25 ≤ 2 * units code * Interval.scale :=
    Nat.mul_le_mul (Nat.mul_le_mul_left 2 one) Interval.le_scale
  rw [Interval.around_value]
  exact le_trans (by norm_num) product

theorem lt_places (nonzero : code ≠ 0) : 17 < places code := by
  by_contra few
  have less := (Nat.length_toDigits_le_iff (by decide) (by decide)).mp (not_lt.mp few)
  exact absurd less (not_lt.mpr (le_around nonzero))

/-- Seventeen digits are enough for every code. -/
theorem exists_nearest_around (nonzero : code ≠ 0) :
    ∃ steps, (Interval.around code).nearest (10 ^ (places code - 17)) = some steps := by
  obtain ⟨above, below⟩ := around_lt nonzero
  apply Interval.exists_nearest (Nat.pow_pos (by decide)) above below
  have several := lt_places nonzero
  have leading : 10 ^ (places code - 1) ≤ (Interval.around code).value :=
    pow_le_of_naturalDigits (Nat.ne_of_gt (lt_of_lt_of_le (by decide) (le_around nonzero)))
  have power : 10 ^ (places code - 1) = 10 ^ 16 * 10 ^ (places code - 17) := by
    rw [← Nat.pow_add]
    congr 1
    omega
  have spread := Nat.mul_lt_mul_of_pos_right (units_spread nonzero) Interval.scale_pos
  rw [power, Interval.around_value] at leading
  rw [Nat.add_mul, Nat.mul_assoc (10 ^ 16), Nat.mul_assoc (10 ^ 16)] at spread
  rw [Interval.around_low, Interval.around_high, Nat.add_mul, Nat.add_mul]
  generalize units (code - 1) * Interval.scale = before at *
  generalize units (code + 1) * Interval.scale = after at *
  generalize 10 ^ (places code - 17) = step at *
  generalize 2 * units code * Interval.scale = double at *
  omega

end Grids

/-! ## Digits -/

/-- The number that digits stand for. -/
def Digits.value (digits : Digits) : ℚ :=
  ofDigits digits.digits * 10 ^ (digits.point - digits.digits.length)

theorem dropTrailingZeros_append (digits : List Char) :
    ∃ count, digits = dropTrailingZeros digits ++ List.replicate count '0' := by
  have zeros : digits.reverse.takeWhile (· == '0') =
      List.replicate (digits.reverse.takeWhile (· == '0')).length '0' := by
    apply List.eq_replicate_of_mem
    intro c member
    exact beq_iff_eq.mp (List.all_eq_true.mp List.all_takeWhile c member)
  refine ⟨(digits.reverse.takeWhile (· == '0')).length, ?_⟩
  rw [dropTrailingZeros, ← List.reverse_replicate, ← zeros, ← List.reverse_append,
    List.takeWhile_append_dropWhile, List.reverse_reverse]

/-- Zeros at the end make no difference. -/
theorem value_dropTrailingZeros (digits : List Char) (point : Int) :
    Digits.value ⟨dropTrailingZeros digits, point⟩ = Digits.value ⟨digits, point⟩ := by
  have ten : (10 : ℚ) ≠ 0 := by norm_num
  obtain ⟨count, whole⟩ := dropTrailingZeros_append digits
  generalize dropTrailingZeros digits = kept at *
  rw [Digits.value, Digits.value, whole]
  dsimp only
  rw [ofDigits_append, ofDigits_zeros, List.length_append, List.length_replicate, Nat.add_zero,
    Nat.cast_mul, Nat.cast_pow, Nat.cast_ofNat, Nat.cast_add, ← sub_sub, zpow_sub₀ ten (_ - _),
    zpow_natCast]
  field_simp

/-- The digits of a code are those of a point of a grid in its interval. -/
theorem exists_grid {code : Nat} (nonzero : code ≠ 0) :
    ∃ steps width, width ≤ 17 ∧
      (Interval.around code).contains (steps * 10 ^ (places code - width)) = true ∧
      shortestDigits code = ⟨dropTrailingZeros (naturalDigits steps),
        places code - decimalPlaces + ((naturalDigits steps).length - width : Int)⟩ := by
  rw [shortestDigits]
  split
  next digits width found =>
    obtain ⟨grid, member, nearest⟩ := List.exists_of_findSome?_eq_some found
    obtain ⟨steps, taken, same⟩ := Option.map_eq_some_iff.mp nearest
    cases same
    have widths : ∀ width ∈ gridWidths, width ≤ 17 := by decide
    exact ⟨steps, width, widths width member, Interval.contains_of_nearest taken, if_neg nonzero⟩
  next missed =>
    obtain ⟨steps, taken⟩ := exists_nearest_around nonzero
    have none := List.findSome?_eq_none_iff.mp missed 17 (by decide)
    rw [Option.map_eq_none_iff] at none
    exact absurd (taken.symm.trans none) (Option.some_ne_none steps)

theorem two_mul_scale : (2 * Interval.scale : ℚ) * 2 ^ unitExponent = 10 ^ decimalPlaces := by
  rw [show (10 : ℚ) = 2 * 5 by norm_num, mul_pow, decimalPlaces, pow_succ, Interval.scale,
    decimalPlaces, Nat.cast_pow, Nat.cast_ofNat]
  ring

theorem shortestDigits_zero : shortestDigits 0 = ⟨['0'], 1⟩ := by
  rw [shortestDigits]
  split
  · exact if_pos rfl
  · rfl

/-- The digits of a code stand for a number that rounds to it. -/
theorem shortestDigits_rounds (code : Nat) :
    Rounds ((shortestDigits code).value * 2 ^ unitExponent) code := by
  by_cases zero : code = 0
  · have nothing : (shortestDigits 0).value = 0 := by
      rw [shortestDigits_zero]
      simp [Digits.value, ofDigits, digitValue]
    rw [zero, nothing, zero_mul]
    exact Magnitude.rounds_zero le_rfl (by norm_num)
  have ten : (10 : ℚ) ≠ 0 := by norm_num
  have several := lt_places zero
  obtain ⟨steps, width, narrow, inside, digits⟩ := exists_grid zero
  have rounds := (Interval.contains_around_iff code _).mp inside
  have power : (10 : ℚ) ^ (places code - decimalPlaces + ((naturalDigits steps).length - width) -
      (naturalDigits steps).length : Int) = 10 ^ (places code - width) / 10 ^ decimalPlaces := by
    rw [show (places code - decimalPlaces + ((naturalDigits steps).length - width) -
      (naturalDigits steps).length : Int) = (places code - width : Nat) - decimalPlaces by omega,
      zpow_sub₀ ten, zpow_natCast, zpow_natCast]
  have same : (shortestDigits code).value * 2 ^ unitExponent =
      (steps * 10 ^ (places code - width) : Nat) / (2 * Interval.scale : Nat) := by
    have positive : (0 : ℚ) < Interval.scale := Nat.cast_pos.mpr Interval.scale_pos
    rw [digits, value_dropTrailingZeros, Digits.value]
    dsimp only
    rw [ofDigits_naturalDigits, power, ← two_mul_scale]
    push_cast
    field_simp
  rwa [same]

theorem shortestDigits_digits (code : Nat) : Json.Digits (shortestDigits code).digits := by
  by_cases zero : code = 0
  · rw [zero, shortestDigits_zero]
    exact digits_zeros 1
  · obtain ⟨steps, width, -, -, digits⟩ := exists_grid zero
    rw [digits]
    intro c member
    exact digits_naturalDigits steps c (dropTrailingZeros_subset _ member)

/-- There are digits, for no code but zero has a zero in its interval. -/
theorem shortestDigits_ne_nil (code : Nat) : (shortestDigits code).digits ≠ [] := by
  by_cases zero : code = 0
  · rw [zero, shortestDigits_zero]
    exact List.cons_ne_nil _ _
  · intro empty
    have rounds := shortestDigits_rounds code
    have nothing : (shortestDigits code).value * 2 ^ unitExponent = 0 := by
      rw [Digits.value, empty]
      simp [ofDigits]
    rw [nothing] at rounds
    exact zero (rounds.unique (Magnitude.rounds_zero le_rfl (by norm_num)))

end DspBridge.Number

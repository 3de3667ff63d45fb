import DspBridge.Number.Double
import Mathlib.Algebra.Order.Field.Rat
import Mathlib.Data.Rat.Cast.Order
import Mathlib.Tactic.FieldSimp
import Mathlib.Tactic.Linarith
import Mathlib.Tactic.LinearCombination
import Mathlib.Tactic.NormNum
import Mathlib.Tactic.Positivity
import Mathlib.Tactic.Ring

/-!
# Rounding to the nearest magnitude

The codes of magnitudes are in the order of their values, and the numbers that round to a code lie
between the points half-way to the codes next to it.  Every number lies in one such interval, and
what the arithmetic on units makes of a quotient is the code of this interval.  So a number has one
rounding, however it is written as a quotient, and no other magnitude is nearer.
-/

namespace DspBridge.Number

/-! ## Quotients -/

/-- A quotient is rounded by at most one half, and by less than that to an odd number. -/
theorem roundDiv_spec (dividend : Nat) {divisor : Nat} (positive : 0 < divisor) :
    let rounded := roundDiv dividend divisor
    2 * (divisor * rounded) ≤ 2 * dividend + divisor ∧
      2 * dividend ≤ 2 * (divisor * rounded) + divisor ∧
      (rounded % 2 = 1 → 2 * (divisor * rounded) ≠ 2 * dividend + divisor ∧
        2 * dividend ≠ 2 * (divisor * rounded) + divisor) := by
  have whole := Nat.div_add_mod dividend divisor
  have small := Nat.mod_lt dividend positive
  rw [roundDiv]
  split
  next up =>
    simp only [Bool.or_eq_true, Bool.and_eq_true, decide_eq_true_eq, beq_iff_eq] at up
    dsimp only
    rw [Nat.mul_add]
    omega
  next down =>
    simp only [Bool.or_eq_true, Bool.and_eq_true, decide_eq_true_eq, beq_iff_eq] at down
    dsimp only
    omega

theorem roundDiv_le {dividend divisor bound : Nat} (positive : 0 < divisor)
    (below : dividend < divisor * bound) : roundDiv dividend divisor ≤ bound := by
  have near := (roundDiv_spec dividend positive).1
  by_contra above
  have next : divisor * (bound + 1) ≤ divisor * roundDiv dividend divisor :=
    Nat.mul_le_mul_left divisor (by omega)
  rw [Nat.mul_add] at next
  omega

theorem le_roundDiv {dividend divisor bound : Nat} (positive : 0 < divisor)
    (above : divisor * bound ≤ dividend) : bound ≤ roundDiv dividend divisor := by
  have near := (roundDiv_spec dividend positive).2.1
  by_contra below
  have next : divisor * (roundDiv dividend divisor + 1) ≤ divisor * bound :=
    Nat.mul_le_mul_left divisor (by omega)
  rw [Nat.mul_add] at next
  omega

namespace Magnitude

/-! ## Codes and units -/

/-- A code is made of an exponent and a significand, which has 53 bits unless the exponent is the
least. -/
theorem exists_binade (code : Nat) :
    ∃ exponent significand, code = exponent * binade + significand ∧ significand < 2 * binade ∧
      (binade ≤ significand ∨ exponent = 0) := by
  by_cases tiny : code < binade
  · refine ⟨0, code, ?_, ?_, .inr rfl⟩
    · rw [Nat.zero_mul, Nat.zero_add]
    · omega
  · refine ⟨code / binade - 1, binade + code % binade, ?_, ?_, .inl ?_⟩
    all_goals
      unfold binade at tiny ⊢
      omega

section Units

variable {exponent significand : Nat}

theorem units_binade (fits : significand ≤ 2 * binade)
    (full : binade ≤ significand ∨ exponent = 0) :
    units (exponent * binade + significand) = significand * 2 ^ exponent := by
  have positive : 0 < binade := by decide
  have quotient : (exponent * binade + significand) / binade = exponent + significand / binade := by
    rw [Nat.add_comm, Nat.add_mul_div_right _ _ positive, Nat.add_comm]
  have remainder : (exponent * binade + significand) % binade = significand % binade := by
    rw [Nat.add_comm, Nat.add_mul_mod_self_right]
  have powers (power : Nat) : Nat.pow 2 power = 2 ^ power := rfl
  rw [units, quotient, remainder]
  simp only [powers]
  rcases Nat.lt_or_ge significand binade with below | inside
  · obtain rfl : exponent = 0 := by omega
    rw [Nat.div_eq_of_lt below, if_pos rfl, Nat.zero_mul, Nat.zero_add, Nat.pow_zero, Nat.mul_one]
  rcases Nat.lt_or_ge significand (2 * binade) with inside' | outside
  · have one : significand / binade = 1 := Nat.div_eq_of_lt_le (by omega) (by omega)
    rw [one, if_neg (Nat.succ_ne_zero _), Nat.add_sub_cancel, Nat.mod_eq_sub_mod inside,
      Nat.mod_eq_of_lt (by omega), Nat.add_sub_cancel' inside]
  · obtain rfl : significand = 2 * binade := by omega
    rw [Nat.mul_div_cancel _ positive, Nat.mul_mod_left, if_neg (Nat.succ_ne_zero _),
      Nat.add_zero, show exponent + 2 - 1 = exponent + 1 by omega, Nat.pow_succ]
    ring

theorem units_pred (fits : significand ≤ 2 * binade) (full : binade < significand ∨ exponent = 0) :
    units (exponent * binade + significand - 1) = (significand - 1) * 2 ^ exponent := by
  rcases Nat.eq_zero_or_pos significand with rfl | positive
  · obtain rfl : exponent = 0 := by omega
    rw [Nat.zero_mul, Nat.zero_add, Nat.zero_sub, Nat.zero_mul]
    rfl
  · rw [Nat.add_sub_assoc positive]
    exact units_binade (by omega) (by omega)

/-- Below the first code of an exponent the codes are twice as close. -/
theorem units_pred_binade (exponent : Nat) :
    2 * units ((exponent + 1) * binade + binade - 1) = (2 * binade - 1) * 2 ^ (exponent + 1) := by
  have code : (exponent + 1) * binade + binade - 1 = exponent * binade + (2 * binade - 1) := by
    have positive : 0 < binade := by decide
    rw [Nat.add_mul]
    omega
  rw [code, units_binade (by omega) (.inl (by unfold binade; omega)), Nat.pow_succ]
  ring

/-- Above the last code of an exponent the codes are half as close. -/
theorem le_units_succ (fits : significand ≤ 2 * binade)
    (full : binade ≤ significand ∨ exponent = 0) :
    (significand + 1) * 2 ^ exponent ≤ units (exponent * binade + significand + 1) := by
  rcases Nat.lt_or_eq_of_le fits with inside | rfl
  · rw [Nat.add_assoc, units_binade (by omega) (by omega)]
  · have code : exponent * binade + 2 * binade + 1 = (exponent + 1) * binade + (binade + 1) := by
      ring
    rw [code, units_binade (by unfold binade; omega) (by omega), Nat.pow_succ]
    have twice : (binade + 1) * (2 ^ exponent * 2) = (2 * binade + 2) * 2 ^ exponent := by ring
    rw [twice]
    exact Nat.mul_le_mul_right _ (by omega)

end Units

theorem units_strictMono : StrictMono units := by
  apply strictMono_nat_of_lt_succ
  intro code
  obtain ⟨exponent, significand, rfl, fits, full⟩ := exists_binade code
  have next := le_units_succ fits.le full
  rw [units_binade fits.le full]
  exact (Nat.mul_lt_mul_of_pos_right (Nat.lt_succ_self _) (Nat.two_pow_pos _)).trans_le next

theorem units_lt {code other : Nat} (less : code < other) : units code < units other :=
  units_strictMono less

theorem units_le {code other : Nat} (le : code ≤ other) : units code ≤ units other :=
  units_strictMono.monotone le

/-! ## Intervals -/

/-- The point half-way from a code to the one below it, in units. -/
def lower (code : Nat) : ℚ := (units (code - 1) + units code : Nat) / 2

/-- The point half-way from a code to the one above it, in units. -/
def upper (code : Nat) : ℚ := (units code + units (code + 1) : Nat) / 2

/-- A number of units rounds to a code: it lies between the points half-way to the codes next to it,
and is none of these points if the code is odd. -/
structure Rounds (number : ℚ) (code : Nat) : Prop where
  lower_le : lower code ≤ number
  le_upper : number ≤ upper code
  inside : code % 2 = 1 → lower code ≠ number ∧ number ≠ upper code

theorem rounds_div_iff {dividend divisor : Nat} (positive : 0 < divisor) (code : Nat) :
    Rounds (dividend / divisor) code ↔
      (units (code - 1) + units code) * divisor ≤ dividend * 2 ∧
      dividend * 2 ≤ (units code + units (code + 1)) * divisor ∧
      (code % 2 = 1 → (units (code - 1) + units code) * divisor ≠ dividend * 2 ∧
        dividend * 2 ≠ (units code + units (code + 1)) * divisor) := by
  have positive' : (0 : ℚ) < divisor := Nat.cast_pos.mpr positive
  have low : lower code ≤ dividend / divisor ↔
      (units (code - 1) + units code) * divisor ≤ dividend * 2 := by
    rw [lower, div_le_div_iff₀ two_pos positive']
    exact_mod_cast Iff.rfl
  have high : (dividend / divisor : ℚ) ≤ upper code ↔
      dividend * 2 ≤ (units code + units (code + 1)) * divisor := by
    rw [upper, div_le_div_iff₀ positive' two_pos]
    exact_mod_cast Iff.rfl
  have lowEnd : lower code = dividend / divisor ↔
      (units (code - 1) + units code) * divisor = dividend * 2 := by
    rw [lower, div_eq_div_iff two_ne_zero positive'.ne']
    exact_mod_cast Iff.rfl
  have highEnd : (dividend / divisor : ℚ) = upper code ↔
      dividend * 2 = (units code + units (code + 1)) * divisor := by
    rw [upper, div_eq_div_iff positive'.ne' two_ne_zero]
    exact_mod_cast Iff.rfl
  constructor
  · rintro ⟨lower_le, le_upper, inside⟩
    rw [ne_eq, ne_eq, lowEnd, highEnd] at inside
    exact ⟨low.mp lower_le, high.mp le_upper, inside⟩
  · rintro ⟨lower_le, le_upper, inside⟩
    rw [ne_eq, ne_eq, ← lowEnd, ← highEnd] at inside
    exact ⟨low.mpr lower_le, high.mpr le_upper, inside⟩

/-- A significand that is nearest to a quotient makes a code that the quotient rounds to. -/
theorem rounds_of_significand {dividend divisor exponent significand : Nat} (positive : 0 < divisor)
    (fits : significand ≤ 2 * binade) (full : binade ≤ significand ∨ exponent = 0)
    (normal : exponent = 0 ∨ divisor * 2 ^ exponent * binade ≤ dividend)
    (nearest : significand = roundDiv dividend (divisor * 2 ^ exponent)) :
    Rounds (dividend / divisor) (exponent * binade + significand) := by
  have wide : 0 < divisor * 2 ^ exponent := Nat.mul_pos positive (Nat.two_pow_pos _)
  obtain ⟨near, near', strict⟩ := roundDiv_spec dividend wide
  rw [← nearest] at near near' strict
  have parity : (exponent * binade + significand) % 2 = significand % 2 := by
    have even : exponent * binade = 2 * (exponent * 2 ^ 51) := by
      unfold binade
      ring
    rw [even]
    omega
  have value : units (exponent * binade + significand) * divisor =
      divisor * 2 ^ exponent * significand := by
    rw [units_binade fits full]
    ring
  have above : divisor * 2 ^ exponent * significand + divisor * 2 ^ exponent ≤
      units (exponent * binade + significand + 1) * divisor := by
    have least := Nat.mul_le_mul_right divisor (le_units_succ fits full)
    have same : (significand + 1) * 2 ^ exponent * divisor =
        divisor * 2 ^ exponent * significand + divisor * 2 ^ exponent := by ring
    omega
  rw [rounds_div_iff positive, parity, Nat.add_mul, Nat.add_mul, value]
  generalize units (exponent * binade + significand + 1) * divisor = next at above ⊢
  by_cases first : binade < significand ∨ exponent = 0
  · have below : units (exponent * binade + significand - 1) * divisor =
        divisor * 2 ^ exponent * significand - divisor * 2 ^ exponent := by
      rw [units_pred fits first, ← Nat.mul_sub_one]
      ring
    have least : significand = 0 ∧ divisor * 2 ^ exponent * significand = 0 ∨
        divisor * 2 ^ exponent ≤ divisor * 2 ^ exponent * significand := by
      rcases Nat.eq_zero_or_pos significand with rfl | positive
      · exact .inl ⟨rfl, Nat.mul_zero _⟩
      · exact .inr (Nat.le_mul_of_pos_right _ positive)
    rw [below]
    generalize divisor * 2 ^ exponent * significand = product at *
    generalize divisor * 2 ^ exponent = width at *
    refine ⟨by omega, by omega, ?_⟩
    intro odd
    have apart := strict odd
    omega
  · obtain rfl : significand = binade := by omega
    obtain ⟨previous, rfl⟩ := Nat.exists_eq_add_one_of_ne_zero (show exponent ≠ 0 by omega)
    have below : 2 * (units ((previous + 1) * binade + binade - 1) * divisor) =
        2 * (divisor * 2 ^ (previous + 1) * binade) - divisor * 2 ^ (previous + 1) := by
      have left : 2 * (divisor * 2 ^ (previous + 1) * binade) - divisor * 2 ^ (previous + 1) =
          divisor * 2 ^ (previous + 1) * (2 * binade - 1) := by
        rw [Nat.mul_sub_one]
        congr 1
        ring
      rw [left, ← Nat.mul_assoc, units_pred_binade]
      ring
    have above := normal.resolve_left (Nat.succ_ne_zero _)
    have least : divisor * 2 ^ (previous + 1) ≤ divisor * 2 ^ (previous + 1) * binade :=
      Nat.le_mul_of_pos_right _ (by decide)
    generalize units ((previous + 1) * binade + binade - 1) * divisor = before at *
    generalize divisor * 2 ^ (previous + 1) * binade = product at *
    generalize divisor * 2 ^ (previous + 1) = width at *
    refine ⟨by omega, by omega, ?_⟩
    intro odd
    have apart := strict odd
    omega

/-- The code that is made of a quotient is the one that the quotient rounds to. -/
theorem ofUnits_rounds (dividend : Nat) {divisor : Nat} (positive : 0 < divisor) :
    Rounds (dividend / divisor) (ofUnits dividend divisor) := by
  generalize short : Nat.log2 (dividend / divisor) - 52 = exponent
  have wide : 0 < divisor * 2 ^ exponent := Nat.mul_pos positive (Nat.two_pow_pos _)
  have below : dividend < divisor * 2 ^ exponent * (2 * binade) := by
    have quotient : dividend / divisor < 2 ^ (exponent + 53) :=
      Nat.lt_log2_self.trans_le (Nat.pow_le_pow_right two_pos (by omega))
    rw [Nat.div_lt_iff_lt_mul positive] at quotient
    have same : 2 ^ (exponent + 53) * divisor = divisor * 2 ^ exponent * (2 * binade) := by
      rw [show binade = 2 ^ 52 by decide, Nat.pow_add]
      ring
    rwa [same] at quotient
  have normal : exponent = 0 ∨ divisor * 2 ^ exponent * binade ≤ dividend := by
    rcases Nat.eq_zero_or_pos exponent with least | more
    · exact .inl least
    · have quotient : 2 ^ (exponent + 52) ≤ dividend / divisor := by
        have nonzero : dividend / divisor ≠ 0 := by
          intro zero
          rw [zero, Nat.log2_zero] at short
          omega
        exact (Nat.le_log2 nonzero).mp (by omega)
      rw [Nat.le_div_iff_mul_le positive] at quotient
      have same : 2 ^ (exponent + 52) * divisor = divisor * 2 ^ exponent * binade := by
        rw [show binade = 2 ^ 52 by decide, Nat.pow_add]
        ring
      rw [same] at quotient
      exact .inr quotient
  have full : binade ≤ roundDiv dividend (divisor * 2 ^ exponent) ∨ exponent = 0 := by
    rcases normal with least | above
    · exact .inr least
    · exact .inl (le_roundDiv wide above)
  have code : ofUnits dividend divisor =
      exponent * binade + roundDiv dividend (divisor * 2 ^ exponent) := by
    rw [ofUnits, short]
    rfl
  rw [code]
  exact rounds_of_significand positive (roundDiv_le wide below) full normal rfl

section Rounds

variable {number : ℚ} {code other : Nat}

theorem lower_le_upper (code : Nat) : lower code ≤ upper code := by
  have less : units (code - 1) ≤ units (code + 1) := units_le (by omega)
  rw [lower, upper]
  gcongr ?_ / 2
  exact_mod_cast (by omega)

theorem upper_le_lower (less : code < other) : upper code ≤ lower other := by
  have first : units code ≤ units (other - 1) := units_le (by omega)
  have second : units (code + 1) ≤ units other := units_le (by omega)
  rw [lower, upper]
  gcongr

/-- Intervals only meet where they end, and a code with such an end has an odd neighbour there. -/
theorem Rounds.not_less (rounds : Rounds number code) (rounds' : Rounds number other) :
    ¬ code < other := by
  intro less
  have between := upper_le_lower less
  have above : number = upper code :=
    le_antisymm rounds.le_upper (between.trans rounds'.lower_le)
  have below : lower other = number :=
    le_antisymm rounds'.lower_le (rounds.le_upper.trans between)
  have even : code % 2 = 0 := by
    by_contra odd
    exact (rounds.inside (by omega)).2 above
  have even' : other % 2 = 0 := by
    by_contra odd
    exact (rounds'.inside (by omega)).1 below
  have apart : units code < units (other - 1) := units_lt (by omega)
  have apart' : units (code + 1) < units other := units_lt (by omega)
  have strict : upper code < lower other := by
    rw [lower, upper]
    gcongr
  exact absurd (above.symm.trans below.symm) strict.ne

/-- A number rounds to one code. -/
theorem Rounds.unique (rounds : Rounds number code) (rounds' : Rounds number other) :
    code = other :=
  le_antisymm (not_lt.mp (rounds'.not_less rounds)) (not_lt.mp (rounds.not_less rounds'))

/-- Every number rounds to some code. -/
theorem exists_rounds (nonnegative : 0 ≤ number) : ∃ code, Rounds number code := by
  have rounds := ofUnits_rounds number.num.toNat number.pos
  have numerator : ((number.num.toNat : Nat) : ℚ) = number.num := by
    exact_mod_cast Int.toNat_of_nonneg (Rat.num_nonneg.mpr nonnegative)
  rw [numerator, Rat.num_div_den] at rounds
  exact ⟨_, rounds⟩

/-- Numbers up to half a unit round to zero. -/
theorem rounds_zero (nonnegative : 0 ≤ number) (small : number ≤ 1 / 2) :
    Rounds number 0 := by
  have none : units 0 = 0 := rfl
  have one : units 1 = 1 := rfl
  refine ⟨?_, ?_, nofun⟩
  · rw [lower, Nat.zero_sub, none]
    simpa using nonnegative
  · rw [upper, none, one]
    simpa using small

/-- A number beyond the point half-way between two values is nearer to the second than to anything
before the first; only at that point can it be as near. -/
theorem near_of_midpoint {value next before : ℚ} (less : next < value) (passed : before ≤ next)
    (beyond : (next + value) / 2 ≤ number) :
    |number - value| ≤ |number - before| ∧
      (|number - value| = |number - before| → (next + value) / 2 = number) := by
  have distance : |number - before| = number - before := abs_of_nonneg (by linarith)
  rw [distance]
  constructor
  · rw [abs_le]
    constructor <;> linarith
  · intro same
    rcases abs_choice (number - value) with plain | turned <;> linarith

/-- No code is nearer than the one that a number rounds to, and none is as near unless that is even. -/
theorem Rounds.near (rounds : Rounds number code) (different : other ≠ code) :
    |number - units code| ≤ |number - units other| ∧
      (|number - units code| = |number - units other| → code % 2 = 0) := by
  rcases Nat.lt_or_gt_of_ne different with below | above
  · have less : (units (code - 1) : ℚ) < units code := Nat.cast_lt.mpr (units_lt (by omega))
    have passed : (units other : ℚ) ≤ units (code - 1) := Nat.cast_le.mpr (units_le (by omega))
    have beyond := rounds.lower_le
    rw [lower, Nat.cast_add] at beyond
    obtain ⟨near, even⟩ := near_of_midpoint less passed beyond
    refine ⟨near, fun same => ?_⟩
    by_contra odd
    apply (rounds.inside (by omega)).1
    rw [lower, Nat.cast_add]
    exact even same
  · have less : -(units (code + 1) : ℚ) < -units code :=
      neg_lt_neg (Nat.cast_lt.mpr (units_lt (by omega)))
    have passed : -(units other : ℚ) ≤ -units (code + 1) :=
      neg_le_neg (Nat.cast_le.mpr (units_le (by omega)))
    have beyond := neg_le_neg rounds.le_upper
    rw [upper, Nat.cast_add, add_comm, ← neg_div, neg_add] at beyond
    obtain ⟨near, even⟩ := near_of_midpoint less passed beyond
    rw [neg_sub_neg, neg_sub_neg, abs_sub_comm, abs_sub_comm (units other : ℚ)] at near even
    refine ⟨near, fun same => ?_⟩
    by_contra odd
    apply (rounds.inside (by omega)).2
    rw [upper, Nat.cast_add]
    linarith [even same]

/-- The numbers that round to infinity or beyond. -/
theorem Rounds.lt_infinity_iff (rounds : Rounds number code) :
    code < infinity ↔ number < lower infinity := by
  constructor
  · intro less
    by_contra large
    have reached : lower infinity ≤ number := not_lt.mp large
    have end' : number ≤ lower infinity := rounds.le_upper.trans (upper_le_lower less)
    have beyond : Rounds number infinity :=
      ⟨reached, end'.trans (lower_le_upper _), fun odd => absurd odd (by decide)⟩
    exact absurd (rounds.unique beyond) less.ne
  · intro small
    by_contra large
    have reached : lower infinity ≤ lower code := by
      rcases Nat.lt_or_eq_of_le (not_lt.mp large) with less | same
      · exact (lower_le_upper _).trans (upper_le_lower less)
      · rw [same]
    exact absurd (reached.trans rounds.lower_le) (not_le.mpr small)

end Rounds

/-! ## Values -/

/-- The number that a finite code stands for. -/
def value (code : Magnitude) : ℚ := units code / 2 ^ unitExponent

/-- A finite magnitude is nearest to a number, and of two equally near it is the even one. -/
structure Nearest (number : ℚ) (code : Magnitude) : Prop where
  finite : code < infinity
  least : ∀ other < infinity, |number - value code| ≤ |number - value other|
  even : ∀ other < infinity, other ≠ code → |number - value code| = |number - value other| →
    code % 2 = 0

/-- The least number that is too large for every finite magnitude: it is half-way from the greatest
one to the next power of two. -/
def limit : ℚ := 2 ^ 1024 - 2 ^ 970

/-- The point half-way to the first code of an exponent, from the last code below it. -/
theorem lower_binade (exponent : Nat) :
    lower ((exponent + 1) * binade + binade) = (2 ^ 54 - 1) * 2 ^ (exponent + 1) / 4 := by
  have count : (binade : ℚ) = 2 ^ 52 := by norm_num [binade]
  have last := congrArg (Nat.cast : Nat → ℚ) (units_pred_binade exponent)
  have positive : 1 ≤ 2 * binade := by decide
  rw [Nat.cast_mul, Nat.cast_mul, Nat.cast_pow, Nat.cast_sub positive, Nat.cast_mul, count,
    Nat.cast_ofNat, Nat.cast_one] at last
  rw [lower, units_binade (by omega) (.inl le_rfl), Nat.cast_add, Nat.cast_mul, Nat.cast_pow, count,
    Nat.cast_ofNat]
  linear_combination last / 4

theorem lower_infinity : lower infinity = limit * 2 ^ unitExponent := by
  have code : infinity = (2045 + 1) * binade + binade := by decide
  have powers : (2 : ℚ) ^ (2045 + 1) = 4 * (2 ^ 970 * 2 ^ 1074) := by
    rw [show 2045 + 1 = 2 + (970 + 1074) from rfl, pow_add, pow_add]
    norm_num
  have power : (2 : ℚ) ^ 1024 = 2 ^ 54 * 2 ^ 970 := by
    rw [← pow_add]
  rw [code, lower_binade, powers, limit, unitExponent, power]
  generalize (2 : ℚ) ^ 970 = half
  generalize (2 : ℚ) ^ 1074 = scale
  ring

theorem Rounds.nearest {number : ℚ} {code : Nat} (rounds : Rounds (number * 2 ^ unitExponent) code)
    (finite : code < infinity) : Nearest number code := by
  have positive : (0 : ℚ) < 2 ^ unitExponent := by positivity
  have distance (other : Nat) :
      |number - value other| = |number * 2 ^ unitExponent - units other| / 2 ^ unitExponent := by
    rw [← abs_of_pos positive, ← abs_div, abs_of_pos positive, sub_div,
      mul_div_cancel_right₀ _ positive.ne', value]
  refine ⟨finite, ?_, ?_⟩
  · intro other _
    by_cases same : other = code
    · rw [same]
    · rw [distance, distance]
      exact div_le_div_of_nonneg_right (rounds.near same).1 positive.le
  · intro other _ different equal
    rw [distance, distance, div_left_inj' positive.ne'] at equal
    exact (rounds.near different).2 equal

theorem Rounds.finite_iff {number : ℚ} {code : Nat}
    (rounds : Rounds (number * 2 ^ unitExponent) code) :
    code < infinity ↔ number < limit := by
  have positive : (0 : ℚ) < 2 ^ unitExponent := by positivity
  rw [rounds.lt_infinity_iff, lower_infinity, mul_lt_mul_iff_left₀ positive]

end Magnitude
end DspBridge.Number

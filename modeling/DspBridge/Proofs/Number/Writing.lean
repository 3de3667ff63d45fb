import DspBridge.Json.Value
import DspBridge.Proofs.Number.Conversion
import DspBridge.Proofs.Number.Shortest

/-!
# What is written reads back

Digits in a layout are a decimal numeral for the number that they stand for, wherever the layout puts
the point.  A double that is written is therefore read back as itself, and a whole number as the
double that is nearest to it.
-/

namespace DspBridge.Number

open Magnitude (Nearest limit infinity)

/-! ## Layouts -/

namespace Layout

section Digits

variable {sign whole fraction : List Char} {negative : Bool} {value : Digits}

/-- A numeral with a point and without an exponent. -/
theorem isDecimal_point (signed : IsSign sign negative) (wholeDigits : Json.Digits whole) (digits : Json.Digits fraction)
    (nonempty : whole ++ fraction ≠ []) :
    IsDecimal (sign ++ (whole ++ '.' :: fraction)) negative
      (ofDigits whole + ofDigits fraction / 10 ^ fraction.length) := by
  have isDecimal := IsDecimal.parts signed wholeDigits (.point digits) nonempty .absent
  rwa [List.append_nil, zpow_zero, mul_one] at isDecimal

theorem writeExponent_isExponent (exponent : Int) :
    IsExponent (writeExponent exponent) exponent := by
  have nonempty : naturalDigits exponent.natAbs ≠ [] := Nat.toDigits_ne_nil
  rw [writeExponent]
  split
  next negative =>
    have isExponent := IsExponent.marked (.inl rfl) .minus nonempty (digits_naturalDigits _)
    rw [ofDigits_naturalDigits, if_pos rfl, Int.ofNat_natAbs_of_nonpos negative.le, neg_neg]
      at isExponent
    exact isExponent
  next positive =>
    have isExponent := IsExponent.marked (.inl rfl) .plus nonempty (digits_naturalDigits _)
    rw [ofDigits_naturalDigits, if_neg Bool.false_ne_true,
      Int.natAbs_of_nonneg (not_lt.mp positive)] at isExponent
    exact isExponent

theorem writePositional_isDecimal (signed : IsSign sign negative)
    (digits : Json.Digits value.digits) (nonempty : value.digits ≠ []) :
    IsDecimal (sign ++ writePositional value) negative value.value := by
  have ten : (10 : ℚ) ≠ 0 := by norm_num
  rw [writePositional]
  split
  next before =>
    obtain ⟨zeros, point⟩ := Int.eq_ofNat_of_zero_le (neg_nonneg.mpr before)
    have isDecimal := isDecimal_point signed (digits_zeros 1)
      (digits_append.mpr ⟨digits_zeros zeros, digits⟩) (List.cons_ne_nil _ _)
    rw [ofDigits_append, ofDigits_zeros, ofDigits_zeros, List.length_append, List.length_replicate]
      at isDecimal
    have number : value.value = ofDigits value.digits / 10 ^ (zeros + value.digits.length) := by
      rw [Digits.value, show value.point - value.digits.length =
        -((zeros + value.digits.length : Nat) : Int) by omega, zpow_neg, zpow_natCast]
      rfl
    rw [point, number]
    simpa using isDecimal
  split
  next _ among =>
    obtain ⟨front, point⟩ := Int.eq_ofNat_of_zero_le (show 0 ≤ value.point by omega)
    have split := List.take_append_drop front value.digits
    have parts := digits
    rw [← split, digits_append] at parts
    have isDecimal := isDecimal_point signed parts.1 parts.2 (by rwa [split])
    have length : (value.digits.drop front).length = value.digits.length - front :=
      List.length_drop
    have number : value.value = ofDigits (value.digits.take front) +
        ofDigits (value.digits.drop front) / 10 ^ (value.digits.drop front).length := by
      rw [Digits.value, show value.point - value.digits.length =
        -((value.digits.drop front).length : Int) by omega, zpow_neg, zpow_natCast]
      have joined := ofDigits_append (value.digits.take front) (value.digits.drop front)
      rw [split] at joined
      rw [joined]
      push_cast
      field_simp
    rw [number, point, Int.toNat_natCast, List.append_assoc]
    exact isDecimal
  next _ behind =>
    obtain ⟨zeros, point⟩ :=
      Int.eq_ofNat_of_zero_le (show 0 ≤ value.point - value.digits.length by omega)
    have isDecimal := isDecimal_point signed (digits_append.mpr ⟨digits, digits_zeros zeros⟩)
      (digits_zeros 1) (by simp)
    have number : value.value = ofDigits value.digits * 10 ^ zeros := by
      rw [Digits.value, point, zpow_natCast]
    rw [ofDigits_append, ofDigits_zeros, ofDigits_zeros, List.length_replicate] at isDecimal
    rw [number, point, Int.toNat_natCast]
    simpa using isDecimal

theorem writeScientific_isDecimal (signed : IsSign sign negative)
    (digits : Json.Digits value.digits) (nonempty : value.digits ≠ []) :
    IsDecimal (sign ++ writeScientific value) negative value.value := by
  rw [writeScientific]
  split
  next empty => exact absurd empty nonempty
  next digit single =>
    rw [single] at digits
    have isDecimal := IsDecimal.parts signed digits .absent (List.cons_ne_nil _ _)
      (writeExponent_isExponent (value.point - 1))
    rw [Digits.value, single]
    simpa [ofDigits] using isDecimal
  next digit rest _ several =>
    have ten : (10 : ℚ) ≠ 0 := by norm_num
    rw [several, ← List.singleton_append, digits_append] at digits
    have isDecimal := IsDecimal.parts signed digits.1 (.point digits.2) (List.cons_ne_nil _ _)
      (writeExponent_isExponent (value.point - 1))
    have number : value.value =
        (ofDigits [digit] + ofDigits rest / 10 ^ rest.length) * 10 ^ (value.point - 1) := by
      rw [Digits.value, several, ← List.singleton_append, ofDigits_append, List.length_append,
        List.length_singleton, Nat.cast_add (R := Int), ← sub_sub, Nat.cast_one, zpow_sub₀ ten (_ - _),
        zpow_natCast]
      push_cast
      field_simp
    rw [number]
    exact isDecimal

/-- Digits in a layout denote the number that they stand for. -/
theorem writeDigits_isDecimal (layout : Layout) (signed : IsSign sign negative)
    (digits : Json.Digits value.digits) (nonempty : value.digits ≠ []) :
    IsDecimal (sign ++ layout.writeDigits value) negative value.value := by
  rw [writeDigits]
  split
  · exact writePositional_isDecimal signed digits nonempty
  · exact writeScientific_isDecimal signed digits nonempty

end Digits

/-- A double in a layout has its sign and denotes the number of its digits. -/
theorem write_isDecimal (layout : Layout) (value : Double) :
    IsDecimal (layout.write value).toList value.negative (shortestDigits value.magnitude).value := by
  have signed : IsSign (if value.negative then ['-'] else []) value.negative := by
    cases value.negative with
    | false => exact .absent
    | true => exact .minus
  rw [write, String.toList_ofList]
  exact writeDigits_isDecimal layout signed (shortestDigits_digits value.magnitude)
    (shortestDigits_ne_nil value.magnitude)

end Layout

/-! ## Whole numbers -/

theorem naturalDigits_isDecimal {sign : List Char} {negative : Bool} (signed : IsSign sign negative)
    (value : Nat) : IsDecimal (sign ++ naturalDigits value) negative value := by
  have nonempty : naturalDigits value ++ [] ≠ [] := by
    rw [List.append_nil]
    exact Nat.toDigits_ne_nil
  have isDecimal := IsDecimal.parts signed (digits_naturalDigits value) .absent nonempty .absent
  rw [ofDigits_naturalDigits] at isDecimal
  simpa [ofDigits] using isDecimal

theorem toString_isDecimal (value : Int) :
    IsDecimal (toString value).toList (decide (value < 0)) (value.natAbs : ℚ) := by
  cases value with
  | ofNat value =>
      change IsDecimal value.repr.toList false value
      rw [Nat.toList_repr]
      exact naturalDigits_isDecimal .absent value
  | negSucc value =>
      rw [decide_eq_true (Int.negSucc_lt_zero value)]
      change IsDecimal ("-" ++ (value + 1).repr).toList true (value + 1 : Nat)
      rw [String.toList_append, Nat.toList_repr]
      exact naturalDigits_isDecimal .minus (value + 1)

/-! ## Reading back -/

/-- A decimal numeral that is not too large is read as the double that is nearest to it. -/
theorem readDouble?_of_isDecimal {text : String} {negative : Bool} {number : ℚ}
    (isDecimal : IsDecimal text.toList negative number) (fits : number < limit) :
    ∃ double, readDouble? text = some double ∧ double.negative = negative ∧
      Nearest number double.magnitude := by
  obtain ⟨numeral, read, rfl, rfl⟩ := (Numeral.ofChars?_iff _ _ _).mpr isDecimal
  refine ⟨numeral.toDouble, ?_, rfl, Numeral.magnitude_nearest fits⟩
  rw [readDouble?, read, Option.map_some]

/-- A double that is written is read back as itself. -/
theorem readDouble?_write (layout : Layout) {value : Double} (finite : value.IsFinite) :
    readDouble? (layout.write value) = some value := by
  obtain ⟨numeral, read, negative, same⟩ :=
    (Numeral.ofChars?_iff _ _ _).mpr (layout.write_isDecimal value)
  have rounds := shortestDigits_rounds value.magnitude
  rw [← same] at rounds
  rw [readDouble?, read, Option.map_some, Numeral.toDouble, negative,
    Numeral.magnitude_eq_of_rounds rounds finite]

/-- Just the decimal numerals that are not too large are read as finite doubles. -/
theorem readFinite?_isSome_iff (text : String) :
    (readFinite? text).isSome = true ↔
      ∃ negative number, IsDecimal text.toList negative number ∧ number < limit := by
  rw [readFinite?, readDouble?, Option.isSome_iff_exists]
  simp only [Option.filter_eq_some_iff, Option.map_eq_some_iff, decide_eq_true_eq]
  constructor
  · rintro ⟨_, ⟨numeral, read, rfl⟩, finite⟩
    refine ⟨numeral.negative, numeral.value, ?_, (numeral.magnitude_lt_infinity_iff).mp finite⟩
    exact (Numeral.ofChars?_iff _ _ _).mp ⟨numeral, read, rfl, rfl⟩
  · rintro ⟨negative, number, isDecimal, fits⟩
    obtain ⟨numeral, read, rfl, rfl⟩ := (Numeral.ofChars?_iff _ _ _).mpr isDecimal
    exact ⟨_, ⟨numeral, read, rfl⟩, (numeral.magnitude_lt_infinity_iff).mpr fits⟩

end DspBridge.Number

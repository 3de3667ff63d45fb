import DspBridge.Proofs.Descriptor.Quantities
import DspBridge.Proofs.Number.Writing

/-!
# Accepted quantities

Which values of a document are quantities, and which doubles they denote.  A number always is one,
and a quoted text just when it is a decimal numeral of a number that is not too large.  Whatever was
accepted has a finite double, and its text is accepted again in quotes, as the same quantity.
-/

namespace DspBridge

open Number (Double IsDecimal Spelled)
open Number.Magnitude (Nearest limit)

namespace Text

theorem range_of_numeral {c : Char} (numeral : Number.isNumeralChar c = true) :
    43 ≤ c.toNat ∧ c.toNat ≤ 101 := by
  simp only [Number.isNumeralChar, Bool.or_eq_true, beq_iff_eq] at numeral
  rcases numeral with ((((digit | rfl) | rfl) | rfl) | rfl) | rfl
  · rw [Char.isDigit, Bool.and_eq_true, decide_eq_true_eq, decide_eq_true_eq, ge_iff_le,
      UInt32.le_iff_toNat_le, UInt32.le_iff_toNat_le] at digit
    exact ⟨le_trans (by decide) digit.1, le_trans digit.2 (by decide)⟩
  all_goals decide

theorem not_blank_of_numeral {c : Char} (numeral : Number.isNumeralChar c = true) :
    isBlank c = false := by
  have range := range_of_numeral numeral
  simp only [isBlank, Bool.or_eq_false_iff, Bool.and_eq_false_iff, decide_eq_false_iff_not,
    beq_eq_false_iff_ne]
  omega

theorem dropWhile_blank_spelled {chars : List Char} (spelled : Spelled chars) :
    chars.dropWhile isBlank = chars := by
  cases chars with
  | nil => rfl
  | cons c rest =>
      have solid := not_blank_of_numeral (spelled c List.mem_cons_self)
      exact List.dropWhile_cons_of_neg (by rw [solid]; exact Bool.false_ne_true)

/-- What is spelled like a numeral has no blanks to be trimmed. -/
theorem trim_spelled {text : String} (spelled : Spelled text.toList) : trim text = text := by
  have reversed : Spelled text.toList.reverse :=
    spelled.subset fun _ member => List.mem_reverse.mp member
  rw [trim, trimChars, dropWhile_blank_spelled spelled, dropWhile_blank_spelled reversed,
    List.reverse_reverse, String.ofList_toList]

end Text

namespace Descriptor

/-- A value of a document is a number that is not too large for a double: any number, or a text in
quotes that is a decimal numeral once it is trimmed. -/
inductive Numeric : Json → Prop where
  | number (number : Json.Number) : Numeric (.number number)
  | quoted {text : String} {negative : Bool} {number : ℚ} :
      IsDecimal (Text.trim text).toList negative number → number < limit → Numeric (.string text)

/-- The double that a value of a document denotes: a double itself, or the one that is nearest to a
whole number or to a decimal numeral in quotes. -/
inductive Denotes : Json → Double → Prop where
  | real {value : Double} (finite : value.IsFinite) : Denotes (.number (.real value finite)) value
  | whole {value : Int} {double : Double} (fits : Json.leastWhole ≤ value ∧ value < Json.wholeLimit) :
      double.negative = decide (value < 0) → Nearest value.natAbs double.magnitude →
      Denotes (.number (.integer value fits)) double
  | quoted {text : String} {double : Double} {number : ℚ} :
      IsDecimal (Text.trim text).toList double.negative number → Nearest number double.magnitude →
      Denotes (.string text) double

namespace Quantity

/-- Whole numbers of 64 bits are far below the greatest double. -/
theorem natAbs_lt_limit {value : Int}
    (fits : Json.leastWhole ≤ value ∧ value < Json.wholeLimit) : (value.natAbs : ℚ) < limit := by
  have small : value.natAbs ≤ 2 ^ 64 := by
    obtain ⟨least, below⟩ := fits
    unfold Json.leastWhole at least
    unfold Json.wholeLimit at below
    omega
  have cast : (value.natAbs : ℚ) ≤ 2 ^ 64 := by exact_mod_cast small
  have power : (2 : ℚ) ^ 64 < 2 ^ 970 := pow_lt_pow_right₀ (by norm_num) (by norm_num)
  exact (cast.trans_lt power).trans_le Number.le_limit

theorem ofJson?_isSome_iff (value : Json) :
    (∃ quantity, ofJson? value = some quantity) ↔ Numeric value := by
  constructor
  · rintro ⟨quantity, read⟩
    cases value with
    | number number => exact .number number
    | string text =>
        rw [ofJson?] at read
        split at read
        next finite =>
          obtain ⟨negative, number, isDecimal, fits⟩ := (Number.readFinite?_isSome_iff _).mp finite
          exact .quoted isDecimal fits
        next => cases read
    | null | bool | array | object => cases read
  · intro numeric
    cases numeric with
    | number number => exact ⟨_, rfl⟩
    | quoted isDecimal fits =>
        have finite := (Number.readFinite?_isSome_iff _).mpr ⟨_, _, isDecimal, fits⟩
        exact ⟨_, if_pos finite⟩

theorem toDouble?_denotes {value : Json} {quantity : Quantity}
    (read : ofJson? value = some quantity) :
    ∃ double, quantity.toDouble? = some double ∧ double.IsFinite ∧ Denotes value double := by
  cases value with
  | number number =>
      cases read
      cases number with
      | real value finite =>
          exact ⟨value, Number.readDouble?_write _ finite, finite, .real finite⟩
      | integer value fits =>
          obtain ⟨double, found, negative, nearest⟩ := Number.readDouble?_of_isDecimal
            (Number.toString_isDecimal value) (natAbs_lt_limit fits)
          exact ⟨double, found, nearest.finite, .whole fits negative nearest⟩
  | string text =>
      rw [ofJson?] at read
      split at read
      next finite =>
        cases read
        obtain ⟨_, number, isDecimal, fits⟩ := (Number.readFinite?_isSome_iff _).mp finite
        obtain ⟨double, found, rfl, nearest⟩ := Number.readDouble?_of_isDecimal isDecimal fits
        exact ⟨double, found, nearest.finite, .quoted isDecimal nearest⟩
      next => cases read
  | null | bool | array | object => cases read

/-- Just the numbers, and the texts in quotes that are numerals of numbers that are not too large, are
accepted.  An accepted quantity is spelled like a numeral and has the finite double that the value
denotes, and its text is accepted in quotes as the same quantity. -/
theorem accepted_stays (value : Json) :
    ((∃ quantity, ofJson? value = some quantity) ↔ Numeric value) ∧
    ∀ quantity, ofJson? value = some quantity →
      quantity.text ≠ "" ∧ Spelled quantity.text.toList ∧
      (∃ double, quantity.toDouble? = some double ∧ double.IsFinite ∧ Denotes value double) ∧
      ofJson? (.string quantity.text) = some quantity := by
  refine ⟨ofJson?_isSome_iff value, ?_⟩
  intro quantity read
  have spelled := ofJson?_spelled read
  obtain ⟨double, found, finite, denotes⟩ := toDouble?_denotes read
  have trimmed := Text.trim_spelled spelled
  have again : (Number.readFinite? quantity.text).isSome = true := by
    rw [toDouble?] at found
    rw [Number.readFinite?, found, Option.filter_some, if_pos (decide_eq_true finite)]
    rfl
  refine ⟨?_, spelled, ⟨double, found, finite, denotes⟩, ?_⟩
  · intro empty
    rw [toDouble?, empty] at found
    cases found
  · rw [ofJson?, trimmed, if_pos again]

/-- Only decimal numerals are read, and blanks around them are not kept. -/
example : ["inf", "nan", "0x10", "1_000", "1e309", " +.5e-3\n"].map
    (fun text => ofJson? (.string text)) =
    [none, none, none, none, none, some ⟨"+.5e-3"⟩] := by decide +kernel

end Quantity
end Descriptor
end DspBridge

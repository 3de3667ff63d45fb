import DspBridge.Proofs.Json.Numbers
import DspBridge.Proofs.Number.Spelling
import Mathlib.Algebra.Order.Field.Power
import Mathlib.Data.Rat.Cast.Order
import Mathlib.Tactic.FieldSimp
import Mathlib.Tactic.Ring

/-!
# Decimal notation

The texts that are decimal numerals, and the numbers that they denote.  The grammar is stated by its
parts: a sign, digits with a point among them, and an exponent.  The reader of numerals takes just
these texts, and makes a significand and an exponent of the denoted number.
-/

namespace DspBridge.Number

open Json (Undigited undigited_nil undigited_cons takeWhile_digits dropWhile_digits)

/-! ## The grammar -/

/-- A sign or nothing, and whether it is a minus. -/
inductive IsSign : List Char → Bool → Prop where
  | absent : IsSign [] false
  | plus : IsSign ['+'] false
  | minus : IsSign ['-'] true

/-- A point and the digits behind it, or nothing.  The point can stand at the end. -/
inductive IsFraction : List Char → List Char → Prop where
  | absent : IsFraction [] []
  | point {digits : List Char} : Json.Digits digits → IsFraction ('.' :: digits) digits

/-- An exponent, or nothing, and the power of ten that it denotes. -/
inductive IsExponent : List Char → Int → Prop where
  | absent : IsExponent [] 0
  | marked {mark : Char} {sign digits : List Char} {negative : Bool} : mark = 'e' ∨ mark = 'E' →
      IsSign sign negative → digits ≠ [] → Json.Digits digits →
      IsExponent (mark :: (sign ++ digits))
        (if negative then -(ofDigits digits : Int) else ofDigits digits)

/-- A decimal numeral: its sign, and the number that it denotes without it.  There are digits before
the point or behind it. -/
inductive IsDecimal : List Char → Bool → ℚ → Prop where
  | parts {sign whole point fraction mark : List Char} {negative : Bool} {exponent : Int} :
      IsSign sign negative → Json.Digits whole → IsFraction point fraction →
      whole ++ fraction ≠ [] → IsExponent mark exponent →
      IsDecimal (sign ++ (whole ++ (point ++ mark))) negative
        ((ofDigits whole + ofDigits fraction / 10 ^ fraction.length) * 10 ^ exponent)

/-! ## Digits -/

section Digits

variable {digits others : List Char}

theorem ofDigits_eq (digits : List Char) : ofDigits digits = Nat.ofDigitChars 10 digits 0 := by
  rw [ofDigits, Nat.ofDigitChars]
  simp only [Nat.mul_comm, digitValue]

theorem ofDigits_append (digits others : List Char) :
    ofDigits (digits ++ others) = ofDigits digits * 10 ^ others.length + ofDigits others := by
  rw [ofDigits_eq, ofDigits_eq, ofDigits_eq, Nat.ofDigitChars_append,
    Nat.ofDigitChars_eq_ofDigitChars_zero, Nat.mul_comm]

theorem ofDigits_zeros (count : Nat) : ofDigits (List.replicate count '0') = 0 := by
  rw [ofDigits_eq, Nat.ofDigitChars_replicate_zero, Nat.mul_zero]

theorem ofDigits_naturalDigits (value : Nat) : ofDigits (naturalDigits value) = value := by
  rw [ofDigits_eq, naturalDigits, Nat.ofDigitChars_ten_toDigits]

theorem lt_pow_naturalDigits (value : Nat) : value < 10 ^ (naturalDigits value).length :=
  (Nat.length_toDigits_le_iff (by decide) Nat.length_toDigits_pos).mp le_rfl

/-- The first digit counts. -/
theorem pow_le_of_naturalDigits {value : Nat} (nonzero : value ≠ 0) :
    10 ^ ((naturalDigits value).length - 1) ≤ value := by
  rcases Nat.eq_zero_or_pos ((naturalDigits value).length - 1) with single | several
  · rw [single]
    exact Nat.one_le_iff_ne_zero.mpr nonzero
  · by_contra less
    have short := (Nat.length_toDigits_le_iff (by decide) several).mpr (not_le.mp less)
    rw [naturalDigits] at short several
    omega

theorem digits_append : Json.Digits (digits ++ others) ↔ Json.Digits digits ∧ Json.Digits others :=
  List.forall_mem_append

theorem digits_zeros (count : Nat) : Json.Digits (List.replicate count '0') := by
  intro c member
  rw [List.eq_of_mem_replicate member]
  decide

theorem digits_naturalDigits (value : Nat) : Json.Digits (naturalDigits value) :=
  fun _ member => Nat.isDigit_of_mem_toDigits (by decide) (by decide) member

end Digits

/-! ## Numerals -/

namespace Numeral

/-- The number that a numeral stands for, without its sign. -/
def value (numeral : Numeral) : ℚ := numeral.significand * 10 ^ numeral.exponent

theorem value_of_parts (negative : Bool) (whole fraction : List Char) (exponent : Int) :
    value ⟨negative, ofDigits (whole ++ fraction), exponent - fraction.length⟩ =
      (ofDigits whole + ofDigits fraction / 10 ^ fraction.length) * 10 ^ exponent := by
  have ten : (10 : ℚ) ≠ 0 := by norm_num
  rw [value, ofDigits_append, zpow_sub₀ ten, zpow_natCast]
  push_cast
  field_simp

end Numeral

/-! ## Reading -/

section Reading

variable {text sign point fraction mark : List Char} {negative : Bool} {exponent : Int}

theorem IsSign.splitSign_append (signed : IsSign sign negative)
    (plain : ∀ c ∈ text.head?, c ≠ '+' ∧ c ≠ '-') : splitSign (sign ++ text) = (negative, text) := by
  cases signed with
  | absent =>
      cases text with
      | nil => rfl
      | cons c rest =>
          obtain ⟨notPlus, notMinus⟩ := plain c rfl
          exact Json.splitSign_unsigned notMinus notPlus rest
  | plus => rfl
  | minus => rfl

theorem exists_sign (text : List Char) :
    ∃ sign, IsSign sign (splitSign text).1 ∧ text = sign ++ (splitSign text).2 := by
  rw [splitSign.eq_def]
  split
  · exact ⟨['-'], .minus, rfl⟩
  · exact ⟨['+'], .plus, rfl⟩
  · exact ⟨[], .absent, rfl⟩

theorem unsigned_of_digit {c : Char} (digit : c.isDigit = true) : c ≠ '+' ∧ c ≠ '-' :=
  ⟨Json.ne_of_test digit (by decide), Json.ne_of_test digit (by decide)⟩

theorem IsExponent.undigited (marked : IsExponent mark exponent) : Undigited mark := by
  cases marked with
  | absent => exact undigited_nil
  | marked isMark => obtain rfl | rfl := isMark <;> exact undigited_cons.mpr rfl

theorem IsFraction.undigited (pointed : IsFraction point fraction) (marked : IsExponent mark exponent) :
    Undigited (point ++ mark) := by
  cases pointed with
  | absent => exact marked.undigited
  | point => exact undigited_cons.mpr rfl

theorem IsFraction.splitFraction_append (pointed : IsFraction point fraction)
    (marked : IsExponent mark exponent) : splitFraction (point ++ mark) = (fraction, mark) := by
  cases pointed with
  | absent =>
      cases marked with
      | absent => rfl
      | marked isMark => obtain rfl | rfl := isMark <;> rfl
  | point digits =>
      rw [List.cons_append, splitFraction, takeWhile_digits digits marked.undigited,
        dropWhile_digits digits marked.undigited]

theorem exists_fraction (text : List Char) :
    ∃ point, IsFraction point (splitFraction text).1 ∧ text = point ++ (splitFraction text).2 := by
  rw [splitFraction.eq_def]
  split
  next tail =>
    refine ⟨'.' :: tail.takeWhile Char.isDigit, .point (List.all_eq_true.mp List.all_takeWhile), ?_⟩
    rw [List.cons_append, List.takeWhile_append_dropWhile]
  next => exact ⟨[], .absent, rfl⟩

theorem isDigits_iff (digits : List Char) :
    isDigits digits = true ↔ digits ≠ [] ∧ Json.Digits digits := by
  rw [isDigits, Bool.and_eq_true, List.all_eq_true, Bool.not_eq_true', List.isEmpty_eq_false_iff]
  rfl

theorem readExponent_eq_some_iff : readExponent mark = some exponent ↔ IsExponent mark exponent := by
  constructor
  · intro read
    cases mark with
    | nil =>
        cases read
        exact .absent
    | cons mark rest =>
        rw [readExponent] at read
        split at read
        next marked =>
          dsimp only at read
          split at read
          next digits =>
            rw [Bool.or_eq_true, beq_iff_eq, beq_iff_eq] at marked
            obtain ⟨nonempty, digits⟩ := (isDigits_iff _).mp digits
            obtain ⟨sign, signed, whole⟩ := exists_sign rest
            have isExponent := IsExponent.marked marked signed nonempty digits
            rwa [← whole, Option.some.inj read] at isExponent
          next => cases read
        next => cases read
  · intro marked
    cases marked with
    | absent => rfl
    | marked isMark signed nonempty digits =>
        have plain : ∀ c ∈ List.head? _, c ≠ '+' ∧ c ≠ '-' :=
          fun c first => unsigned_of_digit (digits c (List.mem_of_mem_head? first))
        rw [readExponent, if_pos (by rwa [Bool.or_eq_true, beq_iff_eq, beq_iff_eq])]
        dsimp only
        rw [signed.splitSign_append plain, if_pos ((isDigits_iff _).mpr ⟨nonempty, digits⟩)]

end Reading

namespace Numeral

/-- The reader makes of a decimal numeral what its parts say. -/
theorem ofChars?_parts {sign whole point fraction mark : List Char} {negative : Bool}
    {exponent : Int} (signed : IsSign sign negative) (digits : Json.Digits whole)
    (pointed : IsFraction point fraction) (nonempty : whole ++ fraction ≠ [])
    (marked : IsExponent mark exponent) :
    ofChars? (sign ++ (whole ++ (point ++ mark))) =
      some ⟨negative, ofDigits (whole ++ fraction), exponent - fraction.length⟩ := by
  have plain : ∀ c ∈ (whole ++ (point ++ mark)).head?, c ≠ '+' ∧ c ≠ '-' := by
    intro c first
    cases whole with
    | cons digit rest =>
        cases first
        exact unsigned_of_digit (digits c List.mem_cons_self)
    | nil =>
        cases pointed with
        | absent => exact absurd rfl nonempty
        | point =>
            cases first
            decide
  have undigited := pointed.undigited marked
  rw [ofChars?_eq, signed.splitSign_append plain]
  dsimp only
  rw [takeWhile_digits digits undigited, dropWhile_digits digits undigited,
    pointed.splitFraction_append marked]
  dsimp only
  have written : (whole.isEmpty && fraction.isEmpty) = false := by
    rw [Bool.and_eq_false_iff, List.isEmpty_eq_false_iff, List.isEmpty_eq_false_iff, ne_eq, ne_eq,
      ← not_and_or, ← List.append_eq_nil_iff]
    exact nonempty
  rw [written, if_neg Bool.false_ne_true, readExponent_eq_some_iff.mpr marked, Option.map_some]

/-- The reader takes just the decimal numerals. -/
theorem ofChars?_iff (text : List Char) (negative : Bool) (number : ℚ) :
    (∃ numeral, ofChars? text = some numeral ∧ numeral.negative = negative ∧
      numeral.value = number) ↔ IsDecimal text negative number := by
  constructor
  · rintro ⟨numeral, read, rfl, rfl⟩
    rw [ofChars?_eq] at read
    dsimp only at read
    split at read
    next => cases read
    next written =>
      obtain ⟨exponent, marked, rfl⟩ := Option.map_eq_some_iff.mp read
      obtain ⟨sign, signed, unsigned⟩ := exists_sign text
      obtain ⟨point, pointed, rest⟩ :=
        exists_fraction ((splitSign text).2.dropWhile Char.isDigit)
      have digits : Json.Digits ((splitSign text).2.takeWhile Char.isDigit) :=
        List.all_eq_true.mp List.all_takeWhile
      have nonempty : (splitSign text).2.takeWhile Char.isDigit ++
          (splitFraction ((splitSign text).2.dropWhile Char.isDigit)).1 ≠ [] := by
        rwa [ne_eq, List.append_eq_nil_iff, ← List.isEmpty_iff, ← List.isEmpty_iff,
          ← Bool.and_eq_true]
      have isDecimal := IsDecimal.parts signed digits pointed nonempty
        (readExponent_eq_some_iff.mp marked)
      rw [← rest, List.takeWhile_append_dropWhile, ← unsigned] at isDecimal
      rw [value_of_parts]
      exact isDecimal
  · intro isDecimal
    cases isDecimal with
    | parts signed digits pointed nonempty marked =>
        exact ⟨_, ofChars?_parts signed digits pointed nonempty marked, rfl, value_of_parts _ _ _ _⟩

end Numeral
end DspBridge.Number

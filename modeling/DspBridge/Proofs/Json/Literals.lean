import DspBridge.Proofs.Number.Decimal

/-!
# Numbers as they are written

A JSON number by its parts, and what the reader of numbers makes of it.  Whole numbers of up to 64
bits are kept.  Of any other number the digits that fit the significand are taken, up to the first
one that does not fit, and they are scaled by the power of ten that stands for the rest and for the
exponent.
-/

namespace DspBridge

open Number (Magnitude Numeral digitValue ofDigits ofDigits_append)
open Number.Magnitude (infinity)

namespace Json

open Reader

/-! ## Significands -/

section Significands

variable {digits : List Char} {significand : Nat}

theorem ofDigits_cons (c : Char) (digits : List Char) :
    ofDigits (c :: digits) = digitValue c * 10 ^ digits.length + ofDigits digits := by
  have single : ofDigits [c] = digitValue c := Nat.zero_add _
  rw [← List.singleton_append, ofDigits_append, single]

/-- Another digit moves the digits before it by one place. -/
theorem place_cons (significand : Nat) (c : Char) (digits : List Char) :
    significand * 10 ^ (c :: digits).length + ofDigits (c :: digits) =
      (significand * 10 + digitValue c) * 10 ^ digits.length + ofDigits digits := by
  rw [ofDigits_cons, List.length_cons, Nat.pow_succ]
  ring

theorem place_zero (digits : List Char) :
    0 * 10 ^ digits.length + ofDigits digits = ofDigits digits := by
  rw [Nat.zero_mul, Nat.zero_add]

/-- The digits so far do not make more than all digits do. -/
theorem le_place (significand : Nat) (digits : List Char) :
    significand ≤ significand * 10 ^ digits.length + ofDigits digits :=
  (Nat.le_mul_of_pos_right _ (Nat.pow_pos (by decide))).trans (Nat.le_add_right _ _)

/-- Digits that fit the significand are all taken. -/
theorem takeSignificand_fits (all : Digits digits)
    (fits : significand * 10 ^ digits.length + ofDigits digits < wordLimit) :
    takeSignificand significand digits =
      (significand * 10 ^ digits.length + ofDigits digits, []) := by
  induction digits generalizing significand with
  | nil =>
      have nothing : ofDigits [] = 0 := rfl
      rw [takeSignificand, nothing, List.length_nil, Nat.pow_zero, Nat.mul_one, Nat.add_zero]
  | cons c digits ih =>
      obtain ⟨digit, others⟩ := digits_cons.mp all
      rw [place_cons] at fits ⊢
      have next := (le_place _ _).trans_lt fits
      rw [takeSignificand, digit, decide_eq_true next, Bool.and_true, if_pos rfl, ih others fits]

/-- Digits that do not fit are not all taken. -/
theorem takeSignificand_full (small : significand < wordLimit)
    (full : wordLimit ≤ significand * 10 ^ digits.length + ofDigits digits) :
    (takeSignificand significand digits).2 ≠ [] := by
  induction digits generalizing significand with
  | nil =>
      have nothing : ofDigits [] = 0 := rfl
      rw [nothing, List.length_nil, Nat.pow_zero, Nat.mul_one, Nat.add_zero] at full
      exact absurd small (not_lt.mpr full)
  | cons c digits ih =>
      rw [place_cons] at full
      rw [takeSignificand]
      split
      next taken =>
        rw [Bool.and_eq_true, decide_eq_true_eq] at taken
        exact ih taken.2 full
      next => exact List.cons_ne_nil _ _

end Significands

/-! ## Literals -/

/-- A number by its parts: a sign, the digits before the point and behind it, and an exponent as it
is written with the power of ten that it denotes. -/
structure Literal where
  negative : Bool
  whole : List Char
  fraction : List Char
  mark : List Char
  exponent : Int
  isWhole : IsWhole whole
  isFraction : Digits fraction
  isExponent : Number.IsExponent mark exponent

namespace Literal

variable (literal : Literal)

/-- The sign. -/
def sign : List Char := if literal.negative then ['-'] else []

/-- The point and the digits behind it. -/
def point : List Char := if literal.fraction = [] then [] else '.' :: literal.fraction

/-- The text of a literal. -/
def text : List Char :=
  literal.sign ++ (literal.whole ++ (literal.point ++ literal.mark))

/-- The decimal number that a literal denotes. -/
def numeral : Numeral :=
  ⟨literal.negative, ofDigits (literal.whole ++ literal.fraction),
    literal.exponent - literal.fraction.length⟩

theorem isSign : Number.IsSign literal.sign literal.negative := by
  rw [sign]
  cases literal.negative with
  | false => exact .absent
  | true => exact .minus

theorem point_shape : IsFraction literal.point := by
  rw [point]
  split
  next => exact .absent
  next present => exact .digits present literal.isFraction

theorem point_isFraction : Number.IsFraction literal.point literal.fraction := by
  rw [point]
  split
  next absent => rw [absent]; exact .absent
  next => exact .point literal.isFraction

theorem mark_shape : IsExponent literal.mark := by
  have shape := literal.isExponent
  generalize literal.mark = mark at shape ⊢
  generalize literal.exponent = exponent at shape
  cases shape with
  | absent => exact .absent
  | marked isMark signed nonempty digits =>
      refine .digits isMark ?_ nonempty digits
      cases signed <;> decide

theorem whole_digits : Digits literal.whole ∧ literal.whole ≠ [] := by
  have shape := literal.isWhole
  generalize literal.whole = whole at shape ⊢
  cases shape with
  | zero => exact ⟨digits_cons.mpr ⟨rfl, digits_nil⟩, List.cons_ne_nil _ _⟩
  | digits digit _ all => exact ⟨digits_cons.mpr ⟨digit, all⟩, List.cons_ne_nil _ _⟩

theorem ofChars?_text : Numeral.ofChars? literal.text = some literal.numeral := by
  obtain ⟨digits, nonempty⟩ := literal.whole_digits
  exact Numeral.ofChars?_parts literal.isSign digits literal.point_isFraction
    (List.append_ne_nil_of_left_ne_nil nonempty _) literal.isExponent

theorem exists_negative {sign : List Char} (signed : sign ∈ [[], ['-']]) :
    ∃ negative : Bool, (if negative then ['-'] else []) = sign := by
  simp only [List.mem_cons, List.not_mem_nil, or_false] at signed
  obtain rfl | rfl := signed
  · exact ⟨false, rfl⟩
  · exact ⟨true, rfl⟩

theorem exists_digits_of_point {point : List Char} (shape : IsFraction point) :
    ∃ fraction, Digits fraction ∧ (if fraction = [] then [] else '.' :: fraction) = point := by
  cases shape with
  | absent => exact ⟨[], digits_nil, rfl⟩
  | digits nonempty all => exact ⟨_, all, if_neg nonempty⟩

theorem exists_number_of_mark {mark : List Char} (shape : IsExponent mark) :
    ∃ exponent, Number.IsExponent mark exponent := by
  cases shape with
  | absent => exact ⟨0, .absent⟩
  | digits isMark signed nonempty all =>
      simp only [List.mem_cons, List.not_mem_nil, or_false] at signed
      obtain rfl | rfl | rfl := signed
      · exact ⟨_, .marked isMark .absent nonempty all⟩
      · exact ⟨_, .marked isMark .plus nonempty all⟩
      · exact ⟨_, .marked isMark .minus nonempty all⟩

/-- The texts of literals are the numerals of JSON. -/
theorem isNumeral_iff (text : List Char) :
    IsNumeral text ↔ ∃ literal : Literal, literal.text = text := by
  constructor
  · rintro ⟨signed, isWhole, shape, marked⟩
    obtain ⟨negative, sign⟩ := exists_negative signed
    obtain ⟨fraction, digits, point⟩ := exists_digits_of_point shape
    obtain ⟨exponent, isExponent⟩ := exists_number_of_mark marked
    exact ⟨⟨negative, _, fraction, _, exponent, isWhole, digits, isExponent⟩, by
      rw [text, Literal.sign, Literal.point, sign, point]⟩
  · rintro ⟨literal, rfl⟩
    refine .parts ?_ literal.isWhole literal.point_shape literal.mark_shape
    rw [sign]
    cases literal.negative <;> decide

/-! ## Reading literals -/

/-- The digits that the significand takes. -/
def significand : Nat :=
  (takeSignificand (takeSignificand 0 literal.whole).1 literal.fraction).1

/-- The power of ten that stands for the digits before the point that are not taken and for those
behind it that are. -/
def place : Int :=
  let first := takeSignificand 0 literal.whole
  first.2.length -
    (literal.fraction.length - (takeSignificand first.1 literal.fraction).2.length : Nat)

/-- The magnitude that is made of a significand by scaling it, none if it is too large.  An exponent
beyond the limit decides the outcome by itself. -/
def scaled (significand : Nat) (place exponent : Int) : Option Magnitude :=
  if exponent.natAbs ≤ exponentLimit then
    (Number.scale significand (place + exponent)).filter (· < infinity)
  else if significand = 0 ∨ exponent < 0 then some 0
  else none

/-- The whole number that the digits before the point make with the sign. -/
def signed : Int := if literal.negative then -(ofDigits literal.whole : Int) else ofDigits literal.whole

/-- A literal is kept as a whole number: it has no point and no exponent, needs no more than 64 bits,
and is no zero with a sign. -/
structure Kept : Prop where
  plain : literal.point = [] ∧ literal.mark = []
  signless : ¬ (literal.negative = true ∧ ofDigits literal.whole = 0)
  fits : leastWhole ≤ literal.signed ∧ literal.signed < wholeLimit

theorem scaled_finite {significand : Nat} {place exponent : Int} {magnitude : Magnitude}
    (made : scaled significand place exponent = some magnitude) : magnitude < infinity := by
  rw [scaled] at made
  split at made
  next => exact of_decide_eq_true (Option.filter_eq_some_iff.mp made).2
  next =>
    split at made
    next =>
      cases made
      decide
    next => cases made

end Literal

/-- A number is the double with a sign and a magnitude, if there is a magnitude. -/
inductive Makes (negative : Bool) : Option Magnitude → Number → Prop where
  | real {magnitude : Magnitude} (finite : Number.Double.IsFinite ⟨negative, magnitude⟩) :
      Makes negative (some magnitude) (.real ⟨negative, magnitude⟩ finite)

section Scaling

variable {negative : Bool} {significand : Nat} {number : Number}

theorem makes_none : ¬ Makes negative none number := nofun

theorem makes_filter {magnitude? : Option Magnitude} :
    Makes negative (magnitude?.filter (· < infinity)) number ↔ Makes negative magnitude? number := by
  cases magnitude? with
  | none => exact Iff.rfl
  | some magnitude =>
      by_cases finite : magnitude < infinity
      · rw [Option.filter_some, if_pos (decide_eq_true finite)]
      · rw [Option.filter_some, if_neg (by simpa using finite)]
        constructor
        · exact nofun
        · rintro ⟨finite'⟩
          exact absurd finite' finite

theorem scaledNumber_iff (exponent : Int) :
    scaledNumber negative significand exponent [] = .done number [] ↔
      Makes negative (Number.scale significand exponent) number := by
  unfold scaledNumber
  cases Number.scale significand exponent with
  | none =>
      constructor
      · intro done
        cases done
      · intro makes
        cases makes
  | some magnitude =>
      dsimp only
      split
      next finite =>
        constructor
        · intro done
          cases done
          exact .real finite
        · rintro ⟨_⟩
          rfl
      next infinite =>
        constructor
        · intro done
          cases done
        · rintro ⟨finite⟩
          exact absurd finite infinite

theorem natAbs_signed (minus : Bool) (size : Nat) :
    (if minus then -(size : Int) else size).natAbs = size := by
  cases minus <;> simp

theorem signed_neg_iff (minus : Bool) {size : Nat} (positive : 0 < size) :
    (if minus then -(size : Int) else size) < 0 ↔ minus = true := by
  cases minus <;> simp [positive]

/-- The digits of an exponent are read up to the limit, and beyond it they only decide whether the
number is zero or too large. -/
theorem exponentDigits_iff {digits : List Char} (all : Digits digits) (place : Int)
    (negativeExponent : Bool) {exponent : Nat} (small : exponent ≤ exponentLimit) :
    let final := exponent * 10 ^ digits.length + ofDigits digits
    exponentDigits negative significand place negativeExponent exponent digits =
        .done number [] ↔
      Makes negative
        (Literal.scaled significand place (if negativeExponent then -(final : Int) else final))
        number := by
  induction digits generalizing exponent with
  | nil =>
      have nothing : ofDigits [] = 0 := rfl
      dsimp only
      rw [nothing, List.length_nil, Nat.pow_zero, Nat.mul_one, Nat.add_zero, exponentDigits,
        Literal.scaled]
      rw [natAbs_signed, if_pos small, makes_filter, scaledNumber_iff]
      cases negativeExponent <;> rfl
  | cons c digits ih =>
      obtain ⟨digit, others⟩ := digits_cons.mp all
      dsimp only
      rw [place_cons, exponentDigits, if_pos digit]
      dsimp only
      split
      next large =>
        have larger := large.trans_le (le_place _ digits)
        have passed : digits.dropWhile Char.isDigit = [] := List.dropWhile_eq_nil_iff.mpr others
        rw [passed, Literal.scaled, natAbs_signed, if_neg (not_le.mpr larger)]
        simp only [signed_neg_iff negativeExponent ((Nat.zero_le _).trans_lt larger)]
        by_cases decided : significand = 0 ∨ negativeExponent = true
        · have zero : (significand != 0 && !negativeExponent) = false := by
            rcases decided with rfl | rfl
            · rfl
            · rw [Bool.not_true, Bool.and_false]
          rw [if_pos decided, zero, if_neg Bool.false_ne_true]
          exact scaledNumber_iff 0
        · have overflow : (significand != 0 && !negativeExponent) = true := by
            simpa [not_or] using decided
          rw [if_neg decided, if_pos overflow]
          constructor
          · intro done
            cases done
          · intro makes
            cases makes
      next fits => exact ih others (not_lt.mp fits)

theorem scaled_zero (significand : Nat) (place : Int) :
    Literal.scaled significand place 0 =
      (Number.scale significand place).filter (· < infinity) := by
  rw [Literal.scaled, if_pos (by decide), Int.add_zero]

theorem exponentPart_iff {mark : List Char} {exponent : Int}
    (marked : Number.IsExponent mark exponent) (present : mark ≠ []) (place : Int) :
    exponentPart negative significand place mark = .done number [] ↔
      Makes negative (Literal.scaled significand place exponent) number := by
  cases marked with
  | absent => exact absurd rfl present
  | @marked mark sign digits minus _ signed nonempty all =>
      have plain : ∀ c ∈ digits.head?, c ≠ '+' ∧ c ≠ '-' :=
        fun c first => Number.unsigned_of_digit (all c (List.mem_of_mem_head? first))
      obtain ⟨c, others, rfl⟩ := List.exists_cons_of_ne_nil nonempty
      have read : exponentDigits negative significand place minus 0 (c :: others) =
          .done number [] ↔ _ := exponentDigits_iff all place minus (Nat.zero_le exponentLimit)
      rw [place_zero] at read
      rw [exponentPart_cons, signed.splitSign_append plain,
        exponentFrom_digit _ _ _ (digits_cons.mp all).1]
      exact read

theorem afterDigits_iff {mark : List Char} {exponent : Int}
    (marked : Number.IsExponent mark exponent) (place : Int) :
    afterDigits negative significand place mark = .done number [] ↔
      Makes negative (Literal.scaled significand place exponent) number := by
  rw [afterDigits_apply]
  cases marked with
  | absent =>
      rw [scaled_zero, makes_filter]
      exact scaledNumber_iff place
  | marked isMark signed nonempty all =>
      rcases isMark with rfl | rfl
      · exact exponentPart_iff (.marked (.inl rfl) signed nonempty all) (List.cons_ne_nil _ _) place
      · exact exponentPart_iff (.marked (.inr rfl) signed nonempty all) (List.cons_ne_nil _ _) place

end Scaling

theorem afterWhole_mark {mark : List Char} {exponent : Int}
    (marked : Number.IsExponent mark exponent) (present : mark ≠ []) (negative : Bool)
    (significand : Nat) (more : List Char) :
    afterWhole negative significand more mark =
      exponentPart negative significand more.length mark := by
  cases marked with
  | absent => exact absurd rfl present
  | marked isMark => obtain rfl | rfl := isMark <;> rfl

namespace Literal

variable (literal : Literal) {number : Number}

/-- The magnitude that is made of the digits that are taken. -/
def magnitude? : Option Magnitude := scaled literal.significand literal.place literal.exponent

theorem numberLiteral_text :
    numberLiteral literal.text =
      unsignedNumber literal.negative (literal.whole ++ (literal.point ++ literal.mark)) := by
  rw [text, sign]
  cases literal.negative with
  | true => rfl
  | false =>
      obtain ⟨c, others, split, digit⟩ := literal.isWhole.exists_head
      have notMinus : c ≠ '-' := ne_of_test digit rfl
      simp [numberLiteral, Reader.bind, peek, split, notMinus]

theorem numberLiteral_eq_afterWhole :
    numberLiteral literal.text =
      afterWhole literal.negative (takeSignificand 0 literal.whole).1
        (takeSignificand 0 literal.whole).2 (literal.point ++ literal.mark) := by
  rw [numberLiteral_text]
  exact unsignedNumber_whole _ literal.isWhole
    (literal.point_isFraction.undigited literal.isExponent)

/-- With a point or an exponent a number is scaled. -/
theorem numberLiteral_marked_iff (marked : ¬ (literal.point = [] ∧ literal.mark = [])) :
    numberLiteral literal.text = .done number [] ↔
      Makes literal.negative literal.magnitude? number := by
  rw [numberLiteral_eq_afterWhole, magnitude?, significand, place]
  by_cases absent : literal.fraction = []
  · have none : literal.point = [] := if_pos absent
    have present : literal.mark ≠ [] := fun empty => marked ⟨none, empty⟩
    rw [none, absent, List.nil_append, afterWhole_mark literal.isExponent present,
      exponentPart_iff literal.isExponent present]
    simp only [takeSignificand, List.length_nil, Nat.sub_self, Int.ofNat_zero, Int.sub_zero]
  · have point : literal.point = '.' :: literal.fraction := if_neg absent
    have read := fractionPart_digits literal.negative (takeSignificand 0 literal.whole).1
      (takeSignificand 0 literal.whole).2.length literal.isFraction absent
      literal.isExponent.undigited
    rw [point, List.cons_append]
    exact (iff_of_eq (congrArg (· = _) read)).trans (afterDigits_iff literal.isExponent _)

theorem numberLiteral_plain (plain : literal.point = [] ∧ literal.mark = []) :
    let first := takeSignificand 0 literal.whole
    numberLiteral literal.text =
      if first.2.isEmpty then wholeNumber literal.negative first.1 []
      else scaledNumber literal.negative first.1 first.2.length [] := by
  rw [numberLiteral_eq_afterWhole, plain.1, plain.2]
  rfl

theorem plain_parts (plain : literal.point = [] ∧ literal.mark = []) :
    literal.fraction = [] ∧ literal.exponent = 0 := by
  constructor
  · by_contra present
    rw [point, if_neg present] at plain
    exact absurd plain.1 (List.cons_ne_nil _ _)
  · have shape := literal.isExponent
    rw [plain.2] at shape
    generalize literal.exponent = exponent at shape ⊢
    cases shape
    rfl

theorem magnitude?_plain (plain : literal.point = [] ∧ literal.mark = []) :
    let first := takeSignificand 0 literal.whole
    literal.magnitude? = (Number.scale first.1 first.2.length).filter (· < infinity) := by
  obtain ⟨absent, zero⟩ := literal.plain_parts plain
  rw [magnitude?, zero, scaled_zero, significand, place, absent]
  simp only [takeSignificand, List.length_nil, Nat.sub_self, Int.ofNat_zero, Int.sub_zero]

theorem signless_eq {negative : Bool} {value : Nat} (signless : ¬ (negative = true ∧ value = 0)) :
    (negative && value == 0) = false := by
  cases negative with
  | false => rfl
  | true => simpa using signless

/-- The digits before the point fit the significand unless they make too large a number. -/
theorem takeSignificand_whole (small : ofDigits literal.whole < wordLimit) :
    takeSignificand 0 literal.whole = (ofDigits literal.whole, []) := by
  have value := place_zero literal.whole
  rw [takeSignificand_fits literal.whole_digits.1 (value.trans_lt small), value]

theorem Kept.small {literal : Literal} (kept : literal.Kept) :
    ofDigits literal.whole < wordLimit := by
  obtain ⟨least, below⟩ := kept.fits
  have size : literal.signed.natAbs = ofDigits literal.whole := natAbs_signed _ _
  unfold leastWhole at least
  unfold wholeLimit at below
  unfold wordLimit
  omega

theorem numberLiteral_kept (kept : literal.Kept) :
    numberLiteral literal.text = .done (.integer literal.signed kept.fits) [] := by
  have whole : Number.ofInt? literal.signed = some (.integer literal.signed kept.fits) :=
    dif_pos kept.fits
  rw [numberLiteral_plain _ kept.plain, takeSignificand_whole _ kept.small]
  simp only [List.isEmpty_nil, if_true]
  rw [wholeNumber, signless_eq kept.signless, if_neg Bool.false_ne_true, ← signed, whole]
  rfl

/-- Without them it is scaled unless it is kept as a whole number. -/
theorem numberLiteral_plain_iff (plain : literal.point = [] ∧ literal.mark = [])
    (unkept : ¬ literal.Kept) :
    numberLiteral literal.text = .done number [] ↔
      Makes literal.negative literal.magnitude? number := by
  rw [numberLiteral_plain _ plain, magnitude?_plain _ plain, makes_filter]
  by_cases small : ofDigits literal.whole < wordLimit
  · rw [takeSignificand_whole _ small]
    simp only [List.isEmpty_nil, if_true, List.length_nil, Int.ofNat_zero]
    by_cases zero : literal.negative = true ∧ ofDigits literal.whole = 0
    · rw [zero.1, zero.2]
      change scaledNumber true 0 0 [] = _ ↔ _
      exact scaledNumber_iff 0
    · have unfit : Number.ofInt? literal.signed = none :=
        dif_neg fun fits => unkept ⟨plain, zero, fits⟩
      rw [signed] at unfit
      rw [wholeNumber, signless_eq zero, if_neg Bool.false_ne_true, unfit]
      exact scaledNumber_iff 0
  · have full := takeSignificand_full (by decide)
      ((not_lt.mp small).trans_eq (place_zero literal.whole).symm)
    rw [List.isEmpty_eq_false_iff.mpr full, if_neg Bool.false_ne_true]
    exact scaledNumber_iff _

/-- A number that is not kept is the double of its scaled digits. -/
theorem numberLiteral_unkept_iff (unkept : ¬ literal.Kept) :
    numberLiteral literal.text = .done number [] ↔
      Makes literal.negative literal.magnitude? number := by
  by_cases plain : literal.point = [] ∧ literal.mark = []
  · exact literal.numberLiteral_plain_iff plain unkept
  · exact literal.numberLiteral_marked_iff plain

/-- Digits that fit the significand are all taken, and then only the exponent is left to scale by. -/
theorem magnitude?_fits
    (fits : ofDigits (literal.whole ++ literal.fraction) < wordLimit) :
    literal.magnitude? = scaled literal.numeral.significand (-literal.fraction.length)
      literal.exponent := by
  rw [ofDigits_append] at fits
  have small : ofDigits literal.whole < wordLimit := (le_place _ _).trans_lt fits
  rw [magnitude?, significand, place, takeSignificand_whole _ small,
    takeSignificand_fits literal.isFraction fits, numeral, ofDigits_append]
  simp only [List.length_nil, Nat.sub_zero, Int.ofNat_zero, Int.zero_sub]

end Literal

end Json
end DspBridge

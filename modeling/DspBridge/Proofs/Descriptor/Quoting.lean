import DspBridge.Proofs.Descriptor.Acceptance
import DspBridge.Proofs.Json.Literals
import DspBridge.Proofs.Json.Values
import DspBridge.Proofs.Number.Scaling

/-!
# Numbers in quotes

A number of a document can be written bare or in quotes.  In quotes it is read as the double nearest
to it, or refused if it is too large.  Bare it is scaled, which may round more than once.  The two
are the same for whole numbers of 64 bits, and where a small significand meets a small power of ten;
in general they are the same just when scaling hits the nearest double.
-/

namespace DspBridge

open Number (Double Numeral ofDigits)
open Number.Magnitude (Nearest Rounds limit infinity unitExponent)

namespace Descriptor.Quantity

/-- The double of the quantity that a text of a document stands for, none if it is no quantity. -/
def decode? (text : List Char) : Option Double :=
  (Json.parse (String.ofList text)).toOption.bind fun value => (ofJson? value).bind toDouble?

theorem decode?_of_parse {text : List Char} {value : Json}
    (parsed : Json.parse (String.ofList text) = .ok value) :
    decode? text = (ofJson? value).bind toDouble? := by
  rw [decode?, parsed]
  rfl

/-- A text that reads as a double is a quantity in quotes if the double is finite. -/
theorem quoted_toDouble? {text : String} {double : Double} (trimmed : Text.trim text = text)
    (read : Number.readDouble? text = some double) :
    (ofJson? (.string text)).bind toDouble? = if double.IsFinite then some double else none := by
  rw [ofJson?, trimmed, Number.readFinite?, read, Option.filter_some]
  by_cases finite : double.IsFinite
  · rw [if_pos finite, if_pos (decide_eq_true finite)]
    exact read
  · rw [if_neg finite, if_neg (by simpa using finite)]
    rfl

end Descriptor.Quantity

namespace Json.Literal

open Reader
open Descriptor Quantity

variable (literal : Literal)

/-- A literal in quotes. -/
def quoted : List Char := '"' :: (literal.text ++ ['"'])

/-- What is read for a literal is faithful: the double with its sign that is nearest to its number,
or nothing if the number is too large. -/
inductive Faithful : Option Double → Prop where
  | nearest {double : Double} : literal.numeral.value < limit →
      double.negative = literal.negative → Nearest literal.numeral.value double.magnitude →
      Faithful (some double)
  | refused : limit ≤ literal.numeral.value → Faithful none

/-! ## In quotes -/

theorem text_spelled : Number.Spelled literal.text := Number.ofChars?_spelled literal.ofChars?_text

theorem denotes_spelled {chars : List Char} (spelled : Number.Spelled chars) :
    Json.Denotes chars chars := by
  refine denotes_plain fun c member => ?_
  have numeral := spelled c member
  have printable : 0x20 ≤ c.toNat :=
    (Text.range_of_numeral numeral).1.trans' (by decide)
  exact ⟨ne_of_test numeral (by decide), ne_of_test numeral (by decide), printable⟩

theorem parse_quoted :
    Json.parse (String.ofList literal.quoted) = .ok (.string (String.ofList literal.text)) := by
  have denotes := denotes_spelled literal.text_spelled
  have leads : (Tree.string literal.text).Leads literal.quoted [] :=
    Tree.leads_string_iff.mpr ⟨denotes.isBody, dropWhile_solid rfl _⟩
  rw [parse_eq_ok_iff]
  refine ⟨.string literal.text, [], ?_, blanks_nil, isValue_string_iff.mpr (.string ?_)⟩
  · rw [String.toList_ofList]
    exact leads
  · rw [String.toList_ofList]
    exact denotes

theorem readDouble?_text :
    Number.readDouble? (String.ofList literal.text) = some literal.numeral.toDouble := by
  rw [Number.readDouble?, String.toList_ofList, literal.ofChars?_text, Option.map_some]

theorem decode?_quoted :
    decode? literal.quoted =
      if literal.numeral.toDouble.IsFinite then some literal.numeral.toDouble else none := by
  have spelled : Number.Spelled (String.ofList literal.text).toList := by
    rw [String.toList_ofList]
    exact literal.text_spelled
  rw [decode?_of_parse literal.parse_quoted]
  exact quoted_toDouble? (Text.trim_spelled spelled) literal.readDouble?_text

/-- In quotes a number is read faithfully. -/
theorem faithful_quoted : literal.Faithful (decode? literal.quoted) := by
  rw [decode?_quoted]
  split
  next finite =>
    have fits := literal.numeral.magnitude_lt_infinity_iff.mp finite
    exact .nearest fits rfl (Numeral.magnitude_nearest fits)
  next infinite =>
    have large : ¬ literal.numeral.value < limit :=
      fun fits => infinite (literal.numeral.magnitude_lt_infinity_iff.mpr fits)
    exact .refused (not_lt.mp large)

/-! ## Bare -/

theorem parse_text_iff {value : Json} :
    Json.parse (String.ofList literal.text) = .ok value ↔
      ∃ number, value = .number number ∧ numberLiteral literal.text = .done number [] := by
  have shape : IsNumeral literal.text := (isNumeral_iff _).mpr ⟨literal, rfl⟩
  obtain ⟨c, rest, split, starts⟩ := shape.exists_head
  have read : Reader.value depthLimit literal.text =
      (numberLiteral literal.text).map Json.number := by
    rw [split]
    exact anyValue_number starts (dropWhile_solid (isSpace_of_startsNumber starts) rest)
  rw [Json.parse, run_eq_ok_iff_done, String.toList_ofList, read]
  simp only [Outcome.map_eq_done_iff]
  constructor
  · rintro ⟨left, ⟨number, done, rfl⟩, -⟩
    have none : left = [] :=
      shape.settled.left_eq stops_nil (by rwa [List.append_nil])
    exact ⟨number, rfl, by rwa [none] at done⟩
  · rintro ⟨number, rfl, done⟩
    exact ⟨[], ⟨number, done, rfl⟩, blanks_nil⟩

theorem Kept.value {literal : Literal} (kept : literal.Kept) :
    literal.numeral.value = literal.signed.natAbs := by
  obtain ⟨absent, zero⟩ := literal.plain_parts kept.plain
  have size : literal.signed.natAbs = ofDigits literal.whole := natAbs_signed _ _
  rw [size, numeral, Numeral.value, absent, zero, List.append_nil, List.length_nil]
  simp

theorem Kept.negative_eq {literal : Literal} (kept : literal.Kept) :
    literal.negative = decide (literal.signed < 0) := by
  have signless := kept.signless
  rw [signed]
  cases sign : literal.negative with
  | false => exact (decide_eq_false (not_lt.mpr (Int.natCast_nonneg _))).symm
  | true =>
      have positive : 0 < ofDigits literal.whole :=
        Nat.pos_of_ne_zero fun zero => signless ⟨sign, zero⟩
      exact (decide_eq_true (Int.neg_neg_of_pos (Int.natCast_pos.mpr positive))).symm

/-- A whole number that is kept is read faithfully. -/
theorem Kept.faithful {literal : Literal} (kept : literal.Kept) :
    literal.Faithful (decode? literal.text) := by
  have parsed := literal.parse_text_iff.mpr ⟨_, rfl, literal.numberLiteral_kept kept⟩
  have accepted : ofJson? (.number (.integer literal.signed kept.fits)) = some _ := rfl
  obtain ⟨double, found, -, denotes⟩ := toDouble?_denotes accepted
  rw [decode?_of_parse parsed, accepted, Option.bind_some, found]
  cases denotes with
  | whole _ sign near =>
      have fits := natAbs_lt_limit kept.fits
      rw [← kept.value] at near fits
      exact .nearest fits (sign.trans kept.negative_eq.symm) near

/-- Any other number is read as its scaled digits. -/
theorem decode?_text_unkept (unkept : ¬ literal.Kept) :
    decode? literal.text = literal.magnitude?.map (Double.mk literal.negative) := by
  cases made : literal.magnitude? with
  | none =>
      rw [decode?]
      cases parsed : Json.parse (String.ofList literal.text) with
      | error error => rfl
      | ok value =>
          obtain ⟨number, -, read⟩ := literal.parse_text_iff.mp parsed
          rw [literal.numberLiteral_unkept_iff unkept, made] at read
          exact absurd read makes_none
  | some magnitude =>
      have finite : Double.IsFinite ⟨literal.negative, magnitude⟩ := scaled_finite made
      have read : numberLiteral literal.text = .done (.real _ finite) [] := by
        rw [literal.numberLiteral_unkept_iff unkept, made]
        exact .real finite
      rw [decode?_of_parse (literal.parse_text_iff.mpr ⟨_, rfl, read⟩)]
      exact Number.readDouble?_write _ finite

/-- Scaling few digits by a small power of ten is faithful. -/
theorem faithful_of_small (unkept : ¬ literal.Kept) (small : literal.numeral.significand ≤ 2 ^ 53)
    (moderate : literal.numeral.exponent.natAbs ≤ 22)
    (written : literal.exponent.natAbs ≤ exponentLimit) :
    literal.Faithful (decode? literal.text) := by
  obtain ⟨code, finite, scale, rounds⟩ := Number.scale_rounds small moderate
  have taken : ofDigits (literal.whole ++ literal.fraction) < wordLimit := small.trans_lt (by decide)
  have exponent : -(literal.fraction.length : Int) + literal.exponent = literal.numeral.exponent :=
    neg_add_eq_sub _ _
  have made : literal.magnitude? = some code := by
    rw [literal.magnitude?_fits taken, scaled, if_pos written, exponent, scale, Option.filter_some,
      if_pos (decide_eq_true finite)]
  have same := Numeral.magnitude_eq_of_rounds rounds finite
  have fits : literal.numeral.value < limit := by
    rwa [← Numeral.magnitude_lt_infinity_iff, same]
  rw [literal.decode?_text_unkept unkept, made]
  exact .nearest fits rfl (rounds.nearest finite)

/-! ## Bare and in quotes -/

variable {literal} in
theorem Faithful.unique {read other : Option Double} (faithful : literal.Faithful read)
    (faithful' : literal.Faithful other) : read = other := by
  cases faithful with
  | @nearest double fits sign near =>
      cases faithful' with
      | @nearest double' _ sign' near' =>
          have magnitude := near.unique near'
          have negative := sign.trans sign'.symm
          cases double
          cases double'
          cases magnitude
          cases negative
          rfl
      | refused large => exact absurd fits (not_lt.mpr large)
  | refused large =>
      cases faithful' with
      | nearest fits => exact absurd fits (not_lt.mpr large)
      | refused => rfl

/-- A number in quotes is read faithfully.  A bare one is the same if it is kept as a whole number,
or if no more than 53 bits are scaled by a power of ten between -22 and 22.  Otherwise it is made of
its scaled digits, and is the same just when that is faithful. -/
theorem quoting_agrees :
    literal.Faithful (decode? literal.quoted) ∧
    (decode? literal.text = decode? literal.quoted ↔ literal.Faithful (decode? literal.text)) ∧
    (literal.Kept → decode? literal.text = decode? literal.quoted) ∧
    (¬ literal.Kept →
      decode? literal.text = literal.magnitude?.map (Double.mk literal.negative)) ∧
    (literal.numeral.significand ≤ 2 ^ 53 → literal.numeral.exponent.natAbs ≤ 22 →
      literal.exponent.natAbs ≤ exponentLimit →
      decode? literal.text = decode? literal.quoted) := by
  have faithful := literal.faithful_quoted
  refine ⟨faithful, ⟨fun same => same ▸ faithful, fun bare => bare.unique faithful⟩,
    fun kept => kept.faithful.unique faithful, literal.decode?_text_unkept, ?_⟩
  intro small moderate written
  by_cases kept : literal.Kept
  · exact kept.faithful.unique faithful
  · exact (literal.faithful_of_small kept small moderate written).unique faithful

/-- One half, with a point. -/
def half : Literal where
  negative := false
  whole := ['0']
  fraction := ['5']
  mark := []
  exponent := 0
  isWhole := .zero
  isFraction := by simp [Digits]
  isExponent := .absent

theorem quoting_agrees_half :
    half.numeral.significand ≤ 2 ^ 53 ∧ half.numeral.exponent.natAbs ≤ 22 ∧
      half.exponent.natAbs ≤ exponentLimit ∧ decode? half.text = decode? half.quoted := by
  have small : half.numeral.significand ≤ 2 ^ 53 := by decide
  have moderate : half.numeral.exponent.natAbs ≤ 22 := by decide
  have written : half.exponent.natAbs ≤ exponentLimit := by decide
  exact ⟨small, moderate, written, half.quoting_agrees.2.2.2.2 small moderate written⟩

/-- A number that is scaled by a power of ten which is no double. -/
def tiny : Literal where
  negative := false
  whole := ['1']
  fraction := ['5']
  mark := 'e' :: (['-'] ++ ['3', '0', '0'])
  exponent := -300
  isWhole := .digits rfl (by decide) digits_nil
  isFraction := by simp [Digits]
  isExponent := .marked (.inl rfl) .minus (List.cons_ne_nil _ _) (by simp [Digits])

/-- Bare it is one unit below the double that is nearest to it. -/
theorem not_quoting_agrees :
    tiny.text = "1.5e-300".toList ∧
      (decode? tiny.text).map Double.bits = some 0x01b01297d23ab682 ∧
      (decode? tiny.quoted).map Double.bits = some 0x01b01297d23ab683 := by
  refine ⟨rfl, ?_, ?_⟩
  · decide +kernel
  · decide +kernel

end Json.Literal
end DspBridge

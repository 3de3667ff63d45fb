import DspBridge.Json.Value
import DspBridge.Number.Numeral

/-!
# The characters of numerals

Numbers are written with digits, signs, a point and the mark of an exponent, whoever writes them: the
printers of whole numbers and of doubles, or people, as far as what they write can be read.
-/

namespace DspBridge.Number

/-- The characters that numerals are written with. -/
def isNumeralChar (c : Char) : Bool :=
  c.isDigit || c == '+' || c == '-' || c == '.' || c == 'e' || c == 'E'

/-- A text is written with the characters of numerals. -/
def Spelled (chars : List Char) : Prop := ∀ c ∈ chars, isNumeralChar c = true

section Spelled

variable {chars others : List Char} {c : Char}

@[simp] theorem spelled_nil : Spelled [] := nofun

@[simp] theorem spelled_cons : Spelled (c :: chars) ↔ isNumeralChar c = true ∧ Spelled chars := by
  simp [Spelled]

@[simp] theorem spelled_append : Spelled (chars ++ others) ↔ Spelled chars ∧ Spelled others := by
  simp only [Spelled, List.mem_append, or_imp, forall_and]

theorem spelled_of_digits (digits : ∀ c ∈ chars, c.isDigit = true) : Spelled chars := by
  intro c member
  simp [isNumeralChar, digits c member]

theorem Spelled.subset (spelled : Spelled others) (subset : chars ⊆ others) : Spelled chars := by
  intro c member
  exact spelled c (subset member)

theorem isNumeralChar_point : isNumeralChar '.' = true := by decide

theorem isNumeralChar_minus : isNumeralChar '-' = true := by decide

theorem isNumeralChar_zero : isNumeralChar '0' = true := by decide

end Spelled

/-! ## Printed numbers -/

theorem naturalDigits_spelled (value : Nat) : Spelled (naturalDigits value) := by
  apply spelled_of_digits
  intro c member
  exact Nat.isDigit_of_mem_toDigits (by decide) (by decide) member

theorem zeros_spelled (count : Nat) : Spelled (List.replicate count '0') := by
  intro c member
  rw [List.eq_of_mem_replicate member]
  decide

theorem dropTrailingZeros_subset (digits : List Char) : dropTrailingZeros digits ⊆ digits := by
  intro c member
  rw [dropTrailingZeros, List.mem_reverse] at member
  exact List.mem_reverse.mp ((List.dropWhile_sublist _).subset member)

theorem shortestDigits_spelled (code : Magnitude) : Spelled (shortestDigits code).digits := by
  rw [shortestDigits]
  split
  next digits width found =>
    obtain ⟨_, _, nearest⟩ := List.exists_of_findSome?_eq_some found
    obtain ⟨steps, _, same⟩ := Option.map_eq_some_iff.mp nearest
    cases same
    split
    · simp [isNumeralChar_zero]
    · exact (naturalDigits_spelled steps).subset (dropTrailingZeros_subset _)
  next => simp [isNumeralChar_zero]

theorem writeExponent_spelled (exponent : Int) : Spelled (Layout.writeExponent exponent) := by
  rw [Layout.writeExponent, spelled_append]
  refine ⟨?_, naturalDigits_spelled _⟩
  split
  · exact spelled_cons.mpr ⟨by decide, spelled_cons.mpr ⟨isNumeralChar_minus, spelled_nil⟩⟩
  · exact spelled_cons.mpr ⟨by decide, spelled_cons.mpr ⟨by decide, spelled_nil⟩⟩

theorem writeDigits_spelled (layout : Layout) {value : Digits} (spelled : Spelled value.digits) :
    Spelled (layout.writeDigits value) := by
  rw [Layout.writeDigits]
  split
  · rw [Layout.writePositional]
    split
    · simp [isNumeralChar_zero, isNumeralChar_point, zeros_spelled, spelled]
    split
    · simp [isNumeralChar_point, spelled.subset (List.take_subset _ _),
        spelled.subset (List.drop_subset _ _)]
    · simp [isNumeralChar_zero, isNumeralChar_point, zeros_spelled, spelled]
  · rw [Layout.writeScientific]
    split
    next => exact spelled_nil
    next digit single =>
      rw [single, spelled_cons] at spelled
      simp [spelled.1, writeExponent_spelled]
    next digit rest _ whole =>
      rw [whole, spelled_cons] at spelled
      simp [spelled, isNumeralChar_point, writeExponent_spelled]

theorem write_spelled (layout : Layout) (value : Double) :
    Spelled (layout.write value).toList := by
  rw [Layout.write, String.toList_ofList, spelled_append]
  refine ⟨?_, writeDigits_spelled layout (shortestDigits_spelled _)⟩
  split
  · exact spelled_cons.mpr ⟨isNumeralChar_minus, spelled_nil⟩
  · exact spelled_nil

theorem toString_spelled (value : Int) : Spelled (toString value).toList := by
  cases value with
  | ofNat value =>
      change Spelled value.repr.toList
      rw [Nat.toList_repr]
      exact naturalDigits_spelled value
  | negSucc value =>
      change Spelled ("-" ++ (value + 1).repr).toList
      rw [String.toList_append, Nat.toList_repr, spelled_append]
      exact ⟨by simp [isNumeralChar_minus], naturalDigits_spelled _⟩

theorem text_spelled (number : Json.Number) : Spelled number.text.toList := by
  cases number with
  | integer value fits => exact toString_spelled value
  | real value finite => exact write_spelled _ value

/-! ## Numbers that have been read -/

theorem splitSign_spelled {text : List Char} (spelled : Spelled (splitSign text).2) :
    Spelled text := by
  rw [splitSign.eq_def] at spelled
  split at spelled
  next rest =>
    rw [spelled_cons]
    exact ⟨by decide, spelled⟩
  next rest =>
    rw [spelled_cons]
    exact ⟨by decide, spelled⟩
  next => exact spelled

theorem isDigits_spelled {text : List Char} (digits : isDigits text = true) : Spelled text := by
  rw [isDigits, Bool.and_eq_true, List.all_eq_true] at digits
  exact spelled_of_digits digits.2

theorem takeWhile_spelled (text : List Char) : Spelled (text.takeWhile Char.isDigit) :=
  spelled_of_digits (List.all_eq_true.mp List.all_takeWhile)

theorem readExponent_spelled {text : List Char} {exponent : Int}
    (read : readExponent text = some exponent) : Spelled text := by
  cases text with
  | nil => exact spelled_nil
  | cons mark rest =>
      rw [readExponent] at read
      split at read
      next marked =>
        dsimp only at read
        split at read
        next digits =>
          rw [spelled_cons]
          refine ⟨?_, splitSign_spelled (isDigits_spelled digits)⟩
          rw [isNumeralChar, Bool.or_assoc, marked, Bool.or_true]
        next => cases read
      next => cases read

/-- The digits behind a point, if there is one, and what follows them. -/
def splitFraction : List Char → List Char × List Char
  | '.' :: tail => (tail.takeWhile Char.isDigit, tail.dropWhile Char.isDigit)
  | tail => ([], tail)

theorem splitFraction_spelled {text : List Char} (spelled : Spelled (splitFraction text).2) :
    Spelled text := by
  rw [splitFraction.eq_def] at spelled
  split at spelled
  next tail =>
    rw [spelled_cons, ← List.takeWhile_append_dropWhile (p := Char.isDigit) (l := tail),
      spelled_append]
    exact ⟨isNumeralChar_point, takeWhile_spelled tail, spelled⟩
  next => exact spelled

theorem ofChars?_eq (text : List Char) :
    Numeral.ofChars? text =
      let unsigned := (splitSign text).2
      let whole := unsigned.takeWhile Char.isDigit
      let fraction := splitFraction (unsigned.dropWhile Char.isDigit)
      if whole.isEmpty && fraction.1.isEmpty then none
      else (readExponent fraction.2).map fun exponent =>
        ⟨(splitSign text).1, ofDigits (whole ++ fraction.1), exponent - fraction.1.length⟩ := by
  simp only [Option.map_eq_bind]
  rfl

/-- What can be read is spelled like a numeral. -/
theorem ofChars?_spelled {text : List Char} {numeral : Numeral}
    (read : Numeral.ofChars? text = some numeral) : Spelled text := by
  rw [ofChars?_eq] at read
  dsimp only at read
  split at read
  next => cases read
  next =>
    obtain ⟨exponent, marked, _⟩ := Option.map_eq_some_iff.mp read
    have fraction := splitFraction_spelled (readExponent_spelled marked)
    apply splitSign_spelled
    rw [← List.takeWhile_append_dropWhile (p := Char.isDigit) (l := (splitSign text).2),
      spelled_append]
    exact ⟨takeWhile_spelled _, fraction⟩

end DspBridge.Number

import DspBridge.Proofs.Json.Grammar
import DspBridge.Proofs.Json.Readers

/-!
# Reading numbers

The reader of numbers takes numerals, and what it makes of a numeral does not depend on the text
behind it, as long as no number could go on there.  A numeral that is too large has no value.
-/

namespace DspBridge.Json

open Reader

/-! ## Runs of digits -/

/-- No digits at the front. -/
def Undigited (rest : List Char) : Prop := ∀ c ∈ rest.head?, c.isDigit = false

section Digits

variable {digits rest : List Char}

theorem undigited_nil : Undigited [] := fun _ member => nomatch member

theorem undigited_cons {c : Char} : Undigited (c :: rest) ↔ c.isDigit = false := by
  simp [Undigited]

theorem Undigited.any (undigited : Undigited rest) : rest.head?.any Char.isDigit = false := by
  cases rest with
  | nil => rfl
  | cons c rest => exact undigited_cons.mp undigited

theorem Stops.undigited (stops : Stops rest) : Undigited rest := by
  intro c first
  have ended := stops c first
  simp only [continuesNumber, Bool.or_eq_false_iff] at ended
  exact ended.1.1.1

theorem Stops.no_point (stops : Stops rest) : (rest.head? == some '.') = false := by
  cases rest with
  | nil => rfl
  | cons c rest =>
      have ended := stops_cons.mp stops
      simp only [continuesNumber, Bool.or_eq_false_iff] at ended
      exact ended.1.1.2

theorem Stops.no_exponent (stops : Stops rest) :
    (rest.head? == some 'e' || rest.head? == some 'E') = false := by
  cases rest with
  | nil => rfl
  | cons c rest =>
      have ended := stops_cons.mp stops
      simp only [continuesNumber, Bool.or_eq_false_iff] at ended
      exact Bool.or_eq_false_iff.mpr ⟨ended.1.2, ended.2⟩

theorem digits_nil : Digits [] := fun _ member => nomatch member

theorem digits_cons {c : Char} : Digits (c :: digits) ↔ c.isDigit = true ∧ Digits digits :=
  List.forall_mem_cons

theorem Undigited.not_digit {c : Char} (undigited : Undigited (c :: rest)) : ¬ c.isDigit = true := by
  rw [undigited_cons.mp undigited]
  exact Bool.false_ne_true

theorem dropWhile_digits (all : Digits digits) (undigited : Undigited rest) :
    (digits ++ rest).dropWhile Char.isDigit = rest := by
  rw [List.dropWhile_append_of_pos all]
  cases rest with
  | nil => rfl
  | cons c rest =>
      exact List.dropWhile_cons_of_neg undigited.not_digit

theorem takeWhile_digits (all : Digits digits) (undigited : Undigited rest) :
    (digits ++ rest).takeWhile Char.isDigit = digits := by
  rw [List.takeWhile_append_of_pos all]
  cases rest with
  | nil => rw [List.takeWhile_nil, List.append_nil]
  | cons c rest =>
      rw [List.takeWhile_cons_of_neg undigited.not_digit, List.append_nil]

/-- A text is some digits and then what is left of it without them. -/
theorem exists_digits (text : List Char) :
    ∃ digits rest, Digits digits ∧ Undigited rest ∧ text = digits ++ rest := by
  refine ⟨text.takeWhile Char.isDigit, text.dropWhile Char.isDigit,
    List.all_eq_true.mp List.all_takeWhile, ?_, List.takeWhile_append_dropWhile.symm⟩
  intro c first
  have ended := List.head?_dropWhile_not Char.isDigit text
  rw [Option.mem_def.mp first] at ended
  exact ended

/-- The significand takes some of the digits and leaves the others. -/
theorem takeSignificand_digits (all : Digits digits) (significand : Nat) :
    Digits (takeSignificand significand digits).2 ∧ ∀ rest, Undigited rest →
      takeSignificand significand (digits ++ rest) =
        ((takeSignificand significand digits).1, (takeSignificand significand digits).2 ++ rest) := by
  induction digits generalizing significand with
  | nil =>
      refine ⟨all, ?_⟩
      intro rest undigited
      cases rest with
      | nil => rfl
      | cons c rest => simp [takeSignificand, undigited_cons.mp undigited]
  | cons c digits ih =>
      obtain ⟨digit, others⟩ := digits_cons.mp all
      simp only [List.cons_append, takeSignificand, digit, Bool.true_and, decide_eq_true_eq]
      split
      next fits => exact ih others (significand * 10 + Number.digitValue c)
      next full => exact ⟨all, fun _ _ => rfl⟩

theorem IsExponent.undigited {exponent : List Char} (shape : IsExponent exponent)
    (undigited : Undigited rest) : Undigited (exponent ++ rest) := by
  cases shape with
  | absent => exact undigited
  | digits marked _ _ _ => obtain rfl | rfl := marked <;> exact undigited_cons.mpr rfl

theorem IsFraction.undigited {fraction : List Char} (shape : IsFraction fraction)
    (undigited : Undigited rest) : Undigited (fraction ++ rest) := by
  cases shape with
  | absent => exact undigited
  | digits _ _ => exact undigited_cons.mpr rfl

/-- A text begins with a whole number, or with no digit, or with a zero and another digit. -/
theorem exists_whole (text : List Char) :
    (∃ whole rest, IsWhole whole ∧ Undigited rest ∧ text = whole ++ rest) ∨ Undigited text ∨
      ∃ c rest, c.isDigit = true ∧ text = '0' :: c :: rest := by
  cases text with
  | nil => exact .inr (.inl undigited_nil)
  | cons c text =>
      obtain ⟨digits, rest, all, undigited, rfl⟩ := exists_digits text
      cases digit : c.isDigit with
      | false => exact .inr (.inl (undigited_cons.mpr digit))
      | true =>
          by_cases zero : c = '0'
          · subst zero
            cases digits with
            | nil => exact .inl ⟨['0'], rest, .zero, undigited, rfl⟩
            | cons c digits => exact .inr (.inr ⟨c, _, (digits_cons.mp all).1, rfl⟩)
          · exact .inl ⟨c :: digits, rest, .digits digit zero all, undigited, rfl⟩

end Digits

/-! ## Values of numerals -/

section Values

variable {α : Type} {Ends Weaker : List Char → Prop} {reader : Reader α} {literal : List Char}

/-- What a reader makes of a literal is the same in front of every text in which the literal ends:
it takes the literal and gives a value, or it gives none. -/
def Settled (Ends : List Char → Prop) (reader : Reader α) (literal : List Char) : Prop :=
  ∃ value? : Option α, ∀ rest, Ends rest → ∀ value left,
    reader (literal ++ rest) = .done value left ↔ value? = some value ∧ left = rest

/-- A reader that does, in front of such a text, what a settled one does. -/
theorem Settled.congr {other : Reader α} {rewritten : List Char}
    (settled : Settled Ends other rewritten) (weaker : ∀ rest, Weaker rest → Ends rest)
    (same : ∀ rest, Weaker rest → reader (literal ++ rest) = other (rewritten ++ rest)) :
    Settled Weaker reader literal := by
  obtain ⟨value?, settled⟩ := settled
  refine ⟨value?, fun rest ends value left => ?_⟩
  rw [same rest ends]
  exact settled rest (weaker rest ends) value left

theorem Settled.left_eq {value : α} {rest left : List Char} (settled : Settled Ends reader literal)
    (ends : Ends rest) (read : reader (literal ++ rest) = .done value left) : left = rest := by
  obtain ⟨value?, settled⟩ := settled
  exact ((settled rest ends value left).mp read).2

theorem settled_pure (value : α) : Settled (fun _ => True) (pure value : Reader α) [] := by
  refine ⟨some value, fun rest _ other left => ?_⟩
  change Outcome.done value rest = .done other left ↔ _
  rw [Outcome.done.injEq, Option.some.injEq, eq_comm (a := rest)]

theorem settled_failing
    (fails : ∀ rest, Ends rest → ∃ failure, reader (literal ++ rest) = .failed failure) :
    Settled Ends reader literal := by
  refine ⟨none, fun rest ends value left => ?_⟩
  obtain ⟨failure, failed⟩ := fails rest ends
  rw [failed]
  constructor
  · intro done
    cases done
  · rintro ⟨valued, -⟩
    cases valued

theorem settled_scaledNumber (negative : Bool) (significand : Nat) (exponent : Int) :
    Settled (fun _ => True) (scaledNumber negative significand exponent) [] := by
  unfold scaledNumber
  cases Number.scale significand exponent with
  | none => exact settled_failing fun rest _ => ⟨_, rfl⟩
  | some magnitude =>
      dsimp only
      split
      next finite => exact settled_pure _
      next infinite => exact settled_failing fun rest _ => ⟨_, rfl⟩

theorem settled_wholeNumber (negative : Bool) (significand : Nat) :
    Settled (fun _ => True) (wholeNumber negative significand) [] := by
  unfold wholeNumber
  split
  next => exact settled_scaledNumber _ _ _
  next =>
    split
    next => exact settled_pure _
    next => exact settled_scaledNumber _ _ _

variable {digits : List Char} (negative : Bool) (significand : Nat) (point : Int)

theorem settled_exponentDigits (negativeExponent : Bool) (all : Digits digits) (exponent : Nat) :
    Settled Undigited (exponentDigits negative significand point negativeExponent exponent)
      digits := by
  induction digits generalizing exponent with
  | nil =>
      refine (settled_scaledNumber negative significand
        (if negativeExponent then point - exponent else point + exponent)).congr
        (fun _ _ => trivial) ?_
      intro rest undigited
      cases rest with
      | nil => rfl
      | cons c rest => simp [exponentDigits, undigited_cons.mp undigited]
  | cons c digits ih =>
      obtain ⟨digit, others⟩ := digits_cons.mp all
      by_cases huge : exponentLimit < exponent * 10 + Number.digitValue c
      · by_cases overflow : (significand != 0 && !negativeExponent) = true
        · refine settled_failing fun rest _ => ⟨⟨.numberTooLarge, digits ++ rest, 0⟩, ?_⟩
          simp only [List.cons_append, exponentDigits, digit, huge, overflow, if_true]
        · refine (settled_scaledNumber negative 0 0).congr (fun _ _ => trivial) ?_
          intro rest undigited
          simp only [List.cons_append, exponentDigits, digit, huge, overflow, if_true,
            Bool.false_eq_true, if_false, dropWhile_digits others undigited, List.nil_append]
      · refine (ih others (exponent * 10 + Number.digitValue c)).congr (fun _ ends => ends) ?_
        intro rest _
        simp only [List.cons_append, exponentDigits, digit, huge, if_true, if_false]

/-- Read an exponent behind its sign. -/
def exponentFrom (negativeExponent : Bool) : Reader Number := do
  match ← peek with
  | none => failHere .endInValue
  | some c =>
      if c.isDigit then exponentDigits negative significand point negativeExponent 0
      else failNext .badNumber

/-- Without digits there is no exponent. -/
theorem exponentFrom_undigited {text : List Char} (undigited : Undigited text)
    (negativeExponent : Bool) :
    ∃ failure, exponentFrom negative significand point negativeExponent text = .failed failure := by
  cases text with
  | nil => exact ⟨_, rfl⟩
  | cons c text =>
      have single := undigited_cons.mp undigited
      simp [exponentFrom, Reader.bind, peek, single, failNext]

theorem splitSign_unsigned {c : Char} (notMinus : c ≠ '-') (notPlus : c ≠ '+')
    (text : List Char) : Number.splitSign (c :: text) = (false, c :: text) := by
  simp [Number.splitSign, notMinus, notPlus]

theorem exponentPart_cons (mark : Char) (text : List Char) :
    exponentPart negative significand point (mark :: text) =
      exponentFrom negative significand point (Number.splitSign text).1
        (Number.splitSign text).2 := by
  cases text with
  | nil => rfl
  | cons c text =>
      by_cases minus : c = '-'
      · subst minus
        rfl
      · by_cases plus : c = '+'
        · subst plus
          rfl
        · have notMinus : (c == '-') = false := beq_eq_false_iff_ne.mpr minus
          rw [splitSign_unsigned minus plus]
          simp [exponentPart, exponentFrom, Reader.bind, peek, advance, notMinus, minus, plus]

theorem exponentFrom_digit {c : Char} (digit : c.isDigit = true) (negativeExponent : Bool)
    (text : List Char) :
    exponentFrom negative significand point negativeExponent (c :: text) =
      exponentDigits negative significand point negativeExponent 0 (c :: text) := by
  simp [exponentFrom, Reader.bind, peek, digit]

theorem splitSign_signed {sign : List Char} {c : Char} (signed : sign ∈ [[], ['+'], ['-']])
    (digit : c.isDigit = true) :
    ∃ minus, ∀ text, Number.splitSign (sign ++ c :: text) = (minus, c :: text) := by
  simp only [List.mem_cons, List.not_mem_nil, or_false] at signed
  obtain rfl | rfl | rfl := signed
  · refine ⟨false, fun text => ?_⟩
    exact splitSign_unsigned (ne_of_test digit rfl) (ne_of_test digit rfl) text
  · exact ⟨false, fun text => rfl⟩
  · exact ⟨true, fun text => rfl⟩

theorem settled_exponentPart {exponent : List Char} (shape : IsExponent exponent)
    (present : exponent ≠ []) :
    Settled Undigited (exponentPart negative significand point) exponent := by
  cases shape with
  | absent => exact absurd rfl present
  | digits _ signed nonempty all =>
      obtain ⟨c, others, rfl⟩ := List.exists_cons_of_ne_nil nonempty
      have digit := (digits_cons.mp all).1
      obtain ⟨minus, split⟩ := splitSign_signed signed digit
      refine (settled_exponentDigits negative significand point minus all 0).congr
        (fun _ ends => ends) ?_
      intro rest _
      rw [List.cons_append, exponentPart_cons, List.append_assoc, List.cons_append, split,
        exponentFrom_digit negative significand point digit]

theorem afterDigits_apply (text : List Char) :
    afterDigits negative significand point text =
      if text.head? == some 'e' || text.head? == some 'E' then
        exponentPart negative significand point text
      else scaledNumber negative significand point text := by
  change (if text.head? == some 'e' || text.head? == some 'E' then
    exponentPart negative significand point else scaledNumber negative significand point) text = _
  split <;> rfl

theorem settled_afterDigits {exponent : List Char} (shape : IsExponent exponent) :
    Settled Stops (afterDigits negative significand point) exponent := by
  by_cases present : exponent = []
  · subst present
    refine (settled_scaledNumber negative significand point).congr (fun _ _ => trivial) ?_
    intro rest stops
    rw [List.nil_append, afterDigits_apply, stops.no_exponent, if_neg Bool.false_ne_true]
  · refine (settled_exponentPart negative significand point shape present).congr
      (fun _ stops => stops.undigited) ?_
    intro rest _
    rw [afterDigits_apply]
    cases shape with
    | absent => exact absurd rfl present
    | digits marked _ _ _ =>
        obtain rfl | rfl := marked <;> rfl

/-- The digits of a fraction are followed by an exponent or nothing. -/
theorem fractionPart_digits (all : Digits digits) (nonempty : digits ≠ []) {rest : List Char}
    (undigited : Undigited rest) :
    fractionPart negative significand point ('.' :: (digits ++ rest)) =
      afterDigits negative (takeSignificand significand digits).1
        (point - (digits.length - (takeSignificand significand digits).2.length : Nat)) rest := by
  obtain ⟨left, taken⟩ := takeSignificand_digits all significand
  have split := taken rest undigited
  generalize (takeSignificand significand digits).1 = next at split ⊢
  generalize (takeSignificand significand digits).2 = more at left split ⊢
  have passed : (digits ++ rest).length - (more ++ rest).length = digits.length - more.length := by
    simp only [List.length_append]
    omega
  rw [fractionPart]
  dsimp only [List.tail_cons]
  rw [split]
  dsimp only
  rw [passed]
  cases more with
  | cons c more =>
      have digit := (digits_cons.mp left).1
      dsimp only [List.cons_append]
      rw [if_pos digit, ← List.cons_append, dropWhile_digits left undigited]
  | nil =>
      have some : (digits.length - ([] : List Char).length == 0) = false := by
        rw [beq_eq_false_iff_ne]
        simpa using nonempty
      cases rest with
      | nil => simp only [List.append_nil, some, Bool.false_eq_true, if_false]
      | cons c rest =>
          simp only [List.nil_append, undigited_cons.mp undigited, some, Bool.false_eq_true,
            if_false]

/-- Without digits there is no fraction. -/
theorem fractionPart_undigited {text : List Char} (undigited : Undigited text) :
    ∃ failure, fractionPart negative significand point ('.' :: text) = .failed failure := by
  rw [fractionPart]
  cases text with
  | nil => exact ⟨_, rfl⟩
  | cons c text =>
      have single := undigited_cons.mp undigited
      simp [takeSignificand, single, failNext]

/-- Read what follows the digits before the point, `more` of which the significand has left. -/
def afterWhole (more : List Char) : Reader Number := fun text =>
  if text.head? == some '.' then fractionPart negative significand more.length text
  else if text.head? == some 'e' || text.head? == some 'E' then
    exponentPart negative significand more.length text
  else if more.isEmpty then wholeNumber negative significand text
  else scaledNumber negative significand more.length text

theorem unsignedNumber_whole {whole : List Char} (shape : IsWhole whole) {rest : List Char}
    (undigited : Undigited rest) :
    unsignedNumber negative (whole ++ rest) =
      afterWhole negative (takeSignificand 0 whole).1 (takeSignificand 0 whole).2 rest := by
  cases shape with
  | zero =>
      have taken : rest.takeWhile Char.isDigit = [] := takeWhile_digits digits_nil undigited
      have left : rest.dropWhile Char.isDigit = rest := dropWhile_digits digits_nil undigited
      have none : takeSignificand 0 ['0'] = (0, []) := rfl
      simp [unsignedNumber, afterWhole, undigited.any, taken, left, none]
  | @digits first others digit nonzero all =>
      have allDigits : Digits (first :: others) := digits_cons.mpr ⟨digit, all⟩
      obtain ⟨left, taken⟩ := takeSignificand_digits allDigits 0
      have split := taken rest undigited
      generalize (takeSignificand 0 (first :: others)).1 = next at split ⊢
      generalize (takeSignificand 0 (first :: others)).2 = more at left split ⊢
      have passed := takeWhile_digits left undigited
      have remains := dropWhile_digits left undigited
      rw [List.cons_append] at split ⊢
      simp [unsignedNumber, afterWhole, digit, nonzero, split, passed, remains]

theorem settled_afterWhole (more : List Char) {fraction exponent : List Char}
    (fractional : IsFraction fraction) (exponential : IsExponent exponent) :
    Settled Stops (afterWhole negative significand more) (fraction ++ exponent) := by
  cases fractional with
  | @digits digits nonempty all =>
      refine (settled_afterDigits negative (takeSignificand significand digits).1
        (more.length - (digits.length - (takeSignificand significand digits).2.length : Nat))
        exponential).congr (fun _ stops => stops) ?_
      intro rest stops
      have read := fractionPart_digits negative significand more.length all nonempty
        (exponential.undigited stops.undigited)
      rw [← read, List.cons_append, List.cons_append, List.append_assoc]
      rfl
  | absent =>
      rw [List.nil_append]
      by_cases present : exponent = []
      · subst present
        have settled : Settled (fun _ => True)
            (if more.isEmpty then wholeNumber negative significand
              else scaledNumber negative significand more.length) [] := by
          split
          next => exact settled_wholeNumber _ _
          next => exact settled_scaledNumber _ _ _
        refine settled.congr (fun _ _ => trivial) fun rest stops => ?_
        rw [List.nil_append, afterWhole, stops.no_point, stops.no_exponent,
          if_neg Bool.false_ne_true, if_neg Bool.false_ne_true]
        cases more.isEmpty <;> rfl
      · refine (settled_exponentPart negative significand more.length exponential present).congr
          (fun _ stops => stops.undigited) ?_
        intro rest _
        cases exponential with
        | absent => exact absurd rfl present
        | digits marked _ _ _ =>
            obtain rfl | rfl := marked <;> rfl

/-- The value of a numeral does not depend on what follows it. -/
theorem IsNumeral.settled (shape : IsNumeral literal) : Settled Stops numberLiteral literal := by
  cases shape with
  | @parts sign whole fraction exponent signed wholly fractional exponential =>
      have unsigned (negative : Bool) :
          Settled Stops (unsignedNumber negative) (whole ++ (fraction ++ exponent)) := by
        refine (settled_afterWhole negative (takeSignificand 0 whole).1 (takeSignificand 0 whole).2
          fractional exponential).congr (fun _ stops => stops) ?_
        intro rest stops
        rw [List.append_assoc, List.append_assoc]
        exact unsignedNumber_whole negative wholly
          (fractional.undigited (exponential.undigited stops.undigited))
      simp only [List.mem_cons, List.not_mem_nil, or_false] at signed
      obtain rfl | rfl := signed
      · refine (unsigned false).congr (fun _ stops => stops) fun rest _ => ?_
        obtain ⟨c, others, rfl, digit⟩ := wholly.exists_head
        have notMinus : c ≠ '-' := ne_of_test digit rfl
        simp [numberLiteral, Reader.bind, peek, notMinus]
      · exact (unsigned true).congr (fun _ stops => stops) fun rest _ => rfl

end Values

/-! ## Shapes of numerals -/

section Shapes

variable {text rest : List Char} {number : Number} {negative : Bool} {significand : Nat}
  {point : Int}

theorem scaledNumber_left (read : scaledNumber negative significand point text =
    .done number rest) : rest = text :=
  (settled_scaledNumber negative significand point).left_eq trivial read

theorem splitSign_eq (text : List Char) :
    ∃ sign ∈ [[], ['+'], ['-']], text = sign ++ (Number.splitSign text).2 := by
  rw [Number.splitSign.eq_def]
  split
  next => exact ⟨['-'], by simp, rfl⟩
  next => exact ⟨['+'], by simp, rfl⟩
  next => exact ⟨[], by simp, rfl⟩

theorem exponentPart_shape {mark : Char} (marked : mark = 'e' ∨ mark = 'E')
    (read : exponentPart negative significand point (mark :: text) = .done number rest) :
    ∃ exponent, IsExponent exponent ∧ mark :: text = exponent ++ rest := by
  rw [exponentPart_cons] at read
  obtain ⟨sign, signed, split⟩ := splitSign_eq text
  generalize (Number.splitSign text).1 = minus at read
  generalize (Number.splitSign text).2 = unsigned at read split
  obtain ⟨digits, tail, all, undigited, rfl⟩ := exists_digits unsigned
  cases digits with
  | nil =>
      obtain ⟨failure, failed⟩ :=
        exponentFrom_undigited negative significand point undigited minus
      rw [List.nil_append, failed] at read
      cases read
  | cons c digits =>
      rw [List.cons_append, exponentFrom_digit _ _ _ (digits_cons.mp all).1] at read
      have left := (settled_exponentDigits negative significand point minus all 0).left_eq undigited
        read
      subst left
      exact ⟨_, .digits marked signed (List.cons_ne_nil c digits) all, by simp [split]⟩

theorem exists_mark {text : List Char}
    (marked : (text.head? == some 'e' || text.head? == some 'E') = true) :
    ∃ mark tail, (mark = 'e' ∨ mark = 'E') ∧ text = mark :: tail := by
  cases text with
  | nil => cases marked
  | cons mark tail =>
      simp only [List.head?_cons, Bool.or_eq_true, beq_iff_eq, Option.some.injEq] at marked
      exact ⟨mark, tail, marked, rfl⟩

theorem afterDigits_shape (read : afterDigits negative significand point text = .done number rest) :
    ∃ exponent, IsExponent exponent ∧ text = exponent ++ rest := by
  rw [afterDigits_apply] at read
  split at read
  next marked =>
    obtain ⟨mark, tail, which, rfl⟩ := exists_mark marked
    exact exponentPart_shape which read
  next => exact ⟨[], .absent, (scaledNumber_left read).symm⟩

theorem fractionPart_shape
    (read : fractionPart negative significand point ('.' :: text) = .done number rest) :
    ∃ fraction exponent, IsFraction fraction ∧ IsExponent exponent ∧
      '.' :: text = fraction ++ (exponent ++ rest) := by
  obtain ⟨digits, tail, all, undigited, rfl⟩ := exists_digits text
  by_cases nonempty : digits = []
  · subst nonempty
    obtain ⟨failure, failed⟩ := fractionPart_undigited negative significand point undigited
    rw [List.nil_append, failed] at read
    cases read
  · rw [fractionPart_digits negative significand point all nonempty undigited] at read
    obtain ⟨exponent, shape, rfl⟩ := afterDigits_shape read
    exact ⟨_, exponent, .digits nonempty all, shape, rfl⟩

theorem afterWhole_shape {more : List Char}
    (read : afterWhole negative significand more text = .done number rest) :
    ∃ fraction exponent, IsFraction fraction ∧ IsExponent exponent ∧
      text = fraction ++ (exponent ++ rest) := by
  rw [afterWhole] at read
  split at read
  next point =>
    cases text with
    | nil => cases point
    | cons c text =>
        obtain rfl := Option.some.inj (beq_iff_eq.mp point)
        exact fractionPart_shape read
  next =>
    split at read
    next marked =>
      obtain ⟨mark, tail, which, rfl⟩ := exists_mark marked
      obtain ⟨exponent, shape, split⟩ := exponentPart_shape which read
      exact ⟨[], exponent, .absent, shape, split⟩
    next =>
      refine ⟨[], [], .absent, .absent, ?_⟩
      split at read
      next => exact ((settled_wholeNumber negative significand).left_eq trivial read).symm
      next => exact (scaledNumber_left read).symm

theorem unsignedNumber_shape (read : unsignedNumber negative text = .done number rest) :
    ∃ whole fraction exponent, IsWhole whole ∧ IsFraction fraction ∧ IsExponent exponent ∧
      text = whole ++ (fraction ++ (exponent ++ rest)) := by
  obtain ⟨whole, tail, shape, undigited, rfl⟩ | undigited | ⟨c, tail, digit, rfl⟩ :=
    exists_whole text
  · rw [unsignedNumber_whole negative shape undigited] at read
    obtain ⟨fraction, exponent, fractional, exponential, rfl⟩ := afterWhole_shape read
    exact ⟨whole, fraction, exponent, shape, fractional, exponential, rfl⟩
  · cases text with
    | nil => cases read
    | cons c text => simp [unsignedNumber, undigited_cons.mp undigited, failNext] at read
  · simp [unsignedNumber, digit, failNext] at read

theorem numberLiteral_shape (read : numberLiteral text = .done number rest) :
    ∃ literal, IsNumeral literal ∧ text = literal ++ rest := by
  have split : ∃ sign negative unsigned, sign ∈ [[], ['-']] ∧ text = sign ++ unsigned ∧
      unsignedNumber negative unsigned = .done number rest := by
    cases text with
    | nil => exact ⟨[], false, [], by simp, rfl, read⟩
    | cons c text =>
        by_cases minus : c = '-'
        · subst minus
          exact ⟨['-'], true, text, by simp, rfl, read⟩
        · simp only [numberLiteral, bind_apply, Reader.bind, peek, List.head?_cons, beq_iff_eq,
            Option.some.injEq, minus, if_false] at read
          exact ⟨[], false, c :: text, by simp, rfl, read⟩
  obtain ⟨sign, negative, unsigned, signed, rfl, unsignedRead⟩ := split
  obtain ⟨whole, fraction, exponent, wholly, fractional, exponential, rfl⟩ :=
    unsignedNumber_shape unsignedRead
  exact ⟨_, .parts signed wholly fractional exponential, by simp only [List.append_assoc]⟩

/-- The reader of numbers takes a numeral that has a value by itself. -/
theorem numberLiteral_eq_done_iff (stops : Stops rest) :
    numberLiteral text = .done number rest ↔
      ∃ literal, IsNumeral literal ∧ numberLiteral literal = .done number [] ∧
        text = literal ++ rest := by
  have agree {literal : List Char} (shape : IsNumeral literal) :
      numberLiteral (literal ++ rest) = .done number rest ↔
        numberLiteral literal = .done number [] := by
    obtain ⟨value?, settled⟩ := shape.settled
    have alone := settled [] stops_nil number []
    rw [List.append_nil] at alone
    rw [settled rest stops, alone]
    simp only [and_true]
  constructor
  · intro read
    obtain ⟨literal, shape, rfl⟩ := numberLiteral_shape read
    exact ⟨literal, shape, (agree shape).mp read, rfl⟩
  · rintro ⟨literal, shape, alone, rfl⟩
    exact (agree shape).mpr alone

end Shapes

/-! ## Passing over numerals -/

section Passing

variable {text rest : List Char}

theorem skipDigits_digits {digits : List Char} (all : Digits digits) (undigited : Undigited rest) :
    skipDigits (digits ++ rest) = .done () rest := by
  rw [skipDigits, dropWhile_digits all undigited]

/-- Pass over an exponent behind its sign. -/
def skipExponentFrom : Reader Unit := do
  if (← peek).any Char.isDigit then skipDigits else failNext .badNumber

theorem skipExponent_cons (mark : Char) (text : List Char) :
    skipExponent (mark :: text) = skipExponentFrom (Number.splitSign text).2 := by
  cases text with
  | nil => rfl
  | cons c text =>
      by_cases minus : c = '-'
      · subst minus
        rfl
      · by_cases plus : c = '+'
        · subst plus
          rfl
        · rw [splitSign_unsigned minus plus]
          simp [skipExponent, skipExponentFrom, Reader.bind, peek, advance, minus, plus]

theorem skipExponentFrom_apply (text : List Char) :
    skipExponentFrom text =
      if text.head?.any Char.isDigit then skipDigits text else .failed ⟨.badNumber, text, 1⟩ := by
  change (if text.head?.any Char.isDigit then skipDigits else failNext .badNumber) text = _
  split <;> rfl

theorem skipAfterDigits_apply (text : List Char) :
    skipAfterDigits text =
      if text.head? == some 'e' || text.head? == some 'E' then skipExponent text
      else .done () text := by
  change (if text.head? == some 'e' || text.head? == some 'E' then skipExponent
    else pure ()) text = _
  split <;> rfl

theorem skipExponent_shape {mark : Char} (marked : mark = 'e' ∨ mark = 'E')
    (passed : skipExponent (mark :: text) = .done () rest) :
    ∃ exponent, IsExponent exponent ∧ mark :: text = exponent ++ rest := by
  rw [skipExponent_cons, skipExponentFrom_apply] at passed
  obtain ⟨sign, signed, split⟩ := splitSign_eq text
  generalize (Number.splitSign text).2 = unsigned at passed split
  obtain ⟨digits, tail, all, undigited, rfl⟩ := exists_digits unsigned
  cases digits with
  | nil =>
      rw [List.nil_append, undigited.any, if_neg Bool.false_ne_true] at passed
      cases passed
  | cons c digits =>
      rw [List.cons_append, List.head?_cons, Option.any_some, (digits_cons.mp all).1, if_pos rfl,
        ← List.cons_append, skipDigits_digits all undigited] at passed
      cases passed
      exact ⟨_, .digits marked signed (List.cons_ne_nil c digits) all, by simp [split]⟩

theorem skipAfterDigits_shape (passed : skipAfterDigits text = .done () rest) :
    ∃ exponent, IsExponent exponent ∧ text = exponent ++ rest := by
  rw [skipAfterDigits_apply] at passed
  split at passed
  next marked =>
    obtain ⟨mark, tail, which, rfl⟩ := exists_mark marked
    exact skipExponent_shape which passed
  next =>
    cases passed
    exact ⟨[], .absent, rfl⟩

theorem IsExponent.skip {exponent : List Char} (shape : IsExponent exponent) (stops : Stops rest) :
    skipAfterDigits (exponent ++ rest) = .done () rest := by
  rw [skipAfterDigits_apply]
  cases shape with
  | absent => rw [List.nil_append, stops.no_exponent, if_neg Bool.false_ne_true]
  | @digits mark sign digits marked signed nonempty all =>
      obtain ⟨c, others, rfl⟩ := List.exists_cons_of_ne_nil nonempty
      have digit := (digits_cons.mp all).1
      obtain ⟨minus, split⟩ := splitSign_signed signed digit
      have exponential : skipExponent (mark :: (sign ++ c :: others) ++ rest) = .done () rest := by
        rw [List.cons_append, skipExponent_cons, List.append_assoc, List.cons_append, split,
          skipExponentFrom_apply, List.head?_cons, Option.any_some, digit, if_pos rfl,
          ← List.cons_append, skipDigits_digits all stops.undigited]
      obtain rfl | rfl := marked <;> exact exponential

/-- Pass over what follows the digits before the point. -/
def skipAfterWhole : Reader Unit := do
  if (← peek) == some '.' then
    advance
    if (← peek).any Char.isDigit then
      skipDigits
      skipAfterDigits
    else failNext .badNumber
  else skipAfterDigits

theorem skipAfterWhole_point {digits : List Char} (all : Digits digits) (nonempty : digits ≠ [])
    (undigited : Undigited rest) :
    skipAfterWhole ('.' :: (digits ++ rest)) = skipAfterDigits rest := by
  obtain ⟨c, others, rfl⟩ := List.exists_cons_of_ne_nil nonempty
  have digit := (digits_cons.mp all).1
  have passed := skipDigits_digits all undigited
  rw [List.cons_append] at passed ⊢
  simp [skipAfterWhole, Reader.bind, peek, advance, digit, passed]

theorem skipAfterWhole_plain (plain : (text.head? == some '.') = false) :
    skipAfterWhole text = skipAfterDigits text := by
  have notPoint : text.head? ≠ some '.' := beq_eq_false_iff_ne.mp plain
  simp [skipAfterWhole, Reader.bind, peek, notPoint]

theorem skipAfterWhole_shape (passed : skipAfterWhole text = .done () rest) :
    ∃ fraction exponent, IsFraction fraction ∧ IsExponent exponent ∧
      text = fraction ++ (exponent ++ rest) := by
  cases point : text.head? == some '.' with
  | false =>
      rw [skipAfterWhole_plain point] at passed
      obtain ⟨exponent, shape, rfl⟩ := skipAfterDigits_shape passed
      exact ⟨[], exponent, .absent, shape, rfl⟩
  | true =>
      cases text with
      | nil => cases point
      | cons c text =>
          obtain rfl := Option.some.inj (beq_iff_eq.mp point)
          obtain ⟨digits, tail, all, undigited, rfl⟩ := exists_digits text
          by_cases nonempty : digits = []
          · subst nonempty
            have none := undigited.any
            simp [skipAfterWhole, Reader.bind, peek, advance, failNext, none] at passed
          · rw [skipAfterWhole_point all nonempty undigited] at passed
            obtain ⟨exponent, shape, rfl⟩ := skipAfterDigits_shape passed
            exact ⟨_, exponent, .digits nonempty all, shape, rfl⟩

/-- Pass over a number behind its sign. -/
def skipUnsigned : Reader Unit := do
  let first ← peek
  if !first.any Char.isDigit then failNext .badNumber
  else
    advance
    if first == some '0' then
      if (← peek).any Char.isDigit then failNext .badNumber else skipAfterWhole
    else
      skipDigits
      skipAfterWhole

theorem skipUnsigned_whole {whole : List Char} (shape : IsWhole whole)
    (undigited : Undigited rest) : skipUnsigned (whole ++ rest) = skipAfterWhole rest := by
  cases shape with
  | zero =>
      have none := undigited.any
      simp [skipUnsigned, Reader.bind, peek, advance, none]
  | digits digit nonzero all =>
      have passed := skipDigits_digits all undigited
      simp [skipUnsigned, Reader.bind, peek, advance, digit, nonzero, passed]

theorem IsWhole.skip {whole fraction exponent : List Char} (wholly : IsWhole whole)
    (fractional : IsFraction fraction) (exponential : IsExponent exponent) (stops : Stops rest) :
    skipUnsigned (whole ++ (fraction ++ (exponent ++ rest))) = .done () rest := by
  have behind := exponential.undigited stops.undigited
  rw [skipUnsigned_whole wholly (fractional.undigited behind)]
  cases fractional with
  | absent =>
      have plain : ((exponent ++ rest).head? == some '.') = false := by
        cases exponential with
        | absent => exact stops.no_point
        | digits marked _ _ _ => obtain rfl | rfl := marked <;> rfl
      rw [List.nil_append, skipAfterWhole_plain plain, exponential.skip stops]
  | digits nonempty all =>
      rw [List.cons_append, skipAfterWhole_point all nonempty behind, exponential.skip stops]

theorem skipUnsigned_shape (passed : skipUnsigned text = .done () rest) :
    ∃ whole fraction exponent, IsWhole whole ∧ IsFraction fraction ∧ IsExponent exponent ∧
      text = whole ++ (fraction ++ (exponent ++ rest)) := by
  obtain ⟨whole, tail, shape, undigited, rfl⟩ | undigited | ⟨c, tail, digit, rfl⟩ :=
    exists_whole text
  · rw [skipUnsigned_whole shape undigited] at passed
    obtain ⟨fraction, exponent, fractional, exponential, rfl⟩ := skipAfterWhole_shape passed
    exact ⟨whole, fraction, exponent, shape, fractional, exponential, rfl⟩
  · have none := undigited.any
    simp [skipUnsigned, Reader.bind, peek, failNext, none] at passed
  · simp [skipUnsigned, Reader.bind, peek, advance, failNext, digit] at passed

theorem skipNumber_apply (text : List Char) :
    skipNumber text =
      if text.head? == some '-' then skipUnsigned text.tail else skipUnsigned text := by
  simp only [skipNumber, skipUnsigned, skipAfterWhole, bind_apply, peek_bind, advance_bind,
    if_apply, failNext_bind, failNext_apply]

/-- What is passed over as a number is a numeral. -/
theorem skipNumber_eq_done_iff (stops : Stops rest) :
    skipNumber text = .done () rest ↔ ∃ literal, IsNumeral literal ∧ text = literal ++ rest := by
  rw [skipNumber_apply]
  constructor
  · intro passed
    have split : ∃ sign unsigned, sign ∈ [[], ['-']] ∧ text = sign ++ unsigned ∧
        skipUnsigned unsigned = .done () rest := by
      cases text with
      | nil => exact ⟨[], [], by simp, rfl, passed⟩
      | cons c text =>
          split at passed
          next minus =>
            obtain rfl := Option.some.inj (beq_iff_eq.mp minus)
            exact ⟨['-'], text, by simp, rfl, passed⟩
          next => exact ⟨[], c :: text, by simp, rfl, passed⟩
    obtain ⟨sign, unsigned, signed, rfl, unsignedPassed⟩ := split
    obtain ⟨whole, fraction, exponent, wholly, fractional, exponential, rfl⟩ :=
      skipUnsigned_shape unsignedPassed
    exact ⟨_, .parts signed wholly fractional exponential, by simp only [List.append_assoc]⟩
  · rintro ⟨_, ⟨signed, wholly, fractional, exponential⟩, rfl⟩
    have unsigned := wholly.skip fractional exponential stops
    simp only [List.append_assoc]
    simp only [List.mem_cons, List.not_mem_nil, or_false] at signed
    obtain rfl | rfl := signed
    · obtain ⟨c, others, rfl, digit⟩ := wholly.exists_head
      have notMinus : c ≠ '-' := ne_of_test digit rfl
      have other : ¬ (some c == some '-') = true := by simpa using notMinus
      rw [List.cons_append] at unsigned
      rw [List.nil_append, List.cons_append, List.head?_cons, if_neg other, unsigned]
    · exact unsigned

end Passing

end DspBridge.Json

import DspBridge.Proofs.Json.Grammar
import DspBridge.Proofs.Json.Readers

/-!
# Reading strings

The reader of strings takes exactly the texts that stand for characters, and gives those characters.
Passing over a string takes any text of the right shape, so the two differ in surrogates alone.
-/

namespace DspBridge.Json

theorem ne_u_of_escaped? {letter c : Char} (stands : escaped? letter = some c) : letter ≠ 'u' := by
  rintro rfl
  cases stands

/-! ## Decoding -/

section Decoding

variable {first second third fourth fifth sixth seventh eighth : Char} {unit high low : Nat}
  {body chars rest text : List Char}

theorem stringBody_single (written : hexUnit? first second third fourth = some unit)
    (notLow : isLowSurrogate unit = false) (notHigh : isHighSurrogate unit = false) :
    stringBody ('\\' :: 'u' :: first :: second :: third :: fourth :: rest) =
      (stringBody rest).map (Char.ofNat unit :: ·) := by
  rw [stringBody.eq_def]
  simp [written, notLow, notHigh]

theorem stringBody_pair (writtenHigh : hexUnit? first second third fourth = some high)
    (isHigh : isHighSurrogate high = true)
    (writtenLow : hexUnit? fifth sixth seventh eighth = some low)
    (isLow : isLowSurrogate low = true) :
    stringBody ('\\' :: 'u' :: first :: second :: third :: fourth ::
        '\\' :: 'u' :: fifth :: sixth :: seventh :: eighth :: rest) =
      (stringBody rest).map (joinSurrogates high low :: ·) := by
  have notLow : isLowSurrogate high = false := by
    simp only [isHighSurrogate, isLowSurrogate, Bool.and_eq_true, decide_eq_true_eq,
      Bool.and_eq_false_iff, decide_eq_false_iff_not] at isHigh ⊢
    omega
  rw [stringBody.eq_def]
  simp [writtenHigh, isHigh, notLow, writtenLow, isLow]

theorem Denotes.read (denotes : Denotes body chars) (rest : List Char) :
    stringBody (body ++ '"' :: rest) = .done chars rest := by
  induction denotes with
  | empty => exact stringBody_close
  | plain notQuote notEscape solid _ ih =>
      rw [List.cons_append, stringBody_plain notQuote notEscape solid, ih, Outcome.map]
  | letter stands _ ih =>
      rw [List.cons_append, List.cons_append, stringBody_letter (ne_u_of_escaped? stands) stands,
        ih, Outcome.map]
  | unit written notLow notHigh _ ih =>
      simp only [List.cons_append]
      rw [stringBody_single written notLow notHigh, ih, Outcome.map]
  | pair writtenHigh isHigh writtenLow isLow _ ih =>
      simp only [List.cons_append]
      rw [stringBody_pair writtenHigh isHigh writtenLow isLow, ih, Outcome.map]

/-- The reader of strings takes what denotes characters, up to the closing quote. -/
theorem stringBody_eq_done_iff :
    stringBody text = .done chars rest ↔
      ∃ body, Denotes body chars ∧ text = body ++ '"' :: rest := by
  constructor
  · intro read
    fun_induction stringBody text generalizing chars with
    | case2 c rest quote =>
        cases read
        exact ⟨[], .empty, by rw [beq_iff_eq.mp quote]; rfl⟩
    | case7 c _ escape letter isU a b c d high writtenHigh _ isHigh mark next e f g h tail joined
        low writtenLow isLow ih =>
        obtain ⟨before, done, rfl⟩ := Outcome.map_eq_done_iff.mp read
        obtain ⟨body, denotes, rfl⟩ := ih done
        rw [Bool.and_eq_true] at joined
        obtain rfl := beq_iff_eq.mp escape
        obtain rfl := beq_iff_eq.mp isU
        obtain rfl := beq_iff_eq.mp joined.1
        obtain rfl := beq_iff_eq.mp joined.2
        exact ⟨_, .pair writtenHigh isHigh writtenLow isLow denotes, rfl⟩
    | case11 c _ escape letter isU a b c d tail unit written notLow notHigh ih =>
        obtain ⟨before, done, rfl⟩ := Outcome.map_eq_done_iff.mp read
        obtain ⟨body, denotes, rfl⟩ := ih done
        obtain rfl := beq_iff_eq.mp escape
        obtain rfl := beq_iff_eq.mp isU
        exact ⟨_, .unit written (Bool.eq_false_of_not_eq_true notLow)
          (Bool.eq_false_of_not_eq_true notHigh) denotes, rfl⟩
    | case13 c _ escape letter tail _ meant stands ih =>
        obtain ⟨before, done, rfl⟩ := Outcome.map_eq_done_iff.mp read
        obtain ⟨body, denotes, rfl⟩ := ih done
        obtain rfl := beq_iff_eq.mp escape
        exact ⟨_, .letter stands denotes, rfl⟩
    | case16 c tail notQuote notEscape solid ih =>
        obtain ⟨before, done, rfl⟩ := Outcome.map_eq_done_iff.mp read
        obtain ⟨body, denotes, rfl⟩ := ih done
        rw [beq_iff_eq] at notQuote notEscape
        exact ⟨_, .plain notQuote notEscape (Nat.le_of_not_lt solid) denotes, rfl⟩
    | _ => cases read
  · rintro ⟨body, denotes, rfl⟩
    exact denotes.read rest

end Decoding

/-! ## Passing over -/

section Passing

variable {body text rest : List Char}

theorem IsBody.skip (shape : IsBody body) (rest : List Char) :
    skipStringBody (body ++ '"' :: rest) = .done () rest := by
  induction shape with
  | empty =>
      rw [skipStringBody.eq_def]
      rfl
  | plain notQuote notEscape solid _ ih =>
      rw [List.cons_append, skipStringBody.eq_def]
      simp [notQuote, notEscape, Nat.not_lt.mpr solid, ih]
  | letter stands _ ih =>
      rw [List.cons_append, List.cons_append, skipStringBody.eq_def]
      simp [ne_u_of_escaped? stands, stands, ih]
  | unit written _ ih =>
      simp only [List.cons_append]
      rw [skipStringBody.eq_def]
      simp [written, ih]

/-- What is passed over has the shape of a string, up to the closing quote. -/
theorem skipStringBody_eq_done_iff :
    skipStringBody text = .done () rest ↔ ∃ body, IsBody body ∧ text = body ++ '"' :: rest := by
  constructor
  · intro read
    fun_induction skipStringBody text with
    | case2 c rest quote =>
        cases read
        exact ⟨[], .empty, by rw [beq_iff_eq.mp quote]; rfl⟩
    | case4 c _ escape letter isU a b c d tail written ih =>
        obtain ⟨body, shape, rfl⟩ := ih read
        obtain ⟨unit, written⟩ := Option.isSome_iff_exists.mp written
        obtain rfl := beq_iff_eq.mp escape
        obtain rfl := beq_iff_eq.mp isU
        exact ⟨_, .unit written shape, rfl⟩
    | case7 c _ escape letter tail _ stands ih =>
        obtain ⟨body, shape, rfl⟩ := ih read
        obtain ⟨meant, stands⟩ := Option.isSome_iff_exists.mp stands
        obtain rfl := beq_iff_eq.mp escape
        exact ⟨_, .letter stands shape, rfl⟩
    | case10 c tail notQuote notEscape solid ih =>
        obtain ⟨body, shape, rfl⟩ := ih read
        rw [beq_iff_eq] at notQuote notEscape
        exact ⟨_, .plain notQuote notEscape (Nat.le_of_not_lt solid) shape, rfl⟩
    | _ => cases read
  · rintro ⟨body, shape, rfl⟩
    exact shape.skip rest

theorem Denotes.isBody {chars : List Char} (denotes : Denotes body chars) : IsBody body := by
  induction denotes with
  | empty => exact .empty
  | plain notQuote notEscape solid _ ih => exact .plain notQuote notEscape solid ih
  | letter stands _ ih => exact .letter stands ih
  | unit written _ _ _ ih => exact .unit written ih
  | pair writtenHigh _ writtenLow _ _ ih => exact .unit writtenHigh (.unit writtenLow ih)

/-- No character needs an escape, and none is one. -/
def Plain (chars : List Char) : Prop := ∀ c ∈ chars, c ≠ '"' ∧ c ≠ '\\' ∧ 0x20 ≤ c.toNat

/-- Plain characters stand for themselves. -/
theorem denotes_plain {chars : List Char} (plain : Plain chars) : Denotes chars chars := by
  induction chars with
  | nil => exact .empty
  | cons c chars ih =>
      obtain ⟨⟨notQuote, notEscape, printable⟩, others⟩ := List.forall_mem_cons.mp plain
      exact .plain notQuote notEscape printable (ih others)

/-- A string stands for one text at most. -/
theorem Denotes.unique {chars others : List Char} (first : Denotes body chars)
    (second : Denotes body others) : chars = others := by
  have read := first.read []
  rw [second.read []] at read
  cases read
  rfl

end Passing

end DspBridge.Json

import DspBridge.Text.Utf8
import Mathlib.Tactic.SplitIfs

/-!
# UTF-8 decoding and encoding

Strict decoding inverts the encoding of texts: bytes decode to a text exactly when they are the
bytes of that text.  The proof compares one piece at a time with the encoding of one character, in
the four widths that a character can have.
-/

namespace DspBridge.Text.Utf8

/-! ## Ranges of bytes -/

theorem isTail_iff (byte : UInt8) :
    isTail byte = true ↔ 0x80 ≤ byte.toNat ∧ byte.toNat ≤ 0xBF := by
  simp [isTail, UInt8.le_iff_toNat_le]

/-- The least and the greatest second byte after a first byte. -/
def secondRange (first : Nat) : Nat × Nat :=
  if first = 0xE0 then (0xA0, 0xBF)
  else if first = 0xED then (0x80, 0x9F)
  else if first = 0xF0 then (0x90, 0xBF)
  else if first = 0xF4 then (0x80, 0x8F)
  else (0x80, 0xBF)

theorem isSecond_iff (first second : UInt8) :
    isSecond first second = true ↔
      (secondRange first.toNat).1 ≤ second.toNat ∧ second.toNat ≤ (secondRange first.toNat).2 := by
  simp only [isSecond, secondRange, beq_iff_eq, ← UInt8.toNat_inj, UInt8.reduceToNat]
  split_ifs <;> simp [isTail_iff, UInt8.le_iff_toNat_le]

theorem toNat_ofNat {code : Nat} (valid : code.isValidChar) : (Char.ofNat code).toNat = code := by
  rw [Char.ofNat, dif_pos valid]
  rfl

private theorem val_toNat (c : Char) : c.val.toNat = c.toNat := rfl

private theorem ofNat_eq {code : Nat} {byte : UInt8} (equal : code = byte.toNat) :
    UInt8.ofNat code = byte := by
  rw [equal, UInt8.ofNat_toNat]

/-! ## Characters of each width -/

section Widths

variable {first second third fourth : UInt8} {rest : List UInt8}

theorem piece_one (ascii : first.toNat < 0x80) :
    piece first rest = .character (Char.ofNat first.toNat) 1 := by
  have below : first < 0x80 := UInt8.lt_iff_toNat_lt.mpr ascii
  simp [piece, below]

theorem piece_two (low : 0xC2 ≤ first.toNat) (high : first.toNat < 0xE0)
    (tail : isSecond first second = true) :
    piece first (second :: rest) =
      .character (Char.ofNat (first.toNat % 32 * 64 + tailBits second)) 2 := by
  simp only [piece, UInt8.lt_iff_toNat_lt, UInt8.reduceToNat]
  simp [tail, show ¬first.toNat < 128 by omega, show ¬first.toNat < 194 by omega,
    show ¬244 < first.toNat by omega, high]

theorem piece_three (low : 0xE0 ≤ first.toNat) (high : first.toNat < 0xF0)
    (tail : isSecond first second = true) (last : isTail third = true) :
    piece first (second :: third :: rest) =
      .character
        (Char.ofNat (first.toNat % 16 * 4096 + tailBits second * 64 + tailBits third)) 3 := by
  simp only [piece, UInt8.lt_iff_toNat_lt, UInt8.reduceToNat]
  simp [tail, last, show ¬first.toNat < 128 by omega, show ¬first.toNat < 194 by omega,
    show ¬244 < first.toNat by omega, show ¬first.toNat < 224 by omega, high]

theorem piece_four (low : 0xF0 ≤ first.toNat) (high : first.toNat ≤ 0xF4)
    (tail : isSecond first second = true) (inner : isTail third = true)
    (last : isTail fourth = true) :
    piece first (second :: third :: fourth :: rest) =
      .character
        (Char.ofNat (first.toNat % 8 * 262144 + tailBits second * 4096 + tailBits third * 64 +
          tailBits fourth)) 4 := by
  simp only [piece, UInt8.lt_iff_toNat_lt, UInt8.reduceToNat]
  simp [tail, inner, last, show ¬first.toNat < 128 by omega, show ¬first.toNat < 194 by omega,
    show ¬244 < first.toNat by omega, show ¬first.toNat < 224 by omega,
    show ¬first.toNat < 240 by omega]

theorem encode_one (ascii : first.toNat < 0x80) :
    String.utf8EncodeChar (Char.ofNat first.toNat) = [first] := by
  rw [String.utf8EncodeChar, val_toNat, toNat_ofNat (.inl (by omega)), if_pos (by omega),
    ofNat_eq rfl]

theorem encode_two (low : 0xC2 ≤ first.toNat) (high : first.toNat < 0xE0)
    (tail : isSecond first second = true) :
    String.utf8EncodeChar (Char.ofNat (first.toNat % 32 * 64 + tailBits second)) =
      [first, second] := by
  have range := (isSecond_iff first second).mp tail
  simp only [secondRange] at range
  simp only [tailBits]
  rw [String.utf8EncodeChar, val_toNat, toNat_ofNat (.inl (by omega)), if_neg (by omega),
    if_pos (by omega)]
  congr 2
  · exact ofNat_eq (by omega)
  · exact ofNat_eq (by split_ifs at range <;> omega)

theorem encode_three (low : 0xE0 ≤ first.toNat) (high : first.toNat < 0xF0)
    (tail : isSecond first second = true) (last : isTail third = true) :
    String.utf8EncodeChar
        (Char.ofNat (first.toNat % 16 * 4096 + tailBits second * 64 + tailBits third)) =
      [first, second, third] := by
  have range := (isSecond_iff first second).mp tail
  have lastRange := (isTail_iff third).mp last
  simp only [secondRange] at range
  simp only [tailBits]
  have code : 0x7ff < first.toNat % 16 * 4096 + second.toNat % 64 * 64 + third.toNat % 64 ∧
      first.toNat % 16 * 4096 + second.toNat % 64 * 64 + third.toNat % 64 ≤ 0xffff ∧
      (first.toNat % 16 * 4096 + second.toNat % 64 * 64 + third.toNat % 64).isValidChar := by
    simp only [Nat.isValidChar]
    split_ifs at range <;> omega
  obtain ⟨atLeast, atMost, valid⟩ := code
  rw [String.utf8EncodeChar, val_toNat, toNat_ofNat valid, if_neg (by omega),
    if_neg (by omega), if_pos atMost]
  have second80 : 0x80 ≤ second.toNat ∧ second.toNat ≤ 0xBF := by split_ifs at range <;> omega
  congr 3
  · exact ofNat_eq (by omega)
  · exact ofNat_eq (by omega)
  · exact ofNat_eq (by omega)

theorem encode_four (low : 0xF0 ≤ first.toNat) (high : first.toNat ≤ 0xF4)
    (tail : isSecond first second = true) (inner : isTail third = true)
    (last : isTail fourth = true) :
    String.utf8EncodeChar
        (Char.ofNat (first.toNat % 8 * 262144 + tailBits second * 4096 + tailBits third * 64 +
          tailBits fourth)) =
      [first, second, third, fourth] := by
  have range := (isSecond_iff first second).mp tail
  have innerRange := (isTail_iff third).mp inner
  have lastRange := (isTail_iff fourth).mp last
  simp only [secondRange] at range
  simp only [tailBits]
  have code : 0xffff < first.toNat % 8 * 262144 + second.toNat % 64 * 4096 +
        third.toNat % 64 * 64 + fourth.toNat % 64 ∧
      (first.toNat % 8 * 262144 + second.toNat % 64 * 4096 + third.toNat % 64 * 64 +
        fourth.toNat % 64).isValidChar := by
    simp only [Nat.isValidChar]
    split_ifs at range <;> omega
  obtain ⟨atLeast, valid⟩ := code
  rw [String.utf8EncodeChar, val_toNat, toNat_ofNat valid, if_neg (by omega),
    if_neg (by omega), if_neg (by omega)]
  have second80 : 0x80 ≤ second.toNat ∧ second.toNat ≤ 0xBF := by split_ifs at range <;> omega
  congr 4
  · exact ofNat_eq (by omega)
  · exact ofNat_eq (by omega)
  · exact ofNat_eq (by omega)
  · exact ofNat_eq (by omega)

end Widths

/-! ## One character -/

/-- The encoding of a character is one piece, whatever follows it. -/
theorem piece_encode (c : Char) (rest : List UInt8) :
    ∃ first tail, String.utf8EncodeChar c = first :: tail ∧
      piece first (tail ++ rest) = .character c (tail.length + 1) := by
  have valid : c.toNat < 0xD800 ∨ (0xDFFF < c.toNat ∧ c.toNat < 0x110000) := c.valid
  have same := val_toNat c
  have restore {code : Nat} (equal : code = c.toNat) : Char.ofNat code = c := by
    rw [equal, Char.ofNat_toNat]
  fun_cases String.utf8EncodeChar c with
  | case1 code one =>
    refine ⟨_, _, rfl, ?_⟩
    rw [List.nil_append, piece_one, restore]
    · rfl
    · rw [UInt8.toNat_ofNat']; omega
    · rw [UInt8.toNat_ofNat']; omega
  | case2 code _ two =>
    refine ⟨_, _, rfl, ?_⟩
    rw [List.cons_append, List.nil_append, piece_two, restore]
    · rfl
    · simp only [tailBits, UInt8.toNat_ofNat']; omega
    · rw [UInt8.toNat_ofNat']; omega
    · rw [UInt8.toNat_ofNat']; omega
    · rw [isSecond_iff]; simp only [secondRange, UInt8.toNat_ofNat']; split_ifs <;> omega
  | case3 code _ _ three =>
    refine ⟨_, _, rfl, ?_⟩
    rw [List.cons_append, List.cons_append, List.nil_append, piece_three, restore]
    · rfl
    · simp only [tailBits, UInt8.toNat_ofNat']; omega
    · rw [UInt8.toNat_ofNat']; omega
    · rw [UInt8.toNat_ofNat']; omega
    · rw [isSecond_iff]; simp only [secondRange, UInt8.toNat_ofNat']; split_ifs <;> omega
    · rw [isTail_iff, UInt8.toNat_ofNat']; omega
  | case4 code _ _ more =>
    refine ⟨_, _, rfl, ?_⟩
    rw [List.cons_append, List.cons_append, List.cons_append, List.nil_append, piece_four, restore]
    · rfl
    · simp only [tailBits, UInt8.toNat_ofNat']; omega
    · rw [UInt8.toNat_ofNat']; omega
    · rw [UInt8.toNat_ofNat']; omega
    · rw [isSecond_iff]; simp only [secondRange, UInt8.toNat_ofNat']; split_ifs <;> omega
    · rw [isTail_iff, UInt8.toNat_ofNat']; omega
    · rw [isTail_iff, UInt8.toNat_ofNat']; omega

/-- The bytes of a character that is no control character are none either. -/
theorem solid_encode {c : Char} (solid : 0x20 ≤ c.toNat) :
    ∀ byte ∈ String.utf8EncodeChar c, 0x20 ≤ byte.toNat := by
  have same := val_toNat c
  fun_cases String.utf8EncodeChar c
  all_goals
    simp only [List.mem_cons, List.not_mem_nil, or_false, forall_eq_or_imp, forall_eq,
      UInt8.toNat_ofNat']
    omega

/-- The byte of an end of line stands for that character only. -/
theorem count_encode (c : Char) :
    (String.utf8EncodeChar c).count 10 = if c == '\n' then 1 else 0 := by
  have same := val_toNat c
  by_cases newline : c = '\n'
  · rw [newline]
    decide
  · have other : c.toNat ≠ 10 := fun equal => newline (Char.toNat_inj.mp equal)
    have absent : (10 : UInt8) ∉ String.utf8EncodeChar c := by
      fun_cases String.utf8EncodeChar c
      all_goals
        simp only [List.mem_cons, List.not_mem_nil, or_false, ← UInt8.toNat_inj,
          UInt8.toNat_ofNat', UInt8.reduceToNat]
        omega
    simp [newline, List.count_eq_zero.mpr absent]

/-- A piece that is a character takes the bytes that encode it. -/
theorem encode_of_piece {first : UInt8} {rest : List UInt8} {value : Char} {width : Nat}
    (found : piece first rest = .character value width) :
    ∃ tail more, rest = tail ++ more ∧ String.utf8EncodeChar value = first :: tail ∧
      width = tail.length + 1 := by
  rw [piece.eq_def] at found
  simp only [UInt8.lt_iff_toNat_lt, UInt8.reduceToNat] at found
  split at found
  next ascii =>
    obtain ⟨rfl, rfl⟩ := Piece.character.inj found
    exact ⟨[], rest, rfl, encode_one ascii, rfl⟩
  next notAscii =>
    split at found
    next => cases found
    next inRange =>
      simp only [Bool.or_eq_true, decide_eq_true_eq] at inRange
      rcases rest with _ | ⟨second, rest⟩
      · cases found
      simp only [Bool.not_eq_true'] at found
      split at found
      next => cases found
      next secondOk =>
        rw [Bool.not_eq_false] at secondOk
        split at found
        next two =>
          obtain ⟨rfl, rfl⟩ := Piece.character.inj found
          exact ⟨[second], rest, rfl, encode_two (by omega) two secondOk, rfl⟩
        next =>
          rcases rest with _ | ⟨third, rest⟩
          · cases found
          simp only at found
          split at found
          next => cases found
          next thirdOk =>
            rw [Bool.not_eq_false] at thirdOk
            split at found
            next three =>
              obtain ⟨rfl, rfl⟩ := Piece.character.inj found
              exact ⟨[second, third], rest, rfl,
                encode_three (by omega) three secondOk thirdOk, rfl⟩
            next =>
              rcases rest with _ | ⟨fourth, rest⟩
              · cases found
              simp only at found
              split at found
              next => cases found
              next fourthOk =>
                rw [Bool.not_eq_false] at fourthOk
                obtain ⟨rfl, rfl⟩ := Piece.character.inj found
                exact ⟨[second, third, fourth], rest, rfl,
                  encode_four (by omega) (by omega) secondOk thirdOk fourthOk, rfl⟩

/-! ## Whole texts -/

theorem piecesFrom_eq_drop (taken : Nat) (bytes : List UInt8) :
    piecesFrom taken bytes = pieces (bytes.drop taken) := by
  induction bytes generalizing taken with
  | nil => simp [piecesFrom, pieces]
  | cons byte rest ih =>
    cases taken with
    | zero => rfl
    | succ taken => rw [piecesFrom, ih, List.drop_succ_cons]

theorem pieces_encode (c : Char) (rest : List UInt8) :
    pieces (String.utf8EncodeChar c ++ rest) =
      .character c (String.utf8EncodeChar c).length :: pieces rest := by
  obtain ⟨first, tail, encoded, found⟩ := piece_encode c rest
  rw [encoded, List.cons_append, pieces, piecesFrom, found, piecesFrom_eq_drop]
  simp [Piece.width]

/-- The pieces of encoded characters are read back as those characters. -/
theorem charsFrom_encode (index : Nat) (chars : List Char) :
    charsFrom index (pieces (chars.flatMap String.utf8EncodeChar)) = .ok chars := by
  induction chars generalizing index with
  | nil => rfl
  | cons c rest ih =>
    rw [List.flatMap_cons, pieces_encode, charsFrom, ih]
    rfl

private theorem map_eq_ok {ε α β : Type} {change : α → β} {result : Except ε α} {value : β}
    (equal : result.map change = .ok value) :
    ∃ before, result = .ok before ∧ change before = value := by
  cases result with
  | error fault => cases equal
  | ok before => exact ⟨before, rfl, Except.ok.inj equal⟩

/-- Bytes that are read as characters begin with the encoding of the first of them. -/
theorem charsFrom_eq_cons {index : Nat} {bytes : List UInt8} {chars : List Char}
    (read : charsFrom index (pieces bytes) = .ok chars) :
    (bytes = [] ∧ chars = []) ∨
      ∃ c others more next, bytes = String.utf8EncodeChar c ++ more ∧ chars = c :: others ∧
        charsFrom next (pieces more) = .ok others := by
  cases bytes with
  | nil => exact .inl ⟨rfl, (Except.ok.inj read).symm⟩
  | cons first rest =>
    rw [pieces, piecesFrom] at read
    cases found : piece first rest with
    | invalid width => rw [found] at read; cases read
    | truncated width => rw [found] at read; cases read
    | character value width =>
      obtain ⟨tail, more, rfl, encoded, rfl⟩ := encode_of_piece found
      rw [found, charsFrom, Piece.width, piecesFrom_eq_drop, Nat.add_sub_cancel,
        List.drop_left] at read
      obtain ⟨others, readOthers, rfl⟩ := map_eq_ok read
      refine .inr ⟨value, others, more, _, ?_, rfl, readOthers⟩
      rw [encoded, List.cons_append]

/-- Bytes that are read as characters are the bytes that encode them. -/
theorem encode_of_charsFrom {index : Nat} {bytes : List UInt8} {chars : List Char}
    (read : charsFrom index (pieces bytes) = .ok chars) :
    chars.flatMap String.utf8EncodeChar = bytes := by
  induction chars generalizing index bytes with
  | nil =>
    rcases charsFrom_eq_cons read with ⟨rfl, -⟩ | ⟨_, _, _, _, _, impossible, _⟩
    · rfl
    · cases impossible
  | cons c chars ih =>
    rcases charsFrom_eq_cons read with ⟨-, impossible⟩ | ⟨_, _, _, _, rfl, equal, readOthers⟩
    · cases impossible
    · obtain ⟨rfl, rfl⟩ := List.cons.inj equal
      rw [List.flatMap_cons, ih readOthers]

theorem count_bytesOf (text : String) : (bytesOf text).count 10 = text.toList.count '\n' := by
  rw [bytesOf]
  induction text.toList with
  | nil => rfl
  | cons c rest ih =>
      rw [List.flatMap_cons, List.count_append, ih, count_encode, List.count_cons, Nat.add_comm]

@[simp] theorem decode_bytesOf (text : String) : decode (bytesOf text) = .ok text := by
  rw [decode, bytesOf, charsFrom_encode]
  exact congrArg Except.ok String.ofList_toList

/-- Strict decoding accepts the bytes of texts and nothing else. -/
theorem decode_eq_ok_iff {bytes : List UInt8} {text : String} :
    decode bytes = .ok text ↔ bytesOf text = bytes := by
  constructor
  · intro decoded
    obtain ⟨chars, read, rfl⟩ := map_eq_ok decoded
    rw [bytesOf, String.toList_ofList]
    exact encode_of_charsFrom read
  · rintro rfl
    exact decode_bytesOf text

end DspBridge.Text.Utf8

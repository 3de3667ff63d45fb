import DspBridge.Json.Document
import Mathlib.Tactic.IntervalCases
import Mathlib.Tactic.SplitIfs

/-!
# Written texts

The reader inverts the writer on strings and on objects whose members are all strings, whatever
characters they hold and whatever follows them.  What is written there has no control character in
it, so it stays on one line.
-/

namespace DspBridge.Json

/-! ## Strings -/

theorem hexValue?_digitChar (digit : Nat) (bound : digit < 16) :
    hexValue? (Nat.digitChar digit) = some digit := by
  interval_cases digit <;> rfl

theorem hexUnit?_control {code : Nat} (control : code < 0x20) :
    hexUnit? '0' '0' (Nat.digitChar (code / 16)) (Nat.digitChar (code % 16)) = some code := by
  have high := hexValue?_digitChar (code / 16) (by omega)
  have low := hexValue?_digitChar (code % 16) (by omega)
  have zero : hexValue? '0' = some 0 := rfl
  simp only [hexUnit?, high, low, zero, Option.bind_eq_bind, Option.bind_some, Option.some.injEq]
  omega

section Body

variable {c : Char} {rest : List Char}

theorem stringBody_close : stringBody ('"' :: rest) = .done [] rest := by
  rw [stringBody.eq_def]
  rfl

theorem stringBody_plain (notQuote : c ≠ '"') (notEscape : c ≠ '\\') (solid : 0x20 ≤ c.toNat) :
    stringBody (c :: rest) = (stringBody rest).map (c :: ·) := by
  rw [stringBody.eq_def]
  simp [notQuote, notEscape, Nat.not_lt.mpr solid]

theorem stringBody_letter {letter : Char} (short : letter ≠ 'u')
    (stands : escaped? letter = some c) :
    stringBody ('\\' :: letter :: rest) = (stringBody rest).map (c :: ·) := by
  rw [stringBody.eq_def]
  simp [short, stands]

theorem stringBody_unit {first second third fourth : Char} {unit : Nat}
    (written : hexUnit? first second third fourth = some unit) (low : unit < 0xD800) :
    stringBody ('\\' :: 'u' :: first :: second :: third :: fourth :: rest) =
      (stringBody rest).map (Char.ofNat unit :: ·) := by
  have notLow : isLowSurrogate unit = false := by simp [isLowSurrogate]; omega
  have notHigh : isHighSurrogate unit = false := by simp [isHighSurrogate]; omega
  rw [stringBody.eq_def]
  simp [written, notLow, notHigh]

/-- The reader of strings takes a written character as it was. -/
theorem stringBody_escapeChar :
    stringBody (escapeChar c ++ rest) = (stringBody rest).map (c :: ·) := by
  have restore := Char.ofNat_toNat c
  unfold escapeChar
  split_ifs with quote backslash feed carriage tab back form control
  all_goals simp only [beq_iff_eq] at *
  · subst quote; exact stringBody_letter (by decide) rfl
  · subst backslash; exact stringBody_letter (by decide) rfl
  · subst feed; exact stringBody_letter (by decide) rfl
  · subst carriage; exact stringBody_letter (by decide) rfl
  · subst tab; exact stringBody_letter (by decide) rfl
  · rw [back] at restore; subst restore; exact stringBody_letter (by decide) rfl
  · rw [form] at restore; subst restore; exact stringBody_letter (by decide) rfl
  · have unit : stringBody _ = (stringBody rest).map (Char.ofNat c.toNat :: ·) :=
      stringBody_unit (hexUnit?_control control) (by omega)
    rw [restore] at unit
    exact unit
  · exact stringBody_plain quote backslash (Nat.le_of_not_lt control)

end Body

/-- What is written between quotes is read as the characters it was written for. -/
theorem stringBody_escaped (chars rest : List Char) :
    stringBody (chars.flatMap escapeChar ++ '"' :: rest) = .done chars rest := by
  induction chars with
  | nil => exact stringBody_close
  | cons c chars ih =>
    rw [List.flatMap_cons, List.append_assoc, stringBody_escapeChar, ih]
    rfl

theorem stringLiteral_writeString (text : String) (rest : List Char) :
    stringLiteral (writeString text ++ rest) = .done text rest := by
  have read := stringBody_escaped text.toList rest
  simp [stringLiteral, writeString, read, Outcome.map]

/-! ## Texts on one line -/

/-- No control character among some characters. -/
def Solid (chars : List Char) : Prop := ∀ c ∈ chars, 0x20 ≤ c.toNat

instance (chars : List Char) : Decidable (Solid chars) := List.decidableBAll _ chars

@[simp] theorem solid_nil : Solid [] := fun _ member => nomatch member

@[simp] theorem solid_cons {c : Char} {rest : List Char} :
    Solid (c :: rest) ↔ 0x20 ≤ c.toNat ∧ Solid rest := List.forall_mem_cons

@[simp] theorem solid_append {left right : List Char} :
    Solid (left ++ right) ↔ Solid left ∧ Solid right := List.forall_mem_append

theorem digitChar_solid (digit : Nat) (bound : digit < 16) :
    0x20 ≤ (Nat.digitChar digit).toNat := by
  interval_cases digit <;> decide

theorem escapeChar_solid (c : Char) : Solid (escapeChar c) := by
  unfold escapeChar
  split_ifs with quote backslash feed carriage tab back form control
  on_goal 8 =>
    have high := digitChar_solid (c.toNat / 16) (by omega)
    have low := digitChar_solid (c.toNat % 16) (by omega)
    simp only [solid_cons, solid_nil, and_true]
    exact ⟨by decide, by decide, by decide, by decide, high, low⟩
  on_goal 8 => exact solid_cons.mpr ⟨Nat.le_of_not_lt control, solid_nil⟩
  all_goals simp only [solid_cons, solid_nil]; decide

theorem writeString_solid (text : String) : Solid (writeString text) := by
  rw [writeString, solid_cons, solid_append]
  refine ⟨by decide, ?_, by simp⟩
  intro written member
  obtain ⟨c, -, fromC⟩ := List.mem_flatMap.mp member
  exact escapeChar_solid c written fromC

/-- The characters of members that follow others. -/
def writeFollowing : List (String × Json) → List Char
  | [] => []
  | next :: others => ',' :: writeMembers (next :: others)

theorem writeMembers_cons (name : String) (value : Json) (others : List (String × Json)) :
    writeMembers ((name, value) :: others) =
      writeString name ++ (':' :: value.write) ++ writeFollowing others := by
  cases others with
  | nil => simp [writeMembers, writeFollowing]
  | cons next others => simp [writeMembers, writeFollowing]

theorem length_le_writeFollowing (members : List (String × Json)) :
    members.length ≤ (writeFollowing members).length := by
  induction members with
  | nil => simp
  | cons first others ih =>
    rw [writeFollowing, writeMembers_cons]
    simp only [List.length_cons, List.length_append]
    omega

theorem writeMembers_solid (members : List (String × Json))
    (values : ∀ member ∈ members, Solid member.2.write) : Solid (writeMembers members) := by
  induction members with
  | nil => simp [writeMembers]
  | cons first others ih =>
    obtain ⟨value, rest⟩ := List.forall_mem_cons.mp values
    have following : Solid (writeFollowing others) := by
      cases others with
      | nil => exact solid_nil
      | cons next others => exact solid_cons.mpr ⟨by decide, ih rest⟩
    rw [writeMembers_cons, solid_append, solid_append, solid_cons]
    exact ⟨⟨writeString_solid _, by decide, value⟩, following⟩

theorem object_solid (members : List (String × Json))
    (values : ∀ member ∈ members, Solid member.2.write) : Solid (Json.object members).write := by
  rw [write, solid_cons, solid_append]
  exact ⟨by decide, writeMembers_solid members values, by simp⟩

/-- Members that are all texts. -/
def textMembers (texts : List (String × String)) : List (String × Json) :=
  texts.map fun (name, text) => (name, .string text)

theorem texts_solid (texts : List (String × String)) :
    Solid (Json.object (textMembers texts)).write := by
  apply object_solid
  intro member among
  obtain ⟨⟨name, text⟩, -, rfl⟩ := List.mem_map.mp among
  exact writeString_solid text

/-! ## Reading what was written -/

namespace Reader

section Steps

variable {α β σ : Type} {text rest : List Char}

@[simp] theorem bind_apply (first : Reader α) (second : α → Reader β) (text : List Char) :
    (first >>= second) text = first.bind second text := rfl

theorem bind_done {first : Reader α} {second : α → Reader β} {value : α}
    (read : first text = .done value rest) : first.bind second text = second value rest := by
  rw [Reader.bind, read]

theorem map_apply (change : α → β) (reader : Reader α) (text : List Char) :
    (change <$> reader) text = (reader text).map change := by
  change reader.bind (fun value => pure (change value)) text = _
  rw [Reader.bind]
  cases reader text <;> rfl

@[simp] theorem colon_colon : colon (':' :: rest) = .done () rest := rfl

@[simp] theorem closeObject_close : closeObject ('\x7d' :: rest) = .done () rest := rfl

theorem enclosed_done (close : Reader Unit) {body : Reader α} {value : α} {inner : List Char}
    (read : body text = .done value inner) (closed : close inner = .done () rest) :
    enclosed close body text = .done value rest := by
  rw [enclosed, read]
  simp only [closed]

theorem objectOf_open (body : Reader α) :
    objectOf body ('\x7b' :: rest) = enclosed closeObject body rest := rfl

theorem membersFrom_first (member : σ → Reader σ) (fuel : Nat) (state : σ) (name : String) :
    membersFrom member (fuel + 1) true state (writeString name ++ rest) =
      (member state).bind (membersFrom member fuel false) (writeString name ++ rest) := rfl

theorem membersFrom_next (member : σ → Reader σ) (fuel : Nat) (state : σ) (name : String) :
    membersFrom member (fuel + 1) false state (',' :: (writeString name ++ rest)) =
      (member state).bind (membersFrom member fuel false) (writeString name ++ rest) := rfl

theorem membersFrom_close (member : σ → Reader σ) (fuel : Nat) (first : Bool) (state : σ) :
    membersFrom member (fuel + 1) first state ('\x7d' :: rest) =
      .done state ('\x7d' :: rest) := rfl

/-- A reader that takes a value and leaves nothing of its text reads the compact text. -/
theorem run_compact {reader : Reader α} {value : Json} {result : α}
    (read : reader value.write = .done result []) : reader.run value.compact = .ok result := by
  rw [run, compact, String.toList_ofList]
  simp only [bind_apply, bind_done read]
  rfl

end Steps

variable {rest : List Char}

theorem anyValue_string (array : Reader (List Json)) (object : Reader (List (String × Json)))
    (text : String) :
    anyValue array object (writeString text ++ rest) =
      (stringLiteral (writeString text ++ rest)).map Json.string := map_apply _ _ _

theorem anyValue_object (array : Reader (List Json)) (object : Reader (List (String × Json))) :
    anyValue array object ('\x7b' :: rest) = (object ('\x7b' :: rest)).map Json.object :=
  map_apply _ _ _

theorem value_text (room : Nat) (text : String) (rest : List Char) :
    value room (writeString text ++ rest) = .done (.string text) rest := by
  have read := stringLiteral_writeString text rest
  cases room with
  | zero => rw [value, anyValue_string, read]; rfl
  | succ room => rw [value, anyValue_string, read]; rfl

theorem member_text (room : Nat) (before : List (String × Json)) (name text : String)
    (rest : List Char) :
    member (value room) before (writeString name ++ ':' :: (writeString text ++ rest)) =
      .done (before ++ [(name, .string text)]) rest := by
  rw [member, bind_apply, bind_done (stringLiteral_writeString name _), bind_apply,
    bind_done colon_colon, bind_apply, bind_done (value_text room text rest)]
  rfl

theorem membersFrom_following (room fuel : Nat) (before : List (String × Json))
    (texts : List (String × String)) (enough : texts.length < fuel) (rest : List Char) :
    membersFrom (member (value room)) fuel false before
        (writeFollowing (textMembers texts) ++ '\x7d' :: rest) =
      .done (before ++ textMembers texts) ('\x7d' :: rest) := by
  induction texts generalizing before fuel with
  | nil =>
    obtain ⟨fuel, rfl⟩ := Nat.exists_eq_add_one_of_ne_zero (Nat.ne_of_gt enough)
    simpa [writeFollowing, textMembers] using membersFrom_close _ fuel false before
  | cons first texts ih =>
    obtain ⟨name, text⟩ := first
    obtain ⟨fuel, rfl⟩ :=
      Nat.exists_eq_add_one_of_ne_zero (Nat.ne_of_gt (Nat.zero_lt_of_lt enough))
    have read := member_text room before name text
      (writeFollowing (textMembers texts) ++ '\x7d' :: rest)
    have others := ih fuel (before ++ [(name, .string text)]) (Nat.lt_of_succ_lt_succ enough)
    have written : writeFollowing (textMembers ((name, text) :: texts)) ++ '\x7d' :: rest =
        ',' :: (writeString name ++ ':' :: (writeString text ++
          (writeFollowing (textMembers texts) ++ '\x7d' :: rest))) := by
      simp [textMembers, writeFollowing, writeMembers_cons, write]
    rw [written, membersFrom_next, bind_done read, others]
    simp [textMembers]

theorem members_texts (room : Nat) (texts : List (String × String)) (rest : List Char) :
    members (member (value room)) [] (writeMembers (textMembers texts) ++ '\x7d' :: rest) =
      .done (textMembers texts) ('\x7d' :: rest) := by
  cases texts with
  | nil => rfl
  | cons first texts =>
    obtain ⟨name, text⟩ := first
    have written : writeMembers (textMembers ((name, text) :: texts)) ++ '\x7d' :: rest =
        writeString name ++ ':' :: (writeString text ++
          (writeFollowing (textMembers texts) ++ '\x7d' :: rest)) := by
      simp [textMembers, writeMembers_cons, write]
    have enough := length_le_writeFollowing (textMembers texts)
    rw [members, written, membersFrom_first, bind_done (member_text room [] name text _),
      membersFrom_following]
    · simp [textMembers]
    · simp only [textMembers, List.length_map, List.length_append, List.length_cons] at enough ⊢
      omega

/-- An object of texts is read as it was written. -/
theorem value_texts (room : Nat) (texts : List (String × String)) (rest : List Char) :
    value (room + 1) ((Json.object (textMembers texts)).write ++ rest) =
      .done (.object (textMembers texts)) rest := by
  have inside := enclosed_done closeObject (members_texts room texts rest) closeObject_close
  have written : (Json.object (textMembers texts)).write ++ rest =
      '\x7b' :: (writeMembers (textMembers texts) ++ '\x7d' :: rest) := by
    simp [write]
  rw [written, value, anyValue_object, objectOf_open, inside]
  rfl

end Reader

end DspBridge.Json

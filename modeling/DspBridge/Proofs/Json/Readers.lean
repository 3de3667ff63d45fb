import DspBridge.Proofs.Json.Texts

/-!
# Running readers

What the basic readers do to a text, one step at a time, and how a reader that is done has been done
at each of its steps.
-/

namespace DspBridge.Json

theorem Outcome.map_eq_done_iff {α β : Type} {change : α → β} {outcome : Outcome α} {value : β}
    {rest : List Char} :
    outcome.map change = .done value rest ↔
      ∃ before, outcome = .done before rest ∧ change before = value := by
  cases outcome with
  | done before left =>
      simp only [Outcome.map, Outcome.done.injEq]
      constructor
      · rintro ⟨changed, rfl⟩
        exact ⟨before, ⟨rfl, rfl⟩, changed⟩
      · rintro ⟨_, ⟨rfl, rfl⟩, changed⟩
        exact ⟨changed, rfl⟩
  | failed failure => simp [Outcome.map]
  | refused cause left => simp [Outcome.map]

namespace Reader

section Steps

variable {α β : Type} {text rest : List Char}

@[simp] theorem peek_bind (next : Option Char → Reader α) :
    Reader.bind peek next text = next text.head? text := rfl

@[simp] theorem advance_bind (next : Unit → Reader α) :
    Reader.bind advance next text = next () text.tail := rfl

@[simp] theorem peekSolid_bind (next : Option Char → Reader α) :
    Reader.bind peekSolid next text =
      next (text.dropWhile isSpace).head? (text.dropWhile isSpace) := rfl

@[simp] theorem failNext_bind (cause : Cause) (next : β → Reader α) :
    Reader.bind (failNext cause) next text = .failed ⟨cause, text, 1⟩ := rfl

@[simp] theorem failNext_apply (cause : Cause) :
    (failNext cause : Reader α) text = .failed ⟨cause, text, 1⟩ := rfl

@[simp] theorem failHere_apply (cause : Cause) :
    (failHere cause : Reader α) text = .failed ⟨cause, text, 0⟩ := rfl

@[simp] theorem advance_apply : advance text = .done () text.tail := rfl

@[simp] theorem refuse_apply (cause : Cause) :
    (refuse cause : Reader α) text = .refused cause text := rfl

@[simp] theorem pure_apply (value : α) : (pure value : Reader α) text = .done value text := rfl

@[simp] theorem if_apply (condition : Prop) [Decidable condition] (yes no : Reader α) :
    (if condition then yes else no) text = if condition then yes text else no text := by
  split <;> rfl

/-- A reader is done after two steps if each of them is. -/
theorem bind_eq_done_iff {first : Reader α} {second : α → Reader β} {value : β} :
    first.bind second text = .done value rest ↔
      ∃ middle left, first text = .done middle left ∧ second middle left = .done value rest := by
  rw [Reader.bind]
  cases first text with
  | done middle left =>
      constructor
      · intro done
        exact ⟨middle, left, rfl, done⟩
      · rintro ⟨_, _, same, done⟩
        cases same
        exact done
  | failed failure => simp
  | refused cause left => simp

/-- A word is passed where it stands. -/
theorem word_eq_done_iff {letters : List Char} :
    word letters text = .done () rest ↔ text = letters ++ rest := by
  induction letters generalizing text with
  | nil => simp [word]
  | cons letter letters ih =>
      simp only [word, bind_apply, peek_bind]
      cases text with
      | nil => simp
      | cons c text =>
          simp only [List.head?_cons, if_apply, beq_iff_eq, bind_apply, advance_bind,
            List.tail_cons, failNext_apply, List.cons_append, List.cons.injEq]
          split
          next same => rw [ih]; simp [same]
          next other => simp [other]

end Steps

end Reader
end DspBridge.Json

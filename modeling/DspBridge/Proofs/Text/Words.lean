import DspBridge.Text.Blank

/-!
# Words of a text

A word is a text that is not empty and holds no blank.  All words of a text are words in this sense,
a word has no word but itself, and a blank between two texts keeps their words apart.
-/

namespace DspBridge.Text

/-- A text that is one word. -/
def IsWord (text : String) : Prop := text ≠ "" ∧ ∀ c ∈ text.toList, isBlank c = false

instance (text : String) : Decidable (IsWord text) :=
  decidable_of_iff (text ≠ "" ∧ (text.toList.all fun c => !isBlank c) = true)
    (by simp only [IsWord, List.all_eq_true, Bool.not_eq_true'])

/-- The characters of a word. -/
def Unbroken (chars : List Char) : Prop := chars ≠ [] ∧ ∀ c ∈ chars, isBlank c = false

theorem isWord_iff {text : String} : IsWord text ↔ Unbroken text.toList := by
  rw [IsWord, Unbroken, ne_eq, ne_eq, String.toList_eq_nil_iff]

theorem splitWords_unblank {c : Char} (rest : List Char) (unblank : isBlank c = false) :
    splitWords (c :: rest) = (c :: (splitWords rest).1, (splitWords rest).2) := by
  simp [splitWords, unblank]

theorem wordsOf_begun {chars : List Char} (begun : (splitWords chars).1 ≠ []) :
    wordsOf chars = (splitWords chars).1 :: (splitWords chars).2 := by
  simp [wordsOf, begun]

theorem splitWords_append_blank (left right : List Char) {c : Char} (blank : isBlank c = true) :
    splitWords (left ++ c :: right) =
        ((splitWords left).1, (splitWords left).2 ++ wordsOf right) ∧
      wordsOf (left ++ c :: right) = wordsOf left ++ wordsOf right := by
  induction left with
  | nil => exact ⟨splitWords_blank right blank, wordsOf_blank right blank⟩
  | cons first left ih =>
      obtain ⟨split, whole⟩ := ih
      rw [List.cons_append]
      cases unblank : isBlank first with
      | false =>
          have parted : splitWords (first :: (left ++ c :: right)) =
              (first :: (splitWords left).1, (splitWords left).2 ++ wordsOf right) := by
            rw [splitWords_unblank _ unblank, split]
          refine ⟨by rw [parted, splitWords_unblank _ unblank], ?_⟩
          rw [wordsOf_begun, wordsOf_begun, parted, splitWords_unblank _ unblank]
          · rfl
          · simp [splitWords_unblank _ unblank]
          · simp [parted]
      | true =>
          rw [splitWords_blank _ unblank, splitWords_blank _ unblank, wordsOf_blank _ unblank,
            wordsOf_blank _ unblank, whole]
          exact ⟨rfl, rfl⟩

/-- A blank keeps the words before it and those behind it apart. -/
theorem wordsOf_append_blank (left right : List Char) {c : Char} (blank : isBlank c = true) :
    wordsOf (left ++ c :: right) = wordsOf left ++ wordsOf right :=
  (splitWords_append_blank left right blank).2

theorem wordsOf_unbroken {chars : List Char} (word : Unbroken chars) : wordsOf chars = [chars] := by
  obtain ⟨present, unbroken⟩ := word
  have whole : splitWords chars = (chars, []) := by
    clear present
    induction chars with
    | nil => rfl
    | cons first rest ih =>
        obtain ⟨unblank, others⟩ := List.forall_mem_cons.mp unbroken
        rw [splitWords_unblank rest unblank, ih others]
  rw [wordsOf_begun, whole]
  rwa [whole]

/-- What a text begins with holds no blank, and what is cut off behind it are words. -/
theorem unbroken_splitWords (chars : List Char) :
    (∀ c ∈ (splitWords chars).1, isBlank c = false) ∧
      (∀ word ∈ (splitWords chars).2, Unbroken word) ∧
      ∀ word ∈ wordsOf chars, Unbroken word := by
  induction chars with
  | nil => exact ⟨nofun, nofun, nofun⟩
  | cons first rest ih =>
      obtain ⟨begins, others, all⟩ := ih
      cases unblank : isBlank first with
      | false =>
          have letters : ∀ c ∈ first :: (splitWords rest).1, isBlank c = false :=
            List.forall_mem_cons.mpr ⟨unblank, begins⟩
          have begun : (splitWords (first :: rest)).1 ≠ [] := by
            simp [splitWords_unblank rest unblank]
          rw [wordsOf_begun begun, splitWords_unblank rest unblank]
          exact ⟨letters, others,
            List.forall_mem_cons.mpr ⟨⟨List.cons_ne_nil _ _, letters⟩, others⟩⟩
      | true =>
          rw [splitWords_blank rest unblank, wordsOf_blank rest unblank]
          exact ⟨nofun, all, all⟩

/-- The words of a text are words. -/
theorem isWord_of_mem_words {text word : String} (member : word ∈ words text) : IsWord word := by
  obtain ⟨chars, found, rfl⟩ := List.mem_map.mp member
  rw [isWord_iff, String.toList_ofList]
  exact (unbroken_splitWords text.toList).2.2 chars found

theorem words_of_isWord {text : String} (word : IsWord text) : words text = [text] := by
  rw [words, wordsOf_unbroken (isWord_iff.mp word), List.map_singleton, String.ofList_toList]

/-- A space keeps the words before it and those behind it apart. -/
theorem words_append_space (left right : String) :
    words (left ++ " " ++ right) = words left ++ words right := by
  have parted := wordsOf_append_blank left.toList right.toList (c := ' ') (by decide)
  rw [words, String.toList_append, String.toList_append, List.append_assoc]
  exact (congrArg (List.map String.ofList) parted).trans List.map_append

end DspBridge.Text

import DspBridge.Proofs.Json.Rows

/-!
# Reading values of any kind

What a tree means as a value: literals mean numbers and texts if they mean anything, and brackets
may be nested to some depth only.
-/

namespace DspBridge.Json

open Reader

/-! ## Values -/

/-- A member means a name and a value. -/
inductive IsMember {α : Type} (Means : Tree → α → Prop) :
    List Char × Tree → String × α → Prop where
  | named {name : List Char} {tree : Tree} {text : String} {value : α} :
      Denotes name text.toList → Means tree value → IsMember Means (name, tree) (text, value)

/-- A tree means a value of any kind, if what stands in brackets means something. -/
inductive IsAny (Elements : List Tree → List Json → Prop)
    (Fields : List (List Char × Tree) → List (String × Json) → Prop) : Tree → Json → Prop where
  | null : IsAny Elements Fields .null .null
  | bool {value : Bool} : IsAny Elements Fields (.bool value) (.bool value)
  | number {literal : List Char} {value : Number} :
      numberLiteral literal = .done value [] →
      IsAny Elements Fields (.number literal) (.number value)
  | string {tree : Tree} {text : String} :
      IsText tree text → IsAny Elements Fields tree (.string text)
  | array {items : List Tree} {values : List Json} :
      Elements items values → IsAny Elements Fields (.array items) (.array values)
  | object {members : List (List Char × Tree)} {values : List (String × Json)} :
      Fields members values → IsAny Elements Fields (.object members) (.object values)

/-- A tree with at most `room` levels of brackets means a value. -/
def IsValue : (room : Nat) → Tree → Json → Prop
  | 0 => IsAny (fun _ _ => False) fun _ _ => False
  | room + 1 => IsAny (List.Forall₂ (IsValue room)) (List.Forall₂ (IsMember (IsValue room)))

section Any

variable {α : Type} {text rest tail : List Char} {value : Json} {array : Reader (List Json)}
  {object : Reader (List (String × Json))} {Elements : List Tree → List Json → Prop}
  {Fields : List (List Char × Tree) → List (String × Json) → Prop}

/-- How a value can begin, by its kind. -/
inductive Begins : Char → Prop where
  | word {tree : Tree} {c : Char} {letters : List Char} : tree.IsWord c letters → Begins c
  | number {c : Char} : startsNumber c = true → Begins c
  | string : Begins '"'
  | array : Begins '['
  | object : Begins '\x7b'

theorem anyValue_begins (done : anyValue array object text = .done value rest) :
    ∃ c tail, text.dropWhile isSpace = c :: tail ∧ Begins c := by
  simp only [anyValue, bind_apply, peekSolid_bind] at done
  cases split : text.dropWhile isSpace with
  | nil =>
      rw [split] at done
      cases done
  | cons c tail =>
      refine ⟨c, tail, rfl, ?_⟩
      by_contra never
      have null : c ≠ 'n' := fun same => never (same ▸ .word .null)
      have yes : c ≠ 't' := fun same => never (same ▸ .word .yes)
      have no : c ≠ 'f' := fun same => never (same ▸ .word .no)
      have digit : (c == '-' || c.isDigit) = false :=
        Bool.eq_false_iff.mpr fun starts => never (.number starts)
      have quote : c ≠ '"' := fun same => never (same ▸ .string)
      have bracket : c ≠ '[' := fun same => never (same ▸ .array)
      have brace : c ≠ '\x7b' := fun same => never (same ▸ .object)
      rw [split] at done
      simp only [List.head?_cons, if_apply, beq_iff_eq, null, yes, no, digit, quote, bracket, brace,
        Bool.false_eq_true, if_false] at done
      cases done

theorem word_bind_pure {letters : List Char} {found result : α} :
    (word letters).bind (fun _ => pure found) text = .done result rest ↔
      text = letters ++ rest ∧ found = result := by
  rw [bind_eq_done_iff]
  constructor
  · rintro ⟨_, _, passed, done⟩
    cases done
    exact ⟨word_eq_done_iff.mp passed, rfl⟩
  · rintro ⟨split, rfl⟩
    exact ⟨(), rest, word_eq_done_iff.mpr split, rfl⟩

variable (Elements Fields) in
/-- A tree that is written as a word means one value, which the word is read as. -/
theorem anyValue_word {tree : Tree} {c : Char} {letters : List Char}
    (known : tree.IsWord c letters) (split : text.dropWhile isSpace = c :: tail) :
    ∃ meant, (∀ value, IsAny Elements Fields tree value ↔ meant = value) ∧
      anyValue array object text = (word letters).bind (fun _ => pure meant) tail := by
  simp only [anyValue, bind_apply, peekSolid_bind, split]
  cases known with
  | null =>
      refine ⟨.null, fun value => ⟨?_, ?_⟩, rfl⟩
      · rintro (_ | _ | _ | ⟨⟨⟩⟩ | _ | _)
        rfl
      · rintro rfl
        exact .null
  | yes =>
      refine ⟨.bool true, fun value => ⟨?_, ?_⟩, rfl⟩
      · rintro (_ | _ | _ | ⟨⟨⟩⟩ | _ | _)
        rfl
      · rintro rfl
        exact .bool
  | no =>
      refine ⟨.bool false, fun value => ⟨?_, ?_⟩, rfl⟩
      · rintro (_ | _ | _ | ⟨⟨⟩⟩ | _ | _)
        rfl
      · rintro rfl
        exact .bool

variable (Elements Fields) in
theorem anyValue_word_iff {tree : Tree} {c : Char} {letters : List Char}
    (known : tree.IsWord c letters) (split : text.dropWhile isSpace = c :: tail) :
    anyValue array object text = .done value rest ↔
      tree.Leads text rest ∧ IsAny Elements Fields tree value := by
  obtain ⟨meant, means, read⟩ := anyValue_word Elements Fields known split
  rw [read, word_bind_pure, means, known.leads_iff, split, List.cons.injEq, and_iff_right rfl]

theorem anyValue_number {c : Char} (starts : startsNumber c = true)
    (split : text.dropWhile isSpace = c :: tail) :
    anyValue array object text = (numberLiteral (c :: tail)).map Json.number := by
  have sign : (c == '-' || c.isDigit) = true := starts
  have null : c ≠ 'n' := ne_of_test starts rfl
  have true : c ≠ 't' := ne_of_test starts rfl
  have false : c ≠ 'f' := ne_of_test starts rfl
  simp only [anyValue, bind_apply, peekSolid_bind, split, List.head?_cons, if_apply, beq_iff_eq,
    null, true, false, sign, if_true, if_false, map_apply]

theorem anyValue_number_iff {c : Char} (stops : Stops rest) (starts : startsNumber c = true)
    (split : text.dropWhile isSpace = c :: tail) :
    anyValue array object text = .done value rest ↔
      ∃ literal number, (Tree.number literal).Leads text rest ∧
        numberLiteral literal = .done number [] ∧ Json.number number = value := by
  simp only [anyValue_number starts split, Outcome.map_eq_done_iff, numberLiteral_eq_done_iff stops,
    Tree.leads_number_iff, split]
  constructor
  · rintro ⟨number, ⟨literal, shape, alone, whole⟩, rfl⟩
    exact ⟨literal, number, ⟨shape, whole⟩, alone, rfl⟩
  · rintro ⟨literal, number, ⟨shape, whole⟩, alone, rfl⟩
    exact ⟨number, ⟨literal, shape, alone, whole⟩, rfl⟩

theorem anyValue_string_iff (stops : Stops rest) (split : text.dropWhile isSpace = '"' :: tail) :
    anyValue array object text = .done value rest ↔
      ∃ tree string, tree.Leads text rest ∧ IsText tree string ∧ Json.string string = value := by
  have read : anyValue array object text = (Reader.string "" text).map Json.string := by
    rw [string_quoted "" split]
    simp only [anyValue, bind_apply, peekSolid_bind, split, List.head?_cons]
    exact map_apply _ _ _
  rw [read, Outcome.map_eq_done_iff]
  constructor
  · rintro ⟨string, done, rfl⟩
    obtain ⟨tree, leads, meant⟩ := (reads_string "" _ _ _ stops).mp done
    exact ⟨tree, string, leads, meant, rfl⟩
  · rintro ⟨tree, string, leads, meant, rfl⟩
    exact ⟨string, (reads_string "" _ _ _ stops).mpr ⟨tree, leads, meant⟩, rfl⟩

theorem anyValue_array_iff (items : ReadsItems array Elements)
    (split : text.dropWhile isSpace = '[' :: tail) :
    anyValue array object text = .done value rest ↔
      ∃ trees values, (Tree.array trees).Leads text rest ∧ Elements trees values ∧
        Json.array values = value := by
  have read : anyValue array object text = (array ('[' :: tail)).map Json.array := by
    simp only [anyValue, bind_apply, peekSolid_bind, split, List.head?_cons]
    exact map_apply _ _ _
  simp only [read, Outcome.map_eq_done_iff, items _ _ _, Tree.leads_array_iff, split,
    List.cons.injEq, true_and]
  constructor
  · rintro ⟨values, ⟨trees, inside, row, whole, meant⟩, rfl⟩
    exact ⟨trees, values, ⟨inside, row, whole⟩, meant, rfl⟩
  · rintro ⟨trees, values, ⟨inside, row, whole⟩, meant, rfl⟩
    exact ⟨values, ⟨trees, inside, row, whole, meant⟩, rfl⟩

theorem anyValue_object_iff (members : ReadsMembers object Fields)
    (split : text.dropWhile isSpace = '\x7b' :: tail) :
    anyValue array object text = .done value rest ↔
      ∃ entries values, (Tree.object entries).Leads text rest ∧ Fields entries values ∧
        Json.object values = value := by
  have read : anyValue array object text = (object ('\x7b' :: tail)).map Json.object := by
    simp only [anyValue, bind_apply, peekSolid_bind, split, List.head?_cons]
    exact map_apply _ _ _
  simp only [read, Outcome.map_eq_done_iff, members _ _ _, Tree.leads_object_iff, split,
    List.cons.injEq, true_and]
  constructor
  · rintro ⟨values, ⟨entries, inside, row, whole, meant⟩, rfl⟩
    exact ⟨entries, values, ⟨inside, row, whole⟩, meant, rfl⟩
  · rintro ⟨entries, values, ⟨inside, row, whole⟩, meant, rfl⟩
    exact ⟨values, ⟨entries, inside, row, whole, meant⟩, rfl⟩

theorem reads_anyValue (items : ReadsItems array Elements) (members : ReadsMembers object Fields) :
    Reads (anyValue array object) (IsAny Elements Fields) := by
  intro text value rest stops
  constructor
  · intro done
    obtain ⟨c, tail, split, begins⟩ := anyValue_begins done
    cases begins with
    | word known => exact ⟨_, (anyValue_word_iff Elements Fields known split).mp done⟩
    | number starts =>
        obtain ⟨literal, number, leads, alone, rfl⟩ :=
          (anyValue_number_iff stops starts split).mp done
        exact ⟨_, leads, .number alone⟩
    | string =>
        obtain ⟨tree, string, leads, meant, rfl⟩ := (anyValue_string_iff stops split).mp done
        exact ⟨tree, leads, .string meant⟩
    | array =>
        obtain ⟨trees, values, leads, meant, rfl⟩ := (anyValue_array_iff items split).mp done
        exact ⟨_, leads, .array meant⟩
    | object =>
        obtain ⟨entries, values, leads, meant, rfl⟩ := (anyValue_object_iff members split).mp done
        exact ⟨_, leads, .object meant⟩
  · rintro ⟨tree, leads, meant⟩
    obtain ⟨c, tail, split, opens⟩ := leads.opens
    cases meant with
    | null => exact (anyValue_word_iff Elements Fields .null (opens ▸ split)).mpr ⟨leads, .null⟩
    | @bool value =>
        cases value with
        | true => exact (anyValue_word_iff Elements Fields .yes (opens ▸ split)).mpr ⟨leads, .bool⟩
        | false => exact (anyValue_word_iff Elements Fields .no (opens ▸ split)).mpr ⟨leads, .bool⟩
    | number alone => exact (anyValue_number_iff stops opens split).mpr ⟨_, _, leads, alone, rfl⟩
    | string meant =>
        cases id meant
        exact (anyValue_string_iff stops (opens ▸ split)).mpr ⟨_, _, leads, meant, rfl⟩
    | array meant =>
        exact (anyValue_array_iff items (opens ▸ split)).mpr ⟨_, _, leads, meant, rfl⟩
    | object meant =>
        exact (anyValue_object_iff members (opens ▸ split)).mpr ⟨_, _, leads, meant, rfl⟩

end Any

/-! ## Members -/

section Members

variable {text rest : List Char}

theorem stringLiteral_eq_done_iff {name : String} :
    stringLiteral ('"' :: text) = .done name rest ↔
      ∃ body, Denotes body name.toList ∧ text = body ++ '"' :: rest := by
  rw [stringLiteral, List.tail_cons, Outcome.map_eq_done_iff]
  constructor
  · rintro ⟨chars, read, rfl⟩
    rw [String.toList_ofList]
    exact stringBody_eq_done_iff.mp read
  · intro denoted
    exact ⟨name.toList, stringBody_eq_done_iff.mpr denoted, String.ofList_toList⟩

/-- A member whose name stands for a text is read as the name, a colon and the value. -/
theorem memberLeads_named_iff {name : String} {tree : Tree} :
    (∃ body, Denotes body name.toList ∧ MemberLeads (body, tree) ('"' :: text) rest) ↔
      ∃ behind follows, stringLiteral ('"' :: text) = .done name behind ∧
        colon behind = .done () follows ∧ tree.Leads follows rest := by
  simp only [memberLeads_iff, stringLiteral_eq_done_iff, colon_eq_done_iff]
  constructor
  · rintro ⟨body, denotes, -, behind, follows, split, colonStands, leads⟩
    exact ⟨behind, follows, ⟨body, denotes, (List.cons.inj split).2⟩, colonStands, leads⟩
  · rintro ⟨behind, follows, ⟨body, denotes, rfl⟩, colonStands, leads⟩
    exact ⟨body, denotes, denotes.isBody, behind, follows, rfl, colonStands, leads⟩

theorem readsMember_member {value : Reader Json} {Means : Tree → Json → Prop}
    (reads : Reads value Means) :
    ReadsMember (Reader.member value) fun entry before after =>
      ∃ named, IsMember Means entry named ∧ after = before ++ [named] := by
  intro before text after rest stops
  rw [Reader.member]
  constructor
  · intro done
    obtain ⟨name, behind, nameRead, continued⟩ := bind_eq_done_iff.mp done
    obtain ⟨_, follows, colonPassed, continued⟩ := bind_eq_done_iff.mp continued
    obtain ⟨found, _, valueRead, last⟩ := bind_eq_done_iff.mp continued
    cases last
    obtain ⟨tree, leads, meant⟩ := (reads _ _ _ stops).mp valueRead
    obtain ⟨body, denotes, leads⟩ :=
      memberLeads_named_iff.mpr ⟨behind, follows, nameRead, colonPassed, leads⟩
    exact ⟨(body, tree), leads, (name, found), .named denotes meant, rfl⟩
  · rintro ⟨⟨body, tree⟩, leads, ⟨name, found⟩, ⟨denotes, meant⟩, rfl⟩
    obtain ⟨behind, follows, nameRead, colonPassed, leads⟩ :=
      memberLeads_named_iff.mp ⟨body, denotes, leads⟩
    have valueRead := (reads _ _ _ stops).mpr ⟨tree, leads, meant⟩
    rw [bind_apply, bind_done nameRead, bind_apply, bind_done colonPassed, bind_apply,
      bind_done valueRead]
    rfl

/-- Values that are put behind one another make up a list. -/
theorem folds_append_iff {α : Type} {values before after : List α} :
    Folds (fun value before after => after = before ++ [value]) values before after ↔
      after = before ++ values := by
  induction values generalizing before with
  | nil =>
      rw [List.append_nil]
      constructor
      · rintro ⟨⟩
        rfl
      · rintro rfl
        exact .done
  | cons value values ih =>
      rw [List.append_cons, ← ih]
      constructor
      · rintro (_ | ⟨rfl, folds⟩)
        exact folds
      · exact .step rfl

theorem readsMembers_values {value : Reader Json} {Means : Tree → Json → Prop}
    (reads : Reads value Means) :
    ReadsMembers (objectOf (Reader.members (Reader.member value) []))
      (List.Forall₂ (IsMember Means)) := by
  intro text values rest
  rw [readsMembers_members (readsMember_member reads)]
  simp only [folds_meant_iff, folds_append_iff, List.nil_append, exists_eq_right']

end Members

/-- The reader of values takes what means a value, to the depth that is left. -/
theorem reads_value (room : Nat) : Reads (Reader.value room) (IsValue room) := by
  induction room with
  | zero => exact reads_anyValue (readsItems_fail _) (readsMembers_fail _)
  | succ room ih => exact reads_anyValue (readsItems_items ih) (readsMembers_values ih)

/-! ## Whole texts -/

/-- A text holds a value: a tree that means the value stands in it, with nothing but blanks around
and with brackets no deeper than a reader follows them. -/
def Holds (text : String) (value : Json) : Prop :=
  ∃ tree rest, tree.Leads text.toList rest ∧ Blanks rest ∧ IsValue depthLimit tree value

theorem parse_eq_ok_iff {text : String} {value : Json} : parse text = .ok value ↔ Holds text value :=
  run_eq_ok_iff (reads_value depthLimit)

/-- A text holds one value at most. -/
theorem Holds.unique {text : String} {value other : Json} (holds : Holds text value)
    (too : Holds text other) : value = other := by
  rw [← parse_eq_ok_iff] at holds too
  rw [holds, Except.ok.injEq] at too
  exact too

theorem isValue_string_iff {room : Nat} {tree : Tree} {text : String} :
    IsValue room tree (.string text) ↔ IsText tree text := by
  cases room <;>
    constructor <;>
    intro meant
  case zero.mp | succ.mp =>
    cases meant with
    | string written => exact written
  case zero.mpr | succ.mpr => exact .string meant

end DspBridge.Json

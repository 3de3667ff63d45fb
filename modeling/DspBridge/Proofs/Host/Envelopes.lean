import DspBridge.Host.Message
import DspBridge.Proofs.Json.Records

/-!
# Opening envelopes

The first of the two steps in which a message is read, said of values and not of texts: the type of
the message is set apart from its content.  The member that names the type has to be the only one of
its name; where it stands among the others does not matter, nor what they are.
-/

namespace DspBridge.Host

open Json Json.Reader

/-! ## Members of a name -/

/-- The values of all members of a name, in order. -/
def valuesAt (name : String) (members : List (String × Json)) : List Json :=
  (members.filter fun member => member.1 == name).map Prod.snd

/-- An object has one member of a name, with this value. -/
def Sole (members : List (String × Json)) (name : String) (value : Json) : Prop :=
  valuesAt name members = [value]

theorem Sole.unique {members : List (String × Json)} {name : String} {value other : Json}
    (sole : Sole members name value) (too : Sole members name other) : value = other :=
  List.head_eq_of_cons_eq (sole.symm.trans too)

section ValuesAt

variable {name other : String} {value : Json} {members : List (String × Json)}

@[simp] theorem valuesAt_nil : valuesAt name [] = [] := rfl

theorem valuesAt_self :
    valuesAt name ((name, value) :: members) = value :: valuesAt name members := by
  simp [valuesAt]

theorem valuesAt_other (different : other ≠ name) :
    valuesAt name ((other, value) :: members) = valuesAt name members := by
  simp [valuesAt, different]

end ValuesAt

/-- A place is filled by the only value that is there for it, or is left as it was. -/
inductive Fills {α : Type} (Means : Json → α → Prop) : List Json → Option α → Option α → Prop where
  | kept {held : Option α} : Fills Means [] held held
  | filled {value : Json} {meaning : α} :
      Means value meaning → Fills Means [value] none (some meaning)

section Fills

variable {α : Type} {Means : Json → α → Prop} {value : Json} {values : List Json}
  {held final : Option α}

theorem fills_nil_iff : Fills Means [] held final ↔ held = final := by
  constructor
  · intro fills
    cases fills
    rfl
  · rintro rfl
    exact .kept

/-- A place that has been filled is not filled again. -/
theorem fills_cons_iff :
    Fills Means (value :: values) held final ↔
      held = none ∧ ∃ meaning, Means value meaning ∧ Fills Means values (some meaning) final := by
  constructor
  · intro fills
    cases fills with
    | filled means => exact ⟨rfl, _, means, .kept⟩
  · rintro ⟨rfl, _, means, fills⟩
    cases fills with
    | kept => exact .filled means

/-- A place that was empty and is not any more has been filled by the only value for it. -/
theorem fills_some_iff {meaning : α} :
    Fills Means values none (some meaning) ↔ ∃ value, values = [value] ∧ Means value meaning := by
  constructor
  · intro fills
    cases fills with
    | filled means => exact ⟨_, rfl, means⟩
  · rintro ⟨_, rfl, means⟩
    exact .filled means

end Fills

/-! ## Types and contents -/

/-- What is left of an object when its type is set apart. -/
def untyped (members : List (String × Json)) : List (String × Json) :=
  members.filter fun member => member.1 != typeField

/-- A value that names a type. -/
def Names (value : Json) (kind : String) : Prop := value = .string kind

/-- A value is opened to an envelope: its type is the only member of that name, or the first
item. -/
inductive Opens : Json → Envelope String → Prop where
  | object {members : List (String × Json)} {kind : String} :
      Sole members typeField (.string kind) →
      Opens (.object members) ⟨kind, .object (untyped members)⟩
  | array {kind : String} {others : List Json} :
      Opens (.array (.string kind :: others)) ⟨kind, .array others⟩

/-- A member of an envelope is its type, which comes once, or is kept with its name. -/
inductive Sorts : String × Json → Option String × List (String × Json) →
    Option String × List (String × Json) → Prop where
  | type {value : Json} {kind : String} {others : List (String × Json)} :
      Names value kind → Sorts (typeField, value) (none, others) (some kind, others)
  | other {name : String} {value : Json} {found : Option String} {others : List (String × Json)} :
      name ≠ typeField → Sorts (name, value) (found, others) (found, others ++ [(name, value)])

/-- Sorted one after another, the members give the type by the only one that names it, and the
others in their order. -/
theorem folds_sorts_iff {members before after : List (String × Json)} {found last : Option String} :
    Folds Sorts members (found, before) (last, after) ↔
      Fills Names (valuesAt typeField members) found last ∧ after = before ++ untyped members := by
  induction members generalizing found before with
  | nil =>
      rw [valuesAt_nil, fills_nil_iff, untyped, List.filter_nil, List.append_nil]
      constructor
      · intro folds
        cases folds
        exact ⟨rfl, rfl⟩
      · rintro ⟨rfl, rfl⟩
        exact .done
  | cons member members ih =>
      obtain ⟨name, value⟩ := member
      by_cases isType : name = typeField
      · subst isType
        have dropped : untyped ((typeField, value) :: members) = untyped members := by
          simp [untyped]
        rw [valuesAt_self, fills_cons_iff, dropped]
        constructor
        · intro folds
          cases folds with
          | step step folds =>
              cases step with
              | type names =>
                  obtain ⟨fills, kept⟩ := ih.mp folds
                  exact ⟨⟨rfl, _, names, fills⟩, kept⟩
              | other different => exact absurd rfl different
        · rintro ⟨⟨rfl, kind, names, fills⟩, kept⟩
          exact .step (.type names) (ih.mpr ⟨fills, kept⟩)
      · have kept : untyped ((name, value) :: members) = (name, value) :: untyped members := by
          simp [untyped, isType]
        rw [valuesAt_other isType, kept, List.append_cons, ← ih]
        constructor
        · intro folds
          cases folds with
          | step step folds =>
              cases step with
              | type => exact absurd rfl isType
              | other => exact folds
        · exact .step (.other isType)

section Reading

theorem reads_typeName (room : Nat) : Reads typeName fun tree kind => IsValue room tree (.string kind) :=
  (reads_string _).congr fun _ _ => isValue_string_iff.symm

theorem readsMember_envelopeMember (room : Nat) :
    ReadsMember (envelopeMember typeName (Json.Reader.value room)) fun entry before after =>
      ∃ named, IsMember (IsValue room) entry named ∧ Sorts named before after := by
  rintro ⟨found, others⟩ text after rest stops
  rw [envelopeMember]
  constructor
  · intro done
    obtain ⟨name, behind, nameRead, continued⟩ := bind_eq_done_iff.mp done
    rw [if_apply] at continued
    split at continued
    next isType =>
      rw [beq_iff_eq] at isType
      subst isType
      cases found with
      | some kind => cases continued
      | none =>
          obtain ⟨_, follows, colonPassed, continued⟩ := bind_eq_done_iff.mp continued
          obtain ⟨kind, _, valueRead, last⟩ := bind_eq_done_iff.mp continued
          cases last
          obtain ⟨tree, leads, meant⟩ := (reads_typeName room _ _ _ stops).mp valueRead
          obtain ⟨body, denotes, leads⟩ :=
            memberLeads_named_iff.mpr ⟨behind, follows, nameRead, colonPassed, leads⟩
          exact ⟨(body, tree), leads, (typeField, .string kind), .named denotes meant, .type rfl⟩
    next isOther =>
      rw [beq_iff_eq] at isOther
      obtain ⟨_, follows, colonPassed, continued⟩ := bind_eq_done_iff.mp continued
      obtain ⟨value, _, valueRead, last⟩ := bind_eq_done_iff.mp continued
      cases last
      obtain ⟨tree, leads, meant⟩ := (reads_value room _ _ _ stops).mp valueRead
      obtain ⟨body, denotes, leads⟩ :=
        memberLeads_named_iff.mpr ⟨behind, follows, nameRead, colonPassed, leads⟩
      exact ⟨(body, tree), leads, (name, value), .named denotes meant, .other isOther⟩
  · rintro ⟨⟨body, tree⟩, leads, ⟨name, value⟩, ⟨denotes, meant⟩, sorts⟩
    obtain ⟨behind, follows, nameRead, colonPassed, leads⟩ :=
      memberLeads_named_iff.mp ⟨body, denotes, leads⟩
    rw [bind_apply, bind_done nameRead]
    cases sorts with
    | type names =>
        obtain rfl := names
        have valueRead := (reads_typeName room _ _ _ stops).mpr ⟨tree, leads, meant⟩
        simp only [beq_self_eq_true, if_true]
        rw [bind_apply, bind_done colonPassed, bind_apply, bind_done valueRead]
        rfl
    | other different =>
        have valueRead := (reads_value room _ _ _ stops).mpr ⟨tree, leads, meant⟩
        simp only [beq_iff_eq, different, if_false]
        rw [bind_apply, bind_done colonPassed, bind_apply, bind_done valueRead]
        rfl

/-- The envelope that sorted members make up, if their type has been found. -/
def sealed (state : Option String × List (String × Json)) : Json.Reader (Envelope String) :=
  match state.1 with
  | none => refuse (.missingField typeField)
  | some kind => pure ⟨kind, .object state.2⟩

/-- A type has been found among members, and what is left of them is the content. -/
def Seals (state : Option String × List (String × Json)) (result : Envelope String) : Prop :=
  ∃ kind, state.1 = some kind ∧ result = ⟨kind, .object state.2⟩

theorem sealed_eq_done_iff (state : Option String × List (String × Json)) (text : List Char)
    (result : Envelope String) (rest : List Char) :
    sealed state text = .done result rest ↔ rest = text ∧ Seals state result := by
  obtain ⟨found, others⟩ := state
  cases found with
  | none => simp [sealed, Seals]
  | some kind => simp [sealed, Seals, and_comm, eq_comm]

theorem folds_sealed_iff {members : List (String × Json)} {result : Envelope String} :
    (∃ state, Folds Sorts members (none, []) state ∧ Seals state result) ↔
      Opens (.object members) result := by
  constructor
  · rintro ⟨⟨_, others⟩, folds, kind, rfl, rfl⟩
    obtain ⟨fills, rfl⟩ := folds_sorts_iff.mp folds
    obtain ⟨_, sole, rfl⟩ := fills_some_iff.mp fills
    exact .object sole
  · intro opens
    cases opens with
    | object sole =>
        have fills : Fills Names _ none _ := fills_some_iff.mpr ⟨_, sole, rfl⟩
        exact ⟨(some _, untyped members), folds_sorts_iff.mpr ⟨fills, rfl⟩, _, rfl, rfl⟩

theorem envelopeMembers_eq (value : Json.Reader Json) :
    envelopeMembers typeName value =
      members (envelopeMember typeName value) (none, []) >>= sealed := by
  rw [envelopeMembers]
  congr 1
  funext state
  obtain ⟨_ | kind, others⟩ := state <;> rfl

theorem readsMembers_envelope (room : Nat) :
    ReadsMembers (objectOf (envelopeMembers typeName (Json.Reader.value room)))
      fun members result => ∃ values, List.Forall₂ (IsMember (IsValue room)) members values ∧
        Opens (.object values) result := by
  intro text result rest
  rw [envelopeMembers_eq, readsMembers_bind (readsMembers_members (readsMember_envelopeMember room))
    sealed_eq_done_iff]
  simp only [folds_meant_iff, ← folds_sealed_iff]
  constructor
  · rintro ⟨members, inside, row, whole, state, ⟨values, meant, folds⟩, ended⟩
    exact ⟨members, inside, row, whole, values, meant, state, folds, ended⟩
  · rintro ⟨members, inside, row, whole, values, meant, state, folds, ended⟩
    exact ⟨members, inside, row, whole, state, ⟨values, meant, folds⟩, ended⟩

/-- What follows the type in an array. -/
theorem readsRow_others (room : Nat) (kind : String) :
    ReadsRow false
      (items (Json.Reader.value room) false >>= fun others => pure ⟨kind, .array others⟩)
      fun trees (result : Envelope String) =>
        ∃ others, List.Forall₂ (IsValue room) trees others ∧ result = ⟨kind, .array others⟩ :=
  (readsRow_items (reads_value room)).bind_pure _

theorem readsItems_envelope (room : Nat) :
    ReadsItems (arrayOf (envelopeItems typeName (Json.Reader.value room)))
      fun trees result => ∃ values, List.Forall₂ (IsValue room) trees values ∧
        Opens (.array values) result := by
  apply readsItems_row
  intro text result rest
  rw [envelopeItems]
  constructor
  · rintro ⟨closing, done, closed⟩
    obtain ⟨more, left, looked, continued⟩ := bind_eq_done_iff.mp done
    cases hasItem_sound looked with
    | inl none =>
        obtain ⟨rfl, -⟩ := none
        cases continued
    | inr some =>
        obtain ⟨rfl, behind⟩ := some
        obtain ⟨trees, inside, row, whole, meant⟩ :=
          leading_of_read (reads_typeName room) (readsRow_others room) behind
            ⟨closing, continued, closed⟩
        cases meant with
        | item means others =>
            obtain ⟨values, meant, rfl⟩ := others
            exact ⟨_, inside, row, whole, _, .cons means meant, .array⟩
  · rintro ⟨trees, inside, row, rfl, values, meant, opens⟩
    cases opens with
    | array =>
        obtain ⟨tree, trees, means, others, rfl⟩ := List.forall₂_cons_right_iff.mp meant
        obtain ⟨left, closing, looked, done, closed⟩ :=
          read_of_leading (reads_typeName room) (readsRow_others room) row
            (.item means ⟨_, others, rfl⟩) rest
        exact ⟨closing, (bind_done looked).trans done, closed⟩

end Reading

/-- The envelope of a message is what the value that the text holds is opened to. -/
theorem envelope_run_eq_ok_iff {expected text : String} {result : Envelope String} :
    (envelope expected typeName).run text = .ok result ↔
      ∃ value, Holds text value ∧ Opens value result := by
  have reads : Reads (envelope expected typeName) _ :=
    reads_record expected (readsItems_envelope (depthLimit - 1))
      (readsMembers_envelope (depthLimit - 1))
  rw [run_eq_ok_iff reads]
  constructor
  · rintro ⟨tree, rest, leads, blank, record⟩
    cases record with
    | array meant =>
        obtain ⟨values, meant, opens⟩ := meant
        exact ⟨.array values, ⟨_, rest, leads, blank, .array meant⟩, opens⟩
    | object meant =>
        obtain ⟨values, meant, opens⟩ := meant
        exact ⟨.object values, ⟨_, rest, leads, blank, .object meant⟩, opens⟩
  · rintro ⟨value, ⟨tree, rest, leads, blank, isValue⟩, opens⟩
    rw [depthLimit, IsValue] at isValue
    cases isValue with
    | array meant => exact ⟨_, rest, leads, blank, .array ⟨_, meant, opens⟩⟩
    | object meant => exact ⟨_, rest, leads, blank, .object ⟨_, meant, opens⟩⟩
    | null | bool | number | string => cases opens

end DspBridge.Host

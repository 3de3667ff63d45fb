import DspBridge.Proofs.Host.Envelopes

/-!
# Decoding contents

The second of the two steps in which a message is read.  Of an object only the members of known names
are decoded, each of which may come once.  What an array holds is told by position, and it holds
nothing more.
-/

namespace DspBridge.Host

open Json

theorem bind_eq_ok_iff {ε α β : Type} {first : Except ε α} {next : α → Except ε β} {value : β} :
    (first >>= next) = .ok value ↔ ∃ found, first = .ok found ∧ next found = .ok value := by
  cases first with
  | error failure => simp [bind, Except.bind]
  | ok found => simp [bind, Except.bind]

theorem pure_eq_ok_iff {ε α : Type} {found value : α} :
    (pure found : Except ε α) = .ok value ↔ value = found :=
  Except.ok.injEq found value ▸ eq_comm

theorem map_eq_ok_iff {ε α β : Type} {result : Except ε α} {change : α → β} {value : β} :
    change <$> result = .ok value ↔ ∃ found, result = .ok found ∧ value = change found := by
  cases result with
  | error failure => simp [Functor.map, Except.map]
  | ok found => simp [Functor.map, Except.map, eq_comm]

/-! ## Members of known names -/

/-- States in which something may be held under each known name, and nothing else is. -/
structure Store (known : List String) (σ α : Type) where
  held : String → σ → Option α
  put : String → α → σ → σ
  held_put {name : String} (meaning : α) (state : σ) :
    name ∈ known → held name (put name meaning state) = some meaning
  held_put_other {name other : String} (meaning : α) (state : σ) :
    name ∈ known → other ∈ known → other ≠ name →
    held other (put name meaning state) = held other state
  ext {first second : σ} : (∀ name ∈ known, held name first = held name second) → first = second

section Members

variable {σ α : Type} {known seen : List String} {Means : Json → α → Prop}
  {decode : String → Json → σ → Except Cause σ} {members : List (String × Json)} {state final : σ}

/-- Members of known names are decoded to what they mean, which is put under their names. -/
def Decodes (store : Store known σ α) (decode : String → Json → σ → Except Cause σ)
    (Means : Json → α → Prop) : Prop :=
  ∀ name ∈ known, ∀ value state next, decode name value state = .ok next ↔
    ∃ meaning, Means value meaning ∧ next = store.put name meaning state

/-- A member of a known name fills the place of its name and leaves the other places alone. -/
theorem fills_put_iff (store : Store known σ α) {name : String} {value : Json}
    (isKnown : name ∈ known) (vacant : store.held name state = none) :
    (∃ meaning, Means value meaning ∧ ∀ other ∈ known,
        Fills Means (valuesAt other members) (store.held other (store.put name meaning state))
          (store.held other final)) ↔
      ∀ other ∈ known, Fills Means (valuesAt other ((name, value) :: members))
        (store.held other state) (store.held other final) := by
  constructor
  · rintro ⟨meaning, means, filled⟩ other otherKnown
    have fills := filled other otherKnown
    by_cases same : other = name
    · subst same
      rw [store.held_put meaning state isKnown] at fills
      rw [valuesAt_self, fills_cons_iff]
      exact ⟨vacant, meaning, means, fills⟩
    · rw [store.held_put_other meaning state isKnown otherKnown same] at fills
      rwa [valuesAt_other (Ne.symm same)]
  · intro filled
    have fills := filled name isKnown
    rw [valuesAt_self, fills_cons_iff] at fills
    obtain ⟨-, meaning, means, fills⟩ := fills
    refine ⟨meaning, means, fun other otherKnown => ?_⟩
    by_cases same : other = name
    · subst same
      rwa [store.held_put meaning state isKnown]
    · have kept := filled other otherKnown
      rw [valuesAt_other (Ne.symm same)] at kept
      rwa [store.held_put_other meaning state isKnown otherKnown same]

/-- Members are decoded if under each known name there is one value at most, which means something;
that is then held there. -/
theorem decodeMembers_eq_ok_iff (store : Store known σ α) (decodes : Decodes store decode Means)
    (held : ∀ name ∈ known, name ∈ seen ↔ store.held name state ≠ none) :
    decodeMembers known decode seen state members = .ok final ↔
      ∀ name ∈ known,
        Fills Means (valuesAt name members) (store.held name state) (store.held name final) := by
  induction members generalizing seen state with
  | nil =>
      simp only [decodeMembers, Except.ok.injEq, valuesAt_nil, fills_nil_iff]
      constructor
      · intro same name _
        rw [same]
      · exact store.ext
  | cons member members ih =>
      obtain ⟨name, value⟩ := member
      rw [decodeMembers]
      by_cases isKnown : name ∈ known
      · rw [if_pos (List.contains_iff_mem.mpr isKnown)]
        by_cases before : name ∈ seen
        · rw [if_pos (List.contains_iff_mem.mpr before)]
          constructor
          · intro failed
            cases failed
          · intro filled
            have fills := filled name isKnown
            rw [valuesAt_self, fills_cons_iff] at fills
            exact absurd fills.1 ((held name isKnown).mp before)
        · have vacant : store.held name state = none := by
            by_contra present
            exact before ((held name isKnown).mpr present)
          rw [if_neg (mt List.contains_iff_mem.mp before), bind_eq_ok_iff,
            ← fills_put_iff store isKnown vacant]
          simp only [decodes name isKnown]
          have heldNext (meaning : α) (other : String) (otherKnown : other ∈ known) :
              other ∈ name :: seen ↔ store.held other (store.put name meaning state) ≠ none := by
            by_cases same : other = name
            · subst same
              simp [store.held_put meaning state isKnown]
            · rw [store.held_put_other meaning state isKnown otherKnown same,
                ← held other otherKnown, List.mem_cons, or_iff_right same]
          constructor
          · rintro ⟨_, ⟨meaning, means, rfl⟩, rest⟩
            exact ⟨meaning, means, (ih (heldNext meaning)).mp rest⟩
          · rintro ⟨meaning, means, filled⟩
            exact ⟨_, ⟨meaning, means, rfl⟩, (ih (heldNext meaning)).mpr filled⟩
      · rw [if_neg (mt List.contains_iff_mem.mp isKnown), ih held]
        refine forall₂_congr fun other otherKnown => ?_
        rw [valuesAt_other]
        rintro rfl
        exact isKnown otherKnown

end Members

/-- One place, for one name. -/
def single (name : String) (α : Type) : Store [name] (Option α) α where
  held _ state := state
  put _ meaning _ := some meaning
  held_put _ _ _ := rfl
  held_put_other _ _ isKnown otherKnown different :=
    absurd ((List.mem_singleton.mp otherKnown).trans (List.mem_singleton.mp isKnown).symm) different
  ext same := same name List.mem_cons_self

/-- Two places, for two names. -/
def double {first second : String} (distinct : second ≠ first) (α : Type) :
    Store [first, second] (Option α × Option α) α where
  held name state := if name == first then state.1 else state.2
  put name meaning state :=
    if name == first then (some meaning, state.2) else (state.1, some meaning)
  held_put {name} meaning state _ := by
    by_cases isFirst : name = first <;> simp [isFirst]
  held_put_other {name other} meaning state isKnown otherKnown different := by
    simp only [List.mem_cons, List.not_mem_nil, or_false] at isKnown otherKnown
    cases isKnown with
    | inl isFirst => simp_all
    | inr isSecond => simp_all
  ext {left right} same := by
    have firsts := same first (by simp)
    have seconds := same second (by simp)
    simp only [beq_self_eq_true, if_true, beq_iff_eq, distinct, if_false] at firsts seconds
    exact Prod.ext firsts seconds

/-! ## Contents -/

/-- A value that is written as a text means it. -/
theorem textOf_eq_ok_iff {value : Json} {text : String} :
    textOf value = .ok text ↔ value = .string text := by
  cases value <;> simp [textOf]

theorem noMoreItems_eq_ok_iff {count : Nat} {others : List Json} {done : Unit} :
    noMoreItems count others = .ok done ↔ others = [] := by
  cases others <;> simp [noMoreItems]

theorem need_eq_ok_iff {α : Type} {name : String} {found : Option α} {value : α} :
    need name found = .ok value ↔ found = some value := by
  cases found <;> simp [need]

theorem decodeNothing_eq_ok_iff {content : Json} {done : Unit} :
    decodeNothing content = .ok done ↔ ∀ items, content = .array items → items = [] := by
  cases content <;> simp [decodeNothing, noMoreItems_eq_ok_iff]

/-- The content of a message holds one value: as its only member `message`, or as its only item. -/
inductive Wraps : Json → Json → Prop where
  | object {members : List (String × Json)} {value : Json} :
      Sole members "message" value → Wraps (.object members) value
  | array {value : Json} : Wraps (.array [value]) value

theorem decodeMembers_single {name : String} {α : Type} {decode : Json → Except Cause α}
    {members : List (String × Json)} {meaning : α} :
    (decodeMembers [name] (fun _ value _ => some <$> decode value) [] none members >>= need name) =
        .ok meaning ↔
      ∃ value, Sole members name value ∧ decode value = .ok meaning := by
  have decodes : Decodes (single name α) (fun _ value _ => some <$> decode value)
      fun value meaning => decode value = .ok meaning := by
    intro _ _ value _ next
    exact map_eq_ok_iff
  have decoded : decodeMembers [name] (fun _ value _ => some <$> decode value) [] none members =
      .ok (some meaning) ↔ _ := decodeMembers_eq_ok_iff (single name α) decodes (by simp [single])
  simp only [bind_eq_ok_iff, need_eq_ok_iff, exists_eq_right, decoded, List.forall_mem_singleton]
  exact fills_some_iff

theorem decodeContent_eq_ok_iff {α : Type} {expected : String} {decode : Json → Except Cause α}
    {content : Json} {meaning : α} :
    decodeContent expected decode content = .ok meaning ↔
      ∃ value, Wraps content value ∧ decode value = .ok meaning := by
  cases content with
  | object members =>
      rw [decodeContent, decodeMembers_single]
      constructor
      · rintro ⟨value, sole, decoded⟩
        exact ⟨value, .object sole, decoded⟩
      · rintro ⟨value, wraps, decoded⟩
        cases wraps with
        | object sole => exact ⟨value, sole, decoded⟩
  | array items =>
      cases items with
      | nil =>
          constructor
          · intro failed
            cases failed
          · rintro ⟨_, wraps, _⟩
            cases wraps
      | cons first others =>
          simp only [decodeContent, bind_eq_ok_iff, noMoreItems_eq_ok_iff]
          constructor
          · rintro ⟨_, decoded, _, rfl, last⟩
            cases last
            exact ⟨first, .array, decoded⟩
          · rintro ⟨_, wraps, decoded⟩
            cases wraps with
            | array => exact ⟨meaning, decoded, (), rfl, rfl⟩
  | null | bool | number | string =>
      constructor
      · intro failed
        cases failed
      · rintro ⟨_, wraps, _⟩
        cases wraps

/-- A file to be transformed, as a message writes it: its name and what is in it are the only members
of their names, or the two items if arrays stand for records too. -/
inductive IsFile (arrays : Bool) (filename contents : String) : Json → Prop where
  | object {members : List (String × Json)} :
      Sole members "filename" (.string filename) → Sole members "contents" (.string contents) →
      IsFile arrays filename contents (.object members)
  | array : arrays = true →
      IsFile arrays filename contents (.array [.string filename, .string contents])

/-- Decode the text under one of two names. -/
def placeText (first name : String) (value : Json) (state : Option String × Option String) :
    Except Cause (Option String × Option String) := do
  let text ← textOf value
  pure (if name == first then (some text, state.2) else (state.1, some text))

/-- Both of two texts, which have to be there. -/
def needTexts (first second : String) (state : Option String × Option String) :
    Except Cause (String × String) := do
  let left ← need first state.1
  let right ← need second state.2
  pure (left, right)

theorem needTexts_eq_ok_iff {first second left right : String}
    {state : Option String × Option String} :
    needTexts first second state = .ok (left, right) ↔ state = (some left, some right) := by
  obtain ⟨_ | found, _ | other⟩ := state <;>
    simp [needTexts, need, bind, Except.bind, pure, Except.pure]

theorem decodes_placeText {first second : String} (distinct : second ≠ first) :
    Decodes (double distinct String) (placeText first) fun value text => value = .string text := by
  intro name _ value state next
  simp only [placeText, bind_eq_ok_iff, textOf_eq_ok_iff, pure_eq_ok_iff]
  rfl

theorem decodeTexts_object_iff {expected first second left right : String}
    {members : List (String × Json)} (distinct : second ≠ first) :
    decodeTexts expected first second (.object members) = .ok (left, right) ↔
      Sole members first (.string left) ∧ Sole members second (.string right) := by
  have read : decodeTexts expected first second (.object members) =
      decodeMembers [first, second] (placeText first) [] (none, none) members >>=
        needTexts first second := rfl
  have decoded : decodeMembers [first, second] (placeText first) [] (none, none) members =
      .ok (some left, some right) ↔ _ :=
    decodeMembers_eq_ok_iff (double distinct String) (decodes_placeText distinct)
      (by simp [double])
  simp only [read, bind_eq_ok_iff, needTexts_eq_ok_iff, exists_eq_right, decoded]
  simp [double, distinct, fills_some_iff, Sole]

theorem decodeTexts_eq_ok_iff {expected filename contents : String} {content : Json} :
    decodeTexts expected "filename" "contents" content = .ok (filename, contents) ↔
      IsFile true filename contents content := by
  cases content with
  | object members =>
      rw [decodeTexts_object_iff (by decide)]
      constructor
      · rintro ⟨named, held⟩
        exact .object named held
      · intro isFile
        cases isFile with
        | object named held => exact ⟨named, held⟩
  | array items =>
      rcases items with _ | ⟨left, _ | ⟨right, others⟩⟩
      · constructor
        · intro failed
          cases failed
        · intro isFile
          cases isFile
      · simp only [decodeTexts, bind_eq_ok_iff]
        constructor
        · rintro ⟨_, _, failed⟩
          cases failed
        · intro isFile
          cases isFile
      · simp only [decodeTexts, bind_eq_ok_iff, textOf_eq_ok_iff, noMoreItems_eq_ok_iff]
        constructor
        · rintro ⟨_, rfl, _, rfl, _, rfl, last⟩
          cases last
          exact .array rfl
        · intro isFile
          cases isFile with
          | array => exact ⟨_, rfl, _, rfl, (), rfl, rfl⟩
  | null | bool | number | string =>
      constructor
      · intro failed
        cases failed
      · intro isFile
        cases isFile

end DspBridge.Host

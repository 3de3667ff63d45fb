import DspBridge.Proofs.Json.Skipping
import DspBridge.Proofs.Json.Values

/-!
# Reading records

A record is an array of its fields in order or an object with its fields as members.  In an object
the known fields may come in any order and each at most once; members of other names do not matter.
What the object means is told by looking the fields up among its members, so that nothing of the
order in which they were read is left.
-/

namespace DspBridge.Json

open Reader

/-! ## Fields in order -/

section Elements

variable {α β : Type} {text rest left : List Char} {first : Bool}

/-- A reader takes items of an array up to its end and gives what they mean together. -/
def ReadsRow (first : Bool) (body : Reader α) (Elements : List Tree → α → Prop) : Prop :=
  ∀ text value rest,
    (∃ left, body text = .done value left ∧ closeArray left = .done () rest) ↔
      ∃ trees inside, Row ']' Tree.Bare first trees inside ∧ text = inside ++ rest ∧
        Elements trees value

theorem readsItems_row {body : Reader α} {Elements : List Tree → α → Prop}
    (reads : ReadsRow true body Elements) : ReadsItems (arrayOf body) Elements := by
  intro text value rest
  change enclosed closeArray body text = .done value rest ↔ _
  rw [enclosed_eq_done_iff]
  exact reads text value rest

theorem row_nil_iff : (∃ inside, Row ']' Tree.Bare first [] inside ∧ text = inside ++ rest) ↔
    text.dropWhile isSpace = ']' :: rest := by
  constructor
  · rintro ⟨_, ⟨blank⟩, rfl⟩
    rw [List.append_assoc, dropWhile_blanks blank]
    rfl
  · intro closing
    exact row_close closing

/-- Nothing is left to be read of an array at its end. -/
theorem readsRow_pure (value : α) :
    ReadsRow first (pure value) fun trees result => trees = [] ∧ result = value := by
  intro text result rest
  constructor
  · rintro ⟨_, done, closed⟩
    cases done
    obtain ⟨inside, row, whole⟩ := row_nil_iff.mpr (closeArray_eq_done_iff.mp closed)
    exact ⟨[], inside, row, whole, rfl, rfl⟩
  · rintro ⟨_, inside, row, whole, rfl, rfl⟩
    exact ⟨text, rfl, closeArray_eq_done_iff.mpr (row_nil_iff.mp ⟨inside, row, whole⟩)⟩

/-- A field in front of those that are read next. -/
inductive Leading (Means : Tree → α → Prop) (Elements : α → List Tree → β → Prop) :
    List Tree → β → Prop where
  | item {tree : Tree} {value : α} {others : List Tree} {result : β} :
      Means tree value → Elements value others result →
      Leading Means Elements (tree :: others) result

section Next

variable {reader : Reader α} {Means : Tree → α → Prop} {next : α → Reader β}
  {Elements : α → List Tree → β → Prop}

/-- Where another item stands, it is read, and then what follows it. -/
theorem leading_of_read (reads : Reads reader Means)
    (follows : ∀ value, ReadsRow false (next value) (Elements value)) {result : β}
    (behind : Behind first text left) :
    (∃ closing, reader.bind next left = .done result closing ∧ closeArray closing = .done () rest) →
      ∃ trees inside, Row ']' Tree.Bare first trees inside ∧ text = inside ++ rest ∧
        Leading Means Elements trees result := by
  rintro ⟨closing, done, closed⟩
  obtain ⟨value, middle, itemRead, continued⟩ := bind_eq_done_iff.mp done
  obtain ⟨others, inside, row, rfl, meant⟩ := (follows value _ _ _).mp ⟨closing, continued, closed⟩
  obtain ⟨tree, leads, means⟩ := (reads _ _ _ (row.stops rfl rest)).mp itemRead
  obtain ⟨inside, row, whole⟩ := row_item behind leads row
  exact ⟨tree :: others, inside, row, whole, .item means meant⟩

/-- A row of items that mean something together is read from its first item on. -/
theorem read_of_leading (reads : Reads reader Means)
    (follows : ∀ value, ReadsRow false (next value) (Elements value)) {result : β}
    {trees : List Tree} {inside : List Char} (row : Row ']' Tree.Bare first trees inside)
    (meant : Leading Means Elements trees result) (rest : List Char) :
    ∃ left closing, hasItem first (inside ++ rest) = .done true left ∧
      reader.bind next left = .done result closing ∧ closeArray closing = .done () rest := by
  obtain ⟨means, others⟩ := meant
  cases row with
  | @entry _ _ _ gap pad bare more gapBlank padBlank written row =>
      obtain ⟨closing, continued, closed⟩ :=
        (follows _ _ _ rest).mpr ⟨_, more, row, rfl, others⟩
      obtain ⟨c, tail, rfl, opens⟩ := written.exists_head
      have itemRead := (reads _ _ _ (row.stops rfl rest)).mpr
        ⟨_, ⟨[], _, blanks_nil, written, rfl⟩, means⟩
      refine ⟨c :: tail ++ (more ++ rest), closing, ?_, ?_, closed⟩
      · have found := @hasItem_more first gap pad (tail ++ (more ++ rest)) c gapBlank padBlank
          opens.solid opens.ne_close
        simpa using found
      · exact (bind_done itemRead).trans continued

/-- A field that has to be there is read in front of the others. -/
theorem readsRow_element (reads : Reads reader Means)
    (follows : ∀ value, ReadsRow false (next value) (Elements value)) (index : Nat)
    (expected : String) :
    ReadsRow (index == 0) (element index expected reader >>= next) (Leading Means Elements) := by
  intro text result rest
  constructor
  · rintro ⟨closing, done, closed⟩
    obtain ⟨value, middle, itemRead, continued⟩ := bind_eq_done_iff.mp done
    rw [element, bind_apply] at itemRead
    obtain ⟨more, left, looked, itemRead⟩ := bind_eq_done_iff.mp itemRead
    obtain ⟨rfl, -⟩ | ⟨rfl, behind⟩ := hasItem_sound looked
    · cases itemRead
    · exact leading_of_read reads follows behind
        ⟨closing, bind_eq_done_iff.mpr ⟨value, middle, itemRead, continued⟩, closed⟩
  · rintro ⟨trees, inside, row, rfl, meant⟩
    obtain ⟨left, closing, looked, done, closed⟩ := read_of_leading reads follows row meant rest
    obtain ⟨value, middle, itemRead, continued⟩ := bind_eq_done_iff.mp done
    have elementRead : element index expected reader (inside ++ rest) = .done value middle := by
      rw [element, bind_apply, bind_done looked]
      exact itemRead
    exact ⟨closing, (bind_done elementRead).trans continued, closed⟩

/-- A row that begins with its closing bracket has no entries. -/
theorem Row.nil_of_close {trees : List Tree} {inside tail : List Char}
    (row : Row ']' Tree.Bare false trees inside) (closing : ']' :: tail = inside ++ rest) :
    trees = [] := by
  cases row with
  | close _ => rfl
  | @entry _ _ _ gap pad bare more gapBlank _ _ _ =>
      cases gap with
      | nil =>
          obtain ⟨same, -⟩ := List.cons.inj closing
          cases same
      | cons c gap =>
          obtain ⟨rfl, -⟩ := List.cons.inj closing
          cases gapBlank ']' List.mem_cons_self

/-- A field that may be missing where the array ends has a default. -/
theorem readsRow_optional (reads : Reads reader Means)
    (follows : ∀ value, ReadsRow false (next value) (Elements value)) (default : α) :
    ReadsRow false
      ((do if ← hasItem false then reader else pure default) >>= next) fun trees result =>
        Leading Means Elements trees result ∨ trees = [] ∧ Elements default [] result := by
  intro text result rest
  constructor
  · rintro ⟨closing, done, closed⟩
    obtain ⟨value, middle, itemRead, continued⟩ := bind_eq_done_iff.mp done
    obtain ⟨more, left, looked, itemRead⟩ := bind_eq_done_iff.mp itemRead
    cases more with
    | false =>
        cases itemRead
        obtain ⟨-, solid, head⟩ | ⟨⟨⟩, -⟩ := hasItem_sound looked
        obtain ⟨tail, rfl⟩ := List.head?_eq_some_iff.mp head
        obtain ⟨trees, inside, row, whole, meant⟩ :=
          (follows _ _ _ _).mp ⟨closing, continued, closed⟩
        obtain rfl := row.nil_of_close whole
        have split : text.dropWhile isSpace = ']' :: rest :=
          solid.symm.trans (row_nil_iff.mp ⟨inside, row, whole⟩)
        obtain ⟨inside, row, whole⟩ := row_nil_iff.mpr split
        exact ⟨[], inside, row, whole, .inr ⟨rfl, meant⟩⟩
    | true =>
        obtain ⟨⟨⟩, -⟩ | ⟨-, behind⟩ := hasItem_sound looked
        obtain ⟨trees, inside, row, whole, meant⟩ := leading_of_read reads follows behind
          ⟨closing, bind_eq_done_iff.mpr ⟨value, middle, itemRead, continued⟩, closed⟩
        exact ⟨trees, inside, row, whole, .inl meant⟩
  · rintro ⟨trees, inside, row, rfl, meant | ⟨rfl, meant⟩⟩
    · obtain ⟨left, closing, looked, done, closed⟩ := read_of_leading reads follows row meant rest
      obtain ⟨value, middle, itemRead, continued⟩ := bind_eq_done_iff.mp done
      have optionalRead : (hasItem false >>= fun more => if more then reader else pure default)
          (inside ++ rest) = .done value middle := (bind_done looked).trans itemRead
      exact ⟨closing, (bind_done optionalRead).trans continued, closed⟩
    · have split : (inside ++ rest).dropWhile isSpace = ']' :: rest :=
        row_nil_iff.mp ⟨inside, row, rfl⟩
      obtain ⟨closing, continued, closed⟩ :=
        (follows default (']' :: rest) result rest).mpr
          ⟨[], [']'], .close blanks_nil, rfl, meant⟩
      have optionalRead : (hasItem false >>= fun more => if more then reader else pure default)
          (inside ++ rest) = .done default (']' :: rest) := bind_done (hasItem_close split)
      exact ⟨closing, (bind_done optionalRead).trans continued, closed⟩

/-- Any number of items is read up to the end of the array. -/
theorem readsRow_items (reads : Reads reader Means) :
    ReadsRow first (Reader.items reader first) (List.Forall₂ Means) := by
  intro text values rest
  constructor
  · rintro ⟨left, done, closed⟩
    exact itemsFrom_sound reads done closed
  · rintro ⟨trees, inside, row, rfl, meant⟩
    exact ⟨']' :: rest, itemsFrom_complete reads row meant rest (Nat.lt_succ_self _),
      closeArray_eq_done_iff.mpr rfl⟩

/-- What has been read of an array may be changed before its end. -/
theorem ReadsRow.bind_pure {body : Reader α} {Elements : List Tree → α → Prop}
    (reads : ReadsRow first body Elements) (change : α → β) :
    ReadsRow first (body >>= fun value => pure (change value)) fun trees result =>
      ∃ value, Elements trees value ∧ result = change value := by
  intro text result rest
  constructor
  · rintro ⟨left, done, closed⟩
    obtain ⟨value, _, read, last⟩ := bind_eq_done_iff.mp done
    cases last
    obtain ⟨trees, inside, row, whole, meant⟩ := (reads _ _ _).mp ⟨_, read, closed⟩
    exact ⟨trees, inside, row, whole, value, meant, rfl⟩
  · rintro ⟨trees, inside, row, whole, value, meant, rfl⟩
    obtain ⟨left, read, closed⟩ := (reads _ _ _).mpr ⟨trees, inside, row, whole, meant⟩
    exact ⟨left, bind_done read, closed⟩

end Next

end Elements

/-! ## Fields by name -/

section Members

variable {σ : Type}

/-- What a field means, whether it is there or not. -/
inductive Given {α : Type} (Means : Tree → α → Prop) (default : α) : Option Tree → α → Prop where
  | absent : Given Means default none default
  | present {tree : Tree} {value : α} : Means tree value → Given Means default (some tree) value

/-- Names for members.  What a name is spelled like does not matter. -/
def Named (members : List (List Char × Tree)) (named : List (String × Tree)) : Prop :=
  List.Forall₂ (IsMember Eq) members named

/-- No known name comes twice. -/
def OnceEach (known : List String) (named : List (String × Tree)) : Prop :=
  ((named.map Prod.fst).filter known.contains).Nodup

/-- A member of a known name, which has not come before, changes the state; any other member is
passed over. -/
inductive Changes (known : List String) (Takes : String → Tree → σ → σ → Prop) :
    String × Tree → List String × σ → List String × σ → Prop where
  | known {name : String} {tree : Tree} {seen : List String} {state next : σ} :
      name ∈ known → name ∉ seen → Takes name tree state next →
      Changes known Takes (name, tree) (seen, state) (name :: seen, next)
  | other {name : String} {tree : Tree} {seen : List String} {state : σ} :
      name ∉ known → Changes known Takes (name, tree) (seen, state) (seen, state)

theorem readsMember_field {known : List String} {read : String → σ → Reader σ}
    {Takes : String → Tree → σ → σ → Prop}
    (reads : ∀ name ∈ known, ∀ state, Reads (read name state) fun tree => Takes name tree state) :
    ReadsMember (field known read) fun entry before after =>
      ∃ named, IsMember Eq entry named ∧ Changes known Takes named before after := by
  rintro ⟨seen, state⟩ text ⟨later, next⟩ rest stops
  rw [field]
  constructor
  · intro done
    obtain ⟨name, behind, nameRead, continued⟩ := bind_eq_done_iff.mp done
    rw [List.contains_eq_mem, List.contains_eq_mem, if_apply] at continued
    split at continued
    next isKnown =>
      rw [if_apply] at continued
      split at continued
      next => cases continued
      next fresh =>
        obtain ⟨_, follows, colonPassed, continued⟩ := bind_eq_done_iff.mp continued
        obtain ⟨found, _, valueRead, last⟩ := bind_eq_done_iff.mp continued
        cases last
        rw [decide_eq_true_eq] at isKnown fresh
        obtain ⟨tree, leads, taken⟩ := (reads name isKnown _ _ _ _ stops).mp valueRead
        obtain ⟨body, denotes, leads⟩ :=
          memberLeads_named_iff.mpr ⟨behind, follows, nameRead, colonPassed, leads⟩
        exact ⟨(body, tree), leads, (name, tree), .named denotes rfl, .known isKnown fresh taken⟩
    next unknown =>
      obtain ⟨_, follows, colonPassed, continued⟩ := bind_eq_done_iff.mp continued
      obtain ⟨_, _, skipped, last⟩ := bind_eq_done_iff.mp continued
      cases last
      rw [decide_eq_true_eq] at unknown
      obtain ⟨tree, leads, -⟩ := (reads_skip _ _ _ stops).mp skipped
      obtain ⟨body, denotes, leads⟩ :=
        memberLeads_named_iff.mpr ⟨behind, follows, nameRead, colonPassed, leads⟩
      exact ⟨(body, tree), leads, (name, tree), .named denotes rfl, .other unknown⟩
  · rintro ⟨⟨body, tree⟩, leads, ⟨name, _⟩, ⟨denotes, rfl⟩, changes⟩
    obtain ⟨behind, follows, nameRead, colonPassed, leads⟩ :=
      memberLeads_named_iff.mp ⟨body, denotes, leads⟩
    rw [bind_apply, bind_done nameRead]
    cases changes with
    | known isKnown fresh taken =>
        have valueRead := (reads name isKnown _ _ _ _ stops).mpr ⟨tree, leads, taken⟩
        simp only [List.contains_eq_mem, isKnown, fresh, decide_true, decide_false, if_true,
          Bool.false_eq_true, if_false]
        rw [bind_apply, bind_done colonPassed, bind_apply, bind_done valueRead]
        rfl
    | other unknown =>
        have skipped := (reads_skip _ () _ stops).mpr ⟨tree, leads, trivial⟩
        simp only [List.contains_eq_mem, unknown, decide_false, Bool.false_eq_true, if_false]
        rw [bind_apply, bind_done colonPassed, bind_apply, bind_done skipped]
        rfl

end Members

/-! ## Slots -/

/-- The place of a field in a state, and what may be put there. -/
structure Slot (σ : Type) where
  Value : Type
  get : σ → Value
  set : Value → σ → σ
  Means : Tree → Value → Prop

section Slots

variable {σ : Type} {known : List String} {slots : String → Slot σ}

/-- The slots of the known names are independent, and a state is what stands in them. -/
structure Lawful (known : List String) (slots : String → Slot σ) : Prop where
  get_set {name : String} (value : (slots name).Value) (state : σ) :
    name ∈ known → (slots name).get ((slots name).set value state) = value
  get_set_other {name other : String} (value : (slots name).Value) (state : σ) :
    name ∈ known → other ∈ known → other ≠ name →
    (slots other).get ((slots name).set value state) = (slots other).get state
  ext {first second : σ} :
    (∀ name ∈ known, (slots name).get first = (slots name).get second) → first = second

/-- A tree is put into the slot of a name. -/
def Puts (slots : String → Slot σ) (name : String) (tree : Tree) (state next : σ) : Prop :=
  ∃ value, (slots name).Means tree value ∧ next = (slots name).set value state

/-- Every slot holds what the member of its name means, or what it held before. -/
def Filled (known : List String) (slots : String → Slot σ) (named : List (String × Tree))
    (state final : σ) : Prop :=
  ∀ name ∈ known,
    Given (slots name).Means ((slots name).get state) (named.lookup name) ((slots name).get final)

/-- Known names that have been seen do not come again. -/
def Fresh (known seen : List String) (named : List (String × Tree)) : Prop :=
  OnceEach known named ∧ ∀ entry ∈ named, entry.1 ∈ known → entry.1 ∉ seen

theorem lookup_eq_none_iff {name : String} {named : List (String × Tree)} :
    named.lookup name = none ↔ ∀ entry ∈ named, entry.1 ≠ name := by
  rw [List.lookup_eq_none_iff]
  exact forall₂_congr fun entry _ => by rw [bne_iff_ne, ne_comm]

theorem fresh_known {name : String} {tree : Tree} {seen : List String}
    {others : List (String × Tree)} (isKnown : name ∈ known) :
    Fresh known seen ((name, tree) :: others) ↔
      name ∉ seen ∧ others.lookup name = none ∧ Fresh known (name :: seen) others := by
  have kept : known.contains name = true := List.contains_iff_mem.mpr isKnown
  have once : name ∉ (others.map Prod.fst).filter known.contains ↔
      ∀ entry ∈ others, entry.1 ≠ name := by
    simp only [List.mem_filter, kept, and_true, List.mem_map, not_exists, not_and, ne_eq]
  rw [lookup_eq_none_iff, Fresh, Fresh, OnceEach, OnceEach, List.map_cons,
    List.filter_cons_of_pos kept, List.nodup_cons, once, List.forall_mem_cons]
  constructor
  · rintro ⟨⟨absent, nodup⟩, fresh, unseen⟩
    refine ⟨fresh isKnown, absent, nodup, fun entry member entryKnown => ?_⟩
    rw [List.mem_cons, not_or]
    exact ⟨absent entry member, unseen entry member entryKnown⟩
  · rintro ⟨fresh, absent, nodup, unseen⟩
    refine ⟨⟨absent, nodup⟩, fun _ => fresh, fun entry member entryKnown before => ?_⟩
    exact unseen entry member entryKnown (List.mem_cons_of_mem _ before)

theorem fresh_other {name : String} {tree : Tree} {seen : List String}
    {others : List (String × Tree)} (unknown : name ∉ known) :
    Fresh known seen ((name, tree) :: others) ↔ Fresh known seen others := by
  have dropped : ¬ known.contains name = true := fun kept => unknown (List.contains_iff_mem.mp kept)
  rw [Fresh, Fresh, OnceEach, OnceEach, List.map_cons, List.filter_cons_of_neg dropped,
    List.forall_mem_cons]
  exact and_congr_right fun _ => and_iff_right fun isKnown => absurd isKnown unknown

theorem lookup_other {name other : String} {tree : Tree} {others : List (String × Tree)}
    (different : other ≠ name) : ((name, tree) :: others).lookup other = others.lookup other := by
  rw [List.lookup_cons, beq_false_of_ne different]

theorem lookup_self {name : String} {tree : Tree} {others : List (String × Tree)} :
    ((name, tree) :: others).lookup name = some tree := by
  rw [List.lookup_cons, beq_self_eq_true]

theorem Given.none_iff {α : Type} {Means : Tree → α → Prop} {default value : α} :
    Given Means default none value ↔ value = default := by
  constructor
  · rintro ⟨⟩
    rfl
  · rintro rfl
    exact .absent

theorem Given.some_iff {α : Type} {Means : Tree → α → Prop} {default value : α} {tree : Tree} :
    Given Means default (some tree) value ↔ Means tree value := by
  constructor
  · rintro ⟨⟩
    assumption
  · exact .present

theorem filled_nil (lawful : Lawful known slots) {state final : σ} :
    Filled known slots [] state final ↔ state = final := by
  simp only [Filled, List.lookup_nil, Given.none_iff]
  constructor
  · intro same
    exact lawful.ext fun name isKnown => (same name isKnown).symm
  · rintro rfl
    exact fun _ _ => rfl

theorem filled_known (lawful : Lawful known slots) {name : String} {tree : Tree}
    {others : List (String × Tree)} {value : (slots name).Value} {state final : σ}
    (isKnown : name ∈ known) (absent : others.lookup name = none) :
    (slots name).Means tree value ∧ Filled known slots others ((slots name).set value state) final ↔
      Filled known slots ((name, tree) :: others) state final ∧ (slots name).get final = value := by
  constructor
  · rintro ⟨means, filled⟩
    have same := filled name isKnown
    rw [absent, Given.none_iff, lawful.get_set value state isKnown] at same
    refine ⟨fun other otherKnown => ?_, same⟩
    by_cases different : other = name
    · subst different
      rw [lookup_self, Given.some_iff, same]
      exact means
    · have kept := filled other otherKnown
      rwa [lawful.get_set_other value state isKnown otherKnown different, ← lookup_other different]
        at kept
  · rintro ⟨filled, rfl⟩
    have means := filled name isKnown
    rw [lookup_self, Given.some_iff] at means
    refine ⟨means, fun other otherKnown => ?_⟩
    by_cases different : other = name
    · subst different
      rw [absent, Given.none_iff, lawful.get_set _ state isKnown]
    · have kept := filled other otherKnown
      rwa [lookup_other different, ← lawful.get_set_other _ state isKnown otherKnown different]
        at kept

theorem filled_other {name : String} {tree : Tree} {others : List (String × Tree)}
    {state final : σ} (unknown : name ∉ known) :
    Filled known slots ((name, tree) :: others) state final ↔
      Filled known slots others state final := by
  refine forall₂_congr fun other otherKnown => ?_
  rw [lookup_other]
  rintro rfl
  exact unknown otherKnown

/-- The members can be taken one by one exactly if no known name comes twice, and then every slot
holds what its member means. -/
theorem folds_puts_iff (lawful : Lawful known slots) {named : List (String × Tree)}
    {seen : List String} {state final : σ} :
    (∃ later, Folds (Changes known (Puts slots)) named (seen, state) (later, final)) ↔
      Fresh known seen named ∧ Filled known slots named state final := by
  induction named generalizing seen state with
  | nil =>
      rw [filled_nil lawful]
      constructor
      · rintro ⟨_, folds⟩
        cases folds
        exact ⟨⟨List.nodup_nil, fun _ member => nomatch member⟩, rfl⟩
      · rintro ⟨-, rfl⟩
        exact ⟨seen, .done⟩
  | cons entry others ih =>
      obtain ⟨name, tree⟩ := entry
      by_cases isKnown : name ∈ known
      · rw [fresh_known isKnown]
        constructor
        · rintro ⟨later, folds⟩
          obtain _ | ⟨step, folds⟩ := folds
          cases step with
          | other unknown => exact absurd isKnown unknown
          | known _ unseen taken =>
              obtain ⟨value, means, rfl⟩ := taken
              obtain ⟨fresh, filled⟩ := ih.mp ⟨later, folds⟩
              have absent : others.lookup name = none :=
                lookup_eq_none_iff.mpr fun entry member same =>
                  fresh.2 entry member (same ▸ isKnown) (same ▸ List.mem_cons_self)
              exact ⟨⟨unseen, absent, fresh⟩,
                ((filled_known lawful isKnown absent).mp ⟨means, filled⟩).1⟩
        · rintro ⟨⟨unseen, absent, fresh⟩, filled⟩
          obtain ⟨means, filled⟩ := (filled_known lawful isKnown absent).mpr ⟨filled, rfl⟩
          obtain ⟨later, folds⟩ := ih.mpr ⟨fresh, filled⟩
          exact ⟨later, .step (.known isKnown unseen ⟨_, means, rfl⟩) folds⟩
      · rw [fresh_other isKnown, filled_other isKnown, ← ih]
        constructor
        · rintro ⟨later, folds⟩
          obtain _ | ⟨step, folds⟩ := folds
          cases step with
          | known present => exact absurd present isKnown
          | other => exact ⟨later, folds⟩
        · rintro ⟨later, folds⟩
          exact ⟨later, .step (.other isKnown) folds⟩

end Slots

section Reading

variable {α σ : Type} {known : List String} {slots : String → Slot σ}

/-- What has been read of an object may be turned into something else before its end. -/
theorem readsMembers_bind {body : Reader σ} {Fields : List (List Char × Tree) → σ → Prop}
    (reads : ReadsMembers (objectOf body) Fields) {finish : σ → Reader α} {Ends : σ → α → Prop}
    (ends : ∀ state text value rest,
      finish state text = .done value rest ↔ rest = text ∧ Ends state value) :
    ReadsMembers (objectOf (body >>= finish)) fun members value =>
      ∃ state, Fields members state ∧ Ends state value := by
  intro text value rest
  rw [objectOf_open, enclosed_eq_done_iff]
  constructor
  · rintro ⟨left, done, closed⟩
    obtain ⟨state, middle, bodyRead, finished⟩ := bind_eq_done_iff.mp done
    obtain ⟨rfl, ended⟩ := (ends _ _ _ _).mp finished
    obtain ⟨members, inside, row, whole, meant⟩ := (reads text state rest).mp (by
      rw [objectOf_open]
      exact enclosed_eq_done_iff.mpr ⟨left, bodyRead, closed⟩)
    exact ⟨members, inside, row, whole, state, meant, ended⟩
  · rintro ⟨members, inside, row, whole, state, meant, ended⟩
    have read := (reads text state rest).mpr ⟨members, inside, row, whole, meant⟩
    rw [objectOf_open] at read
    obtain ⟨left, bodyRead, closed⟩ := enclosed_eq_done_iff.mp read
    exact ⟨left, (bind_done bodyRead).trans ((ends _ _ _ _).mpr ⟨rfl, ended⟩), closed⟩

/-- An object of fields has names for all its members, none of the known ones twice, and in every
slot what the member of its name means. -/
theorem readsMembers_fields (lawful : Lawful known slots) {read : String → σ → Reader σ}
    (reads : ∀ name ∈ known, ∀ state,
      Reads (read name state) fun tree => Puts slots name tree state)
    (state : σ) :
    ReadsMembers (objectOf (fields known read state)) fun members final =>
      ∃ named, Named members named ∧ OnceEach known named ∧
        Filled known slots named state final := by
  have ends (pair : List String × σ) (text : List Char) (final : σ) (rest : List Char) :
      (pure pair.2 : Reader σ) text = .done final rest ↔ rest = text ∧ pair.2 = final := by
    rw [pure_apply, Outcome.done.injEq, and_comm, eq_comm (a := text)]
  have fresh (named : List (String × Tree)) : Fresh known [] named ↔ OnceEach known named :=
    and_iff_left fun _ _ _ => List.not_mem_nil
  intro text final rest
  change objectOf (members (field known read) ([], state) >>= fun pair => pure pair.2) _ = _ ↔ _
  rw [readsMembers_bind (readsMembers_members (readsMember_field reads)) ends]
  simp only [folds_meant_iff, ← fresh, ← folds_puts_iff lawful]
  constructor
  · rintro ⟨members, inside, row, whole, ⟨later, final⟩, ⟨named, spelled, folds⟩, rfl⟩
    exact ⟨members, inside, row, whole, named, spelled, later, folds⟩
  · rintro ⟨members, inside, row, whole, named, spelled, later, folds⟩
    exact ⟨members, inside, row, whole, (later, final), ⟨named, spelled, folds⟩, rfl⟩

end Reading

end DspBridge.Json

import DspBridge.Descriptor.Reader
import DspBridge.Proofs.Descriptor.Checking
import DspBridge.Proofs.Json.Records
import Mathlib

/-!
# Decoding outlines

Which texts are well-typed documents, and of which outlines.  Nodes and documents are records: an
array of all their fields in order, or an object in which known fields may come once each and any
other member is ignored.  Every node is typed, whatever its kind is and wherever it stands, since
types are settled before kinds are looked at.
-/

namespace DspBridge.Descriptor

open Json
open Json.Reader

/-! ## What trees are nodes -/

/-- A value that is there. -/
def Present {α : Type} (Means : Tree → α → Prop) (tree : Tree) (value : Option α) : Prop :=
  ∃ found, Means tree found ∧ value = some found

section Nodes

variable (IsItems : Tree → List Draft → Prop) (IsNumber : Tree → Json → Prop)

/-- The fields of a node in order. -/
inductive IsNodeElements : List Tree → Draft → Prop where
  | all {kindTree labelTree itemsTree minTree maxTree initTree stepTree : Tree}
      {kind label : String} {items : Option (List Draft)} {min max init step : Option Json} :
      IsText kindTree kind → IsText labelTree label → Optionally IsItems itemsTree items →
      Optionally IsNumber minTree min → Optionally IsNumber maxTree max →
      Optionally IsNumber initTree init → Optionally IsNumber stepTree step →
      IsNodeElements [kindTree, labelTree, itemsTree, minTree, maxTree, initTree, stepTree]
        ⟨kind, label, items, min, max, init, step⟩

/-- The members of a node: the kind is a text and has to be there, the label is a text if it is
there, and everything else may also be null. -/
inductive IsNodeMembers : List (List Char × Tree) → Draft → Prop where
  | named {members : List (List Char × Tree)} {named : List (String × Tree)} {draft : Draft} :
      Named members named → OnceEach nodeFields named →
      (∃ tree, named.lookup "type" = some tree ∧ IsText tree draft.kind) →
      Given IsText "" (named.lookup "label") draft.label →
      Given (Optionally IsItems) none (named.lookup "items") draft.items →
      Given (Optionally IsNumber) none (named.lookup "min") draft.min →
      Given (Optionally IsNumber) none (named.lookup "max") draft.max →
      Given (Optionally IsNumber) none (named.lookup "init") draft.init →
      Given (Optionally IsNumber) none (named.lookup "step") draft.step →
      IsNodeMembers members draft

end Nodes

mutual

/-- A tree with at most `room` levels of brackets is a node. -/
def IsNode : (room : Nat) → Tree → Draft → Prop
  | 0 => IsRecord (fun _ _ => False) fun _ _ => False
  | room + 1 => IsRecord (IsNodeElements (IsNodes room) (IsValue room))
      (IsNodeMembers (IsNodes room) (IsValue room))

/-- A tree with at most `room` levels of brackets is a list of nodes. -/
def IsNodes : (room : Nat) → Tree → List Draft → Prop
  | 0 => IsArray fun _ _ => False
  | room + 1 => IsArray (List.Forall₂ (IsNode room))

end

/-! ## The slots of a node -/

section Nodes

variable {IsItems : Tree → List Draft → Prop} {IsNumber : Tree → Json → Prop}

/-- Where the fields of a node go. -/
def nodeSlot (IsItems : Tree → List Draft → Prop) (IsNumber : Tree → Json → Prop) (name : String) :
    Slot NodeMembers :=
  match name with
  | "type" => ⟨_, (·.kind), fun kind members => { members with kind := kind }, Present IsText⟩
  | "label" => ⟨_, (·.label), fun label members => { members with label := label }, Present IsText⟩
  | "items" => ⟨_, (·.items), fun items members => { members with items := items },
      Optionally IsItems⟩
  | "min" => ⟨_, (·.min), fun min members => { members with min := min }, Optionally IsNumber⟩
  | "max" => ⟨_, (·.max), fun max members => { members with max := max }, Optionally IsNumber⟩
  | "init" => ⟨_, (·.init), fun init members => { members with init := init }, Optionally IsNumber⟩
  | _ => ⟨_, (·.step), fun step members => { members with step := step }, Optionally IsNumber⟩

theorem forall_nodeFields {P : String → Prop} :
    (∀ name ∈ nodeFields, P name) ↔
      P "type" ∧ P "label" ∧ P "items" ∧ P "min" ∧ P "max" ∧ P "init" ∧ P "step" := by
  simp only [nodeFields, List.forall_mem_cons, List.not_mem_nil, false_implies, implies_true,
    and_true]

theorem nodeSlot_get_set : ∀ name ∈ nodeFields, ∀ value state,
    (nodeSlot IsItems IsNumber name).get ((nodeSlot IsItems IsNumber name).set value state) =
      value :=
  forall_nodeFields.mpr ⟨fun _ _ => rfl, fun _ _ => rfl, fun _ _ => rfl, fun _ _ => rfl,
    fun _ _ => rfl, fun _ _ => rfl, fun _ _ => rfl⟩

theorem nodeSlot_get_set_other : ∀ name ∈ nodeFields, ∀ other ∈ nodeFields, other ≠ name →
    ∀ value state,
      (nodeSlot IsItems IsNumber other).get ((nodeSlot IsItems IsNumber name).set value state) =
        (nodeSlot IsItems IsNumber other).get state := by
  refine forall_nodeFields.mpr ⟨?_, ?_, ?_, ?_, ?_, ?_, ?_⟩ <;>
    refine forall_nodeFields.mpr ⟨?_, ?_, ?_, ?_, ?_, ?_, ?_⟩ <;>
    intro different value state <;>
    first
      | rfl
      | exact absurd rfl different

theorem lawful_nodeSlot : Lawful nodeFields (nodeSlot IsItems IsNumber) where
  get_set value state known := nodeSlot_get_set _ known value state
  get_set_other value state known otherKnown different :=
    nodeSlot_get_set_other _ known _ otherKnown different value state
  ext {first second} same := by
    cases first
    cases second
    rw [NodeMembers.mk.injEq]
    exact forall_nodeFields.mp same

/-! ## Reading nodes -/

theorem readsRow_congr {α : Type} {body : Reader α} {Elements Others : List Tree → α → Prop}
    {first : Bool} (reads : ReadsRow first body Elements)
    (same : ∀ trees value, Elements trees value ↔ Others trees value) :
    ReadsRow first body Others := by
  intro text value rest
  simp only [← same]
  exact reads text value rest

theorem readsItems_node {items : Reader (List Draft)} {number : Reader Json}
    (readsItems : Reads items IsItems) (readsNumber : Reads number IsNumber) :
    ReadsItems (arrayOf (readNodeElements items number)) (IsNodeElements IsItems IsNumber) := by
  have optionalItems := reads_optional readsItems
  have optionalNumber := reads_optional readsNumber
  have row : ReadsRow true (readNodeElements items number) _ :=
    readsRow_element (reads_string _) (fun kind =>
      readsRow_optional (reads_string _) (fun label =>
        readsRow_element optionalItems (fun items =>
          readsRow_element optionalNumber (fun min =>
            readsRow_element optionalNumber (fun max =>
              readsRow_element optionalNumber (fun init =>
                readsRow_element optionalNumber (fun step =>
                  readsRow_pure (Draft.mk kind label items min max init step)) 6 nodeLength)
                5 nodeLength) 4 nodeLength) 3 nodeLength) 2 nodeLength) "") 0 nodeLength
  refine readsItems_row (readsRow_congr row fun trees draft => ?_)
  constructor
  · rintro ⟨kind, ⟨label, ⟨items, ⟨min, ⟨max, ⟨init, ⟨step, rfl, rfl⟩⟩⟩⟩⟩⟩ | ⟨-, ⟨⟩⟩⟩
    exact .all kind label items min max init step
  · rintro ⟨kind, label, items, min, max, init, step⟩
    exact .item kind (.inl (.item label (.item items (.item min (.item max (.item init
      (.item step ⟨rfl, rfl⟩)))))))

theorem reads_present {reader : Reader String} {Means : Tree → String → Prop}
    (reads : Reads reader Means) {σ : Type} (put : Option String → σ) :
    Reads (reader >>= fun text => pure (put (some text))) fun tree next =>
      ∃ value, Present Means tree value ∧ next = put value := by
  refine (reads.bind_pure fun text => put (some text)).congr fun tree next => ?_
  constructor
  · rintro ⟨text, means, rfl⟩
    exact ⟨some text, ⟨text, means, rfl⟩, rfl⟩
  · rintro ⟨_, ⟨text, means, rfl⟩, rfl⟩
    exact ⟨text, means, rfl⟩

theorem reads_readNodeMember {items : Reader (List Draft)} {number : Reader Json}
    (readsItems : Reads items IsItems) (readsNumber : Reads number IsNumber) :
    ∀ name ∈ nodeFields, ∀ members, Reads (readNodeMember items number name members) fun tree =>
      Puts (nodeSlot IsItems IsNumber) name tree members := by
  have optionalItems := reads_optional readsItems
  have optionalNumber := reads_optional readsNumber
  refine forall_nodeFields.mpr ⟨?type, ?label, ?items, ?min, ?max, ?init, ?step⟩ <;> intro members
  case type => exact reads_present (reads_string _) fun kind => { members with kind := kind }
  case label => exact reads_present (reads_string _) fun label => { members with label := label }
  case items => exact optionalItems.bind_pure fun items => { members with items := items }
  case min => exact optionalNumber.bind_pure fun min => { members with min := min }
  case max => exact optionalNumber.bind_pure fun max => { members with max := max }
  case init => exact optionalNumber.bind_pure fun init => { members with init := init }
  case step => exact optionalNumber.bind_pure fun step => { members with step := step }

theorem given_getD_iff {Means : Tree → String → Prop} {found : Option Tree}
    {default text : String} :
    Given Means default found text ↔
      ∃ value, Given (Present Means) none found value ∧ text = value.getD default := by
  cases found with
  | none =>
      simp only [Given.none_iff, exists_eq_left, Option.getD_none]
  | some tree =>
      simp only [Given.some_iff]
      constructor
      · intro means
        exact ⟨some text, ⟨text, means, rfl⟩, rfl⟩
      · rintro ⟨_, ⟨text, means, rfl⟩, rfl⟩
        exact means

theorem given_some_iff {Means : Tree → String → Prop} {found : Option Tree} {text : String} :
    Given (Present Means) none found (some text) ↔ ∃ tree, found = some tree ∧ Means tree text := by
  cases found with
  | none => simp [Given.none_iff]
  | some tree =>
      rw [Given.some_iff]
      constructor
      · rintro ⟨_, means, ⟨⟩⟩
        exact ⟨tree, rfl, means⟩
      · rintro ⟨_, ⟨⟩, means⟩
        exact ⟨text, means, rfl⟩

/-- What the members of a node are when all of them have been read. -/
def IsFinished (members : NodeMembers) (draft : Draft) : Prop :=
  ∃ kind, members.kind = some kind ∧ draft = ⟨kind, members.label.getD "", members.items,
    members.min, members.max, members.init, members.step⟩

theorem readsMembers_node {items : Reader (List Draft)} {number : Reader Json}
    (readsItems : Reads items IsItems) (readsNumber : Reads number IsNumber) :
    ReadsMembers (objectOf (readNodeMembers items number)) (IsNodeMembers IsItems IsNumber) := by
  have fields := readsMembers_fields lawful_nodeSlot (reads_readNodeMember readsItems readsNumber)
    NodeMembers.empty
  intro text draft rest
  refine (@readsMembers_bind _ _ _ _ fields _ IsFinished ?ends text draft rest).trans ?meant
  case ends =>
    intro members text draft rest
    cases held : members.kind with
    | none => simp [IsFinished, held]
    | some kind => simp [IsFinished, held, eq_comm, and_comm]
  refine exists_congr fun members => exists_congr fun inside => and_congr_right fun _ =>
    and_congr_right fun _ => ?_
  constructor
  · rintro ⟨state, ⟨named, spelled, once, filled⟩, kind, held, rfl⟩
    obtain ⟨type, label, items, min, max, init, step⟩ := forall_nodeFields.mp filled
    have typed : Given (Present IsText) none (named.lookup "type") state.kind := type
    rw [held] at typed
    exact .named spelled once (given_some_iff.mp typed) (given_getD_iff.mpr ⟨_, label, rfl⟩) items
      min max init step
  · rintro ⟨spelled, once, type, label, items, min, max, init, step⟩
    obtain ⟨labelled, label, same⟩ := given_getD_iff.mp label
    refine ⟨⟨some draft.kind, labelled, draft.items, draft.min, draft.max, draft.init, draft.step⟩,
      ⟨_, spelled, once, forall_nodeFields.mpr ⟨given_some_iff.mpr type, label, items, min, max,
        init, step⟩⟩, draft.kind, rfl, ?_⟩
    cases draft
    dsimp only at same ⊢
    rw [same]

theorem reads_node (room : Nat) : Reads (readNode room) (IsNode room) ∧
    Reads (readNodes room) (IsNodes room) := by
  induction room with
  | zero =>
      exact ⟨reads_record _ (readsItems_fail _) (readsMembers_fail _),
        reads_sequence _ (readsItems_fail _)⟩
  | succ room ih =>
      obtain ⟨node, nodes⟩ := ih
      exact ⟨reads_record _ (readsItems_node nodes (reads_value room))
          (readsMembers_node nodes (reads_value room)),
        reads_sequence _ (readsItems_items node)⟩

end Nodes

/-! ## Documents -/

/-- The fields of a document in order. -/
inductive IsOutlineElements (AreNodes : Tree → List Draft → Prop) : List Tree → Outline → Prop where
  | all {nameTree nodesTree : Tree} {name : Option String} {nodes : Option (List Draft)} :
      Optionally IsText nameTree name → Optionally AreNodes nodesTree nodes →
      IsOutlineElements AreNodes [nameTree, nodesTree] ⟨name, nodes⟩

/-- The members of a document: a name and nodes, each of which may be null or not there. -/
inductive IsOutlineMembers (AreNodes : Tree → List Draft → Prop) :
    List (List Char × Tree) → Outline → Prop where
  | named {members : List (List Char × Tree)} {named : List (String × Tree)} {outline : Outline} :
      Named members named → OnceEach outlineFields named →
      Given (Optionally IsText) none (named.lookup "name") outline.name →
      Given (Optionally AreNodes) none (named.lookup "ui") outline.nodes →
      IsOutlineMembers AreNodes members outline

/-- A text is a document, with blanks around it if need be, that is typed like this outline. -/
def Decodes (text : String) (outline : Outline) : Prop :=
  ∃ tree rest, tree.Leads text.toList rest ∧ Blanks rest ∧
    IsRecord (IsOutlineElements (IsNodes (depthLimit - 1)))
      (IsOutlineMembers (IsNodes (depthLimit - 1))) tree outline

section Outlines

variable {AreNodes : Tree → List Draft → Prop}

/-- Where the fields of a document go. -/
def outlineSlot (AreNodes : Tree → List Draft → Prop) (name : String) : Slot Outline :=
  match name with
  | "name" => ⟨_, (·.name), fun name outline => { outline with name := name }, Optionally IsText⟩
  | _ => ⟨_, (·.nodes), fun nodes outline => { outline with nodes := nodes }, Optionally AreNodes⟩

theorem forall_outlineFields {P : String → Prop} :
    (∀ name ∈ outlineFields, P name) ↔ P "name" ∧ P "ui" := by
  simp only [outlineFields, List.forall_mem_cons, List.not_mem_nil, false_implies, implies_true,
    and_true]

theorem outlineSlot_get_set : ∀ name ∈ outlineFields, ∀ value state,
    (outlineSlot AreNodes name).get ((outlineSlot AreNodes name).set value state) = value :=
  forall_outlineFields.mpr ⟨fun _ _ => rfl, fun _ _ => rfl⟩

theorem outlineSlot_get_set_other : ∀ name ∈ outlineFields, ∀ other ∈ outlineFields,
    other ≠ name → ∀ value state,
      (outlineSlot AreNodes other).get ((outlineSlot AreNodes name).set value state) =
        (outlineSlot AreNodes other).get state := by
  refine forall_outlineFields.mpr ⟨?_, ?_⟩ <;>
    refine forall_outlineFields.mpr ⟨?_, ?_⟩ <;>
    intro different value state <;>
    first
      | rfl
      | exact absurd rfl different

theorem lawful_outlineSlot : Lawful outlineFields (outlineSlot AreNodes) where
  get_set value state known := outlineSlot_get_set _ known value state
  get_set_other value state known otherKnown different :=
    outlineSlot_get_set_other _ known _ otherKnown different value state
  ext {first second} same := by
    cases first
    cases second
    rw [Outline.mk.injEq]
    exact forall_outlineFields.mp same

theorem readsItems_outline {nodes : Reader (List Draft)} (reads : Reads nodes AreNodes) :
    ReadsItems (arrayOf (readOutlineElements nodes)) (IsOutlineElements AreNodes) := by
  have row : ReadsRow true (readOutlineElements nodes) _ :=
    readsRow_element (reads_optional (reads_string _)) (fun name =>
      readsRow_element (reads_optional reads) (fun nodes => readsRow_pure (Outline.mk name nodes))
        1 outlineLength) 0 outlineLength
  refine readsItems_row (readsRow_congr row fun trees outline => ?_)
  constructor
  · rintro ⟨name, ⟨nodes, rfl, rfl⟩⟩
    exact .all name nodes
  · rintro ⟨name, nodes⟩
    exact .item name (.item nodes ⟨rfl, rfl⟩)

theorem reads_readOutlineMember {nodes : Reader (List Draft)} (reads : Reads nodes AreNodes) :
    ∀ name ∈ outlineFields, ∀ outline, Reads (readOutlineMember nodes name outline) fun tree =>
      Puts (outlineSlot AreNodes) name tree outline := by
  refine forall_outlineFields.mpr ⟨?name, ?nodes⟩ <;> intro outline
  case name =>
    exact (reads_optional (reads_string _)).bind_pure fun name => { outline with name := name }
  case nodes => exact (reads_optional reads).bind_pure fun nodes => { outline with nodes := nodes }

theorem readsMembers_outline {nodes : Reader (List Draft)} (reads : Reads nodes AreNodes) :
    ReadsMembers (objectOf (readOutlineMembers nodes)) (IsOutlineMembers AreNodes) := by
  intro text outline rest
  refine (readsMembers_fields lawful_outlineSlot (reads_readOutlineMember reads) ⟨none, none⟩ text
    outline rest).trans ?_
  refine exists_congr fun members => exists_congr fun inside => and_congr_right fun _ =>
    and_congr_right fun _ => ?_
  constructor
  · rintro ⟨named, spelled, once, filled⟩
    obtain ⟨name, nodes⟩ := forall_outlineFields.mp filled
    exact .named spelled once name nodes
  · rintro ⟨spelled, once, name, nodes⟩
    exact ⟨_, spelled, once, forall_outlineFields.mpr ⟨name, nodes⟩⟩

/-- The reader of outlines takes exactly the texts that are well-typed documents. -/
theorem Outline.parse_eq_ok_iff {text : String} {outline : Outline} :
    Outline.parse text = .ok outline ↔ Decodes text outline :=
  run_eq_ok_iff (reads_record _ (readsItems_outline (reads_node _).2)
    (readsMembers_outline (reads_node _).2))

end Outlines

/-- A text that is no well-typed document is reported as such whatever else is wrong with it, and
only such a text is.  Every other text gets the verdict on the document that it is. -/
theorem parse_verdict (text : String) :
    ((∃ error, Descriptor.parse text = .error (.json error)) ↔ ¬ ∃ outline, Decodes text outline) ∧
      ∀ outline, Decodes text outline → outline.Verdict (Descriptor.parse text) := by
  simp only [← Outline.parse_eq_ok_iff]
  rw [Descriptor.parse]
  cases parsed : Outline.parse text with
  | error error =>
      constructor
      · simp
      · rintro outline ⟨⟩
  | ok outline =>
      have verdict := outline.verdict_check
      constructor
      · constructor
        · rintro ⟨error, failed⟩
          dsimp only at failed
          rw [failed] at verdict
          cases verdict
        · rintro undecoded
          exact absurd ⟨outline, rfl⟩ undecoded
      · rintro _ ⟨⟩
        exact verdict

/-- A document with two bad nodes on the walk and a third under a node that is no group.  The member
that is ignored holds a surrogate without its partner. -/
def rivals : String :=
  "\x7b\"ui\":[\x7b\"type\":\"hgroup\",\"items\":[" ++
    "\x7b\"type\":\"x\",\"items\":[\x7b\"type\":\"vgroup\"\x7d]\x7d," ++
    "\x7b\"type\":\"nentry\",\"label\":\"a\",\"min\":null,\"color\":\"\\ud800\"\x7d]\x7d," ++
    "\x7b\"type\":\"vgroup\"\x7d],\"name\":\"n\"\x7d"

set_option maxRecDepth 20000 in
theorem parse_verdict_rivals :
    let empty (kind label : String) (items : Option (List Draft)) : Draft :=
      ⟨kind, label, items, none, none, none, none⟩
    let outline : Outline :=
      ⟨some "n", some [empty "hgroup" "" (some [empty "x" "" (some [empty "vgroup" "" none]),
        empty "nentry" "a" none]), empty "vgroup" "" none]⟩
    Decodes rivals outline ∧ outline.Verdict (Descriptor.parse rivals) := by
  intro empty outline
  have decodes : Decodes rivals outline := Outline.parse_eq_ok_iff.mp (by cbv)
  exact ⟨decodes, (parse_verdict rivals).2 outline decodes⟩

set_option maxRecDepth 20000 in
/-- The entry is the first bad node, and its least value the first number that it lacks. -/
example : Descriptor.parse rivals = .error (.node (.missingNumber "a" .min)) := by cbv

end DspBridge.Descriptor

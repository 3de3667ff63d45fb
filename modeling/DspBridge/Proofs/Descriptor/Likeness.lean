import DspBridge.Descriptor.Draft
import Mathlib.Data.List.Forall2

/-!
# Documents that are alike

Values are alike if they only differ in the order of members, and drafts if they only differ in the
values of their numbers and these are alike.  Drafts that are alike are checked to one end: they
become the same nodes, or the first defects in them are told in the same words.
-/

namespace DspBridge

/-- Values that are the same once the members of every object are sorted. -/
def Json.Alike (value other : Json) : Prop := value.normal = other.normal

namespace Descriptor

/-- Drafts with numbers that are alike. -/
inductive Draft.Alike : Draft → Draft → Prop where
  | fields {kind label : String} {items items' : Option (List Draft)}
      {min min' max max' init init' step step' : Option Json} :
      Option.Rel (List.Forall₂ Draft.Alike) items items' → Option.Rel Json.Alike min min' →
      Option.Rel Json.Alike max max' → Option.Rel Json.Alike init init' →
      Option.Rel Json.Alike step step' →
      Draft.Alike ⟨kind, label, items, min, max, init, step⟩
        ⟨kind, label, items', min', max', init', step'⟩

mutual

theorem Draft.Alike.refl (draft : Draft) : draft.Alike draft := by
  match draft with
  | ⟨kind, label, items, min, max, init, step⟩ =>
      have number (held : Option Json) : Option.Rel Json.Alike held held := by
        cases held with
        | none => exact .none
        | some value => exact .some rfl
      refine .fields ?_ (number min) (number max) (number init) (number step)
      match items with
      | none => exact .none
      | some items => exact .some (Draft.Alike.reflAll items)

theorem Draft.Alike.reflAll (drafts : List Draft) : List.Forall₂ Draft.Alike drafts drafts := by
  match drafts with
  | [] => exact .nil
  | draft :: drafts => exact .cons (Draft.Alike.refl draft) (Draft.Alike.reflAll drafts)

end

/-- Documents of one name with nodes that are alike. -/
structure Outline.Alike (outline other : Outline) : Prop where
  name : outline.name = other.name
  nodes : Option.Rel (List.Forall₂ Draft.Alike) outline.nodes other.nodes

theorem Outline.Alike.refl (outline : Outline) : outline.Alike outline := by
  refine ⟨rfl, ?_⟩
  cases outline.nodes with
  | none => exact .none
  | some nodes => exact .some (Draft.Alike.reflAll nodes)

/-- What two checks come to: the same value, or defects of one wording. -/
inductive SameEnd {α : Type} : Except Defect α → Except Defect α → Prop where
  | ok {value : α} : SameEnd (.ok value) (.ok value)
  | error {defect other : Defect} :
      defect.message = other.message → SameEnd (.error defect) (.error other)

/-- What two texts are found to be: the same descriptor, no documents, documents that lack the same
field, or documents with defects of one wording. -/
inductive SameOutcome : Except Error Descriptor → Except Error Descriptor → Prop where
  | ok {descriptor : Descriptor} : SameOutcome (.ok descriptor) (.ok descriptor)
  | json {error other : Json.Error} : SameOutcome (.error (.json error)) (.error (.json other))
  | missingField {field : FieldName} :
      SameOutcome (.error (.missingField field)) (.error (.missingField field))
  | node {defect other : Defect} : defect.message = other.message →
      SameOutcome (.error (.node defect)) (.error (.node other))

/-! ## Checks -/

section Checks

variable {α β : Type} {draft other : Draft}

theorem SameEnd.bind {result result' : Except Defect α} {next next' : α → Except Defect β}
    (same : SameEnd result result') (follows : ∀ value, SameEnd (next value) (next' value)) :
    SameEnd (result >>= next) (result' >>= next') := by
  cases same with
  | ok => exact follows _
  | error told => exact .error told

theorem SameEnd.map {result result' : Except Defect α} (same : SameEnd result result')
    (change : α → β) : SameEnd (change <$> result) (change <$> result') := by
  cases same with
  | ok => exact .ok
  | error told => exact .error told

/-- The order of members never decides whether a value is a number. -/
theorem ofJson?_alike {value other : Json} (alike : value.Alike other) :
    Quantity.ofJson? value = Quantity.ofJson? other := by
  have settled (value : Json) : Quantity.ofJson? value.normal = Quantity.ofJson? value := by
    cases value <;> rfl
  have same : value.normal = other.normal := alike
  rw [← settled value, same, settled]

theorem notANumber_alike {value other : Json} (alike : value.Alike other) (label : String)
    (key : RangeKey) :
    (Defect.notANumber label key value).message = (Defect.notANumber label key other).message := by
  have same : value.normal = other.normal := alike
  have told : notANumberMessage value = notANumberMessage other := by
    unfold notANumberMessage
    rw [same]
  simp only [Defect.message, told]

theorem Draft.Alike.number? (alike : draft.Alike other) (key : RangeKey) :
    Option.Rel Json.Alike (draft.number? key) (other.number? key) := by
  cases alike with
  | fields items min max init step => cases key <;> assumption

theorem Draft.Alike.quantity (alike : draft.Alike other) (key : RangeKey) :
    SameEnd (draft.quantity key) (other.quantity key) := by
  have number := alike.number? key
  have label : draft.label = other.label := by
    cases alike
    rfl
  rw [Draft.quantity, Draft.quantity, label]
  generalize draft.number? key = held at number
  generalize other.number? key = held' at number
  cases number with
  | none => exact .error rfl
  | @some value value' same =>
      dsimp only
      rw [ofJson?_alike same]
      cases Quantity.ofJson? value' with
      | none => exact .error (notANumber_alike same _ _)
      | some quantity => exact .ok

theorem Draft.Alike.range (alike : draft.Alike other) : SameEnd draft.range other.range := by
  rw [Draft.range, Draft.range]
  refine (alike.quantity .min).bind fun min => ?_
  refine (alike.quantity .max).bind fun max => ?_
  refine (alike.quantity .init).bind fun init => ?_
  exact (alike.quantity .step).bind fun step => .ok

theorem Draft.Alike.leaf (alike : draft.Alike other) : SameEnd draft.leaf other.leaf := by
  have range := alike.range
  have kind : draft.kind = other.kind := by
    cases alike
    rfl
  have label : draft.label = other.label := by
    cases alike
    rfl
  rw [Draft.leaf, Draft.leaf, kind, label]
  cases RangeKind.ofName? other.kind with
  | some kind => exact range.map _
  | none => cases SwitchKind.ofName? other.kind <;> exact .ok

mutual

/-- Drafts that are alike become one node, or their first defects are told alike. -/
theorem Draft.Alike.check (draft other : Draft) (alike : draft.Alike other) :
    SameEnd draft.check other.check := by
  match draft, other with
  | ⟨kind, label, items, min, max, init, step⟩, ⟨kind', label', items', min', max', init', step'⟩ =>
      have leaf := alike.leaf
      cases alike with
      | fields same =>
          rw [Draft.check.eq_def, Draft.check.eq_def]
          dsimp only
          cases GroupKind.ofName? kind with
          | none => exact leaf
          | some group =>
              match items, items', same with
              | none, none, _ => exact .error rfl
              | some items, some items', .some same =>
                  exact (Draft.Alike.checkAll items items' same).bind fun nodes => .ok

theorem Draft.Alike.checkAll (drafts others : List Draft)
    (alike : List.Forall₂ Draft.Alike drafts others) :
    SameEnd (Draft.checkAll drafts) (Draft.checkAll others) := by
  match drafts, others, alike with
  | [], _, .nil => exact .ok
  | draft :: drafts, other :: others, .cons same rest =>
      rw [Draft.checkAll, Draft.checkAll]
      refine (Draft.Alike.check draft other same).bind fun node => ?_
      exact (Draft.Alike.checkAll drafts others rest).bind fun nodes => .ok

end

theorem Outline.Alike.check {outline other : Outline} (alike : outline.Alike other) :
    SameOutcome outline.check other.check := by
  obtain ⟨name, nodes⟩ := outline
  obtain ⟨name', nodes'⟩ := other
  obtain ⟨named, same⟩ := alike
  dsimp only at named same
  subst named
  rw [Outline.check, Outline.check]
  cases name with
  | none => exact .missingField
  | some name =>
      cases same with
      | none => exact .missingField
      | some same =>
          have checked := Draft.Alike.checkAll _ _ same
          dsimp only
          revert checked
          generalize Draft.checkAll _ = result
          generalize Draft.checkAll _ = result'
          rintro (_ | told)
          · exact .ok
          · exact .node told

end Checks

end Descriptor
end DspBridge

import DspBridge.Proofs.Descriptor.Labels
import Mathlib.Data.List.Forall2

/-!
# What declarations keep of controls

A declaration quotes its label without escaping anything, so the end of the label cannot be told from
the quotes.  It can be told from the identifier, which holds no blank and has as many characters as the
label.  Numbers hold no comma, so that the fields behind the label can be told apart as well: all that
is lost of a control is the widget that shows it.
-/

namespace DspBridge.Descriptor

open Number (Spelled isNumeralChar)

/-! ## Parts of a line -/

/-- The part in front of the first separator can be told from the whole, and so can the rest. -/
theorem separated_inj {separator : Char} {part other rest more : List Char}
    (free : separator ∉ part) (freeToo : separator ∉ other)
    (same : part ++ separator :: rest = other ++ separator :: more) :
    part = other ∧ rest = more := by
  induction part generalizing other with
  | nil =>
      cases other with
      | nil => exact ⟨rfl, List.tail_eq_of_cons_eq same⟩
      | cons c other =>
          have first : separator = c := List.head_eq_of_cons_eq same
          exact absurd (first ▸ List.mem_cons_self) freeToo
  | cons c part ih =>
      rw [List.mem_cons, not_or] at free
      cases other with
      | nil =>
          have first : c = separator := List.head_eq_of_cons_eq same
          exact absurd first.symm free.1
      | cons d other =>
          rw [List.mem_cons, not_or] at freeToo
          obtain ⟨rfl, behind⟩ := List.cons.inj same
          obtain ⟨rfl, equal⟩ := ih free.2 freeToo.2 behind
          exact ⟨rfl, equal⟩

theorem length_sanitizeLabel (label : String) :
    (sanitizeLabel label).toList.length = label.toList.length := by
  rw [sanitizeLabel, String.toList_ofList, List.length_map]

/-- A label and what follows it can be told from the declaration. -/
theorem label_of_declaration {control other : Control}
    (same : control.declaration = other.declaration) :
    control.label = other.label ∧ control.ending = other.ending := by
  have whole := congrArg String.toList same
  rw [declaration_toList, declaration_toList] at whole
  obtain ⟨identifier, behind⟩ := separated_inj (blank_not_mem_sanitizeLabel control.label)
    (blank_not_mem_sanitizeLabel other.label) (List.append_cancel_left whole)
  have size : control.label.toList.length = other.label.toList.length := by
    rw [← length_sanitizeLabel, identifier, length_sanitizeLabel]
  have quoted : control.label.toList ++ '"' :: control.ending.toList =
      other.label.toList ++ '"' :: other.ending.toList := by
    simpa using behind
  obtain ⟨label, ending⟩ := List.append_inj quoted size
  exact ⟨String.toList_injective label, String.toList_injective (List.tail_eq_of_cons_eq ending)⟩

theorem annotation_of_ending {control other : Control} (same : control.ending = other.ending) :
    control.annotation = other.annotation := by
  have whole := congrArg String.toList same
  simp only [Control.ending, String.toList_append] at whole
  exact String.toList_injective (List.append_cancel_left (List.append_cancel_right whole))

/-! ## Fields of a range -/

theorem comma_not_mem_of_spelled {chars : List Char} (spelled : Spelled chars) : ',' ∉ chars := by
  intro member
  exact absurd (spelled ',' member) (by decide)

/-- The fields of a range, each but the last in front of a comma. -/
theorem annotation_toList (limits : Range) :
    limits.annotation.toList =
      "min: ".toList ++ (limits.min.text.toList ++ ',' ::
        (" max: ".toList ++ (limits.max.text.toList ++ ',' ::
          (" init: ".toList ++ (limits.init.text.toList ++ ',' ::
            (" step: ".toList ++ limits.step.text.toList)))))) := by
  change ("min: " ++ limits.min.text ++ ", max: " ++ limits.max.text ++ ", init: " ++
    limits.init.text ++ ", step: " ++ limits.step.text).toList = _
  simp [String.toList_append]

/-- Numbers that have been read can be told from the fields that hold them. -/
theorem limits_of_fields {limits other : Range} (isRead : limits.IsRead)
    (isReadToo : other.IsRead) (same : limits.annotation = other.annotation) : limits = other := by
  have free (key : RangeKey) : ',' ∉ (limits.quantity key).text.toList :=
    comma_not_mem_of_spelled (isRead.spelled key)
  have freeToo (key : RangeKey) : ',' ∉ (other.quantity key).text.toList :=
    comma_not_mem_of_spelled (isReadToo.spelled key)
  have whole := congrArg String.toList same
  rw [annotation_toList, annotation_toList] at whole
  obtain ⟨min, behindMin⟩ :=
    separated_inj (free .min) (freeToo .min) (List.append_cancel_left whole)
  obtain ⟨max, behindMax⟩ :=
    separated_inj (free .max) (freeToo .max) (List.append_cancel_left behindMin)
  obtain ⟨init, behindInit⟩ :=
    separated_inj (free .init) (freeToo .init) (List.append_cancel_left behindMax)
  have step := List.append_cancel_left behindInit
  obtain ⟨⟨_⟩, ⟨_⟩, ⟨_⟩, ⟨_⟩⟩ := limits
  obtain ⟨⟨_⟩, ⟨_⟩, ⟨_⟩, ⟨_⟩⟩ := other
  cases String.toList_injective min
  cases String.toList_injective max
  cases String.toList_injective init
  cases String.toList_injective step
  rfl

/-- The fields of a range are not those of a switch. -/
theorem annotation_ne_switch (limits : Range) : limits.annotation ≠ switchAnnotation := by
  intro same
  have whole := congrArg String.toList same
  rw [annotation_toList] at whole
  exact absurd (List.head_eq_of_cons_eq whole) (by decide)

/-- A control whose numbers have been read can be told from its declaration. -/
theorem declaration_inj {control other : Control} (isRead : control.IsRead)
    (isReadToo : other.IsRead) : control.declaration = other.declaration ↔ control = other := by
  constructor
  · intro same
    obtain ⟨label, ending⟩ := label_of_declaration same
    have annotation := annotation_of_ending ending
    obtain ⟨_, limits⟩ := control
    obtain ⟨_, others⟩ := other
    cases label
    cases limits with
    | none =>
        cases others with
        | none => rfl
        | some others => exact absurd annotation.symm (annotation_ne_switch others)
    | some limits =>
        cases others with
        | none => exact absurd annotation (annotation_ne_switch limits)
        | some others =>
            rw [limits_of_fields (isRead limits rfl) (isReadToo others rfl) annotation]
  · rintro rfl
    rfl

/-! ## Nodes and descriptors -/

/-- Nodes that are the same control, whichever widgets show it: ranges with the same label and the
same numbers, or switches with the same label. -/
inductive Node.Alike : Node → Node → Prop where
  | range (kind newKind : RangeKind) (label : String) (limits : Range) :
      Alike (.range kind label limits) (.range newKind label limits)
  | switch (kind newKind : SwitchKind) (label : String) :
      Alike (.switch kind label) (.switch newKind label)

/-- The numbers of a node have been read, if it has any. -/
def Node.IsRead (node : Node) : Prop := ∀ control ∈ node.control?, control.IsRead

/-- Whether a node is a control. -/
def Node.isControl (node : Node) : Bool := node.control?.isSome

/-- The controls at or below the nodes of a descriptor, in document order, with their widgets. -/
def inputs (descriptor : Descriptor) : List Node := descriptor.leaves.filter Node.isControl

theorem alike_iff {node other : Node} :
    Node.Alike node other ↔ node.isControl = true ∧ node.control? = other.control? := by
  constructor
  · rintro (_ | _) <;> exact ⟨rfl, rfl⟩
  · rintro ⟨isControl, same⟩
    cases node with
    | group | other => cases isControl
    | range kind label limits =>
        cases other with
        | range newKind =>
            cases same
            exact .range kind newKind label limits
        | group | switch | other => cases same
    | switch kind label =>
        cases other with
        | switch newKind =>
            cases same
            exact .switch kind newKind label
        | group | range | other => cases same

theorem map_control?_filter (nodes : List Node) :
    (nodes.filter Node.isControl).map Node.control? = (nodes.filterMap Node.control?).map some := by
  induction nodes with
  | nil => rfl
  | cons node nodes ih =>
      cases found : node.control? with
      | none =>
          have notControl : ¬ node.isControl = true := by simp [Node.isControl, found]
          rw [List.filter_cons_of_neg notControl, List.filterMap_cons_none found, ih]
      | some control =>
          have isControl : node.isControl = true := by simp [Node.isControl, found]
          rw [List.filter_cons_of_pos isControl, List.filterMap_cons_some found, List.map_cons,
            List.map_cons, found, ih]

/-- The controls of a descriptor are its inputs without the widgets. -/
theorem map_control?_inputs (descriptor : Descriptor) :
    descriptor.inputs.map Node.control? = (Node.controlsOf descriptor.nodes).map some :=
  map_control?_filter descriptor.leaves

/-- Inputs are alike one by one exactly if they are the same controls. -/
theorem alike_inputs_iff {descriptor other : Descriptor} :
    List.Forall₂ Node.Alike descriptor.inputs other.inputs ↔
      Node.controlsOf descriptor.nodes = Node.controlsOf other.nodes := by
  have isControl : ∀ node ∈ descriptor.inputs, node.isControl = true :=
    fun node member => (List.mem_filter.mp member).2
  have pointwise : List.Forall₂ Node.Alike descriptor.inputs other.inputs ↔
      List.Forall₂ (fun node other => node.control? = other.control?)
        descriptor.inputs other.inputs := by
    generalize descriptor.inputs = nodes at isControl
    generalize other.inputs = others
    constructor
    · exact List.Forall₂.imp fun _ _ alike => (alike_iff.mp alike).2
    · intro same
      induction same with
      | nil => exact .nil
      | cons first _ ih =>
          obtain ⟨control, controls⟩ := List.forall_mem_cons.mp isControl
          exact .cons (alike_iff.mpr ⟨control, first⟩) (ih controls)
  rw [pointwise, ← List.forall₂_map_right_iff (f := Node.control?),
    ← List.forall₂_map_left_iff (f := Node.control?) (R := Eq), List.forall₂_eq_eq_eq,
    map_control?_inputs, map_control?_inputs]
  exact List.map_inj_right fun _ _ => Option.some.inj

theorem isRead_of_inputs {descriptor : Descriptor}
    (isRead : ∀ node ∈ descriptor.inputs, node.IsRead) :
    ∀ control ∈ Node.controlsOf descriptor.nodes, control.IsRead := by
  intro control member
  have held : some control ∈ descriptor.inputs.map Node.control? := by
    rw [map_control?_inputs]
    exact List.mem_map_of_mem member
  obtain ⟨node, input, found⟩ := List.mem_map.mp held
  exact isRead node input control found

theorem map_declaration_inj {controls others : List Control}
    (isRead : ∀ control ∈ controls, control.IsRead)
    (isReadToo : ∀ control ∈ others, control.IsRead) :
    controls.map Control.declaration = others.map Control.declaration ↔ controls = others := by
  constructor
  · intro same
    induction controls generalizing others with
    | nil => exact (List.map_eq_nil_iff.mp same.symm).symm
    | cons control controls ih =>
        cases others with
        | nil => cases same
        | cons other others =>
            obtain ⟨first, rest⟩ := List.forall_mem_cons.mp isRead
            obtain ⟨firstToo, restToo⟩ := List.forall_mem_cons.mp isReadToo
            obtain ⟨line, lines⟩ := List.cons.inj same
            rw [(declaration_inj first firstToo).mp line, ih rest restToo lines]
  · rintro rfl
    rfl

/-- Declarations lose nothing but the widgets.  Two controls have the same declaration exactly if they
are ranges with the same label and the same numbers, or switches with the same label; and two
descriptors have the same declarations exactly if their inputs are alike one by one. -/
theorem declarations_tell_controls :
    (∀ {node other : Node}, node.isControl = true → other.isControl = true →
      node.IsRead → other.IsRead →
      (node.declaration? = other.declaration? ↔ node.Alike other)) ∧
    ∀ {descriptor other : Descriptor}, (∀ node ∈ descriptor.inputs, node.IsRead) →
      (∀ node ∈ other.inputs, node.IsRead) →
      (descriptor.declarations = other.declarations ↔
        List.Forall₂ Node.Alike descriptor.inputs other.inputs) := by
  constructor
  · intro node other isControl isControlToo isRead isReadToo
    obtain ⟨control, found⟩ := Option.isSome_iff_exists.mp isControl
    obtain ⟨otherControl, foundToo⟩ := Option.isSome_iff_exists.mp isControlToo
    rw [alike_iff, and_iff_right isControl, Node.declaration?_eq, Node.declaration?_eq, found,
      foundToo, Option.map_some, Option.map_some, Option.some_inj, Option.some_inj]
    exact declaration_inj (isRead control found) (isReadToo otherControl foundToo)
  · intro descriptor other isRead isReadToo
    rw [alike_inputs_iff, declarations_eq, declarations_eq]
    exact map_declaration_inj (isRead_of_inputs isRead) (isRead_of_inputs isReadToo)

/-- The numbers of the gain can be read, the last of them in quotes and with blanks around it. -/
theorem sampleLimits_isRead : sampleLimits.IsRead
  | .min => ⟨.number (.integer 0 (by decide)), rfl⟩
  | .max => ⟨.number (.integer 1 (by decide)), rfl⟩
  | .init => ⟨.string "0.5", by decide +kernel⟩
  | .step => ⟨.string " 0.01 ", by decide +kernel⟩

/-- A gain whose label goes on like a declaration. -/
def mimic (kind : RangeKind) : Node :=
  .range kind "gain\", min: 0, max: 1, init: 0.5, step: 0.01 ]];" sampleLimits

theorem mimic_isRead (kind : RangeKind) : (mimic kind).IsRead := by
  rintro _ ⟨⟩ _ ⟨⟩
  exact sampleLimits_isRead

/-- A gain whose label goes on like a declaration is told from the gain that it looks like, and not
from the same gain as another widget. -/
theorem declarations_tell_controls_mimic :
    let gain := Node.range .entry "gain" sampleLimits
    let page (node : Node) : Descriptor := ⟨"synth", [.group .tabbed "page" [node, .other "meter"]]⟩
    gain.IsRead ∧ (mimic .entry).IsRead ∧ gain.declaration? ≠ (mimic .entry).declaration? ∧
      (∀ kind, ∀ node ∈ (page (mimic kind)).inputs, node.IsRead) ∧
      (page (mimic .entry)).declarations = (page (mimic .verticalSlider)).declarations := by
  intro gain page
  have isRead : gain.IsRead := by
    rintro _ ⟨⟩ _ ⟨⟩
    exact sampleLimits_isRead
  have inputs_page (kind : RangeKind) : (page (mimic kind)).inputs = [mimic kind] := rfl
  have pageRead (kind : RangeKind) : ∀ node ∈ (page (mimic kind)).inputs, node.IsRead :=
    List.forall_mem_singleton.mpr (mimic_isRead kind)
  refine ⟨isRead, mimic_isRead .entry, ?_, pageRead, ?_⟩
  · rw [ne_eq, declarations_tell_controls.1 rfl rfl isRead (mimic_isRead .entry), alike_iff]
    decide
  · rw [declarations_tell_controls.2 (pageRead .entry) (pageRead .verticalSlider), inputs_page,
      inputs_page]
    exact .cons (.range ..) .nil

end DspBridge.Descriptor

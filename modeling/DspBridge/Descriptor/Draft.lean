import DspBridge.Descriptor.Basic
import DspBridge.Json.Error

/-!
# Drafts of descriptors

A draft is a well-typed document whose nodes have not been checked yet: any field may be missing,
and the numbers of a range may be any values. Checking walks the nodes in document order, a group
before its items, and stops at the first defect.
-/

namespace DspBridge.Descriptor

/-- A node before it has been checked. -/
structure Draft where
  kind : String
  label : String
  items : Option (List Draft)
  min : Option Json
  max : Option Json
  init : Option Json
  step : Option Json
  deriving Repr

/-- The kind of group that a name stands for. -/
def GroupKind.ofName? (name : String) : Option GroupKind :=
  [GroupKind.vertical, .horizontal, .tabbed].find? (·.name == name)

/-- The kind of range that a name stands for. -/
def RangeKind.ofName? (name : String) : Option RangeKind :=
  [RangeKind.verticalSlider, .horizontalSlider, .entry].find? (·.name == name)

/-- The kind of switch that a name stands for. -/
def SwitchKind.ofName? (name : String) : Option SwitchKind :=
  [SwitchKind.button, .checkbox].find? (·.name == name)

namespace Draft

/-- The value in the place of a number of the range. -/
def number? (draft : Draft) : RangeKey → Option Json
  | .min => draft.min
  | .max => draft.max
  | .init => draft.init
  | .step => draft.step

/-- One number of the range. -/
def quantity (draft : Draft) (key : RangeKey) : Except Defect Quantity :=
  match draft.number? key with
  | none => .error (.missingNumber draft.label key)
  | some value =>
      match Quantity.ofJson? value with
      | some quantity => .ok quantity
      | none => .error (.notANumber draft.label key value)

/-- All numbers of the range, or the first that is defective. -/
def range (draft : Draft) : Except Defect Range := do
  let min ← draft.quantity .min
  let max ← draft.quantity .max
  let init ← draft.quantity .init
  let step ← draft.quantity .step
  pure ⟨min, max, init, step⟩

/-- The node of a draft that is no group. -/
def leaf (draft : Draft) : Except Defect Node :=
  match RangeKind.ofName? draft.kind with
  | some kind => (Node.range kind draft.label) <$> draft.range
  | none =>
      match SwitchKind.ofName? draft.kind with
      | some kind => .ok (.switch kind draft.label)
      | none => .ok (.other draft.kind)

mutual

/-- The node of a draft, or the first defect at or below it. -/
def check : Draft → Except Defect Node
  | ⟨kind, label, items, min, max, init, step⟩ =>
      match GroupKind.ofName? kind with
      | some group =>
          match items with
          | none => .error (.noItems group label)
          | some items => do
              let nodes ← checkAll items
              pure (.group group label nodes)
      | none => leaf ⟨kind, label, items, min, max, init, step⟩

/-- The nodes of drafts, or the first defect at or below any of them. -/
def checkAll : List Draft → Except Defect (List Node)
  | [] => .ok []
  | draft :: rest => do
      let node ← draft.check
      let others ← checkAll rest
      pure (node :: others)

end

end Draft

/-- A document before it has been checked. -/
structure Outline where
  name : Option String
  nodes : Option (List Draft)
  deriving Repr

/-- Why a text is no descriptor. -/
inductive Error where
  /-- The text is not a well-typed document. -/
  | json (error : Json.Error)
  /-- A field of the document is missing or null. -/
  | missingField (field : FieldName)
  /-- A node is defective. -/
  | node (defect : Defect)
  deriving Repr

/-- The wording of an error. -/
def Error.message : Error → String
  | .json error => s!"invalid descriptor JSON: {error.message}"
  | .missingField field => s!"descriptor is missing required field '{field.text}'"
  | .node defect => s!"malformed UI node: {defect.message}"

/-- The descriptor of a document, which needs its name first, then its nodes. -/
def Outline.check (outline : Outline) : Except Error Descriptor :=
  match outline.name, outline.nodes with
  | none, _ => .error (.missingField .name)
  | some _, none => .error (.missingField .ui)
  | some name, some drafts =>
      match Draft.checkAll drafts with
      | .ok nodes => .ok ⟨name, nodes⟩
      | .error defect => .error (.node defect)

end DspBridge.Descriptor

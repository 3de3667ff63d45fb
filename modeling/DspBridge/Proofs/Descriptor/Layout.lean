import DspBridge.Descriptor.Declaration
import Mathlib.Logic.Relation

/-!
# Layout

What a declaration shows of a control is its label and, for a range, the numbers; the widget that
shows the control and the groups around it leave no trace.  Edits that only change the layout
therefore change no declarations.  They reach every tree with the same controls in the same order, so
that there is nothing else that declarations do not depend on.
-/

namespace DspBridge.Descriptor

/-- A control without its widget: a range with its numbers, or a switch. -/
structure Control where
  label : String
  limits : Option Range
  deriving DecidableEq, Repr

namespace Control

/-- The declaration of a control. -/
def declaration (control : Control) : String :=
  declarationLine control.label ((control.limits.map Range.annotation).getD switchAnnotation)

/-- A widget for a control. -/
def widget : Control → Node
  | ⟨label, some limits⟩ => .range .verticalSlider label limits
  | ⟨label, none⟩ => .switch .button label

end Control

namespace Node

/-- The control that a node is. -/
def control? : Node → Option Control
  | .range _ label limits => some ⟨label, some limits⟩
  | .switch _ label => some ⟨label, none⟩
  | .group .. | .other _ => none

/-- The controls at or below some nodes, in document order. -/
def controlsOf (nodes : List Node) : List Control := (leavesOf nodes).filterMap control?

theorem declaration?_eq (node : Node) : node.declaration? = node.control?.map Control.declaration := by
  cases node <;> rfl

theorem leavesOf_append (before after : List Node) :
    leavesOf (before ++ after) = leavesOf before ++ leavesOf after := by
  induction before with
  | nil => simp [leavesOf]
  | cons node before ih => simp [leavesOf, ih]

section Controls

variable (rest : List Node)

@[simp] theorem controlsOf_nil : controlsOf [] = [] := by
  simp [controlsOf, leavesOf]

@[simp] theorem controlsOf_append (before after : List Node) :
    controlsOf (before ++ after) = controlsOf before ++ controlsOf after := by
  simp [controlsOf, leavesOf_append]

@[simp] theorem controlsOf_group (kind : GroupKind) (label : String) (items : List Node) :
    controlsOf (.group kind label items :: rest) = controlsOf items ++ controlsOf rest := by
  simp [controlsOf, leavesOf, leaves]

@[simp] theorem controlsOf_range (kind : RangeKind) (label : String) (limits : Range) :
    controlsOf (.range kind label limits :: rest) = ⟨label, some limits⟩ :: controlsOf rest := by
  simp [controlsOf, leavesOf, leaves, control?]

@[simp] theorem controlsOf_switch (kind : SwitchKind) (label : String) :
    controlsOf (.switch kind label :: rest) = ⟨label, none⟩ :: controlsOf rest := by
  simp [controlsOf, leavesOf, leaves, control?]

@[simp] theorem controlsOf_other (kind : String) :
    controlsOf (.other kind :: rest) = controlsOf rest := by
  rw [controlsOf, leavesOf, leaves, List.singleton_append, List.filterMap_cons_none rfl, controlsOf]
  nofun

end Controls

theorem controlsOf_cons (node : Node) (rest : List Node) :
    controlsOf (node :: rest) = controlsOf [node] ++ controlsOf rest :=
  controlsOf_append [node] rest

end Node

/-- Declarations are those of the controls. -/
theorem declarations_eq (descriptor : Descriptor) :
    descriptor.declarations = (Node.controlsOf descriptor.nodes).map Control.declaration := by
  have same : Node.declaration? = fun node => node.control?.map Control.declaration :=
    funext Node.declaration?_eq
  rw [declarations, leaves, Node.controlsOf, List.map_filterMap, same]

/-! ## Edits -/

/-- A change of layout to a run of siblings, which become other siblings in the same place. -/
inductive Rework : List Node → List Node → Prop where
  | enclose (kind : GroupKind) (label : String) (run : List Node) :
      Rework run [.group kind label run]
  | dissolve (kind : GroupKind) (label : String) (items : List Node) :
      Rework [.group kind label items] items
  | regroup (kind newKind : GroupKind) (label newLabel : String) (items : List Node) :
      Rework [.group kind label items] [.group newKind newLabel items]
  | range (kind newKind : RangeKind) (label : String) (limits : Range) :
      Rework [.range kind label limits] [.range newKind label limits]
  | switch (kind newKind : SwitchKind) (label : String) :
      Rework [.switch kind label] [.switch newKind label]
  | insertOther (kind : String) : Rework [] [.other kind]
  | deleteOther (kind : String) : Rework [.other kind] []
  | insertGroup (kind : GroupKind) (label : String) : Rework [] [.group kind label []]
  | deleteGroup (kind : GroupKind) (label : String) : Rework [.group kind label []] []

/-- A change of layout at any place of a tree: to the first siblings, behind the first sibling, or
inside it. -/
inductive Edit : List Node → List Node → Prop where
  | here {run newRun : List Node} (rest : List Node) :
      Rework run newRun → Edit (run ++ rest) (newRun ++ rest)
  | later {rest newRest : List Node} (node : Node) :
      Edit rest newRest → Edit (node :: rest) (node :: newRest)
  | inside {items newItems : List Node} (kind : GroupKind) (label : String) (rest : List Node) :
      Edit items newItems →
      Edit (.group kind label items :: rest) (.group kind label newItems :: rest)

/-- Any number of changes of layout. -/
def Edits : List Node → List Node → Prop := Relation.ReflTransGen Edit

theorem Rework.controlsOf_eq {run newRun : List Node} (rework : Rework run newRun) :
    Node.controlsOf newRun = Node.controlsOf run := by
  cases rework <;> simp

/-- An edit keeps the controls and their order. -/
theorem Edit.controlsOf_eq {nodes newNodes : List Node} (edit : Edit nodes newNodes) :
    Node.controlsOf newNodes = Node.controlsOf nodes := by
  induction edit with
  | here rest rework =>
      rw [Node.controlsOf_append, Node.controlsOf_append, rework.controlsOf_eq]
  | later node _ ih => rw [Node.controlsOf_cons, ih, ← Node.controlsOf_cons]
  | inside kind label rest _ ih => rw [Node.controlsOf_group, Node.controlsOf_group, ih]

theorem Edits.controlsOf_eq {nodes newNodes : List Node} (edits : Edits nodes newNodes) :
    Node.controlsOf newNodes = Node.controlsOf nodes := by
  induction edits with
  | refl => rfl
  | tail _ edit ih => rw [edit.controlsOf_eq, ih]

/-! ## Everything but the controls -/

theorem Rework.symm {run newRun : List Node} (rework : Rework run newRun) : Rework newRun run := by
  cases rework with
  | enclose => exact .dissolve ..
  | dissolve => exact .enclose ..
  | regroup => exact .regroup ..
  | range => exact .range ..
  | switch => exact .switch ..
  | insertOther => exact .deleteOther ..
  | deleteOther => exact .insertOther ..
  | insertGroup => exact .deleteGroup ..
  | deleteGroup => exact .insertGroup ..

theorem Edit.symm {nodes newNodes : List Node} (edit : Edit nodes newNodes) :
    Edit newNodes nodes := by
  induction edit with
  | here rest rework => exact .here rest rework.symm
  | later node _ ih => exact .later node ih
  | inside kind label rest _ ih => exact .inside kind label rest ih

theorem Edit.append {nodes newNodes : List Node} (edit : Edit nodes newNodes) (rest : List Node) :
    Edit (nodes ++ rest) (newNodes ++ rest) := by
  induction edit with
  | here behind rework =>
      rw [List.append_assoc, List.append_assoc]
      exact .here (behind ++ rest) rework
  | later node _ ih => exact .later node ih
  | inside kind label behind edit _ => exact .inside kind label (behind ++ rest) edit

namespace Edits

variable {nodes newNodes rest newRest : List Node}

theorem symm (edits : Edits nodes newNodes) : Edits newNodes nodes := by
  induction edits with
  | refl => exact .refl
  | tail _ edit ih => exact .head edit.symm ih

theorem later (node : Node) (edits : Edits rest newRest) :
    Edits (node :: rest) (node :: newRest) := by
  induction edits with
  | refl => exact .refl
  | tail _ edit ih => exact ih.tail (.later node edit)

theorem append_left (edits : Edits nodes newNodes) (rest : List Node) :
    Edits (nodes ++ rest) (newNodes ++ rest) := by
  induction edits with
  | refl => exact .refl
  | tail _ edit ih => exact ih.tail (edit.append rest)

theorem append_right (edits : Edits rest newRest) (nodes : List Node) :
    Edits (nodes ++ rest) (nodes ++ newRest) := by
  induction nodes with
  | nil => exact edits
  | cons node nodes ih => exact ih.later node

end Edits

/-- The tree without layout: a widget for each control. -/
def flat (controls : List Control) : List Node := controls.map Control.widget

/-- Groups are dissolved from the outside in, and what is left is a row of widgets. -/
theorem edits_flat : (nodes : List Node) → Edits nodes (flat (Node.controlsOf nodes))
  | [] => by
      rw [Node.controlsOf_nil]
      exact .refl
  | .group kind label items :: rest => by
      rw [Node.controlsOf_group, flat, List.map_append]
      have dissolved := Edit.here rest (.dissolve kind label items)
      exact .head dissolved
        (((edits_flat items).append_left rest).trans ((edits_flat rest).append_right _))
  | .range kind label limits :: rest => by
      rw [Node.controlsOf_range]
      have changed := Edit.here rest (.range kind .verticalSlider label limits)
      exact .head changed ((edits_flat rest).later _)
  | .switch kind label :: rest => by
      rw [Node.controlsOf_switch]
      have changed := Edit.here rest (.switch kind .button label)
      exact .head changed ((edits_flat rest).later _)
  | .other kind :: rest => by
      rw [Node.controlsOf_other]
      have deleted := Edit.here rest (.deleteOther kind)
      exact .head deleted (edits_flat rest)

/-- Edits lead from one tree to another exactly if their controls are the same. -/
theorem edits_iff {nodes newNodes : List Node} :
    Edits nodes newNodes ↔ Node.controlsOf newNodes = Node.controlsOf nodes := by
  constructor
  · exact Edits.controlsOf_eq
  · intro same
    have back := (edits_flat newNodes).symm
    rw [same] at back
    exact (edits_flat nodes).trans back

/-! ## Declarations -/

/-- Edits of the layout change no declaration, and none comes, goes or moves. -/
theorem declarations_edits {descriptor edited : Descriptor}
    (edits : Edits descriptor.nodes edited.nodes) :
    edited.declarations = descriptor.declarations := by
  rw [declarations_eq, declarations_eq, edits.controlsOf_eq]

/-- Numbers of a gain. -/
def sampleLimits : Range := ⟨⟨"0"⟩, ⟨"1"⟩, ⟨"0.5"⟩, ⟨"0.01"⟩⟩

/-- A slider below a switch, in a group of their own. -/
def sampleNodes : List Node :=
  [.group .vertical "voice" [.switch .button "gate", .range .verticalSlider "gain" sampleLimits]]

/-- The same controls as other widgets, in other groups. -/
def sampleEdited : List Node :=
  [.group .tabbed "page" [.group .horizontal "row" [.switch .checkbox "gate",
    .range .entry "gain" sampleLimits], .other "soundfile"]]

theorem edits_sample : Edits sampleNodes sampleEdited := by
  rw [edits_iff]
  simp [sampleNodes, sampleEdited]

/-- The two trees have the same two declarations. -/
theorem declarations_edits_sample :
    Edits sampleNodes sampleEdited ∧
      (⟨"synth", sampleEdited⟩ : Descriptor).declarations =
        (⟨"synth", sampleNodes⟩ : Descriptor).declarations ∧
      (⟨"synth", sampleNodes⟩ : Descriptor).declarations.length = 2 :=
  ⟨edits_sample, declarations_edits edits_sample, by decide⟩

end DspBridge.Descriptor

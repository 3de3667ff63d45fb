import DspBridge.Json.Value
import DspBridge.Json.Printer
import DspBridge.Number.Numeral
import DspBridge.Text.Blank

/-!
# User interface descriptors

The user interface of a signal processor as a tree: groups that lay out what they hold, controls
with a numeric range, controls that are on or off, and elements that take no input. What a host can
send events to are the leaves of the tree, in the order in which the document lists them.
-/

namespace DspBridge.Descriptor

/-- How a group lays out its items. -/
inductive GroupKind where
  | vertical
  | horizontal
  | tabbed
  deriving DecidableEq, Repr

/-- The widgets with a numeric range. -/
inductive RangeKind where
  | verticalSlider
  | horizontalSlider
  | entry
  deriving DecidableEq, Repr

/-- The widgets that are on or off. -/
inductive SwitchKind where
  | button
  | checkbox
  deriving DecidableEq, Repr

/-- The name of a kind of group in a document. -/
def GroupKind.name : GroupKind → String
  | .vertical => "vgroup"
  | .horizontal => "hgroup"
  | .tabbed => "tgroup"

/-- The name of a kind of range in a document. -/
def RangeKind.name : RangeKind → String
  | .verticalSlider => "vslider"
  | .horizontalSlider => "hslider"
  | .entry => "nentry"

/-- The name of a kind of switch in a document. -/
def SwitchKind.name : SwitchKind → String
  | .button => "button"
  | .checkbox => "checkbox"

/-- A number of a range, as it is written in declarations. -/
structure Quantity where
  text : String
  deriving DecidableEq, Repr

namespace Quantity

/-- A number of a document keeps its text; a quoted number is trimmed and kept as written. -/
def ofJson? : Json → Option Quantity
  | .number value => some ⟨value.text⟩
  | .string text =>
      if (Number.readFinite? (Text.trim text)).isSome then some ⟨Text.trim text⟩ else none
  | _ => none

/-- The double nearest to a quantity. -/
def toDouble? (quantity : Quantity) : Option Number.Double := Number.readDouble? quantity.text

end Quantity

/-- The numbers that limit and divide a range. -/
structure Range where
  min : Quantity
  max : Quantity
  init : Quantity
  step : Quantity
  deriving DecidableEq, Repr

/-- A node of the tree. -/
inductive Node where
  | group (kind : GroupKind) (label : String) (items : List Node)
  | range (kind : RangeKind) (label : String) (range : Range)
  | switch (kind : SwitchKind) (label : String)
  | other (kind : String)
  deriving Repr

namespace Node

mutual

/-- The nodes at or below a node that are no groups, in document order. -/
def leaves : Node → List Node
  | .group _ _ items => leavesOf items
  | leaf => [leaf]

/-- The nodes at or below any of some nodes that are no groups, in document order. -/
def leavesOf : List Node → List Node
  | [] => []
  | node :: rest => node.leaves ++ leavesOf rest

end

end Node

/-- The fields of a document. -/
inductive FieldName where
  | name
  | ui
  deriving DecidableEq, Repr

/-- The spelling of a field. -/
def FieldName.text : FieldName → String
  | .name => "name"
  | .ui => "ui"

/-- The numbers of a range, in the order in which they are looked at. -/
inductive RangeKey where
  | min
  | max
  | init
  | step
  deriving DecidableEq, Repr

/-- The spelling of a number's field. -/
def RangeKey.text : RangeKey → String
  | .min => "min"
  | .max => "max"
  | .init => "init"
  | .step => "step"

/-- What makes a node of a well-typed document defective. -/
inductive Defect where
  /-- A group without items. -/
  | noItems (kind : GroupKind) (label : String)
  /-- A range without one of its numbers. -/
  | missingNumber (label : String) (key : RangeKey)
  /-- A range with something else in the place of a number. -/
  | notANumber (label : String) (key : RangeKey) (found : Json)
  deriving Repr

/-- The complaint about a value that is no number. -/
def notANumberMessage (found : Json) : String :=
  s!"expected a number, found {found.normal.compact}"

/-- The wording of a defect. -/
def Defect.message : Defect → String
  | .noItems kind label => s!"{kind.name} '{label}' has no items"
  | .missingNumber label key => s!"'{label}' is missing '{key.text}'"
  | .notANumber label key found => s!"'{label}' field '{key.text}': {notANumberMessage found}"

end Descriptor

/-- A user interface descriptor. -/
structure Descriptor where
  name : String
  nodes : List Descriptor.Node
  deriving Repr

/-- The nodes of a descriptor that are no groups, in document order. -/
def Descriptor.leaves (descriptor : Descriptor) : List Descriptor.Node :=
  Descriptor.Node.leavesOf descriptor.nodes

end DspBridge

import DspBridge.Descriptor.Draft
import DspBridge.Json.Document

/-!
# Reading descriptors

A descriptor is read from a JSON text in two steps: the text is read as an outline, which settles
its syntax and the types of the fields that matter, and the outline is then checked. A text that is
no outline is reported as such whatever else is wrong with it.
-/

namespace DspBridge.Descriptor

open Json (Reader)
open Json.Reader

/-- What a node of the wrong kind is compared with. -/
def nodeName : String := "struct RawNode"

/-- What a node written as an array is compared with. -/
def nodeLength : String := "struct RawNode with 7 elements"

/-- What a document of the wrong kind is compared with. -/
def outlineName : String := "struct RawDescriptor"

/-- What a document written as an array is compared with. -/
def outlineLength : String := "struct RawDescriptor with 2 elements"

/-- The fields of a node that are read. -/
def nodeFields : List String := ["type", "label", "items", "min", "max", "init", "step"]

/-- The fields of a document that are read. -/
def outlineFields : List String := ["name", "ui"]

/-- The members of a node that have been read. -/
structure NodeMembers where
  kind : Option String
  label : Option String
  items : Option (List Draft)
  min : Option Json
  max : Option Json
  init : Option Json
  step : Option Json

/-- A node without members. -/
def NodeMembers.empty : NodeMembers := ⟨none, none, none, none, none, none, none⟩

/-- Read the value of a member of a node. -/
def readNodeMember (items : Reader (List Draft)) (number : Reader Json) (name : String)
    (members : NodeMembers) : Reader NodeMembers :=
  match name with
  | "type" => do
      let kind ← string "a string"
      pure { members with kind := some kind }
  | "label" => do
      let label ← string "a string"
      pure { members with label := some label }
  | "items" => do
      let items ← optional items
      pure { members with items := items }
  | "min" => do
      let value ← optional number
      pure { members with min := value }
  | "max" => do
      let value ← optional number
      pure { members with max := value }
  | "init" => do
      let value ← optional number
      pure { members with init := value }
  | _ => do
      let value ← optional number
      pure { members with step := value }

/-- Read the members of a node; the kind has to be among them. -/
def readNodeMembers (items : Reader (List Draft)) (number : Reader Json) : Reader Draft := do
  let members ← fields nodeFields (readNodeMember items number) NodeMembers.empty
  match members.kind with
  | none => refuse (.missingField "type")
  | some kind =>
      pure ⟨kind, members.label.getD "", members.items, members.min, members.max, members.init,
        members.step⟩

/-- Read a label in an array that may end before it. -/
def readLabelElement : Reader String := do
  if ← hasItem false then string "a string" else pure ""

/-- Read a node that is written as an array of its fields. -/
def readNodeElements (items : Reader (List Draft)) (number : Reader Json) : Reader Draft := do
  let kind ← element 0 nodeLength (string "a string")
  let label ← readLabelElement
  let items ← element 2 nodeLength (optional items)
  let min ← element 3 nodeLength (optional number)
  let max ← element 4 nodeLength (optional number)
  let init ← element 5 nodeLength (optional number)
  let step ← element 6 nodeLength (optional number)
  pure ⟨kind, label, items, min, max, init, step⟩

mutual

/-- Read a node with at most `room` levels of brackets. -/
def readNode : (room : Nat) → Reader Draft
  | 0 => record nodeName (failNext .tooDeep) (failNext .tooDeep)
  | room + 1 =>
      record nodeName (arrayOf (readNodeElements (readNodes room) (value room)))
        (objectOf (readNodeMembers (readNodes room) (value room)))

/-- Read a list of nodes with at most `room` levels of brackets. -/
def readNodes : (room : Nat) → Reader (List Draft)
  | 0 => sequence "a sequence" (failNext .tooDeep)
  | room + 1 => sequence "a sequence" (arrayOf (items (readNode room) true))

end

/-- Read the value of a member of a document. -/
def readOutlineMember (nodes : Reader (List Draft)) (name : String) (outline : Outline) :
    Reader Outline :=
  match name with
  | "name" => do
      let name ← optional (string "a string")
      pure { outline with name := name }
  | _ => do
      let nodes ← optional nodes
      pure { outline with nodes := nodes }

/-- Read the members of a document. -/
def readOutlineMembers (nodes : Reader (List Draft)) : Reader Outline :=
  fields outlineFields (readOutlineMember nodes) ⟨none, none⟩

/-- Read a document that is written as an array of its fields. -/
def readOutlineElements (nodes : Reader (List Draft)) : Reader Outline := do
  let name ← element 0 outlineLength (optional (string "a string"))
  let nodes ← element 1 outlineLength (optional nodes)
  pure ⟨name, nodes⟩

/-- Read a document with at most `room + 1` levels of brackets. -/
def readOutline (room : Nat) : Reader Outline :=
  record outlineName (arrayOf (readOutlineElements (readNodes room)))
    (objectOf (readOutlineMembers (readNodes room)))

/-- The outline that a text holds. -/
def Outline.parse (text : String) : Except Json.Error Outline :=
  (readOutline (Json.depthLimit - 1)).run text

end Descriptor

/-- The descriptor that a text holds, or the first reason why it holds none. -/
def Descriptor.parse (text : String) : Except Descriptor.Error Descriptor :=
  match Descriptor.Outline.parse text with
  | .error error => .error (.json error)
  | .ok outline => outline.check

end DspBridge

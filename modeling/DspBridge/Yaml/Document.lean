import DspBridge.Yaml.Grammar
import DspBridge.Yaml.Indentation

/-!
# Documents

A document together with what its aliases stand for. Anchors are numbered in the order in which they
begin: an anchor has as its number the count of different names before it, so an anchor whose name
was used before can get the number of the next new one. An alias stands for the last anchor in the
document that has the number which its name has had at that place.
-/

namespace DspBridge.Yaml

/-- An anchor that has been met: its number, its place among all anchors, and its node. -/
structure Anchored where
  number : Nat
  place : Nat
  node : Node Nat

/-- The anchors up to some place in a document. -/
structure Anchors where
  /-- The number that each name has at this place. -/
  numbers : List (String × Nat)
  /-- The number of anchors that have begun. -/
  begun : Nat
  /-- The anchors whose nodes have ended. -/
  ended : List Anchored

namespace Anchors

/-- No anchors. -/
def empty : Anchors := ⟨[], 0, []⟩

/-- Begin a node; what it gives is the number and the place of its anchor. -/
def openNode (anchor? : Option String) (anchors : Anchors) : Option (Nat × Nat) × Anchors :=
  match anchor? with
  | none => (none, anchors)
  | some name =>
      let number := anchors.numbers.length
      (some (number, anchors.begun),
        { anchors with
          numbers := (name, number) :: anchors.numbers.filter (·.1 != name)
          begun := anchors.begun + 1 })

/-- End a node. -/
def closeNode (anchor? : Option (Nat × Nat)) (node : Node Nat) (anchors : Anchors) : Anchors :=
  match anchor? with
  | none => anchors
  | some (number, place) => { anchors with ended := ⟨number, place, node⟩ :: anchors.ended }

/-- The later of two anchors. -/
def later (first : Option Anchored) (second : Anchored) : Option Anchored :=
  match first with
  | some first => if first.place < second.place then some second else some first
  | none => some second

/-- The last node that has a number. -/
def find? (anchors : Anchors) (number : Nat) : Option (Node Nat) :=
  ((anchors.ended.filter (·.number == number)).foldl later none).map Anchored.node

end Anchors

mutual

/-- Give the aliases in a node the numbers of their anchors; fails if a name has no anchor yet. -/
def number : Node String → Anchors → Option (Node Nat × Anchors)
  | .alias mark name, anchors =>
      (anchors.numbers.lookup name).map fun number => (.alias mark number, anchors)
  | .scalar head text style, anchors =>
      let (anchor?, anchors) := anchors.openNode head.anchor?
      let node : Node Nat := .scalar head text style
      some (node, anchors.closeNode anchor? node)
  | .sequence head items, anchors => do
      let (anchor?, anchors) := anchors.openNode head.anchor?
      let (items, anchors) ← numberItems items anchors
      let node : Node Nat := .sequence head items
      some (node, anchors.closeNode anchor? node)
  | .mapping head members, anchors => do
      let (anchor?, anchors) := anchors.openNode head.anchor?
      let (members, anchors) ← numberMembers members anchors
      let node : Node Nat := .mapping head members
      some (node, anchors.closeNode anchor? node)

/-- Give the aliases in items the numbers of their anchors. -/
def numberItems : List (Node String) → Anchors → Option (List (Node Nat) × Anchors)
  | [], anchors => some ([], anchors)
  | item :: rest, anchors => do
      let (item, anchors) ← number item anchors
      let (rest, anchors) ← numberItems rest anchors
      some (item :: rest, anchors)

/-- Give the aliases in members the numbers of their anchors. -/
def numberMembers :
    List (Node String × Node String) → Anchors → Option (List (Node Nat × Node Nat) × Anchors)
  | [], anchors => some ([], anchors)
  | (key, value) :: rest, anchors => do
      let (key, anchors) ← number key anchors
      let (value, anchors) ← number value anchors
      let (rest, anchors) ← numberMembers rest anchors
      some ((key, value) :: rest, anchors)

end

/-- A document. -/
structure Document where
  root : Node Nat
  anchors : Anchors

namespace Document

/-- The node that a node stands for: itself, unless it is an alias. -/
def follow (document : Document) : Node Nat → Node Nat
  | .alias mark number => (document.anchors.find? number).getD (.alias mark number)
  | node => node

/-- The document of a text: none if the text is not well formed, and nothing at all if the text has
no document in it. -/
def parse (text : String) : Option (Option Document) := do
  let tokens ← tokens? text
  match ← Node.ofTokens? tokens with
  | none => some none
  | some node =>
      let (root, anchors) ← number node .empty
      some (some ⟨root, anchors⟩)

end Document
end DspBridge.Yaml

import DspBridge.Yaml.Token

/-!
# YAML nodes

A document as a tree. A node that has an anchor can be referred to by aliases behind it; `α` is what
an alias says about its anchor. Tags are spelled out, and what is left out between signs is an empty
plain scalar.
-/

namespace DspBridge.Yaml

/-- A tag that is spelled out. -/
abbrev Tag := List UInt8

/-- Where a node begins, and what stands before it. -/
structure Head where
  mark : Mark
  anchor? : Option String
  tag? : Option Tag
  deriving DecidableEq, Repr

/-- A node of a document. -/
inductive Node (α : Type) where
  | scalar (head : Head) (text : String) (style : Style)
  | sequence (head : Head) (items : List (Node α))
  | mapping (head : Head) (members : List (Node α × Node α))
  | alias (mark : Mark) (anchor : α)
  deriving Repr

namespace Node

variable {α : Type}

/-- Where a node begins. -/
def mark : Node α → Mark
  | .scalar head _ _ | .sequence head _ | .mapping head _ => head.mark
  | .alias mark _ => mark

/-- The empty scalar at a place. -/
def empty (mark : Mark) : Node α := .scalar ⟨mark, none, none⟩ "" .plain

mutual

/-- The number of signs in a node: one for a scalar or an alias, and two around a collection. -/
def signs : Node α → Nat
  | .scalar _ _ _ | .alias _ _ => 1
  | .sequence _ items => itemSigns items + 2
  | .mapping _ members => memberSigns members + 2

/-- The number of signs in items. -/
def itemSigns : List (Node α) → Nat
  | [] => 0
  | item :: rest => item.signs + itemSigns rest

/-- The number of signs in members. -/
def memberSigns : List (Node α × Node α) → Nat
  | [] => 0
  | (key, value) :: rest => key.signs + value.signs + memberSigns rest

end

end Node
end DspBridge.Yaml

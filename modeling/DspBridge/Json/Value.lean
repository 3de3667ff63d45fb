import DspBridge.Number.Layout

/-!
# JSON values

Values as a document writes them: an object keeps its members in order, repeated names included.
Two objects that differ only in the order of their members, or in a member that a later one of the
same name overrides, mean the same; `normal` picks the one with sorted, distinct names.
-/

namespace DspBridge

open Number (Double Layout)

namespace Json

/-- The least whole number of 64 bits. -/
def leastWhole : Int := -0x8000000000000000

/-- The least whole number that has more than 64 bits and no sign. -/
def wholeLimit : Int := 0x10000000000000000

/-- A number: a whole one of up to 64 bits, or a finite double. -/
inductive Number where
  | integer (value : Int) (fits : leastWhole ≤ value ∧ value < wholeLimit)
  | real (value : Double) (finite : value.IsFinite)
  deriving DecidableEq, Repr

/-- A whole number, if it has at most 64 bits. -/
def Number.ofInt? (value : Int) : Option Number :=
  if fits : leastWhole ≤ value ∧ value < wholeLimit then some (.integer value fits) else none

/-- The text of a number: all digits of a whole one, the shortest digits of a double. -/
def Number.text : Number → String
  | .integer value _ => toString value
  | .real value _ => Layout.document.write value

end Json

/-- A JSON value. -/
inductive Json where
  | null
  | bool (value : Bool)
  | number (value : Json.Number)
  | string (value : String)
  | array (items : List Json)
  | object (members : List (String × Json))
  deriving Repr

namespace Json

/-- Members in the order of their names, with one more; it replaces a member of the same name. -/
def insertMember (name : String) (value : Json) : List (String × Json) → List (String × Json)
  | [] => [(name, value)]
  | (other, held) :: rest =>
      if name < other then (name, value) :: (other, held) :: rest
      else if name = other then (name, value) :: rest
      else (other, held) :: insertMember name value rest

/-- Members in the order of their names, the last of each name. -/
def sortMembers (members : List (String × Json)) : List (String × Json) :=
  members.foldl (fun sorted member => insertMember member.1 member.2 sorted) []

mutual

/-- The value with the members of every object sorted and distinct. -/
def normal : Json → Json
  | .array items => .array (normalItems items)
  | .object members => .object (sortMembers (normalMembers members))
  | other => other

/-- The items with the members of every object in them sorted and distinct. -/
def normalItems : List Json → List Json
  | [] => []
  | item :: rest => item.normal :: normalItems rest

/-- The members with those of every object inside them sorted and distinct. -/
def normalMembers : List (String × Json) → List (String × Json)
  | [] => []
  | (name, value) :: rest => (name, value.normal) :: normalMembers rest

end

end Json
end DspBridge

import DspBridge.Json.Skip

/-!
# Reading JSON values

Values of every kind, decoded, with a bound on how deeply they are nested; and the readers from
which records are built: text, lists, and objects whose names are known. A record may also be
written as an array of its fields in order.
-/

namespace DspBridge.Json

/-- How deeply arrays and objects may be nested. -/
def depthLimit : Nat := 127

namespace Reader

/-- Fail on a value of the wrong kind: behind a scalar, or in front of an opening bracket. -/
def wrongKind {α : Type} (expected : String) : Reader α := do
  match ← peekSolid with
  | none => failNext .endInValue
  | some c =>
      if c == 'n' then
        advance
        word "ull".toList
        failHere (.wrongKind .null expected)
      else if c == 't' then
        advance
        word "rue".toList
        failHere (.wrongKind (.bool true) expected)
      else if c == 'f' then
        advance
        word "alse".toList
        failHere (.wrongKind (.bool false) expected)
      else if c == '-' || c.isDigit then
        let number ← numberLiteral
        failHere (.wrongKind (.number number) expected)
      else if c == '"' then
        let text ← stringLiteral
        failHere (.wrongKind (.string text) expected)
      else if c == '[' then failHere (.wrongKind (.array []) expected)
      else if c == '\x7b' then failHere (.wrongKind (.object []) expected)
      else failNext .expectedValue

/-- Read a string. -/
def string (expected : String) : Reader String := do
  match ← peekSolid with
  | some '"' => stringLiteral
  | _ => wrongKind expected

/-- Read a value that may be `null`. -/
def optional {α : Type} (reader : Reader α) : Reader (Option α) := do
  match ← peekSolid with
  | some 'n' =>
      advance
      word "ull".toList
      pure none
  | _ => some <$> reader

/-- Read an array with a reader that starts at its bracket. -/
def sequence {α : Type} (expected : String) (array : Reader α) : Reader α := do
  match ← peekSolid with
  | some '[' => array
  | _ => wrongKind expected

/-- Read an array or an object with readers that start at its bracket. -/
def record {α : Type} (expected : String) (array object : Reader α) : Reader α := do
  match ← peekSolid with
  | some c =>
      if c == '[' then array else if c == '\x7b' then object else wrongKind expected
  | none => wrongKind expected

/-- Read an array at its bracket. -/
def arrayOf {α : Type} (body : Reader α) : Reader α := do
  advance
  enclosed closeArray body

/-- Read an object at its bracket. -/
def objectOf {α : Type} (body : Reader α) : Reader α := do
  advance
  enclosed closeObject body

/-- Read a member and put it behind those read before. -/
def member (value : Reader Json) (before : List (String × Json)) : Reader (List (String × Json)) := do
  let name ← stringLiteral
  colon
  let value ← value
  pure (before ++ [(name, value)])

/-- Read a value of any kind, with readers for what stands in its brackets. -/
def anyValue (array : Reader (List Json)) (object : Reader (List (String × Json))) :
    Reader Json := do
  match ← peekSolid with
  | none => failNext .endInValue
  | some c =>
      if c == 'n' then
        advance
        word "ull".toList
        pure .null
      else if c == 't' then
        advance
        word "rue".toList
        pure (.bool true)
      else if c == 'f' then
        advance
        word "alse".toList
        pure (.bool false)
      else if c == '-' || c.isDigit then .number <$> numberLiteral
      else if c == '"' then .string <$> stringLiteral
      else if c == '[' then .array <$> array
      else if c == '\x7b' then .object <$> object
      else failNext .expectedValue

/-- Read a value with at most `room` levels of brackets. -/
def value : (room : Nat) → Reader Json
  | 0 => anyValue (failNext .tooDeep) (failNext .tooDeep)
  | room + 1 =>
      anyValue (arrayOf (items (value room) true)) (objectOf (members (member (value room)) []))

/-- Read the field at an index of a record that is written as an array. -/
def element {α : Type} (index : Nat) (expected : String) (reader : Reader α) : Reader α := do
  if ← hasItem (index == 0) then reader else refuse (.wrongLength index expected)

/-- Read a member of a record: the value of a known name, which may come once only, changes the
state; a member of any other name is passed over. -/
def field {σ : Type} (known : List String) (read : String → σ → Reader σ)
    (state : List String × σ) : Reader (List String × σ) := do
  let name ← stringLiteral
  if known.contains name then
    if state.1.contains name then refuse (.duplicateField name)
    else
      colon
      let next ← read name state.2
      pure (name :: state.1, next)
  else
    colon
    skip
    pure state

/-- Read the members of a record, starting from a state without any of them. -/
def fields {σ : Type} (known : List String) (read : String → σ → Reader σ) (state : σ) :
    Reader σ :=
  Prod.snd <$> members (field known read) ([], state)

end Reader

/-- The value that a text holds. -/
def parse (text : String) : Except Error Json := (Reader.value depthLimit).run text

end DspBridge.Json

import DspBridge.Json.Document

/-!
# Messages between the bridge and its host

A message is a JSON object that names its type and carries its content in one member. It is read in
two steps: first the whole text, which gives the type and the other members; then the members that
the type asks for. Errors of the second step have no place in the text.
-/

namespace DspBridge.Host

open Json.Reader

/-- What the host sends. -/
inductive Inbound where
  /-- A file to be transformed. -/
  | transformRequest (filename contents : String)
  /-- A message of any other type. -/
  | unknown
  deriving DecidableEq, Repr

/-- What the bridge sends. -/
inductive Outbound where
  /-- The bridge is ready for requests. -/
  | ready
  /-- A file that has been transformed. -/
  | transformResponse (contents : String)
  deriving DecidableEq, Repr

/-- The member that names the type of a message. -/
def typeField : String := "type"

/-- A message of a type without content. -/
def bareMessage (type : String) : Json := .object [(typeField, .string type)]

/-- A message of a type with content. -/
def message (type : String) (content : List (String × Json)) : Json :=
  .object [(typeField, .string type), ("message", .object content)]

/-- A message of the host as JSON. -/
def Inbound.toJson : Inbound → Json
  | .transformRequest filename contents =>
      message "transformRequest" [("filename", .string filename), ("contents", .string contents)]
  | .unknown => bareMessage "unknown"

/-- A message of the bridge as JSON. -/
def Outbound.toJson : Outbound → Json
  | .ready => bareMessage "ready"
  | .transformResponse contents => message "transformResponse" [("contents", .string contents)]

/-- The line that carries a message of the host, without its end. -/
def Inbound.wire (inbound : Inbound) : String := inbound.toJson.compact

/-- The line that carries a message of the bridge, without its end. -/
def Outbound.wire (outbound : Outbound) : String := outbound.toJson.compact

/-- The type of a message and the rest of it. -/
structure Envelope (τ : Type) where
  type : τ
  content : Json

/-- Read a member of an envelope: its type, which may come once only, or anything else. -/
def envelopeMember {τ : Type} (type : Json.Reader τ) (value : Json.Reader Json)
    (state : Option τ × List (String × Json)) : Json.Reader (Option τ × List (String × Json)) := do
  let name ← Json.stringLiteral
  if name == typeField then
    match state.1 with
    | some _ => refuse (.duplicateField typeField)
    | none =>
        colon
        let found ← type
        pure (some found, state.2)
  else
    colon
    let value ← value
    pure (state.1, state.2 ++ [(name, value)])

/-- Read an envelope that is written as an object. -/
def envelopeMembers {τ : Type} (type : Json.Reader τ) (value : Json.Reader Json) :
    Json.Reader (Envelope τ) := do
  let (found, others) ← members (envelopeMember type value) (none, [])
  match found with
  | none => refuse (.missingField typeField)
  | some type => pure ⟨type, .object others⟩

/-- Read an envelope that is written as an array, its type first. -/
def envelopeItems {τ : Type} (type : Json.Reader τ) (value : Json.Reader Json) :
    Json.Reader (Envelope τ) := do
  if ← hasItem true then
    let found ← type
    let others ← items value false
    pure ⟨found, .array others⟩
  else refuse (.missingField typeField)

/-- Read the envelope of a message. -/
def envelope {τ : Type} (expected : String) (type : Json.Reader τ) : Json.Reader (Envelope τ) :=
  let value := value (Json.depthLimit - 1)
  record expected (arrayOf (envelopeItems type value)) (objectOf (envelopeMembers type value))

/-- The name of a type in a message. -/
def typeName : Json.Reader String := string "variant identifier"

/-- The text of a value that has to be one. -/
def textOf : Json → Except Json.Cause String
  | .string text => .ok text
  | other => .error (.wrongKind other "a string")

/-- How many items an array may have, as a message puts it. -/
def itemCount (count : Nat) : String :=
  if count == 1 then "1 element in sequence" else s!"{count} elements in sequence"

/-- Complain about items of an array after the first `count`. -/
def noMoreItems (count : Nat) (others : List Json) : Except Json.Cause Unit :=
  if others.isEmpty then .ok () else .error (.wrongLength (count + others.length) (itemCount count))

/-- The members of a record under known names: each may come once only, and is decoded as it comes;
other members are ignored. -/
def decodeMembers {σ : Type} (known : List String) (decode : String → Json → σ → Except Json.Cause σ) :
    (seen : List String) → σ → List (String × Json) → Except Json.Cause σ
  | _, state, [] => .ok state
  | seen, state, (name, value) :: rest =>
      if known.contains name then
        if seen.contains name then .error (.duplicateField name)
        else do
          let next ← decode name value state
          decodeMembers known decode (name :: seen) next rest
      else decodeMembers known decode seen state rest

/-- A value that has to be present. -/
def need {α : Type} (name : String) : Option α → Except Json.Cause α
  | some value => .ok value
  | none => .error (.missingField name)

/-- Decode a record with one text. -/
def decodeText (expected name : String) : Json → Except Json.Cause String
  | .object members => do
      let text ← decodeMembers [name] (fun _ value _ => some <$> textOf value) [] none members
      need name text
  | .array [] => .error (.wrongLength 0 s!"{expected} with 1 element")
  | .array (first :: others) => do
      let text ← textOf first
      noMoreItems 1 others
      pure text
  | other => .error (.wrongKind other expected)

/-- Decode a record with two texts. -/
def decodeTexts (expected first second : String) : Json → Except Json.Cause (String × String)
  | .object members => do
      let decode (name : String) (value : Json) (state : Option String × Option String) :
          Except Json.Cause (Option String × Option String) := do
        let text ← textOf value
        pure (if name == first then (some text, state.2) else (state.1, some text))
      let (left, right) ← decodeMembers [first, second] decode [] (none, none) members
      let left ← need first left
      let right ← need second right
      pure (left, right)
  | .array [] => .error (.wrongLength 0 s!"{expected} with 2 elements")
  | .array [left] => do
      let _ ← textOf left
      .error (.wrongLength 1 s!"{expected} with 2 elements")
  | .array (left :: right :: others) => do
      let left ← textOf left
      let right ← textOf right
      noMoreItems 2 others
      pure (left, right)
  | other => .error (.wrongKind other expected)

/-- Decode the content of a message with one member `message`. -/
def decodeContent {α : Type} (expected : String) (decode : Json → Except Json.Cause α) :
    Json → Except Json.Cause α
  | .object members => do
      let found ← decodeMembers ["message"] (fun _ value _ => some <$> decode value) [] none members
      need "message" found
  | .array [] => .error (.wrongLength 0 s!"{expected} with 1 element")
  | .array (first :: others) => do
      let found ← decode first
      noMoreItems 1 others
      pure found
  | other => .error (.wrongKind other expected)

/-- Decode the content of a message that has none. -/
def decodeNothing : Json → Except Json.Cause Unit
  | .array others => noMoreItems 0 others
  | _ => .ok ()

/-- An error found after the whole text had been read. -/
def withoutPlace {α : Type} : Except Json.Cause α → Except Json.Error α
  | .ok value => .ok value
  | .error cause => .error ⟨cause, none⟩

/-- The request for a transformation that a message's content is. -/
def decodeRequest (content : Json) : Except Json.Cause Inbound := do
  let (filename, contents) ← decodeContent "struct variant Inbound::TransformRequest"
    (decodeTexts "struct TransformRequest" "filename" "contents") content
  pure (.transformRequest filename contents)

/-- The response that a message's content is. -/
def decodeResponse (content : Json) : Except Json.Cause Outbound :=
  .transformResponse <$> decodeContent "struct variant Outbound::TransformResponse"
    (decodeText "struct TransformResponse" "contents") content

/-- The message of the host that a text holds. A type that is not known is no error. -/
def Inbound.parse (text : String) : Except Json.Error Inbound := do
  let found ← (envelope "internally tagged enum Inbound" typeName).run text
  if found.type == "transformRequest" then withoutPlace (decodeRequest found.content)
  else withoutPlace (decodeNothing found.content *> pure .unknown)

/-- The types of the messages that the bridge sends. -/
inductive OutboundType where
  | ready
  | transformResponse
  deriving DecidableEq, Repr

/-- Read the type of a message that the bridge sends. -/
def outboundType : Json.Reader OutboundType := do
  let name ← typeName
  if name == "ready" then pure .ready
  else if name == "transformResponse" then pure .transformResponse
  else failHere (.unknownVariant name ["ready", "transformResponse"])

/-- The message of the bridge that a text holds. -/
def Outbound.parse (text : String) : Except Json.Error Outbound := do
  let found ← (envelope "internally tagged enum Outbound" outboundType).run text
  match found.type with
  | .ready => withoutPlace (decodeNothing found.content *> pure .ready)
  | .transformResponse => withoutPlace (decodeResponse found.content)

end DspBridge.Host

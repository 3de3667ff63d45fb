import DspBridge.Json.Error
import DspBridge.Text.Utf8

/-!
# Readers of JSON text

A reader takes what it needs off the front of a text. It can fail in two ways. A failure already
knows where the text is wrong. A refusal says that the members or items read so far do not make a
value of the wanted kind; it gets its place when the value's closing bracket has been passed,
because only then is the whole value known. `enclosed` turns the second into the first.
-/

namespace DspBridge.Json

/-- What is wrong, what was left of the text there, and how many bytes into that the error is
reported. -/
structure Failure where
  cause : Cause
  rest : List Char
  ahead : Nat
  deriving Repr

/-- What a reader makes of a text. -/
inductive Outcome (α : Type) where
  /-- A value, and the text after it. -/
  | done (value : α) (rest : List Char)
  /-- An error with a place. -/
  | failed (failure : Failure)
  /-- An error whose place is fixed by the end of the enclosing value. -/
  | refused (cause : Cause) (rest : List Char)
  deriving Repr

/-- An outcome with its value changed. -/
def Outcome.map {α β : Type} (change : α → β) : Outcome α → Outcome β
  | .done value rest => .done (change value) rest
  | .failed failure => .failed failure
  | .refused cause rest => .refused cause rest

/-- What reads an `α` off the front of a text. -/
def Reader (α : Type) := List Char → Outcome α

namespace Reader

/-- Read one thing, then another that may depend on it. -/
def bind {α β : Type} (first : Reader α) (second : α → Reader β) : Reader β := fun text =>
  match first text with
  | .done value rest => second value rest
  | .failed failure => .failed failure
  | .refused cause rest => .refused cause rest

instance : Monad Reader where
  pure value := fun text => .done value text
  bind := bind

/-- Fail where the reader stands. -/
def failHere {α : Type} (cause : Cause) : Reader α := fun text => .failed ⟨cause, text, 0⟩

/-- Fail behind the next byte. -/
def failNext {α : Type} (cause : Cause) : Reader α := fun text => .failed ⟨cause, text, 1⟩

/-- Refuse what has been read of the enclosing value. -/
def refuse {α : Type} (cause : Cause) : Reader α := fun text => .refused cause text

/-- The next character, which stays in the text. -/
def peek : Reader (Option Char) := fun text => .done text.head? text

/-- Pass the next character. -/
def advance : Reader Unit := fun text => .done () text.tail

/-- The characters that may stand between the parts of a value. -/
def isSpace (c : Char) : Bool := c == ' ' || c == '\n' || c == '\t' || c == '\r'

/-- Pass the blanks that come next; the character after them. -/
def peekSolid : Reader (Option Char) := fun text =>
  let rest := text.dropWhile isSpace
  .done rest.head? rest

/-- Pass the rest of a word, of which the first letter has been read. -/
def word : List Char → Reader Unit
  | [] => pure ()
  | expected :: more => do
      match ← peek with
      | none => failHere .endInValue
      | some c =>
          if c == expected then
            advance
            word more
          else failNext .expectedWord

/-- Whether another item of an array follows; its comma is passed. -/
def hasItem (first : Bool) : Reader Bool := do
  match ← peekSolid with
  | none => failNext .endInArray
  | some c =>
      if c == ']' then pure false
      else if first then pure true
      else if c == ',' then
        advance
        match ← peekSolid with
        | none => failNext .endInValue
        | some c => if c == ']' then failNext .trailingComma else pure true
      else failNext .expectedCommaOrBracket

/-- Whether another member of an object follows; its comma is passed, and its name begins next. -/
def hasMember (first : Bool) : Reader Bool := do
  match ← peekSolid with
  | none => failNext .endInObject
  | some c =>
      if c == '\x7d' then pure false
      else if first then
        if c == '"' then pure true else failNext .nameNotString
      else if c == ',' then
        advance
        match ← peekSolid with
        | none => failNext .endInValue
        | some c =>
            if c == '"' then pure true
            else if c == '\x7d' then failNext .trailingComma
            else failNext .nameNotString
      else failNext .expectedCommaOrBrace

/-- Pass the colon between a name and its value. -/
def colon : Reader Unit := do
  match ← peekSolid with
  | none => failNext .endInObject
  | some c => if c == ':' then advance else failNext .expectedColon

/-- Pass the end of an array. -/
def closeArray : Reader Unit := do
  match ← peekSolid with
  | none => failNext .endInArray
  | some c =>
      if c == ']' then advance
      else if c == ',' then
        advance
        match ← peekSolid with
        | some ']' => failNext .trailingComma
        | _ => failNext .trailingText
      else failNext .trailingText

/-- Pass the end of an object. -/
def closeObject : Reader Unit := do
  match ← peekSolid with
  | none => failNext .endInObject
  | some c =>
      if c == '\x7d' then advance
      else if c == ',' then failNext .trailingComma
      else failNext .trailingText

/-- Read the inside of an array or object and then its end. A refusal of the inside is reported
where the end has been passed, or could not be. -/
def enclosed {α : Type} (close : Reader Unit) (body : Reader α) : Reader α := fun text =>
  match body text with
  | .done value rest =>
      match close rest with
      | .done _ rest => .done value rest
      | .failed failure => .failed failure
      | .refused cause rest => .failed ⟨cause, rest, 0⟩
  | .failed failure => .failed failure
  | .refused cause rest =>
      match close rest with
      | .done _ rest | .refused _ rest => .failed ⟨cause, rest, 0⟩
      | .failed failure => .failed ⟨cause, failure.rest, 0⟩

/-- Read the items of an array that follow the first ones, at most `fuel` of them. -/
def itemsFrom {α : Type} (item : Reader α) : (fuel : Nat) → (first : Bool) → Reader (List α)
  | 0, _ => failHere .endInArray
  | fuel + 1, first => do
      if ← hasItem first then
        let value ← item
        let others ← itemsFrom item fuel false
        pure (value :: others)
      else pure []

/-- Read the items of an array up to its end; a text has fewer items than characters. -/
def items {α : Type} (item : Reader α) (first : Bool) : Reader (List α) := fun text =>
  itemsFrom item (text.length + 1) first text

/-- Read members of an object and let each change a state, at most `fuel` of them. -/
def membersFrom {σ : Type} (member : σ → Reader σ) :
    (fuel : Nat) → (first : Bool) → σ → Reader σ
  | 0, _, _ => failHere .endInObject
  | fuel + 1, first, state => do
      if ← hasMember first then
        let state ← member state
        membersFrom member fuel false state
      else pure state

/-- Read the members of an object up to its end; a text has fewer members than characters. -/
def members {σ : Type} (member : σ → Reader σ) (state : σ) : Reader σ := fun text =>
  membersFrom member (text.length + 1) true state text

/-- The place of a failure in the text that was read. -/
def placeIn (text : List Char) (failure : Failure) : Place :=
  let bytes := text.flatMap String.utf8EncodeChar
  let left := (failure.rest.flatMap String.utf8EncodeChar).length
  Place.after (bytes.take (bytes.length - left + failure.ahead))

/-- Read a text that holds one value and blanks around it, nothing else. -/
def run {α : Type} (reader : Reader α) (text : String) : Except Error α :=
  let whole : Reader α := do
    let value ← reader
    match ← peekSolid with
    | none => pure value
    | some _ => failNext .trailingText
  match whole text.toList with
  | .done value _ => .ok value
  | .failed failure => .error ⟨failure.cause, some (placeIn text.toList failure)⟩
  | .refused cause _ => .error ⟨cause, none⟩

end Reader
end DspBridge.Json

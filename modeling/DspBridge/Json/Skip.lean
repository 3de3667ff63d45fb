import DspBridge.Json.Scan

/-!
# Passing over JSON values

A value that nothing depends on is passed over without being decoded: numbers may have any size,
escaped surrogates need no partner, and arrays and objects may be nested to any depth. What is left
is the shape of the text, and the errors that only decoding finds do not arise.
-/

namespace DspBridge.Json

/-- The two kinds of bracket. -/
inductive Frame where
  | array
  | object
  deriving DecidableEq, Repr

/-- The bracket that closes a frame. -/
def Frame.closer : Frame → Char
  | .array => ']'
  | .object => '\x7d'

/-- The error of a text that ends inside a frame. -/
def Frame.endCause : Frame → Cause
  | .array => .endInArray
  | .object => .endInObject

/-- The error of a text that goes on in a frame with neither a comma nor the closing bracket. -/
def Frame.commaCause : Frame → Cause
  | .array => .expectedCommaOrBracket
  | .object => .expectedCommaOrBrace

/-- Pass over a string whose opening quote has been read. -/
def skipStringBody : List Char → Outcome Unit
  | [] => .failed ⟨.endInString, [], 0⟩
  | c :: rest =>
      if c == '"' then .done () rest
      else if c == '\\' then
        match rest with
        | [] => .failed ⟨.endInString, [], 0⟩
        | letter :: rest =>
            if letter == 'u' then
              match rest with
              | a :: b :: c :: d :: rest =>
                  if (hexUnit? a b c d).isSome then skipStringBody rest
                  else .failed (hexFailure (a :: b :: c :: d :: rest))
              | short => .failed (hexFailure short)
            else if (escaped? letter).isSome then skipStringBody rest
            else .failed ⟨.badEscape, letter :: rest, 1⟩
      else if c.toNat < 0x20 then .failed ⟨.controlCharacter, c :: rest, 0⟩
      else skipStringBody rest

namespace Reader

/-- Pass over a string at its opening quote. -/
def skipString : Reader Unit := fun text => skipStringBody text.tail

/-- Pass over decimal digits. -/
def skipDigits : Reader Unit := fun text => .done () (text.dropWhile Char.isDigit)

/-- Pass over an exponent at its mark. -/
def skipExponent : Reader Unit := do
  advance
  let sign ← peek
  if sign == some '+' || sign == some '-' then advance
  if (← peek).any Char.isDigit then skipDigits else failNext .badNumber

/-- Pass over an exponent, if there is one. -/
def skipAfterDigits : Reader Unit := do
  let next ← peek
  if next == some 'e' || next == some 'E' then skipExponent else pure ()

/-- Pass over a number at its sign or first digit. -/
def skipNumber : Reader Unit := do
  if (← peek) == some '-' then advance
  let first ← peek
  if !first.any Char.isDigit then failNext .badNumber
  else
    advance
    if first == some '0' then
      if (← peek).any Char.isDigit then failNext .badNumber else pure ()
    else skipDigits
    if (← peek) == some '.' then
      advance
      if (← peek).any Char.isDigit then
        skipDigits
        skipAfterDigits
      else failNext .badNumber
    else skipAfterDigits

/-- Pass over the name of a member and its colon. -/
def skipName : Reader Unit := do
  match ← peekSolid with
  | none => failNext .endInObject
  | some c =>
      if c == '"' then
        skipString
        match ← peekSolid with
        | none => failNext .endInObject
        | some c => if c == ':' then advance else failNext .expectedColon
      else failNext .nameNotString

/-- Pass over the name of a member if values of the frame have names. -/
def skipNameIn : Frame → Reader Unit
  | .array => pure ()
  | .object => skipName

mutual

/-- Pass over a value and then over all that the frames around it still need. -/
def skipFrom : (fuel : Nat) → List Frame → Reader Unit
  | 0, _ => failHere .endInValue
  | fuel + 1, frames => do
      match ← peekSolid with
      | none => failNext .endInValue
      | some c =>
          if c == 'n' then
            advance
            word "ull".toList
            skipAfter fuel frames
          else if c == 't' then
            advance
            word "rue".toList
            skipAfter fuel frames
          else if c == 'f' then
            advance
            word "alse".toList
            skipAfter fuel frames
          else if c == '-' || c.isDigit then
            skipNumber
            skipAfter fuel frames
          else if c == '"' then
            skipString
            skipAfter fuel frames
          else if c == '[' then
            advance
            skipOpened fuel .array frames
          else if c == '\x7b' then
            advance
            skipOpened fuel .object frames
          else failNext .expectedValue

/-- Pass over the inside of a frame that has just been opened. -/
def skipOpened : (fuel : Nat) → Frame → List Frame → Reader Unit
  | 0, _, _ => failHere .endInValue
  | fuel + 1, frame, frames => do
      match ← peekSolid with
      | none => failNext frame.endCause
      | some c =>
          if c == frame.closer then
            advance
            skipAfter fuel frames
          else
            skipNameIn frame
            skipFrom fuel (frame :: frames)

/-- Pass over all that frames need after a value in the innermost of them. -/
def skipAfter : (fuel : Nat) → List Frame → Reader Unit
  | _, [] => pure ()
  | 0, _ :: _ => failHere .endInValue
  | fuel + 1, frame :: frames => do
      match ← peekSolid with
      | none => failNext frame.endCause
      | some c =>
          if c == ',' then
            advance
            skipNameIn frame
            skipFrom fuel (frame :: frames)
          else if c == frame.closer then
            advance
            skipAfter fuel frames
          else failNext frame.commaCause

end

/-- Pass over a value. Every step but the last two passes a character. -/
def skip : Reader Unit := fun text => skipFrom (2 * text.length + 2) [] text

end Reader
end DspBridge.Json

import DspBridge.Json.Printer

/-!
# Errors in JSON text

What can be wrong with a text that should be a certain kind of JSON value, and where. A place
counts lines from one and bytes within a line; only a line feed ends a line.
-/

namespace DspBridge.Json

/-- What is wrong with a text. -/
inductive Cause where
  | endInArray
  | endInObject
  | endInString
  | endInValue
  | expectedColon
  | expectedCommaOrBracket
  | expectedCommaOrBrace
  | expectedWord
  | expectedValue
  | badEscape
  | badNumber
  | numberTooLarge
  | controlCharacter
  | nameNotString
  | loneSurrogate
  | surrogateUnfinished
  | trailingComma
  | trailingText
  | tooDeep
  | wrongKind (found : Json) (expected : String)
  | missingField (name : String)
  | duplicateField (name : String)
  | unknownVariant (name : String) (known : List String)
  | wrongLength (length : Nat) (expected : String)
  deriving Repr

/-- Names between backticks, joined as a message lists alternatives. -/
def alternatives : List String → String
  | [] => "there are no variants"
  | [only] => s!"expected `{only}`"
  | [first, second] => s!"expected `{first}` or `{second}`"
  | names => "expected one of " ++ ", ".intercalate (names.map fun name => s!"`{name}`")

/-- The wording of a cause. -/
def Cause.message : Cause → String
  | .endInArray => "EOF while parsing a list"
  | .endInObject => "EOF while parsing an object"
  | .endInString => "EOF while parsing a string"
  | .endInValue => "EOF while parsing a value"
  | .expectedColon => "expected `:`"
  | .expectedCommaOrBracket => "expected `,` or `]`"
  | .expectedCommaOrBrace => "expected `,` or `\x7d`"
  | .expectedWord => "expected ident"
  | .expectedValue => "expected value"
  | .badEscape => "invalid escape"
  | .badNumber => "invalid number"
  | .numberTooLarge => "number out of range"
  | .controlCharacter => "control character (\\u0000-\\u001F) found while parsing a string"
  | .nameNotString => "key must be a string"
  | .loneSurrogate => "lone leading surrogate in hex escape"
  | .surrogateUnfinished => "unexpected end of hex escape"
  | .trailingComma => "trailing comma"
  | .trailingText => "trailing characters"
  | .tooDeep => "recursion limit exceeded"
  | .wrongKind found expected => s!"invalid type: {found.describe}, expected {expected}"
  | .missingField name => s!"missing field `{name}`"
  | .duplicateField name => s!"duplicate field `{name}`"
  | .unknownVariant name known => s!"unknown variant `{name}`, {alternatives known}"
  | .wrongLength length expected => s!"invalid length {length}, expected {expected}"

/-- A place in a text. -/
structure Place where
  line : Nat
  column : Nat
  deriving DecidableEq, Repr

/-- The place after some bytes. -/
def Place.after (bytes : List UInt8) : Place :=
  bytes.foldl (fun place byte => if byte == 10 then ⟨place.line + 1, 0⟩ else ⟨place.line, place.column + 1⟩)
    ⟨1, 0⟩

/-- An error, with its place unless the value was found wrong after all of it had been read. -/
structure Error where
  cause : Cause
  place : Option Place
  deriving Repr

/-- The wording of an error. -/
def Error.message (error : Error) : String :=
  match error.place with
  | none => error.cause.message
  | some place => s!"{error.cause.message} at line {place.line} column {place.column}"

end DspBridge.Json

import DspBridge.Json.Value
import DspBridge.Text.Quoted

/-!
# Writing JSON

The compact text of a value: no blanks between its parts, and in strings an escape for quotes,
backslashes and control characters only. The text of a value is one line whatever it holds.
-/

namespace DspBridge.Json

/-- One character inside a written string. -/
def escapeChar (c : Char) : List Char :=
  if c == '"' then ['\\', '"']
  else if c == '\\' then ['\\', '\\']
  else if c == '\n' then ['\\', 'n']
  else if c == '\r' then ['\\', 'r']
  else if c == '\t' then ['\\', 't']
  else if c.toNat == 8 then ['\\', 'b']
  else if c.toNat == 12 then ['\\', 'f']
  else if c.toNat < 0x20 then
    ['\\', 'u', '0', '0', Nat.digitChar (c.toNat / 16), Nat.digitChar (c.toNat % 16)]
  else [c]

/-- A string between double quotes. -/
def writeString (text : String) : List Char :=
  '"' :: (text.toList.flatMap escapeChar ++ ['"'])

mutual

/-- The characters of a value. -/
def write : Json → List Char
  | .null => "null".toList
  | .bool value => (toString value).toList
  | .number value => value.text.toList
  | .string value => writeString value
  | .array items => '[' :: (writeItems items ++ [']'])
  | .object members => '\x7b' :: (writeMembers members ++ ['\x7d'])

/-- The characters of items with commas between them. -/
def writeItems : List Json → List Char
  | [] => []
  | [item] => item.write
  | item :: rest => item.write ++ (',' :: writeItems rest)

/-- The characters of members with commas between them. -/
def writeMembers : List (String × Json) → List Char
  | [] => []
  | [(name, value)] => writeString name ++ (':' :: value.write)
  | (name, value) :: rest => writeString name ++ (':' :: value.write) ++ (',' :: writeMembers rest)

end

/-- The compact text of a value. -/
def compact (value : Json) : String := String.ofList value.write

/-- How a message names a value of the wrong kind. -/
def describe : Json → String
  | .null => "null"
  | .bool value => s!"boolean `{value}`"
  | .number (.integer value _) => s!"integer `{value}`"
  | .number (.real value _) => s!"floating point `{Number.Layout.document.write value}`"
  | .string value => s!"string {Text.quote value}"
  | .array _ => "sequence"
  | .object _ => "map"

end DspBridge.Json

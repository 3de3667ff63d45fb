import DspBridge.Text.Printable

/-!
# Quoted text in messages

How messages quote a text they complain about: between double quotes, with the usual two-character
escapes, and with `\u{…}` for every character that does not print.
-/

namespace DspBridge.Text

/-- A number in lower-case hexadecimal digits. -/
def hexDigits (value : Nat) : List Char := Nat.toDigits 16 value

/-- One character of a quoted text. -/
def quoteChar (c : Char) : List Char :=
  if c == '"' then ['\\', '"']
  else if c == '\\' then ['\\', '\\']
  else if c == '\t' then ['\\', 't']
  else if c == '\r' then ['\\', 'r']
  else if c == '\n' then ['\\', 'n']
  else if c.toNat == 0 then ['\\', '0']
  else if isPrintable c then [c]
  else ['\\', 'u', '\x7b'] ++ hexDigits c.toNat ++ ['\x7d']

/-- A text between double quotes, on one line and with nothing invisible in it. -/
def quote (text : String) : String :=
  String.ofList (['"'] ++ text.toList.flatMap quoteChar ++ ['"'])

end DspBridge.Text

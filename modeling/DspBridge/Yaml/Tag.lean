import DspBridge.Text.Utf8
import DspBridge.Yaml.Scalar

/-!
# Reading tags and directives

A tag is written in full between angle brackets, or as a handle and an ending, where the handle
stands for the beginning of the tag. The beginnings of handles are set by directives. Tags are bytes,
as they can be written with percent escapes.
-/

namespace DspBridge.Yaml

/-- Characters of tags as they are written. Between angle brackets and in directives there are three
more. -/
def isTagChar (inFull : Bool) (c : Char) : Bool :=
  isNameChar c ||
    [';', '/', '?', ':', '@', '&', '=', '+', '$', '.', '%', '!', '~', '*', '(', ')',
      Char.ofNat 39].contains c ||
    (inFull && (c == ',' || c == '[' || c == ']'))

/-- The number of bytes of a character, by its first byte. -/
def byteWidth? (byte : Nat) : Option Nat :=
  if byte < 0x80 then some 1
  else if 0xC0 ≤ byte && byte < 0xE0 then some 2
  else if 0xE0 ≤ byte && byte < 0xF0 then some 3
  else if 0xF0 ≤ byte && byte < 0xF8 then some 4
  else none

/-- The byte of a percent escape. -/
def percentByte? : List Char → Option Nat
  | '%' :: high :: low :: _ => hexNumber? [high, low]
  | _ => none

/-- The bytes that continue a character, each a percent escape. -/
def percentTail? : (count : Nat) → List Char → Option (List UInt8)
  | 0, _ => some []
  | count + 1, text => do
      let byte ← percentByte? text
      if 0x80 ≤ byte && byte < 0xC0 then
        (percentTail? count (text.drop 3)).map (UInt8.ofNat byte :: ·)
      else none

/-- The bytes of a character, each a percent escape. -/
def percentCharacter? (text : List Char) : Option (List UInt8) := do
  let first ← percentByte? text
  let width ← byteWidth? first
  (percentTail? (width - 1) (text.drop 3)).map (UInt8.ofNat first :: ·)

/-- The bytes of a tag, and the cursor behind it. -/
def readTagBytes (inFull : Bool) : (fuel : Nat) → Cursor → Option (List UInt8 × Cursor)
  | 0, cursor => some ([], cursor)
  | fuel + 1, cursor =>
      match cursor.head? with
      | none => some ([], cursor)
      | some c =>
          if !isTagChar inFull c then some ([], cursor)
          else do
            let (bytes, width) ←
              if c == '%' then
                (percentCharacter? cursor.rest).map fun bytes => (bytes, 3 * bytes.length)
              else some (String.utf8EncodeChar c, 1)
            let (others, cursor) ← readTagBytes inFull fuel (cursor.skip width)
            some (bytes ++ others, cursor)

/-- The bytes of a tag that has at least one character, and the cursor behind it. -/
def readTagText (inFull : Bool) (cursor : Cursor) : Option (List UInt8 × Cursor) := do
  let (bytes, after) ← readTagBytes inFull (cursor.rest.length + 1) cursor
  if after.mark.index = cursor.mark.index then none else some (bytes, after)

/-- The handle at the front: an exclamation mark, characters of a name, and another mark if one
follows. -/
def readHandle (cursor : Cursor) : Option (List Char × Cursor) :=
  if cursor.isAt '!' then
    let cursor := cursor.next
    let name := cursor.takeWhile isNameChar
    let cursor := cursor.skip name.length
    if cursor.isAt '!' then some ('!' :: name ++ ['!'], cursor.next) else some ('!' :: name, cursor)
  else none

/-- Whether a text is a handle with an exclamation mark at both of its ends. -/
def isHandle (text : List Char) : Bool := text.length > 1 && text.getLast? == some '!'

/-- Read a tag in full, between angle brackets. -/
def readFullTag (cursor : Cursor) : Option (TokenKind × Cursor) := do
  let (bytes, cursor) ← readTagText true (cursor.skip 2)
  if cursor.isAt '>' then some (.tag "" bytes, cursor.next) else none

/-- Read a tag with a handle; one exclamation mark is the handle of whatever follows it, and a tag
by itself. -/
def readShortTag (cursor : Cursor) : Option (TokenKind × Cursor) := do
  let (handle, after) ← readHandle cursor
  if isHandle handle then
    let (bytes, cursor) ← readTagText false after
    some (.tag (String.ofList handle) bytes, cursor)
  else
    let (bytes, cursor) ← readTagBytes false (after.rest.length + 1) after
    let bytes := Text.bytesOf (String.ofList handle.tail) ++ bytes
    some (if bytes.isEmpty then .tag "" (Text.bytesOf "!") else .tag "!" bytes, cursor)

/-- Read a tag; what follows it is a gap, or between brackets a comma. -/
def readTag (inFlow : Bool) (cursor : Cursor) : Option (TokenKind × Cursor) := do
  let (kind, cursor) ←
    if cursor.rest.tail.head? == some '<' then readFullTag cursor else readShortTag cursor
  if (inFlow && cursor.isAt ',') || isGap cursor.rest then some (kind, cursor) else none

/-- The greatest number of digits in a version. -/
def versionDigits : Nat := 9

/-- A number of a version. -/
def readVersionNumber (cursor : Cursor) : Option (Nat × Cursor) :=
  let digits := cursor.takeWhile Char.isDigit
  if digits.isEmpty || versionDigits < digits.length then none
  else
    some (digits.foldl (fun value digit => value * 10 + (digit.toNat - '0'.toNat)) 0,
      cursor.skip digits.length)

/-- Read the version of a directive. -/
def readVersion (cursor : Cursor) : Option (TokenKind × Cursor) := do
  let (major, cursor) ← readVersionNumber (cursor.skipWhile isBlank)
  if cursor.isAt '.' then
    let (minor, cursor) ← readVersionNumber cursor.next
    some (.version major minor, cursor)
  else none

/-- Read the handle of a directive and what it stands for. -/
def readTagDirective (cursor : Cursor) : Option (TokenKind × Cursor) := do
  let (handle, cursor) ← readHandle (cursor.skipWhile isBlank)
  if !(isHandle handle || handle == ['!']) || !cursor.holds isBlank then none
  else
    let (start, cursor) ← readTagText true (cursor.skipWhile isBlank)
    if isGap cursor.rest then some (.tagHandle (String.ofList handle) start, cursor) else none

/-- Read a directive, and the rest of its line. -/
def readDirective (cursor : Cursor) : Option (Token × Cursor) := do
  let name := cursor.next.takeWhile isNameChar
  let behind := cursor.next.skip name.length
  if !isGap behind.rest then none
  else
    let (kind, after) ←
      if name == "YAML".toList then readVersion behind
      else if name == "TAG".toList then readTagDirective behind
      else none
    let next ← after.finishLine?
    some (⟨kind, cursor.mark, after.mark⟩, next)

end DspBridge.Yaml

/-!
# Places in a YAML text

A cursor is what is left of a text together with its place: characters are counted, and lines end at
any of five line breaks, of which a carriage return with a line feed is one. Every step of a cursor
goes forward.
-/

namespace DspBridge.Yaml

/-- A place in a text; characters, lines and columns count from zero. -/
structure Mark where
  index : Nat
  line : Nat
  column : Nat
  deriving DecidableEq, Repr

/-- The beginning of a text. -/
def Mark.start : Mark := ⟨0, 0, 0⟩

/-- Characters that end a line. -/
def isBreak (c : Char) : Bool :=
  c == '\n' || c == '\r' || c.toNat == 0x85 || c.toNat == 0x2028 || c.toNat == 0x2029

/-- A space or a tab. -/
def isBlank (c : Char) : Bool := c == ' ' || c == '\t'

/-- Whether a text has no word at its front: it begins with a blank or a line break, or has ended. -/
def isGap : List Char → Bool
  | [] => true
  | c :: _ => isBlank c || isBreak c

/-- Characters of names: ASCII letters and digits, underscores and hyphens. -/
def isNameChar (c : Char) : Bool := c.isAlphanum || c == '_' || c == '-'

/-- What is left of a text, and its place. -/
structure Cursor where
  rest : List Char
  mark : Mark
  deriving DecidableEq, Repr

namespace Cursor

/-- The beginning of a text. -/
def start (text : String) : Cursor := ⟨text.toList, .start⟩

/-- The next character. -/
def head? (cursor : Cursor) : Option Char := cursor.rest.head?

/-- Whether the next character is a given one. -/
def isAt (cursor : Cursor) (c : Char) : Bool := cursor.rest.head? == some c

/-- Whether there are no characters left. -/
def isAtEnd (cursor : Cursor) : Bool := cursor.rest.isEmpty

/-- Whether the next character belongs to a class. -/
def holds (cursor : Cursor) (test : Char → Bool) : Bool := cursor.rest.head?.any test

/-- The cursor behind a character that ends no line. -/
def next (cursor : Cursor) : Cursor :=
  match cursor.rest with
  | [] => cursor
  | _ :: rest =>
      ⟨rest, { cursor.mark with index := cursor.mark.index + 1, column := cursor.mark.column + 1 }⟩

/-- The cursor behind some characters that end no line. -/
def skip (cursor : Cursor) : (count : Nat) → Cursor
  | 0 => cursor
  | count + 1 => cursor.next.skip count

/-- The characters of a class at the front. -/
def takeWhile (cursor : Cursor) (test : Char → Bool) : List Char := cursor.rest.takeWhile test

/-- The cursor behind the characters of a class, which end no line. -/
def skipWhile (cursor : Cursor) (test : Char → Bool) : Cursor :=
  cursor.skip (cursor.takeWhile test).length

/-- The cursor behind a line break of some characters. -/
def skipBreak (cursor : Cursor) (count : Nat) : Cursor :=
  ⟨cursor.rest.drop count, ⟨cursor.mark.index + count, cursor.mark.line + 1, 0⟩⟩

/-- The line break at the front as it counts in a scalar, and the cursor behind it. The separators
of lines and paragraphs stay as they are, and every other break is a line feed. -/
def takeBreak (cursor : Cursor) : List Char × Cursor :=
  match cursor.rest with
  | '\r' :: '\n' :: _ => (['\n'], cursor.skipBreak 2)
  | c :: _ =>
      if c.toNat == 0x2028 || c.toNat == 0x2029 then ([c], cursor.skipBreak 1)
      else if isBreak c then (['\n'], cursor.skipBreak 1)
      else ([], cursor)
  | [] => ([], cursor)

/-- The cursor behind a comment, if one begins here. -/
def skipComment (cursor : Cursor) : Cursor :=
  if cursor.isAt '#' then cursor.skipWhile (fun c => !isBreak c) else cursor

/-- The cursor at the end of a line that holds only blanks and a comment, behind its break. -/
def finishLine? (cursor : Cursor) : Option Cursor :=
  let cursor := (cursor.skipWhile isBlank).skipComment
  if cursor.isAtEnd || cursor.holds isBreak then some cursor.takeBreak.2 else none

/-- Whether a document begins or ends here: three hyphens or three dots alone at the start of a
line. -/
def isAtDocumentSign (cursor : Cursor) (sign : Char) : Bool :=
  cursor.mark.column == 0 && cursor.rest.take 3 == [sign, sign, sign] && isGap (cursor.rest.drop 3)

/-- Whether a document begins or ends here. -/
def isAtBoundary (cursor : Cursor) : Bool :=
  cursor.isAtDocumentSign '-' || cursor.isAtDocumentSign '.'

end Cursor
end DspBridge.Yaml

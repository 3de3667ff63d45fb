import DspBridge.Yaml.Token

/-!
# Reading YAML scalars

The five ways of writing a text. Plain and quoted scalars fold the gaps between their words: a gap
on one line stays as it is, a single line break counts as a space, and of more line breaks the
first one is dropped. Block scalars take their lines from the indentation.
-/

namespace DspBridge.Yaml

/-- What stands between two words of a scalar. -/
structure Gap where
  /-- Blanks, as long as no line break has been met. -/
  blanks : List Char
  /-- The first line break. -/
  first : List Char
  /-- Further line breaks. -/
  others : List Char
  /-- Whether the gap has gone on to another line. -/
  broken : Bool
  deriving DecidableEq, Repr

namespace Gap

/-- A gap that stays on its line so far. -/
def empty : Gap := ⟨[], [], [], false⟩

/-- A gap behind a line break that counts as nothing. -/
def joined : Gap := { empty with broken := true }

/-- What a gap counts as. -/
def text (gap : Gap) : List Char :=
  if !gap.broken then gap.blanks
  else if gap.first == ['\n'] then if gap.others.isEmpty then [' '] else gap.others
  else gap.first ++ gap.others

/-- Read on in a gap. Behind a line break no tab may stand before column `indent`. -/
def read (indent : Nat) : (fuel : Nat) → Gap → Cursor → Option (Gap × Cursor)
  | 0, gap, cursor => some (gap, cursor)
  | fuel + 1, gap, cursor =>
      match cursor.head? with
      | none => some (gap, cursor)
      | some c =>
          if isBlank c then
            if gap.broken then
              if c == '\t' && cursor.mark.column < indent then none
              else gap.read indent fuel cursor.next
            else { gap with blanks := gap.blanks ++ [c] }.read indent fuel cursor.next
          else if isBreak c then
            let (newline, cursor) := cursor.takeBreak
            if gap.broken then { gap with others := gap.others ++ newline }.read indent fuel cursor
            else { gap with first := newline, broken := true }.read indent fuel cursor
          else some (gap, cursor)

end Gap

/-- A scalar that has been read. -/
structure Lexeme where
  text : List Char
  /-- Whether line breaks behind the scalar have been read with it. -/
  broken : Bool
  cursor : Cursor
  deriving DecidableEq, Repr

/-- Characters that separate entries between brackets. -/
def isFlowSign (c : Char) : Bool := c == ',' || c == '[' || c == ']' || c == '\x7b' || c == '\x7d'

/-- The characters of a plain word. A colon ends it in front of a gap, and between brackets a
separator does; there a colon in front of a separator is refused. -/
def plainWord (inFlow : Bool) : List Char → Option (List Char)
  | [] => some []
  | c :: rest =>
      if isGap (c :: rest) then some []
      else if inFlow && c == ':' && rest.head?.any (fun next => isFlowSign next || next == '?') then
        none
      else if (c == ':' && isGap rest) || (inFlow && isFlowSign c) then some []
      else (plainWord inFlow rest).map (c :: ·)

/-- Read on in a plain scalar behind a gap; in a block its further lines have to reach column
`indent`. -/
def readPlain (inFlow : Bool) (indent : Nat) :
    (fuel : Nat) → (text : List Char) → Gap → Cursor → Option Lexeme
  | 0, text, gap, cursor => some ⟨text, gap.broken, cursor⟩
  | fuel + 1, text, gap, cursor => do
      if cursor.isAtBoundary || cursor.isAt '#' then some ⟨text, gap.broken, cursor⟩
      else
        let word ← plainWord inFlow cursor.rest
        if word.isEmpty then some ⟨text, gap.broken, cursor⟩
        else
          let text := text ++ gap.text ++ word
          let cursor := cursor.skip word.length
          if !cursor.holds fun c => isBlank c || isBreak c then some ⟨text, false, cursor⟩
          else
            let (gap, cursor) ← Gap.empty.read indent (cursor.rest.length + 1) cursor
            if !inFlow && cursor.mark.column < indent then some ⟨text, gap.broken, cursor⟩
            else readPlain inFlow indent fuel text gap cursor

/-- The character that a one-letter escape stands for. -/
def letterEscape? (c : Char) : Option Char :=
  if c == '0' then some (Char.ofNat 0)
  else if c == 'a' then some (Char.ofNat 7)
  else if c == 'b' then some (Char.ofNat 8)
  else if c == 't' || c == '\t' then some '\t'
  else if c == 'n' then some '\n'
  else if c == 'v' then some (Char.ofNat 11)
  else if c == 'f' then some (Char.ofNat 12)
  else if c == 'r' then some '\r'
  else if c == 'e' then some (Char.ofNat 27)
  else if c == ' ' || c == '"' || c == '/' || c == '\\' then some c
  else if c == 'N' then some (Char.ofNat 0x85)
  else if c == '_' then some (Char.ofNat 0xA0)
  else if c == 'L' then some (Char.ofNat 0x2028)
  else if c == 'P' then some (Char.ofNat 0x2029)
  else none

/-- The number of digits behind the letter of a numeric escape. -/
def codeLength? (c : Char) : Option Nat :=
  if c == 'x' then some 2 else if c == 'u' then some 4 else if c == 'U' then some 8 else none

/-- The value of a hexadecimal digit. -/
def hexDigit? (c : Char) : Option Nat :=
  if c.isDigit then some (c.toNat - '0'.toNat)
  else if 'a' ≤ c && c ≤ 'f' then some (c.toNat - 'a'.toNat + 10)
  else if 'A' ≤ c && c ≤ 'F' then some (c.toNat - 'A'.toNat + 10)
  else none

/-- The number that hexadecimal digits write. -/
def hexNumber? (digits : List Char) : Option Nat :=
  digits.foldlM (fun value digit => (hexDigit? digit).map (value * 16 + ·)) 0

/-- The character of a number, unless there is none. -/
def character? (code : Nat) : Option Char :=
  if code.isValidChar then some (Char.ofNat code) else none

/-- The character of an escape whose backslash has been read, and how long the rest of it is. -/
def escape? : List Char → Option (Char × Nat)
  | [] => none
  | c :: rest =>
      match letterEscape? c, codeLength? c with
      | some value, _ => some (value, 1)
      | none, some length => do
          let digits := rest.take length
          if digits.length < length then none
          else
            let code ← hexNumber? digits
            let value ← character? code
            some (value, length + 1)
      | none, none => none

/-- Read a run without blanks: its characters, and whether it ends with a line break that counts as
nothing. -/
def quotedRun (quote : Char) : (fuel : Nat) → Cursor → Option (List Char × Bool × Cursor)
  | 0, cursor => some ([], false, cursor)
  | fuel + 1, cursor =>
      let keep (c : Char) (count : Nat) : Option (List Char × Bool × Cursor) :=
        (quotedRun quote fuel (cursor.skip count)).map fun (text, others) => (c :: text, others)
      if isGap cursor.rest then some ([], false, cursor)
      else
        match cursor.rest with
        | [] => some ([], false, cursor)
        | c :: rest =>
            if c == quote then
              if quote != '"' && rest.head? == some quote then keep c 2
              else some ([], false, cursor)
            else if c == '\\' && quote == '"' then
              if rest.head?.any isBreak then some ([], true, cursor.next.takeBreak.2)
              else (escape? rest).bind fun (value, length) => keep value (length + 1)
            else keep c 1

/-- Read on in a quoted scalar up to its closing quote. -/
def readQuoted (quote : Char) : (fuel : Nat) → (text : List Char) → Cursor → Option Lexeme
  | 0, _, _ => none
  | fuel + 1, text, cursor => do
      if cursor.isAtBoundary || cursor.isAtEnd then none
      else
        let (run, joined, cursor) ← quotedRun quote (cursor.rest.length + 1) cursor
        let text := text ++ run
        if cursor.isAt quote then some ⟨text, false, cursor.next⟩
        else
          let gap := if joined then Gap.joined else Gap.empty
          let (gap, cursor) ← gap.read 0 (cursor.rest.length + 1) cursor
          readQuoted quote fuel (text ++ gap.text) cursor

/-- What becomes of the line breaks at the end of a block scalar. -/
inductive Chomping where
  | strip
  | clip
  | keep
  deriving DecidableEq, Repr

/-- The chomping that a sign asks for. -/
def chomping? (c : Char) : Option Chomping :=
  if c == '+' then some .keep else if c == '-' then some .strip else none

/-- The head of a block scalar: its chomping and its indentation, if that is given. -/
def blockHead? (cursor : Cursor) : Option (Chomping × Option Nat × Cursor) :=
  let digit? (cursor : Cursor) : Option (Option Nat × Cursor) :=
    match cursor.head? with
    | some c =>
        if c == '0' then none
        else if c.isDigit then some (some (c.toNat - '0'.toNat), cursor.next)
        else some (none, cursor)
    | none => some (none, cursor)
  match cursor.head?.bind chomping? with
  | some chomping => do
      let (digit, cursor) ← digit? cursor.next
      some (chomping, digit, cursor)
  | none => do
      let (digit, cursor) ← digit? cursor
      match digit, cursor.head?.bind chomping? with
      | some digit, some chomping => some (chomping, some digit, cursor.next)
      | digit, _ => some (.clip, digit, cursor)

/-- Read the indentation of lines and the line breaks of empty ones: the breaks, and the greatest
column that was reached. As long as no indentation is known every space belongs to it. -/
def blockBreaks (indent : Option Nat) :
    (fuel : Nat) → (breaks : List Char) → (widest : Nat) → Cursor →
      Option (List Char × Nat × Cursor)
  | 0, breaks, widest, cursor => some (breaks, widest, cursor)
  | fuel + 1, breaks, widest, cursor =>
      let spaces := (cursor.takeWhile (· == ' ')).length
      let spaces := (indent.map fun indent => min spaces (indent - cursor.mark.column)).getD spaces
      let cursor := cursor.skip spaces
      let widest := max widest cursor.mark.column
      if cursor.isAt '\t' && indent.all (cursor.mark.column < ·) then none
      else if cursor.holds isBreak then
        let (newline, cursor) := cursor.takeBreak
        blockBreaks indent fuel (breaks ++ newline) widest cursor
      else some (breaks, widest, cursor)

/-- The parts of a block scalar that have been read: all that is certain, the break of the last
line, the breaks of empty lines behind it, and whether the last line began with a blank. -/
structure BlockText where
  text : List Char
  lineBreak : List Char
  breaks : List Char
  blankLine : Bool
  deriving DecidableEq, Repr

/-- The parts once another line begins; `folded` says whether single breaks count as spaces. -/
def BlockText.openLine (folded : Bool) (parts : BlockText) (blank : Bool) : List Char :=
  if folded && parts.lineBreak == ['\n'] && !parts.blankLine && !blank then
    parts.text ++ (if parts.breaks.isEmpty then [' '] else []) ++ parts.breaks
  else parts.text ++ parts.lineBreak ++ parts.breaks

/-- Read the lines of a block scalar that stand at an indentation. -/
def blockLines (folded : Bool) (indent : Nat) :
    (fuel : Nat) → BlockText → Cursor → Option (BlockText × Cursor)
  | 0, parts, cursor => some (parts, cursor)
  | fuel + 1, parts, cursor => do
      if cursor.mark.column != indent || cursor.isAtEnd then some (parts, cursor)
      else
        let blank := cursor.holds isBlank
        let line := cursor.takeWhile fun c => !isBreak c
        let (lineBreak, cursor) := (cursor.skip line.length).takeBreak
        let text := parts.openLine folded blank ++ line
        let (breaks, _, cursor) ← blockBreaks (some indent) (cursor.rest.length + 1) [] 0 cursor
        blockLines folded indent fuel ⟨text, lineBreak, breaks, blank⟩ cursor

/-- Read a block scalar behind its sign. `least` is the smallest indentation that it can have, and
`base` is what an indentation that is given adds to. -/
def readBlock (folded : Bool) (base least : Nat) (cursor : Cursor) : Option Lexeme := do
  let (chomping, digit, cursor) ← blockHead? cursor
  let cursor ← cursor.finishLine?
  let given := digit.map (base + ·)
  let (breaks, widest, cursor) ← blockBreaks given (cursor.rest.length + 1) [] 0 cursor
  let indent := given.getD (max widest least)
  let (parts, cursor) ← blockLines folded indent (cursor.rest.length + 1) ⟨[], [], breaks, false⟩ cursor
  let text := match chomping with
    | .strip => parts.text
    | .clip => parts.text ++ parts.lineBreak
    | .keep => parts.text ++ parts.lineBreak ++ parts.breaks
  some ⟨text, false, cursor⟩

end DspBridge.Yaml

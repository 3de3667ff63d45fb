import DspBridge.Yaml.Tag

/-!
# From text to tokens

The tokens of a text, with those that its indentation stands for. A block collection is open as long
as lines reach its column. Only a colon shows that what stands before it was a key, so the places
where a key may have begun are remembered, one for each level of brackets, until the line ends or
the key would be too long.
-/

namespace DspBridge.Yaml

/-- Where a key may have begun. -/
structure PossibleKey where
  mark : Mark
  /-- The number of tokens before it. -/
  count : Nat
  /-- Whether nothing but a key can stand there. -/
  required : Bool
  deriving DecidableEq, Repr

/-- A text that is being cut into tokens. -/
structure Tokenizer where
  cursor : Cursor
  /-- The tokens so far, the last one first. -/
  tokens : List Token
  /-- Whether a key may begin here. -/
  keyAllowed : Bool
  /-- The possible key outside all brackets. -/
  blockKey : Option PossibleKey
  /-- The possible key inside each open bracket, the innermost first. -/
  flowKeys : List (Option PossibleKey)
  /-- The columns of the open block collections, the innermost first. -/
  indents : List Nat
  deriving Repr

namespace Tokenizer

/-- The beginning of a text. -/
def start (text : String) : Tokenizer := ⟨.start text, [], true, none, [], []⟩

/-- Whether brackets are open. -/
def inFlow (state : Tokenizer) : Bool := !state.flowKeys.isEmpty

/-- The least column of what belongs to the innermost block collection. -/
def innerColumn (state : Tokenizer) : Nat := (state.indents.head?.map (· + 1)).getD 0

/-- The possible key at the innermost level. -/
def key? (state : Tokenizer) : Option PossibleKey := state.flowKeys.head?.getD state.blockKey

/-- Set the possible key at the innermost level. -/
def setKey (key : Option PossibleKey) (state : Tokenizer) : Tokenizer :=
  match state.flowKeys with
  | [] => { state with blockKey := key }
  | _ :: rest => { state with flowKeys := key :: rest }

/-- Add a token. -/
def push (token : Token) (state : Tokenizer) : Tokenizer :=
  { state with tokens := token :: state.tokens }

/-- Add a token before the last ones, behind a number of tokens. -/
def insert (count : Nat) (token : Token) (state : Tokenizer) : Tokenizer :=
  let later := state.tokens.length - count
  { state with tokens := state.tokens.take later ++ token :: state.tokens.drop later }

/-- Open a block collection at a column unless one is open there. -/
def openBlock (column count : Nat) (kind : TokenKind) (mark : Mark) (state : Tokenizer) :
    Tokenizer :=
  if !state.inFlow && state.innerColumn ≤ column then
    { state with indents := column :: state.indents }.insert count (.at kind mark)
  else state

/-- Close the block collections of some columns as far as `ends` says. -/
def closeColumns (ends : Nat → Bool) (state : Tokenizer) : List Nat → Tokenizer
  | [] => { state with indents := [] }
  | column :: rest =>
      if ends column then closeColumns ends (state.push (.at .blockEnd state.cursor.mark)) rest
      else { state with indents := column :: rest }

/-- Close the block collections that end to the right of a column. -/
def closeBlocks (column : Nat) (state : Tokenizer) : Tokenizer :=
  if state.inFlow then state else closeColumns (column < ·) state state.indents

/-- Close all block collections. -/
def closeAll (state : Tokenizer) : Tokenizer :=
  if state.inFlow then state else closeColumns (fun _ => true) state state.indents

/-- Give up the possible key at the innermost level, which fails if a key has to be there. -/
def dropKey (state : Tokenizer) : Option Tokenizer :=
  if state.key?.any PossibleKey.required then none else some (state.setKey none)

/-- Remember that a key may begin here. -/
def saveKey (state : Tokenizer) : Option Tokenizer :=
  let mark := state.cursor.mark
  let required := !state.inFlow && state.indents.head? == some mark.column
  if state.keyAllowed then
    state.dropKey.map (·.setKey (some ⟨mark, state.tokens.length, required⟩))
  else some state

/-- The greatest number of characters between the beginning of a key and its colon. -/
def keyLimit : Nat := 1024

/-- Whether a place is too far from the beginning of a key. -/
def isStale (mark : Mark) (key : PossibleKey) : Bool :=
  key.mark.line < mark.line || key.mark.index + keyLimit < mark.index

/-- A possible key at a place; fails if the key has to be there and is too far away. -/
def refreshed (mark : Mark) : Option PossibleKey → Option (Option PossibleKey)
  | none => some none
  | some key => if !isStale mark key then some (some key) else if key.required then none else some none

/-- Give up the possible keys that are too far away. -/
def refreshKeys (state : Tokenizer) : Option Tokenizer := do
  let blockKey ← refreshed state.cursor.mark state.blockKey
  let flowKeys ← state.flowKeys.mapM (refreshed state.cursor.mark)
  some { state with blockKey, flowKeys }

/-- The byte order mark, which may begin a line. -/
def orderMark : Char := Char.ofNat 0xFEFF

/-- Go on to the next token, past blanks, comments and line breaks. Tabs are no indentation. -/
def skipGap : (fuel : Nat) → Tokenizer → Tokenizer
  | 0, state => state
  | fuel + 1, state =>
      let cursor := state.cursor
      let cursor :=
        if cursor.mark.column == 0 && cursor.isAt orderMark then cursor.next else cursor
      let tabs := state.inFlow || !state.keyAllowed
      let cursor := cursor.skipWhile fun c => c == ' ' || (tabs && c == '\t')
      let cursor := cursor.skipComment
      if cursor.holds isBreak then
        { state with
          cursor := cursor.takeBreak.2
          keyAllowed := state.keyAllowed || !state.inFlow }.skipGap fuel
      else { state with cursor }

/-- Add a token of some characters. -/
def sign (kind : TokenKind) (width : Nat) (state : Tokenizer) : Tokenizer :=
  let after := state.cursor.skip width
  { state with cursor := after }.push ⟨kind, state.cursor.mark, after.mark⟩

/-- The beginning or the end of a document. -/
def documentSign (kind : TokenKind) (state : Tokenizer) : Option Tokenizer := do
  let state ← state.closeAll.dropKey
  some ({ state with keyAllowed := false }.sign kind 3)

/-- A directive. -/
def directive (state : Tokenizer) : Option Tokenizer := do
  let state ← state.closeAll.dropKey
  let (token, cursor) ← readDirective state.cursor
  some ({ state with keyAllowed := false, cursor }.push token)

/-- An opening bracket. -/
def openFlow (kind : TokenKind) (state : Tokenizer) : Option Tokenizer := do
  let state ← state.saveKey
  some ({ state with flowKeys := none :: state.flowKeys, keyAllowed := true }.sign kind 1)

/-- A closing bracket. -/
def closeFlow (kind : TokenKind) (state : Tokenizer) : Option Tokenizer := do
  let state ← state.dropKey
  some ({ state with flowKeys := state.flowKeys.tail, keyAllowed := false }.sign kind 1)

/-- A comma between brackets. -/
def flowEntry (state : Tokenizer) : Option Tokenizer := do
  let state ← state.dropKey
  some ({ state with keyAllowed := true }.sign .flowEntry 1)

/-- A sign that begins an entry of a block collection, where one may begin. -/
def entry (collection kind : TokenKind) (keyAllowed : Bool) (state : Tokenizer) :
    Option Tokenizer := do
  let mark := state.cursor.mark
  if !state.inFlow && !state.keyAllowed then none
  else
    let state ← (state.openBlock mark.column state.tokens.length collection mark).dropKey
    some ({ state with keyAllowed }.sign kind 1)

/-- A colon behind a key, which is now known to be one, or behind no simple key. -/
def colon (state : Tokenizer) : Option Tokenizer :=
  let mark := state.cursor.mark
  match state.key? with
  | some key =>
      let state := state.insert key.count (.at .key key.mark)
      let state := state.openBlock key.mark.column key.count .blockMappingStart key.mark
      some ({ state.setKey none with keyAllowed := false }.sign .value 1)
  | none =>
      if !state.inFlow && !state.keyAllowed then none
      else
        let state := state.openBlock mark.column state.tokens.length .blockMappingStart mark
        some ({ state with keyAllowed := !state.inFlow }.sign .value 1)

/-- Characters that may follow the name of an anchor directly. -/
def endsName : List Char := ['?', ':', ',', ']', '\x7d', '%', '@', Char.ofNat 96]

/-- An anchor or an alias. -/
def name (kind : String → TokenKind) (state : Tokenizer) : Option Tokenizer := do
  let state ← state.saveKey
  let name := state.cursor.next.takeWhile isNameChar
  let behind := state.cursor.next.skip name.length
  if name.isEmpty || !(isGap behind.rest || behind.holds endsName.contains) then none
  else
    some ({ state with keyAllowed := false }.sign (kind (String.ofList name)) (name.length + 1))

/-- A tag. -/
def tag (state : Tokenizer) : Option Tokenizer := do
  let state ← state.saveKey
  let (kind, cursor) ← readTag state.inFlow state.cursor
  some ({ state with keyAllowed := false, cursor }.push ⟨kind, state.cursor.mark, cursor.mark⟩)

/-- A block scalar. -/
def blockScalar (style : Style) (state : Tokenizer) : Option Tokenizer := do
  let state ← state.dropKey
  let lexeme ← readBlock (style == .folded) (state.indents.head?.getD 0) (max state.innerColumn 1)
    state.cursor.next
  some ({ state with keyAllowed := true, cursor := lexeme.cursor }.push
    ⟨.scalar (String.ofList lexeme.text) style, state.cursor.mark, lexeme.cursor.mark⟩)

/-- A scalar that may be a key. -/
def scalar (style : Style) (read : Cursor → Option Lexeme) (state : Tokenizer) :
    Option Tokenizer := do
  let state ← state.saveKey
  let lexeme ← read state.cursor
  some ({ state with keyAllowed := lexeme.broken, cursor := lexeme.cursor }.push
    ⟨.scalar (String.ofList lexeme.text) style, state.cursor.mark, lexeme.cursor.mark⟩)

/-- A quoted scalar. -/
def quoted (style : Style) (quote : Char) (state : Tokenizer) : Option Tokenizer :=
  state.scalar style fun cursor => readQuoted quote (cursor.rest.length + 1) [] cursor.next

/-- A plain scalar. -/
def plain (state : Tokenizer) : Option Tokenizer :=
  state.scalar .plain fun cursor =>
    readPlain state.inFlow state.innerColumn (cursor.rest.length + 1) [] .empty cursor

/-- Signs that no plain scalar begins with, unless one of the first three stands directly before
something. -/
def plainStops : List Char :=
  ['-', '?', ':', ',', '[', ']', '\x7b', '\x7d', '#', '&', '*', '!', '|', '>', Char.ofNat 39, '"',
    '%', '@', Char.ofNat 96]

/-- Whether a plain scalar begins with a character and what follows it. -/
def beginsPlain (inFlow : Bool) (c : Char) (rest : List Char) : Bool :=
  !(isGap [c] || plainStops.contains c) || (c == '-' && !rest.head?.any isBlank) ||
    (!inFlow && (c == '?' || c == ':') && !isGap rest)

/-- The token that begins with a character. -/
def dispatch (c : Char) (rest : List Char) (state : Tokenizer) : Option Tokenizer :=
  let inFlow := state.inFlow
  if state.cursor.mark.column == 0 && c == '%' then state.directive
  else if state.cursor.isAtDocumentSign '-' then state.documentSign .documentStart
  else if state.cursor.isAtDocumentSign '.' then state.documentSign .documentEnd
  else if c == '[' then state.openFlow .flowSequenceStart
  else if c == '\x7b' then state.openFlow .flowMappingStart
  else if c == ']' then state.closeFlow .flowSequenceEnd
  else if c == '\x7d' then state.closeFlow .flowMappingEnd
  else if c == ',' then state.flowEntry
  else if c == '-' && isGap rest then state.entry .blockSequenceStart .blockEntry true
  else if c == '?' && (inFlow || isGap rest) then state.entry .blockMappingStart .key (!inFlow)
  else if c == ':' && (inFlow || isGap rest) then state.colon
  else if c == '*' then state.name .alias
  else if c == '&' then state.name .anchor
  else if c == '!' then state.tag
  else if c == '|' && !inFlow then state.blockScalar .literal
  else if c == '>' && !inFlow then state.blockScalar .folded
  else if c.toNat == 39 then state.quoted .singleQuoted c
  else if c == '"' then state.quoted .doubleQuoted c
  else if beginsPlain inFlow c rest then state.plain
  else none

/-- Read all tokens; each step takes one of them. -/
def run : (fuel : Nat) → Tokenizer → Option (List Token)
  | 0, _ => none
  | fuel + 1, state => do
      let state := state.skipGap (state.cursor.rest.length + 1)
      let state ← state.refreshKeys
      let state := state.closeBlocks state.cursor.mark.column
      match state.cursor.rest with
      | c :: rest =>
          let state ← state.dispatch c rest
          state.run fuel
      | [] =>
          let mark := state.cursor.mark
          let mark := if mark.column = 0 then mark else { mark with line := mark.line + 1, column := 0 }
          let state := { state with cursor := { state.cursor with mark } }
          let state ← state.closeAll.dropKey
          some (state.push (.at .streamEnd mark)).tokens.reverse

end Tokenizer

/-- Characters that a text may hold. -/
def isAllowed (c : Char) : Bool :=
  c == '\t' || c == '\n' || c == '\r' || (0x20 ≤ c.toNat && c.toNat ≤ 0x7E) || c.toNat == 0x85 ||
    (0xA0 ≤ c.toNat && c.toNat ≤ 0xD7FF) || (0xE000 ≤ c.toNat && c.toNat ≤ 0xFFFD) ||
    0x10000 ≤ c.toNat

/-- The tokens of a text; none if it is not well formed. -/
def tokens? (text : String) : Option (List Token) :=
  if text.toList.all isAllowed then (Tokenizer.start text).run (text.length + 1) else none

end DspBridge.Yaml

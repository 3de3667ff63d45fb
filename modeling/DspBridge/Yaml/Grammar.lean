import DspBridge.Text.Utf8
import DspBridge.Yaml.Node

/-!
# From tokens to nodes

The grammar of tokens. A stream holds at most one document, whose directives say what the handles of
its tags stand for.
-/

namespace DspBridge.Yaml

/-- Tokens that are left to be read. -/
abbrev Tokens := List Token

/-- What the next token says; the end of a stream goes on for ever. -/
def nextKind : Tokens → TokenKind
  | [] => .streamEnd
  | token :: _ => token.kind

/-- Where the next token begins. -/
def nextMark : Tokens → Mark
  | [] => .start
  | token :: _ => token.start

/-- What the handles of tags stand for. -/
abbrev Handles := List (String × Tag)

/-- The tag of a handle and an ending. -/
def spellOut (handles : Handles) (handle : String) (ending : Tag) : Option Tag :=
  if handle.isEmpty then some ending else (handles.lookup handle).map (· ++ ending)

/-- The anchor and the tag in front of a node, each at most once. -/
def readHead (handles : Handles) : Tokens → Option (Head × Tokens)
  | ⟨.anchor name, mark, _⟩ :: ⟨.tag handle ending, _, _⟩ :: rest
  | ⟨.tag handle ending, mark, _⟩ :: ⟨.anchor name, _, _⟩ :: rest =>
      (spellOut handles handle ending).map fun tag => (⟨mark, some name, some tag⟩, rest)
  | ⟨.anchor name, mark, _⟩ :: rest => some (⟨mark, some name, none⟩, rest)
  | ⟨.tag handle ending, mark, _⟩ :: rest =>
      (spellOut handles handle ending).map fun tag => (⟨mark, none, some tag⟩, rest)
  | tokens => some (⟨nextMark tokens, none, none⟩, tokens)

/-- A node and the tokens behind it. -/
abbrev Found := Option (Node String × Tokens)

/-- The tag of a scalar; an exclamation mark by itself is as good as none. -/
def scalarTag? (tag? : Option Tag) : Option Tag := tag?.filter (· != Text.bytesOf "!")

mutual

/-- Read a node. `inBlock` says whether block collections may begin here, and `entriesOnly` whether
a block sequence may also begin without a token of its own, at the column of the keys around it. -/
def readNode (handles : Handles) (inBlock entriesOnly : Bool) : (fuel : Nat) → Tokens → Found
  | 0, _ => none
  | fuel + 1, tokens =>
      match tokens with
      | ⟨.alias name, mark, _⟩ :: rest => some (.alias mark name, rest)
      | _ => do
          let (head, tokens) ← readHead handles tokens
          match tokens with
          | ⟨.scalar text style, _, _⟩ :: rest =>
              some (.scalar { head with tag? := scalarTag? head.tag? } text style, rest)
          | ⟨.flowSequenceStart, _, _⟩ :: rest => do
              let (items, rest) ← readFlowItems handles fuel true rest
              some (.sequence head items, rest)
          | ⟨.flowMappingStart, _, _⟩ :: rest => do
              let (members, rest) ← readFlowMembers handles fuel true rest
              some (.mapping head members, rest)
          | ⟨.blockEntry, _, _⟩ :: _ =>
              if entriesOnly then do
                let (items, rest) ← readEntries handles fuel tokens
                some (.sequence head items, rest)
              else emptyNode head tokens
          | ⟨.blockSequenceStart, _, _⟩ :: rest =>
              if inBlock then do
                let (items, rest) ← readBlockItems handles fuel rest
                some (.sequence head items, rest)
              else emptyNode head tokens
          | ⟨.blockMappingStart, _, _⟩ :: rest =>
              if inBlock then do
                let (members, rest) ← readBlockMembers handles fuel rest
                some (.mapping head members, rest)
              else emptyNode head tokens
          | _ => emptyNode head tokens

/-- The empty scalar that an anchor or a tag with nothing behind it stands for. -/
def emptyNode (head : Head) (tokens : Tokens) : Found :=
  if head.anchor?.isSome || head.tag?.isSome then some (.scalar head "" .plain, tokens) else none

/-- Read the items of a block sequence and its end. -/
def readBlockItems (handles : Handles) : (fuel : Nat) → Tokens → Option (List (Node String) × Tokens)
  | 0, _ => none
  | fuel + 1, tokens =>
      match tokens with
      | ⟨.blockEntry, _, stop⟩ :: rest => do
          let (item, rest) ←
            match nextKind rest with
            | .blockEntry | .blockEnd => some (Node.empty stop, rest)
            | _ => readNode handles true false fuel rest
          let (items, rest) ← readBlockItems handles fuel rest
          some (item :: items, rest)
      | ⟨.blockEnd, _, _⟩ :: rest => some ([], rest)
      | _ => none

/-- Read the items of a block sequence that has no tokens for its beginning and end. -/
def readEntries (handles : Handles) : (fuel : Nat) → Tokens → Option (List (Node String) × Tokens)
  | 0, _ => none
  | fuel + 1, tokens =>
      match tokens with
      | ⟨.blockEntry, _, stop⟩ :: rest => do
          let (item, rest) ←
            match nextKind rest with
            | .blockEntry | .key | .value | .blockEnd => some (Node.empty stop, rest)
            | _ => readNode handles true false fuel rest
          let (items, rest) ← readEntries handles fuel rest
          some (item :: items, rest)
      | _ => some ([], tokens)

/-- Read a key or a value of a block mapping behind a sign that ends at `stop`. -/
def readBlockPart (handles : Handles) (stop : Mark) : (fuel : Nat) → Tokens → Found
  | 0, _ => none
  | fuel + 1, tokens =>
      match nextKind tokens with
      | .key | .value | .blockEnd => some (Node.empty stop, tokens)
      | _ => readNode handles true true fuel tokens

/-- Read the members of a block mapping and its end. -/
def readBlockMembers (handles : Handles) :
    (fuel : Nat) → Tokens → Option (List (Node String × Node String) × Tokens)
  | 0, _ => none
  | fuel + 1, tokens =>
      match tokens with
      | ⟨.key, _, stop⟩ :: rest => do
          let (key, rest) ← readBlockPart handles stop fuel rest
          let (value, rest) ←
            match rest with
            | ⟨.value, _, stop⟩ :: rest => readBlockPart handles stop fuel rest
            | rest => some (Node.empty (nextMark rest), rest)
          let (members, rest) ← readBlockMembers handles fuel rest
          some ((key, value) :: members, rest)
      | ⟨.blockEnd, _, _⟩ :: rest => some ([], rest)
      | _ => none

/-- Read the value of a member between brackets, if there is one in front of what `ends` says. -/
def readFlowValue (handles : Handles) (ends : TokenKind → Bool) : (fuel : Nat) → Tokens → Found
  | 0, _ => none
  | fuel + 1, tokens =>
      match tokens with
      | ⟨.value, _, _⟩ :: rest =>
          if ends (nextKind rest) then some (Node.empty (nextMark rest), rest)
          else readNode handles false false fuel rest
      | _ => some (Node.empty (nextMark tokens), tokens)

/-- Read a member that is an item of a sequence between brackets. A key that is left out takes the
sign behind it along. -/
def readPair (handles : Handles) (mark : Mark) : (fuel : Nat) → Tokens → Found
  | 0, _ => none
  | fuel + 1, tokens => do
      let (key, rest) ←
        match tokens with
        | ⟨.value, _, stop⟩ :: rest | ⟨.flowEntry, _, stop⟩ :: rest
        | ⟨.flowSequenceEnd, _, stop⟩ :: rest => some (Node.empty stop, rest)
        | _ => readNode handles false false fuel tokens
      let (value, rest) ← readFlowValue handles
        (fun kind => kind = .flowEntry || kind = .flowSequenceEnd) fuel rest
      some (.mapping ⟨mark, none, none⟩ [(key, value)], rest)

/-- Read the items of a sequence between brackets, and its end. -/
def readFlowItems (handles : Handles) :
    (fuel : Nat) → (isFirst : Bool) → Tokens → Option (List (Node String) × Tokens)
  | 0, _, _ => none
  | fuel + 1, isFirst, tokens =>
      match tokens with
      | ⟨.flowSequenceEnd, _, _⟩ :: rest => some ([], rest)
      | _ => do
          let tokens ←
            if isFirst then some tokens
            else if nextKind tokens = .flowEntry then some tokens.tail
            else none
          match tokens with
          | ⟨.flowSequenceEnd, _, _⟩ :: rest => some ([], rest)
          | _ => do
              let (item, rest) ←
                match tokens with
                | ⟨.key, mark, _⟩ :: rest => readPair handles mark fuel rest
                | _ => readNode handles false false fuel tokens
              let (items, rest) ← readFlowItems handles fuel false rest
              some (item :: items, rest)

/-- Read the members of a mapping between brackets, and its end. -/
def readFlowMembers (handles : Handles) :
    (fuel : Nat) → (isFirst : Bool) → Tokens → Option (List (Node String × Node String) × Tokens)
  | 0, _, _ => none
  | fuel + 1, isFirst, tokens =>
      match tokens with
      | ⟨.flowMappingEnd, _, _⟩ :: rest => some ([], rest)
      | _ => do
          let tokens ←
            if isFirst then some tokens
            else if nextKind tokens = .flowEntry then some tokens.tail
            else none
          match tokens with
          | ⟨.flowMappingEnd, _, _⟩ :: rest => some ([], rest)
          | _ => do
              let ends (kind : TokenKind) : Bool := kind = .flowEntry || kind = .flowMappingEnd
              let (member, rest) ←
                match tokens with
                | ⟨.key, _, _⟩ :: rest => do
                    let (key, rest) ←
                      if nextKind rest = .value || ends (nextKind rest) then
                        some (Node.empty (nextMark rest), rest)
                      else readNode handles false false fuel rest
                    let (value, rest) ← readFlowValue handles ends fuel rest
                    some ((key, value), rest)
                | _ => do
                    let (key, rest) ← readNode handles false false fuel tokens
                    some ((key, Node.empty (nextMark rest)), rest)
              let (members, rest) ← readFlowMembers handles fuel false rest
              some (member :: members, rest)

end

/-- What the handles stand for that no directive has set. -/
def standardHandles : Handles :=
  [("!", Text.bytesOf "!"), ("!!", Text.bytesOf "tag:yaml.org,2002:")]

/-- Whether a version can be read. -/
def isKnownVersion (major minor : Nat) : Bool := major == 1 && (minor == 1 || minor == 2)

/-- Read the directives in front of a document: at most one version, and each handle once. -/
def readDirectives (hasVersion : Bool) (handles : Handles) : Tokens → Option (Handles × Tokens)
  | ⟨.version major minor, _, _⟩ :: rest =>
      if hasVersion || !isKnownVersion major minor then none else readDirectives true handles rest
  | ⟨.tagHandle handle start, _, _⟩ :: rest =>
      if (handles.lookup handle).isSome then none
      else readDirectives hasVersion (handles ++ [(handle, start)]) rest
  | tokens => some (handles ++ standardHandles, tokens)

/-- The tokens behind the ends of documents. -/
def skipEnds : Tokens → Tokens
  | ⟨.documentEnd, _, _⟩ :: rest => skipEnds rest
  | tokens => tokens

/-- Whether what follows a document is the end of the stream. -/
def endsStream (tokens : Tokens) : Bool := nextKind (skipEnds tokens) = .streamEnd

/-- Enough steps to read the nodes of some tokens. -/
def stepsFor (tokens : Tokens) : Nat := 4 * tokens.length + 4

/-- Read a document behind the sign that begins it. -/
def readContent (handles : Handles) (tokens : Tokens) : Found :=
  match nextKind tokens with
  | .version _ _ | .tagHandle _ _ | .documentStart | .documentEnd | .streamEnd =>
      some (Node.empty (nextMark tokens), tokens)
  | _ => readNode handles true false (stepsFor tokens) tokens

/-- Read the first document of a stream, if there is one. -/
def readDocument (tokens : Tokens) : Option (Option (Node String) × Tokens) :=
  match nextKind tokens with
  | .streamEnd => some (none, tokens)
  | .version _ _ | .tagHandle _ _ | .documentStart => do
      let (handles, tokens) ← readDirectives false [] tokens
      if nextKind tokens = .documentStart then
        let (node, rest) ← readContent handles tokens.tail
        some (some node, rest)
      else none
  | _ => do
      let (node, rest) ← readNode standardHandles true false (stepsFor tokens) tokens
      some (some node, rest)

/-- The only document of a stream of tokens: none if the tokens are not well formed, and no node if
the stream is empty. -/
def Node.ofTokens? (tokens : Tokens) : Option (Option (Node String)) := do
  let (node, rest) ← readDocument tokens
  if endsStream rest then some node else none

end DspBridge.Yaml

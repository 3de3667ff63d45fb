import DspBridge.Settings.Basic

/-!
# Reading settings

The settings of a document: members that it does not know are left alone, known ones have to be of
their kind and stand there at most once. An empty plain scalar serves as a mapping or a sequence
without anything in it, and every scalar serves as a text, just as it is written.
-/

namespace DspBridge.Settings

open Files (FileError)
open Yaml (Document Node Mark Meaning)

/-- The reading of a part of a document. -/
abbrev Reading (α : Type) := Except Misfit α

/-- How a message names a node of the wrong kind. -/
def describe : Node Nat → String
  | .scalar head text style => ((Meaning.ofScalar head.tag? text style).map Meaning.describe).getD text
  | .sequence _ _ => "sequence"
  | .mapping _ _ => "map"
  | .alias _ _ => "alias"

/-- Refuse a node that is not what was expected. -/
def wrongKind {α : Type} (path : String) (node : Node Nat) (expected : String) : Reading α :=
  .error ⟨path, node.mark, .wrongKind (describe node) expected⟩

/-- Whether a node serves as an empty collection. -/
def isNothing : Node Nat → Bool
  | .scalar _ text style => text.isEmpty && style = .plain
  | _ => false

/-- Read a text. -/
def readText (document : Document) (expected path : String) (node : Node Nat) : Reading String :=
  match document.follow node with
  | .scalar _ text _ => .ok text
  | node => wrongKind path node expected

/-- Read a truth value: a plain scalar, or a literal one with the tag for it. -/
def readBool (document : Document) (path : String) (node : Node Nat) : Reading Bool :=
  let node := document.follow node
  let value? : Option Bool :=
    match node with
    | .scalar _ text .plain => Meaning.bool? text
    | .scalar head text .literal =>
        if head.tag? = some (Meaning.standardTag "bool") then Meaning.bool? text else none
    | _ => none
  match value? with
  | some value => .ok value
  | none => wrongKind path node "a boolean"

/-- Read texts one after another, the first of which has a given index. -/
def readItems (document : Document) (expected path : String) :
    (index : Nat) → List (Node Nat) → Reading (List String)
  | _, [] => .ok []
  | index, item :: rest => do
      let text ← readText document expected s!"{path}[{index}]" item
      let texts ← readItems document expected path (index + 1) rest
      .ok (text :: texts)

/-- Read a sequence of texts. -/
def readTexts (document : Document) (expected path : String) (node : Node Nat) :
    Reading (List String) :=
  match document.follow node with
  | .sequence _ items => readItems document expected path 0 items
  | node => if isNothing node then .ok [] else wrongKind path node "a sequence"

/-- What has been read so far. -/
structure Draft where
  program? : Option String
  includeDirs? : Option (List String)
  flags? : Option String
  logDeclarations? : Option Bool
  deriving DecidableEq, Repr

/-- Nothing has been read yet. -/
def Draft.empty : Draft := ⟨none, none, none, none⟩

/-- The settings of a draft. -/
def Draft.settings (draft : Draft) : Settings where
  program := draft.program?.getD standard.program
  includeDirs := draft.includeDirs?.getD standard.includeDirs
  flags := draft.flags?.getD standard.flags
  logDeclarations := draft.logDeclarations?.getD standard.logDeclarations

/-- Refuse a member that the draft has already. -/
def once {α : Type} (mark : Mark) (name : String) (held : Option α) (reading : Reading α) :
    Reading α :=
  if held.isSome then .error ⟨"", mark, .repeated name⟩ else reading

/-- How a member is reached: by its key, if that is written there. -/
def memberPath : Node Nat → String
  | .scalar _ text _ => text
  | _ => "?"

/-- Read a member of the mapping that begins at `mark`. -/
def readMember (document : Document) (mark : Mark) (draft : Draft) (key value : Node Nat) :
    Reading Draft := do
  let path := memberPath key
  match ← readText document "field identifier" "" key with
  | "faust_path" =>
      let program ← once mark "faust_path" draft.program? (readText document "path string" path value)
      .ok { draft with program? := some program }
  | "include_dirs" =>
      let includeDirs ←
        once mark "include_dirs" draft.includeDirs? (readTexts document "path string" path value)
      .ok { draft with includeDirs? := some includeDirs }
  | "extra_args" =>
      let flags ← once mark "extra_args" draft.flags? (readText document "a string" path value)
      .ok { draft with flags? := some flags }
  | "log_declarations" =>
      let logs ← once mark "log_declarations" draft.logDeclarations? (readBool document path value)
      .ok { draft with logDeclarations? := some logs }
  | _ => .ok draft

/-- Read the settings of a document. -/
def ofDocument (document : Document) : Reading Settings :=
  match document.root with
  | .mapping head members => do
      let draft ← members.foldlM (fun draft (key, value) =>
        readMember document head.mark draft key value) Draft.empty
      .ok draft.settings
  | node => if isNothing node then .ok standard else wrongKind "" node "struct BridgeConfig"

/-- Read the text of a file. A misfit is worth telling only if the document has a value at all; what
is said otherwise is what the parser has to `complain`. -/
def ofText (path text : String) (complain : String → String) : Except Error Settings :=
  match Document.parse text with
  | none => .error (.malformed ⟨path, complain text⟩)
  | some none => .ok standard
  | some (some document) =>
      match ofDocument document with
      | .ok settings => .ok settings
      | .error misfit =>
          .error
            (if document.value?.isSome then .unfit path misfit
            else .malformed ⟨path, complain text⟩)

/-- The settings of a file, given what reading it gave, and what the parser says about texts that it
does not take. -/
def ofFile (path : String) (content : Except FileError String)
    (complain : String → String := fun _ => "") : Except Error Settings :=
  match content with
  | .error error => .error (.unreadable path error)
  | .ok text => ofText path text complain

end DspBridge.Settings

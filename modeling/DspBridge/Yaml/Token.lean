import DspBridge.Yaml.Cursor

/-!
# YAML tokens

What a text is made of once blanks and comments are gone. Where the indentation of a line opens or
closes a collection there is a token for that, so the grammar of tokens needs no columns.
-/

namespace DspBridge.Yaml

/-- How a scalar is written. -/
inductive Style where
  | plain
  | singleQuoted
  | doubleQuoted
  | literal
  | folded
  deriving DecidableEq, Repr

/-- What a token says. -/
inductive TokenKind where
  | version (major minor : Nat)
  | tagHandle (handle : String) (start : List UInt8)
  | documentStart
  | documentEnd
  | blockSequenceStart
  | blockMappingStart
  | blockEnd
  | flowSequenceStart
  | flowSequenceEnd
  | flowMappingStart
  | flowMappingEnd
  | blockEntry
  | flowEntry
  | key
  | value
  | alias (name : String)
  | anchor (name : String)
  | tag (handle : String) (ending : List UInt8)
  | scalar (text : String) (style : Style)
  | streamEnd
  deriving DecidableEq, Repr

/-- A token and the places where it begins and ends. -/
structure Token where
  kind : TokenKind
  start : Mark
  stop : Mark
  deriving DecidableEq, Repr

/-- A token without extent. -/
def Token.at (kind : TokenKind) (mark : Mark) : Token := ⟨kind, mark, mark⟩

end DspBridge.Yaml

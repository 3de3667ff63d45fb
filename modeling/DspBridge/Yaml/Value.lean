import DspBridge.Number.Layout
import DspBridge.Number.Numeral
import DspBridge.Text.Quoted
import DspBridge.Yaml.Document

/-!
# YAML values

What a document means. A plain scalar can be nothing, a truth value or a number, unless a tag says
otherwise; any other scalar is a text. The keys of a mapping are different values, collections are
nested no deeper than `depthLimit`, and aliases are followed only a limited number of times, so every
value is finite although an alias can stand for a node around it.
-/

namespace DspBridge.Yaml

open Number (Double Layout)

/-- A number that need not be whole. -/
inductive Real where
  | finite (value : Double)
  | infinite (negative : Bool)
  | undefined
  deriving DecidableEq, Repr

/-- Whether two numbers are equal as keys: the two zeros are. -/
def Real.same (left right : Real) : Bool :=
  match left, right with
  | .finite left, .finite right => left == right || (left.magnitude == 0 && right.magnitude == 0)
  | left, right => left == right

/-- The text of a number: all of its digits. -/
def Real.text : Real → String
  | .finite value => Layout.positional.write value
  | .infinite negative => if negative then "-inf" else "inf"
  | .undefined => "NaN"

/-- What a scalar means. -/
inductive Meaning where
  | null
  | bool (value : Bool)
  | whole (value : Int)
  | real (value : Real)
  | text (value : String)
  deriving DecidableEq, Repr

namespace Meaning

/-- Whether a whole number has up to 64 bits. -/
def fits (value : Int) : Bool := -0x8000000000000000 ≤ value && value < 0x10000000000000000

/-- Whether a whole number has up to 128 bits; others are read as numbers that need not be whole. -/
def isWide (value : Int) : Bool :=
  -0x80000000000000000000000000000000 ≤ value && value < 0x100000000000000000000000000000000

/-- Whether a text means nothing. -/
def isNull (text : String) : Bool := ["null", "Null", "NULL", "~"].contains text

/-- The truth value of a text. -/
def bool? (text : String) : Option Bool :=
  if ["true", "True", "TRUE"].contains text then some true
  else if ["false", "False", "FALSE"].contains text then some false
  else none

/-- The value of a digit in a base. -/
def digit? (base : Nat) (c : Char) : Option Nat := (hexDigit? c).filter (· < base)

/-- The number that digits write in a base, at least one. -/
def digits? (base : Nat) (text : List Char) : Option Nat :=
  if text.isEmpty then none
  else text.foldlM (fun value c => (digit? base c).map (value * base + ·)) 0

/-- Digits behind the sign of a base, or decimal digits. -/
def unsigned? : List Char → Option Nat
  | '0' :: 'x' :: rest => digits? 16 rest
  | '0' :: 'o' :: rest => digits? 8 rest
  | '0' :: 'b' :: rest => digits? 2 rest
  | decimal => digits? 10 decimal

/-- Whether a text has a sign at its front. -/
def isSigned : List Char → Bool
  | c :: _ => c == '+' || c == '-'
  | [] => false

/-- Whether a text is a zero with more digits behind it, which is no number. -/
def isPadded (text : List Char) : Bool :=
  let text := if isSigned text then text.tail else text
  text.length > 1 && text.head? == some '0' && text.all Char.isDigit

/-- The whole number of a text, of up to 128 bits. -/
def whole? (text : List Char) : Option Int :=
  if isPadded text then none
  else
    let value : Option Int :=
      match text with
      | '-' :: rest => (unsigned? rest).map fun value => -(value : Int)
      | '+' :: rest => (unsigned? rest).map Int.ofNat
      | rest => (unsigned? rest).map Int.ofNat
    value.filter isWide

/-- The number of a text that need not be whole. -/
def real? (text : String) : Option Real :=
  let unsigned := if text.toList.head? == some '+' then String.ofList text.toList.tail else text
  if text.toList.head? == some '+' && isSigned unsigned.toList then none
  else if [".inf", ".Inf", ".INF"].contains unsigned then some (.infinite false)
  else if ["-.inf", "-.Inf", "-.INF"].contains text then some (.infinite true)
  else if [".nan", ".NaN", ".NAN"].contains text then some .undefined
  else (Number.readFinite? unsigned).map .finite

/-- What a plain scalar means. -/
def ofPlain (text : String) : Meaning :=
  if text.isEmpty || isNull text then .null
  else
    match bool? text, whole? text.toList with
    | some value, _ => .bool value
    | none, some value => .whole value
    | none, none =>
        if isPadded text.toList then .text text
        else
          match real? text with
          | some value => .real value
          | none => .text text

/-- The tag of a kind of scalars. -/
def standardTag (kind : String) : Tag := Text.bytesOf ("tag:yaml.org,2002:" ++ kind)

/-- What a scalar means without its tag. -/
def untagged (text : String) (style : Style) : Meaning :=
  if style = .plain then ofPlain text else .text text

/-- Whether a tag belongs to the document. -/
def isLocal (tag : Tag) : Bool := tag.head? == some 33

/-- What a scalar means; none if it is not of the kind that its tag names. -/
def ofScalar (tag? : Option Tag) (text : String) (style : Style) : Option Meaning :=
  match tag? with
  | none => some (untagged text style)
  | some tag =>
      if tag = standardTag "bool" then (bool? text).map .bool
      else if tag = standardTag "int" then (whole? text.toList).map .whole
      else if tag = standardTag "float" then (real? text).map .real
      else if tag = standardTag "null" then if isNull text then some .null else none
      else if isLocal tag then some (untagged text style)
      else some (.text text)

/-- How a message names a scalar of the wrong kind. -/
def describe : Meaning → String
  | .null => "unit value"
  | .bool value => s!"boolean `{value}`"
  | .whole value =>
      if fits value then s!"integer `{value}`"
      else s!"integer `{value}` as " ++ if value < 0 then "i128" else "u128"
  | .real value => s!"floating point `{value.text}`"
  | .text value => s!"string {Text.quote value}"

end Meaning

/-- A value. -/
inductive Value where
  | null
  | bool (value : Bool)
  | whole (value : Int)
  | real (value : Real)
  | text (value : String)
  | sequence (items : List Value)
  | mapping (members : List (Value × Value))
  | tagged (tag : Tag) (value : Value)
  deriving Repr

namespace Value

mutual

/-- Whether two values are equal, whatever the order of members. -/
def same : Value → Value → Bool
  | .null, .null => true
  | .bool left, .bool right => left == right
  | .whole left, .whole right => left == right
  | .real left, .real right => left.same right
  | .text left, .text right => left == right
  | .sequence left, .sequence right => sameItems left right
  | .mapping left, .mapping right => left.length == right.length && within left right
  | .tagged tag left, .tagged other right => tag == other && left.same right
  | _, _ => false

/-- Whether two lists hold equal values in the same order. -/
def sameItems : List Value → List Value → Bool
  | [], [] => true
  | left :: lefts, right :: rights => left.same right && sameItems lefts rights
  | _, _ => false

/-- Whether every member of one mapping is a member of another. -/
def within : List (Value × Value) → List (Value × Value) → Bool
  | [], _ => true
  | (key, value) :: rest, others =>
      (others.any fun (otherKey, otherValue) => key.same otherKey && value.same otherValue) &&
        within rest others

end

/-- Whether keys are different values. -/
def areDistinct : List Value → Bool
  | [] => true
  | key :: rest => !rest.any key.same && areDistinct rest

/-- The value of a scalar; whole numbers of more than 64 bits are refused. -/
def ofMeaning? : Meaning → Option Value
  | .null => some .null
  | .bool value => some (.bool value)
  | .whole value => if Meaning.fits value then some (.whole value) else none
  | .real value => some (.real value)
  | .text value => some (.text value)

end Value

namespace Document

/-- The greatest depth of nested collections. -/
def depthLimit : Nat := 128

/-- The name of a tag that belongs to the document, its first sign left out. -/
def localName? (tag? : Option Tag) : Option Tag :=
  match tag? with
  | some (33 :: rest) =>
      let name : Tag := if rest.isEmpty then [33] else rest
      match Text.Utf8.decode name with
      | .ok _ => some name
      | .error _ => none
  | _ => none

/-- A value under a tag that belongs to the document. -/
def labelled (tag? : Option Tag) (value : Value) : Value :=
  match localName? tag? with
  | some name => .tagged name value
  | none => value

/-- The value of a node in a document in which `steps` aliases can still be followed. -/
def valueOf (document : Document) : (depth : Nat) → Node Nat → StateT Nat Option Value
  | depth, node => do
      if let .alias _ _ := node then
        let steps ← get
        if steps = 0 then failure
        set (steps - 1)
      match document.follow node, depth with
      | .scalar head text style, _ =>
          match localName? head.tag? with
          | some name =>
              let value ← (Value.ofMeaning? (Meaning.untagged text style) : Option Value)
              pure (.tagged name value)
          | none =>
              let meaning ← (Meaning.ofScalar head.tag? text style : Option Meaning)
              let value ← (Value.ofMeaning? meaning : Option Value)
              pure value
      | .sequence head items, depth + 1 => do
          let items ← items.mapM (document.valueOf depth)
          pure (labelled head.tag? (.sequence items))
      | .mapping head members, depth + 1 => do
          let members ← members.mapM fun (key, value) => do
            let key ← document.valueOf depth key
            let value ← document.valueOf depth value
            pure (key, value)
          if Value.areDistinct (members.map Prod.fst) then
            pure (labelled head.tag? (.mapping members))
          else failure
      | _, _ => failure

/-- How often aliases can be followed: a hundred times for each sign of the document. -/
def aliasLimit (document : Document) : Nat := document.root.signs * 100

/-- The value of a document; none if it has none. -/
def value? (document : Document) : Option Value :=
  ((document.valueOf depthLimit document.root).run document.aliasLimit).map Prod.fst

end Document
end DspBridge.Yaml

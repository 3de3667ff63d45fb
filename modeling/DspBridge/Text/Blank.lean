/-!
# Blank characters

The characters that count as white space when text is trimmed or cut into words, and the two
operations that depend on them. `words` never returns an empty word and no word holds a blank.
-/

namespace DspBridge.Text

/-- The Unicode `White_Space` property. -/
def isBlank (c : Char) : Bool :=
  (9 ≤ c.toNat && c.toNat ≤ 13) || c.toNat == 0x20 || c.toNat == 0x85 || c.toNat == 0xA0 ||
    c.toNat == 0x1680 || (0x2000 ≤ c.toNat && c.toNat ≤ 0x200A) || c.toNat == 0x2028 ||
    c.toNat == 0x2029 || c.toNat == 0x202F || c.toNat == 0x205F || c.toNat == 0x3000

/-- Characters without the blanks they begin and end with. -/
def trimChars (chars : List Char) : List Char :=
  ((chars.dropWhile isBlank).reverse.dropWhile isBlank).reverse

/-- Text without the blanks it begins and ends with. -/
def trim (text : String) : String :=
  String.ofList (trimChars text.toList)

/-- The word that a text begins with (empty if it begins with a blank), and the words after it. -/
def splitWords : List Char → List Char × List (List Char)
  | [] => ([], [])
  | c :: rest =>
      let (word, others) := splitWords rest
      if isBlank c then ([], if word.isEmpty then others else word :: others)
      else (c :: word, others)

/-- The maximal runs of characters that are not blank, in order. -/
def wordsOf (chars : List Char) : List (List Char) :=
  let (word, others) := splitWords chars
  if word.isEmpty then others else word :: others

/-- The maximal runs of characters of a text that are not blank, in order. -/
def words (text : String) : List String :=
  (wordsOf text.toList).map String.ofList

@[simp] theorem wordsOf_nil : wordsOf [] = [] := rfl

theorem splitWords_blank {c : Char} (rest : List Char) (blank : isBlank c = true) :
    splitWords (c :: rest) = ([], wordsOf rest) := by
  simp [splitWords, wordsOf, blank]

theorem wordsOf_blank {c : Char} (rest : List Char) (blank : isBlank c = true) :
    wordsOf (c :: rest) = wordsOf rest := by
  simp [wordsOf, splitWords, blank]

end DspBridge.Text

import DspBridge.Json.Skip
import Mathlib.Data.List.DropRight

/-!
# The grammar of JSON texts

Which texts write which trees.  A tree keeps what the text says as it is spelled: numbers and
strings are the characters that write them, and nothing is decoded.  So every text of the right
shape has a tree, also one with a number that is too large or a surrogate without a partner.
-/

namespace DspBridge.Json

/-! ## Characters -/

/-- Blanks and nothing else. -/
def Blanks (text : List Char) : Prop := ∀ c ∈ text, Reader.isSpace c = true

/-- Decimal digits and nothing else. -/
def Digits (text : List Char) : Prop := ∀ c ∈ text, c.isDigit = true

theorem blanks_nil : Blanks [] := fun _ member => nomatch member

theorem dropWhile_blanks {gap : List Char} (blank : Blanks gap) (text : List Char) :
    (gap ++ text).dropWhile Reader.isSpace = text.dropWhile Reader.isSpace :=
  List.dropWhile_append_of_pos blank

theorem dropWhile_solid {c : Char} (solid : Reader.isSpace c = false) (rest : List Char) :
    (c :: rest).dropWhile Reader.isSpace = c :: rest :=
  List.dropWhile_cons_of_neg (by rw [solid]; exact Bool.false_ne_true)

/-- A text is some blanks and then what is left of it without them. -/
theorem exists_gap (text : List Char) :
    ∃ gap, Blanks gap ∧ text = gap ++ text.dropWhile Reader.isSpace :=
  ⟨text.takeWhile Reader.isSpace, List.all_eq_true.mp List.all_takeWhile,
    List.takeWhile_append_dropWhile.symm⟩

/-- Characters that a test tells apart differ. -/
theorem ne_of_test {test : Char → Bool} {c other : Char} (passes : test c = true)
    (fails : test other = false) : c ≠ other := by
  rintro rfl
  rw [passes] at fails
  cases fails

/-! ## Numbers -/

/-- The digits before the point; a zero stands alone. -/
inductive IsWhole : List Char → Prop where
  | zero : IsWhole ['0']
  | digits {first : Char} {rest : List Char} :
      first.isDigit = true → first ≠ '0' → Digits rest → IsWhole (first :: rest)

/-- The point and the digits after it, if there are any. -/
inductive IsFraction : List Char → Prop where
  | absent : IsFraction []
  | digits {digits : List Char} : digits ≠ [] → Digits digits → IsFraction ('.' :: digits)

/-- The exponent, if there is one. -/
inductive IsExponent : List Char → Prop where
  | absent : IsExponent []
  | digits {mark : Char} {sign digits : List Char} : mark = 'e' ∨ mark = 'E' →
      sign ∈ [[], ['+'], ['-']] → digits ≠ [] → Digits digits →
      IsExponent (mark :: (sign ++ digits))

/-- A number. -/
inductive IsNumeral : List Char → Prop where
  | parts {sign whole fraction exponent : List Char} : sign ∈ [[], ['-']] → IsWhole whole →
      IsFraction fraction → IsExponent exponent →
      IsNumeral (sign ++ (whole ++ (fraction ++ exponent)))

/-! ## Strings -/

/-- What stands between the quotes of a string.  Any four hexadecimal digits will do here. -/
inductive IsBody : List Char → Prop where
  | empty : IsBody []
  | plain {c : Char} {rest : List Char} :
      c ≠ '"' → c ≠ '\\' → 0x20 ≤ c.toNat → IsBody rest → IsBody (c :: rest)
  | letter {letter c : Char} {rest : List Char} :
      escaped? letter = some c → IsBody rest → IsBody ('\\' :: letter :: rest)
  | unit {first second third fourth : Char} {unit : Nat} {rest : List Char} :
      hexUnit? first second third fourth = some unit → IsBody rest →
      IsBody ('\\' :: 'u' :: first :: second :: third :: fourth :: rest)

/-- The characters that the inside of a string stands for.  A surrogate stands for nothing without
its partner. -/
inductive Denotes : List Char → List Char → Prop where
  | empty : Denotes [] []
  | plain {c : Char} {rest chars : List Char} : c ≠ '"' → c ≠ '\\' → 0x20 ≤ c.toNat →
      Denotes rest chars → Denotes (c :: rest) (c :: chars)
  | letter {letter c : Char} {rest chars : List Char} : escaped? letter = some c →
      Denotes rest chars → Denotes ('\\' :: letter :: rest) (c :: chars)
  | unit {first second third fourth : Char} {unit : Nat} {rest chars : List Char} :
      hexUnit? first second third fourth = some unit → isLowSurrogate unit = false →
      isHighSurrogate unit = false → Denotes rest chars →
      Denotes ('\\' :: 'u' :: first :: second :: third :: fourth :: rest) (Char.ofNat unit :: chars)
  | pair {first second third fourth fifth sixth seventh eighth : Char} {high low : Nat}
      {rest chars : List Char} :
      hexUnit? first second third fourth = some high → isHighSurrogate high = true →
      hexUnit? fifth sixth seventh eighth = some low → isLowSurrogate low = true →
      Denotes rest chars →
      Denotes ('\\' :: 'u' :: first :: second :: third :: fourth ::
        '\\' :: 'u' :: fifth :: sixth :: seventh :: eighth :: rest)
        (joinSurrogates high low :: chars)

/-! ## Values -/

/-- A value as it is spelled.  The names of members are spelled like strings. -/
inductive Tree where
  | null
  | bool (value : Bool)
  | number (literal : List Char)
  | string (body : List Char)
  | array (items : List Tree)
  | object (members : List (List Char × Tree))

/-- What stands in front of an entry besides blanks. -/
def separator : (first : Bool) → List Char
  | true => []
  | false => [',']

/-- Entries with commas between them, up to the bracket that closes them.  Unless the entries are
the first ones, a comma stands before each. -/
inductive Row {α : Type} (closer : Char) (Written : α → List Char → Prop) :
    (first : Bool) → List α → List Char → Prop where
  | close {first : Bool} {gap : List Char} :
      Blanks gap → Row closer Written first [] (gap ++ [closer])
  | entry {first : Bool} {entry : α} {others : List α} {gap pad text more : List Char} :
      Blanks gap → Blanks pad → Written entry text → Row closer Written false others more →
      Row closer Written first (entry :: others)
        (gap ++ (separator first ++ (pad ++ (text ++ more))))

/-- A member: its name, a colon and its value. -/
inductive Member (Written : Tree → List Char → Prop) : List Char × Tree → List Char → Prop where
  | named {name gap pad value : List Char} {tree : Tree} :
      IsBody name → Blanks gap → Blanks pad → Written tree value →
      Member Written (name, tree) ('"' :: (name ++ '"' :: (gap ++ ':' :: (pad ++ value))))

/-- The texts that write a tree, without blanks around them. -/
inductive Tree.Bare : Tree → List Char → Prop where
  | null : Bare .null ['n', 'u', 'l', 'l']
  | yes : Bare (.bool true) ['t', 'r', 'u', 'e']
  | no : Bare (.bool false) ['f', 'a', 'l', 's', 'e']
  | number {literal : List Char} : IsNumeral literal → Bare (.number literal) literal
  | string {body : List Char} : IsBody body → Bare (.string body) ('"' :: (body ++ ['"']))
  | array {items : List Tree} {inside : List Char} :
      Row ']' Bare true items inside → Bare (.array items) ('[' :: inside)
  | object {members : List (List Char × Tree)} {inside : List Char} :
      Row '\x7d' (Member Bare) true members inside → Bare (.object members) ('\x7b' :: inside)

/-- A tree stands at the front of a text, behind blanks if there are any, and leaves the rest. -/
def Tree.Leads (tree : Tree) (text rest : List Char) : Prop :=
  ∃ gap bare, Blanks gap ∧ tree.Bare bare ∧ text = gap ++ (bare ++ rest)

/-! ## How trees begin -/

/-- The characters that a number can begin with. -/
def startsNumber (c : Char) : Bool := c == '-' || c.isDigit

/-- The characters that a number could go on with. -/
def continuesNumber (c : Char) : Bool := c.isDigit || c == '.' || c == 'e' || c == 'E'

/-- No number goes on in a text. -/
def Stops (rest : List Char) : Prop := ∀ c ∈ rest.head?, continuesNumber c = false

theorem stops_nil : Stops [] := fun _ member => nomatch member

theorem stops_cons {c : Char} {rest : List Char} :
    Stops (c :: rest) ↔ continuesNumber c = false := by
  simp [Stops]

theorem continuesNumber_blank {c : Char} (blank : Reader.isSpace c = true) :
    continuesNumber c = false := by
  simp only [Reader.isSpace, Bool.or_eq_true, beq_iff_eq] at blank
  obtain ((rfl | rfl) | rfl) | rfl := blank <;> rfl

theorem stops_gap {gap rest : List Char} (blank : Blanks gap) (stops : Stops rest) :
    Stops (gap ++ rest) := by
  cases gap with
  | nil => exact stops
  | cons c gap => exact stops_cons.mpr (continuesNumber_blank (blank c List.mem_cons_self))

/-- Behind an entry of a row no number goes on. -/
theorem Row.stops {α : Type} {closer : Char} {Written : α → List Char → Prop} {entries : List α}
    {inside : List Char} (row : Row closer Written false entries inside)
    (closing : continuesNumber closer = false) (rest : List Char) : Stops (inside ++ rest) := by
  cases row with
  | close blank =>
      rw [List.append_assoc]
      exact stops_gap blank (stops_cons.mpr closing)
  | entry blank _ _ _ =>
      rw [List.append_assoc]
      exact stops_gap blank (stops_cons.mpr rfl)

theorem IsWhole.exists_head {whole : List Char} (shape : IsWhole whole) :
    ∃ c rest, whole = c :: rest ∧ c.isDigit = true := by
  cases shape with
  | zero => exact ⟨'0', [], rfl, rfl⟩
  | digits digit _ _ => exact ⟨_, _, rfl, digit⟩

theorem IsNumeral.exists_head {literal : List Char} (shape : IsNumeral literal) :
    ∃ c rest, literal = c :: rest ∧ startsNumber c = true := by
  cases shape with
  | parts signed whole _ _ =>
      obtain ⟨c, rest, rfl, digit⟩ := whole.exists_head
      simp only [List.mem_cons, List.not_mem_nil, or_false] at signed
      obtain rfl | rfl := signed
      · exact ⟨c, _, rfl, by rw [startsNumber, digit, Bool.or_true]⟩
      · exact ⟨'-', _, rfl, rfl⟩

theorem isSpace_of_startsNumber {c : Char} (starts : startsNumber c = true) :
    Reader.isSpace c = false := by
  by_contra blank
  rw [Bool.not_eq_false] at blank
  simp only [Reader.isSpace, Bool.or_eq_true, beq_iff_eq] at blank
  obtain ((rfl | rfl) | rfl) | rfl := blank <;> exact absurd starts (by decide)

/-- The first character of a tree tells what kind of tree it is. -/
def Tree.Opens : Tree → Char → Prop
  | .null, c => c = 'n'
  | .bool true, c => c = 't'
  | .bool false, c => c = 'f'
  | .number _, c => startsNumber c = true
  | .string _, c => c = '"'
  | .array _, c => c = '['
  | .object _, c => c = '\x7b'

theorem Tree.Opens.solid {tree : Tree} {c : Char} (opens : tree.Opens c) :
    Reader.isSpace c = false := by
  cases tree with
  | number _ => exact isSpace_of_startsNumber opens
  | bool value => cases value <;> cases opens <;> rfl
  | _ => cases opens; rfl

theorem Tree.Opens.ne_close {tree : Tree} {c : Char} (opens : tree.Opens c) : c ≠ ']' := by
  rintro rfl
  cases tree with
  | bool value => cases value <;> cases opens
  | _ => cases opens

theorem Tree.Opens.null {tree : Tree} (opens : tree.Opens 'n') : tree = .null := by
  cases tree with
  | null => rfl
  | bool value => cases value <;> cases opens
  | _ => cases opens

/-- The trees that are written as a word, with the first letter of the word and the others. -/
inductive Tree.IsWord : Tree → Char → List Char → Prop where
  | null : IsWord .null 'n' "ull".toList
  | yes : IsWord (.bool true) 't' "rue".toList
  | no : IsWord (.bool false) 'f' "alse".toList

theorem Tree.IsWord.bare_iff {tree : Tree} {c : Char} {letters bare : List Char}
    (word : tree.IsWord c letters) : tree.Bare bare ↔ bare = c :: letters := by
  constructor
  · intro written
    cases word <;> cases written <;> rfl
  · rintro rfl
    cases word with
    | null => exact .null
    | yes => exact .yes
    | no => exact .no

theorem Tree.Bare.exists_head {tree : Tree} {bare : List Char} (written : tree.Bare bare) :
    ∃ c rest, bare = c :: rest ∧ tree.Opens c := by
  cases written with
  | number shape => exact shape.exists_head
  | _ => exact ⟨_, _, rfl, rfl⟩

/-- Blanks apart, a text that a tree leads begins with a bare text of the tree. -/
theorem Tree.leads_iff {tree : Tree} {text rest : List Char} :
    tree.Leads text rest ↔
      ∃ bare, tree.Bare bare ∧ text.dropWhile Reader.isSpace = bare ++ rest := by
  constructor
  · rintro ⟨gap, bare, blank, written, rfl⟩
    obtain ⟨c, tail, rfl, opens⟩ := written.exists_head
    refine ⟨_, written, ?_⟩
    rw [dropWhile_blanks blank, List.cons_append, dropWhile_solid opens.solid]
  · rintro ⟨bare, written, split⟩
    obtain ⟨gap, blank, whole⟩ := exists_gap text
    exact ⟨gap, bare, blank, written, by rw [← split, ← whole]⟩

section Leading

variable {text rest : List Char}

theorem Tree.IsWord.leads_iff {tree : Tree} {c : Char} {letters : List Char}
    (word : tree.IsWord c letters) :
    tree.Leads text rest ↔ text.dropWhile Reader.isSpace = c :: (letters ++ rest) := by
  rw [Tree.leads_iff]
  constructor
  · rintro ⟨_, written, split⟩
    rw [word.bare_iff.mp written] at split
    exact split
  · intro split
    exact ⟨_, word.bare_iff.mpr rfl, split⟩

theorem Tree.leads_number_iff {literal : List Char} : (Tree.number literal).Leads text rest ↔
    IsNumeral literal ∧ text.dropWhile Reader.isSpace = literal ++ rest := by
  rw [leads_iff]
  constructor
  · rintro ⟨_, written, split⟩
    cases written with
    | number shape => exact ⟨shape, split⟩
  · rintro ⟨shape, split⟩
    exact ⟨_, .number shape, split⟩

theorem Tree.leads_string_iff {body : List Char} : (Tree.string body).Leads text rest ↔
    IsBody body ∧ text.dropWhile Reader.isSpace = '"' :: (body ++ '"' :: rest) := by
  rw [leads_iff]
  constructor
  · rintro ⟨_, written, split⟩
    cases written with
    | string shape => exact ⟨shape, by rw [split, List.cons_append, List.append_assoc]; rfl⟩
  · rintro ⟨shape, split⟩
    exact ⟨_, .string shape, by rw [split, List.cons_append, List.append_assoc]; rfl⟩

theorem Tree.leads_array_iff {items : List Tree} : (Tree.array items).Leads text rest ↔
    ∃ inside, Row ']' Tree.Bare true items inside ∧
      text.dropWhile Reader.isSpace = '[' :: (inside ++ rest) := by
  rw [leads_iff]
  constructor
  · rintro ⟨_, written, split⟩
    cases written with
    | array row => exact ⟨_, row, split⟩
  · rintro ⟨inside, row, split⟩
    exact ⟨_, .array row, split⟩

theorem Tree.leads_object_iff {members : List (List Char × Tree)} :
    (Tree.object members).Leads text rest ↔
      ∃ inside, Row '\x7d' (Member Tree.Bare) true members inside ∧
        text.dropWhile Reader.isSpace = '\x7b' :: (inside ++ rest) := by
  rw [leads_iff]
  constructor
  · rintro ⟨_, written, split⟩
    cases written with
    | object row => exact ⟨_, row, split⟩
  · rintro ⟨inside, row, split⟩
    exact ⟨_, .object row, split⟩

theorem Tree.Leads.opens {tree : Tree} (leads : tree.Leads text rest) :
    ∃ c tail, text.dropWhile Reader.isSpace = c :: tail ∧ tree.Opens c := by
  rw [Tree.leads_iff] at leads
  obtain ⟨_, written, split⟩ := leads
  obtain ⟨c, more, rfl, opens⟩ := written.exists_head
  exact ⟨c, _, split, opens⟩

end Leading

theorem Tree.leads_solid {tree : Tree} {text rest : List Char} :
    tree.Leads (text.dropWhile Reader.isSpace) rest ↔ tree.Leads text rest := by
  rw [leads_iff, leads_iff, List.dropWhile_idempotent]

end DspBridge.Json

import DspBridge.Json.Reader
import DspBridge.Number.Scaled
import DspBridge.Number.Numeral

/-!
# Strings and numbers in JSON text

Strings stand for Unicode text, so an escaped surrogate needs its partner. Whole numbers of up to
64 bits are kept; every other number becomes a double by scaling the digits that fit a 64-bit
significand.
-/

namespace DspBridge.Json

/-- The value of a hexadecimal digit. -/
def hexValue? (c : Char) : Option Nat :=
  if c.isDigit then some (c.toNat - '0'.toNat)
  else if 'a' ≤ c ∧ c ≤ 'f' then some (c.toNat - 'a'.toNat + 10)
  else if 'A' ≤ c ∧ c ≤ 'F' then some (c.toNat - 'A'.toNat + 10)
  else none

/-- The number that four hexadecimal digits write. -/
def hexUnit? (a b c d : Char) : Option Nat := do
  let a ← hexValue? a
  let b ← hexValue? b
  let c ← hexValue? c
  let d ← hexValue? d
  some (((a * 16 + b) * 16 + c) * 16 + d)

/-- The character that a one-letter escape stands for. -/
def escaped? (c : Char) : Option Char :=
  if c == '"' || c == '\\' || c == '/' then some c
  else if c == 'b' then some (Char.ofNat 8)
  else if c == 'f' then some (Char.ofNat 12)
  else if c == 'n' then some '\n'
  else if c == 'r' then some '\r'
  else if c == 't' then some '\t'
  else none

/-- The first half of a surrogate pair. -/
def isHighSurrogate (unit : Nat) : Bool := 0xD800 ≤ unit && unit ≤ 0xDBFF

/-- The second half of a surrogate pair. -/
def isLowSurrogate (unit : Nat) : Bool := 0xDC00 ≤ unit && unit ≤ 0xDFFF

/-- The character that a surrogate pair stands for. -/
def joinSurrogates (high low : Nat) : Char :=
  Char.ofNat ((high - 0xD800) * 0x400 + (low - 0xDC00) + 0x10000)

/-- Number of bytes of characters. -/
def byteLength (text : List Char) : Nat :=
  text.foldl (fun length c => length + c.utf8Size) 0

/-- The failure of a text to begin with four hexadecimal digits. -/
def hexFailure (text : List Char) : Failure :=
  ⟨if byteLength text < 4 then .endInString else .badEscape, text, 4⟩

/-- The failure of a text to go on with the second half of a surrogate pair. -/
def pairFailure (text : List Char) : Failure :=
  match text with
  | [] => ⟨.endInString, [], 0⟩
  | mark :: rest =>
      if mark == '\\' then
        match rest with
        | [] => ⟨.endInString, [], 0⟩
        | letter :: rest =>
            if letter == 'u' then hexFailure rest else ⟨.surrogateUnfinished, letter :: rest, 1⟩
      else ⟨.surrogateUnfinished, text, 1⟩

/-- Read a string whose opening quote has been read. -/
def stringBody : List Char → Outcome (List Char)
  | [] => .failed ⟨.endInString, [], 0⟩
  | c :: rest =>
      if c == '"' then .done [] rest
      else if c == '\\' then
        match rest with
        | [] => .failed ⟨.endInString, [], 0⟩
        | letter :: rest =>
            if letter == 'u' then
              match rest with
              | a :: b :: c :: d :: rest =>
                  match hexUnit? a b c d with
                  | none => .failed (hexFailure (a :: b :: c :: d :: rest))
                  | some unit =>
                      if isLowSurrogate unit then .failed ⟨.loneSurrogate, rest, 0⟩
                      else if isHighSurrogate unit then
                        match rest with
                        | mark :: letter :: e :: f :: g :: h :: rest =>
                            if mark == '\\' && letter == 'u' then
                              match hexUnit? e f g h with
                              | none => .failed (hexFailure (e :: f :: g :: h :: rest))
                              | some low =>
                                  if isLowSurrogate low then
                                    (stringBody rest).map (joinSurrogates unit low :: ·)
                                  else .failed ⟨.loneSurrogate, rest, 0⟩
                            else
                              .failed (pairFailure (mark :: letter :: e :: f :: g :: h :: rest))
                        | short => .failed (pairFailure short)
                      else (stringBody rest).map (Char.ofNat unit :: ·)
              | short => .failed (hexFailure short)
            else
              match escaped? letter with
              | some c => (stringBody rest).map (c :: ·)
              | none => .failed ⟨.badEscape, letter :: rest, 1⟩
      else if c.toNat < 0x20 then .failed ⟨.controlCharacter, c :: rest, 1⟩
      else (stringBody rest).map (c :: ·)

/-- Read a string at its opening quote. -/
def stringLiteral : Reader String := fun text =>
  (stringBody text.tail).map String.ofList

/-- The first number that needs more than 64 bits. -/
def wordLimit : Nat := 0x10000000000000000

/-- The greatest exponent that is read digit by digit. -/
def exponentLimit : Nat := 0x7FFFFFFF

/-- Take digits into a significand as long as it fits 64 bits. -/
def takeSignificand (significand : Nat) : List Char → Nat × List Char
  | [] => (significand, [])
  | c :: rest =>
      if c.isDigit && significand * 10 + Number.digitValue c < wordLimit then
        takeSignificand (significand * 10 + Number.digitValue c) rest
      else (significand, c :: rest)

/-- A scaled significand as a number. -/
def scaledNumber (negative : Bool) (significand : Nat) (exponent : Int) : Reader Number :=
  match Number.scale significand exponent with
  | none => Reader.failHere .numberTooLarge
  | some magnitude =>
      let value : Number.Double := ⟨negative, magnitude⟩
      if finite : value.IsFinite then pure (.real value finite)
      else Reader.failHere .numberTooLarge

/-- Read the digits of an exponent after those that make `exponent`. -/
def exponentDigits (negative : Bool) (significand : Nat) (point : Int) (negativeExponent : Bool) :
    (exponent : Nat) → List Char → Outcome Number
  | exponent, c :: rest =>
      if c.isDigit then
        let exponent := exponent * 10 + Number.digitValue c
        if exponentLimit < exponent then
          if significand != 0 && !negativeExponent then .failed ⟨.numberTooLarge, rest, 0⟩
          else scaledNumber negative 0 0 (rest.dropWhile Char.isDigit)
        else exponentDigits negative significand point negativeExponent exponent rest
      else
        scaledNumber negative significand
          (if negativeExponent then point - exponent else point + exponent) (c :: rest)
  | exponent, [] =>
      scaledNumber negative significand
        (if negativeExponent then point - exponent else point + exponent) []

/-- Read an exponent at its mark. -/
def exponentPart (negative : Bool) (significand : Nat) (point : Int) : Reader Number := do
  Reader.advance
  let sign ← Reader.peek
  if sign == some '+' || sign == some '-' then Reader.advance
  match ← Reader.peek with
  | none => Reader.failHere .endInValue
  | some c =>
      if c.isDigit then exponentDigits negative significand point (sign == some '-') 0
      else Reader.failNext .badNumber

/-- Read what may follow the digits of a number: an exponent or nothing. -/
def afterDigits (negative : Bool) (significand : Nat) (point : Int) : Reader Number := do
  let next ← Reader.peek
  if next == some 'e' || next == some 'E' then exponentPart negative significand point
  else scaledNumber negative significand point

/-- Read the digits after a decimal point; those that no longer fit the significand are passed. -/
def fractionPart (negative : Bool) (significand : Nat) (point : Int) : Reader Number := fun text =>
  let digits := text.tail
  let (significand, rest) := takeSignificand significand digits
  let taken := digits.length - rest.length
  match rest with
  | c :: _ =>
      if c.isDigit then
        afterDigits negative significand (point - taken) (rest.dropWhile Char.isDigit)
      else if taken == 0 then Reader.failNext .badNumber rest
      else afterDigits negative significand (point - taken) rest
  | [] =>
      if taken == 0 then Reader.failNext .endInValue rest
      else afterDigits negative significand (point - taken) rest

/-- A number written without point and exponent. -/
def wholeNumber (negative : Bool) (significand : Nat) : Reader Number :=
  if negative && significand == 0 then scaledNumber true 0 0
  else
    match Number.ofInt? (if negative then -(significand : Int) else significand) with
    | some whole => pure whole
    | none => scaledNumber negative significand 0

/-- Read a number after its sign. -/
def unsignedNumber (negative : Bool) : Reader Number := fun text =>
  match text with
  | [] => Reader.failHere .endInValue text
  | c :: rest =>
      if !c.isDigit then Reader.failNext .badNumber text
      else if c == '0' && rest.head?.any Char.isDigit then Reader.failNext .badNumber rest
      else
        let (significand, rest) :=
          if c == '0' then (0, rest) else takeSignificand 0 text
        let more := rest.takeWhile Char.isDigit
        let rest := rest.dropWhile Char.isDigit
        if rest.head? == some '.' then fractionPart negative significand more.length rest
        else if rest.head? == some 'e' || rest.head? == some 'E' then
          exponentPart negative significand more.length rest
        else if more.isEmpty then wholeNumber negative significand rest
        else scaledNumber negative significand more.length rest

/-- Read a number at its sign or first digit. -/
def numberLiteral : Reader Number := do
  if (← Reader.peek) == some '-' then
    Reader.advance
    unsignedNumber true
  else unsignedNumber false

end DspBridge.Json

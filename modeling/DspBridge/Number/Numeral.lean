import DspBridge.Number.Double

/-!
# Decimal numerals

The grammar of decimal numerals as people type them: an optional sign, digits with at most one
point among them and at least one digit in all, and an optional signed exponent. A numeral denotes
a decimal number exactly, and reading it as a double rounds that number once.
-/

namespace DspBridge.Number

/-- A decimal numeral: the number `± significand · 10^exponent`. -/
structure Numeral where
  negative : Bool
  significand : Nat
  exponent : Int
  deriving DecidableEq, Repr

/-- The value of a decimal digit. -/
def digitValue (c : Char) : Nat := c.toNat - '0'.toNat

/-- The whole number written by decimal digits. -/
def ofDigits (digits : List Char) : Nat :=
  digits.foldl (fun value digit => value * 10 + digitValue digit) 0

/-- A sign at the front of a text, if there is one, and what follows it. -/
def splitSign : List Char → Bool × List Char
  | '-' :: rest => (true, rest)
  | '+' :: rest => (false, rest)
  | text => (false, text)

/-- Whether characters are decimal digits, at least one. -/
def isDigits (text : List Char) : Bool :=
  !text.isEmpty && text.all Char.isDigit

/-- The exponent that ends a numeral; nothing at all means zero. -/
def readExponent : List Char → Option Int
  | [] => some 0
  | mark :: rest =>
      if mark == 'e' || mark == 'E' then
        let (negative, digits) := splitSign rest
        if isDigits digits then
          some (if negative then -(ofDigits digits : Int) else (ofDigits digits : Int))
        else none
      else none

namespace Numeral

/-- The numeral that a text is. -/
def ofChars? (text : List Char) : Option Numeral := do
  let (negative, unsigned) := splitSign text
  let whole := unsigned.takeWhile Char.isDigit
  let afterWhole := unsigned.dropWhile Char.isDigit
  let (fraction, rest) :=
    match afterWhole with
    | '.' :: tail => (tail.takeWhile Char.isDigit, tail.dropWhile Char.isDigit)
    | tail => ([], tail)
  if whole.isEmpty && fraction.isEmpty then none
  else do
    let exponent ← readExponent rest
    some ⟨negative, ofDigits (whole ++ fraction), exponent - fraction.length⟩

/-- Above this power of ten every number other than zero is beyond the doubles. -/
def overflowExponent : Int := 400

/-- Below this power of ten every number rounds to zero. -/
def underflowExponent : Int := -400

/-- The number of decimal digits of a significand. -/
def width (numeral : Numeral) : Nat := (Nat.toDigits 10 numeral.significand).length

/-- The magnitude nearest to a numeral; the exponents that decide the outcome by themselves are not
raised to a power. -/
def magnitude (numeral : Numeral) : Magnitude :=
  if numeral.significand = 0 then 0
  else if overflowExponent < numeral.exponent + numeral.width then Magnitude.infinity
  else if numeral.exponent + numeral.width < underflowExponent then 0
  else
    Magnitude.ofRatio (numeral.significand * Nat.pow 10 numeral.exponent.toNat)
      (Nat.pow 10 (-numeral.exponent).toNat)

/-- The double nearest to a numeral. -/
def toDouble (numeral : Numeral) : Double := ⟨numeral.negative, numeral.magnitude⟩

end Numeral

/-- The double that a text denotes as a decimal numeral. -/
def readDouble? (text : String) : Option Double :=
  (Numeral.ofChars? text.toList).map Numeral.toDouble

/-- The double that a text denotes as a decimal numeral, if that is a finite one. -/
def readFinite? (text : String) : Option Double :=
  (readDouble? text).filter fun value => decide value.IsFinite

end DspBridge.Number

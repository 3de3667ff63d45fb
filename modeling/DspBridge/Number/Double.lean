/-!
# Double-precision numbers

Binary floating-point numbers with a 53-bit significand, held exactly. The magnitude is the usual
63-bit code (eleven bits of exponent above fifty-two of fraction), so a larger code is a larger
number, and every finite magnitude is a whole number of units of 2^(-1074). Arithmetic is exact on
those units and rounded once, to the nearest code and, half-way between two, to the even one.
-/

namespace DspBridge.Number

/-- The quotient rounded to the nearest whole number, a half to the even one. -/
def roundDiv (dividend divisor : Nat) : Nat :=
  let quotient := dividend / divisor
  let remainder := dividend % divisor
  if divisor < 2 * remainder || (2 * remainder == divisor && quotient % 2 == 1) then quotient + 1
  else quotient

/-- Codes of magnitudes. -/
abbrev Magnitude := Nat

namespace Magnitude

/-- The number of codes that share an exponent, a power of two with exponent 52. -/
def binade : Nat := 0x10000000000000

/-- The exponent of the unit, negated: a magnitude is a multiple of 2^(-1074). -/
def unitExponent : Nat := 1074

/-- The code of infinity, the first that is no finite magnitude. -/
def infinity : Magnitude := 2047 * binade

/-- The value of a finite code, in units of 2^(-1074). -/
def units (code : Magnitude) : Nat :=
  if code / binade = 0 then code else (binade + code % binade) * Nat.pow 2 (code / binade - 1)

/-- The code nearest to a number of units, given as a quotient. Codes from infinity up mean that
the number is too large. -/
def ofUnits (dividend divisor : Nat) : Magnitude :=
  let shift := Nat.log2 (dividend / divisor) - 52
  shift * binade + roundDiv dividend (divisor * Nat.pow 2 shift)

/-- The code nearest to a quotient. -/
def ofRatio (dividend divisor : Nat) : Magnitude :=
  min infinity (ofUnits (dividend * Nat.pow 2 unitExponent) divisor)

/-- The code nearest to a whole number. -/
def ofNat (value : Nat) : Magnitude := ofRatio value 1

/-- The product of two finite magnitudes, rounded. -/
def mul (left right : Magnitude) : Magnitude :=
  ofRatio (units left * units right) (Nat.pow 2 (2 * unitExponent))

/-- The quotient of two finite magnitudes, rounded. -/
def div (left right : Magnitude) : Magnitude :=
  ofRatio (units left) (units right)

/-- A power of ten, rounded. -/
def powerOfTen (exponent : Nat) : Magnitude := ofNat (Nat.pow 10 exponent)

end Magnitude

/-- A number with a sign; zero has one too. -/
structure Double where
  negative : Bool
  magnitude : Magnitude
  deriving DecidableEq, Repr

namespace Double

/-- Neither an infinity nor anything beyond. -/
def IsFinite (value : Double) : Prop := value.magnitude < Magnitude.infinity

instance (value : Double) : Decidable value.IsFinite :=
  inferInstanceAs (Decidable (value.magnitude < Magnitude.infinity))

/-- The 64-bit code: the sign above the magnitude. -/
def bits (value : Double) : Nat :=
  (if value.negative then 0x8000000000000000 else 0) + value.magnitude

/-- The 64-bit code in sixteen hexadecimal digits. -/
def hex (value : Double) : String :=
  let digits := Nat.toDigits 16 value.bits
  String.ofList (['0', 'x'] ++ List.replicate (16 - digits.length) '0' ++ digits)

end Double
end DspBridge.Number

import DspBridge.Number.Double

/-!
# Scaled significands

The quick way to read a decimal number: a whole significand is rounded to a double and then
multiplied or divided by a rounded power of ten. The result is within a unit or so of the nearest
double, not always equal to it, and which double results is part of a document format.
-/

namespace DspBridge.Number

/-- The greatest power of ten that is a finite double. -/
def greatestPower : Nat := 308

/-- A significand of at most 64 bits times a power of ten, none if that is too large. A division by
more than `10^308` is done in two steps, and three of them leave nothing. -/
def scale (significand : Nat) (exponent : Int) : Option Magnitude :=
  let start := Magnitude.ofNat significand
  let power := exponent.natAbs
  if 0 ≤ exponent then
    if significand = 0 then some 0
    else if greatestPower < power then none
    else
      let product := start.mul (.powerOfTen power)
      if product < Magnitude.infinity then some product else none
  else if power ≤ greatestPower then some (start.div (.powerOfTen power))
  else if power ≤ 2 * greatestPower then
    some ((start.div (.powerOfTen greatestPower)).div (.powerOfTen (power - greatestPower)))
  else some 0

end DspBridge.Number

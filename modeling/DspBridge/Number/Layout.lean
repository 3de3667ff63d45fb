import DspBridge.Number.Shortest

/-!
# Decimal layouts

How a double is written. The digits are the shortest ones; a layout says when the decimal point
stands among them or among zeros around them, and when an exponent is written instead.
-/

namespace DspBridge.Number

/-- A way of writing decimal digits. The point of a number is the count of digits before it. -/
structure Layout where
  /-- Points below or at this one are written with an exponent. -/
  leastPoint : Option Int
  /-- Points above this one are written with an exponent. -/
  greatestPoint : Option Int
  deriving DecidableEq, Repr

namespace Layout

/-- Documents are written positionally from `10^(-5)` up to `10^16`. -/
def document : Layout := ⟨some (-5), some 16⟩

/-- Every digit of the number is written, without exponent. -/
def positional : Layout := ⟨none, none⟩

/-- Whether a point is written among digits or zeros. -/
def isPositional (layout : Layout) (point : Int) : Bool :=
  layout.leastPoint.all (· < point) && layout.greatestPoint.all (point ≤ ·)

/-- Digits with a decimal point, at least one digit before it and one after it. -/
def writePositional (value : Digits) : List Char :=
  let count : Int := value.digits.length
  if value.point ≤ 0 then
    ['0', '.'] ++ List.replicate (-value.point).toNat '0' ++ value.digits
  else if value.point < count then
    value.digits.take value.point.toNat ++ ['.'] ++ value.digits.drop value.point.toNat
  else
    value.digits ++ List.replicate (value.point - count).toNat '0' ++ ['.', '0']

/-- An exponent with its sign. -/
def writeExponent (exponent : Int) : List Char :=
  (if exponent < 0 then ['e', '-'] else ['e', '+']) ++ naturalDigits exponent.natAbs

/-- Digits with one of them before the point and an exponent. -/
def writeScientific (value : Digits) : List Char :=
  match value.digits with
  | [] => []
  | [digit] => digit :: writeExponent (value.point - 1)
  | digit :: rest => digit :: '.' :: rest ++ writeExponent (value.point - 1)

/-- Digits in a layout. -/
def writeDigits (layout : Layout) (value : Digits) : List Char :=
  if layout.isPositional value.point then writePositional value else writeScientific value

/-- A finite double in a layout. -/
def write (layout : Layout) (value : Double) : String :=
  String.ofList
    ((if value.negative then ['-'] else []) ++ layout.writeDigits (shortestDigits value.magnitude))

end Layout
end DspBridge.Number

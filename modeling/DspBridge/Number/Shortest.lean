import DspBridge.Number.Double

/-!
# Shortest decimal digits

The fewest decimal digits that read back as a given double, and of those the nearest to it. The
doubles next to it bound an interval of numbers that round to it, ends included when its code is
even. Every end is a whole number of 10^(-1075), so on a grid of powers of ten the neighbours of
the value are found by dividing whole numbers. The first grid, from coarse to fine, that has a
neighbour in the interval gives the digits.
-/

namespace DspBridge.Number

/-- Decimal digits without trailing zeros, read as `0.d₁d₂… · 10^point`. -/
structure Digits where
  digits : List Char
  point : Int
  deriving DecidableEq, Repr

/-- Half a unit of a magnitude is this many decimal places long. -/
def decimalPlaces : Nat := Magnitude.unitExponent + 1

/-- The numbers that round to a double, each end a whole number of `10^(-decimalPlaces)`. -/
structure Interval where
  low : Nat
  value : Nat
  high : Nat
  closed : Bool
  deriving DecidableEq, Repr

namespace Interval

/-- The interval around a finite code other than zero: it ends half-way to the codes next to it. -/
def around (code : Magnitude) : Interval :=
  let scale := Nat.pow 5 decimalPlaces
  { low := (Magnitude.units (code - 1) + Magnitude.units code) * scale
    value := 2 * Magnitude.units code * scale
    high := (Magnitude.units code + Magnitude.units (code + 1)) * scale
    closed := code % 2 == 0 }

/-- Whether a number rounds to the double. -/
def contains (interval : Interval) (number : Nat) : Bool :=
  if interval.closed then interval.low ≤ number && number ≤ interval.high
  else interval.low < number && number < interval.high

/-- The multiple of a step in the interval that is nearest to its value, counted in steps: of the
two neighbours the nearer, and of two equally near the even one. -/
def nearest (interval : Interval) (step : Nat) : Option Nat :=
  let below := interval.value / step
  let gapBelow := interval.value - below * step
  let gapAbove := (below + 1) * step - interval.value
  match interval.contains (below * step), interval.contains ((below + 1) * step) with
  | true, true =>
      some (if gapBelow < gapAbove || (gapBelow == gapAbove && below % 2 == 0) then below
        else below + 1)
  | true, false => some below
  | false, true => some (below + 1)
  | false, false => none

end Interval

/-- Decimal digits of a whole number. -/
def naturalDigits (value : Nat) : List Char := Nat.toDigits 10 value

/-- Decimal digits less the zeros they end with. -/
def dropTrailingZeros (digits : List Char) : List Char :=
  (digits.reverse.dropWhile (· == '0')).reverse

/-- The grids from one digit up; seventeen digits always tell two doubles apart. -/
def gridWidths : List Nat := [1, 2, 3, 4, 5, 6, 7, 8, 9, 10, 11, 12, 13, 14, 15, 16, 17]

/-- The shortest digits of a finite magnitude; zero has the single digit `0`. -/
def shortestDigits (code : Magnitude) : Digits :=
  let interval := Interval.around code
  let length := (naturalDigits interval.value).length
  let found := gridWidths.findSome? fun width =>
    (interval.nearest (Nat.pow 10 (length - width))).map fun steps => (naturalDigits steps, width)
  match found with
  | some (digits, width) =>
      if code = 0 then ⟨['0'], 1⟩
      else
        ⟨dropTrailingZeros digits,
          (length : Int) - decimalPlaces + (digits.length - width : Int)⟩
  | none => ⟨['0'], 1⟩

end DspBridge.Number

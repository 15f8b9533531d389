import RollScript.Number.Binary

/-!
# Shortest decimal digits

The digits of a positive double are the fewest that read back as that double, and the nearest to it
among those. `Shortest.digits` looks for them on the decimal grids of one significant digit, two
digits and so on: on each grid it tests the two neighbours of the value against the interval of
reals that round to it. All tests are in exact integer arithmetic.
-/

namespace RollScript

/-- A decimal number `0.d₁d₂… · 10 ^ point`, the digits given as one natural number. -/
structure Decimal where
  digits : Nat
  point : Int
deriving DecidableEq

namespace Shortest

/-- A positive double and the reals that round to it, over one common denominator. -/
structure Interval where
  low : Nat
  value : Nat
  high : Nat
  denominator : Nat
  /-- Whether the two ends round to the double as well. -/
  closed : Bool

/-- The interval of `significand · 2 ^ exponent`. Below a power of two the neighbour is half as far
as above it, except at the least exponent of the format. -/
def interval (significand : Nat) (exponent : Int) : Interval :=
  let scale := Nat.pow 2 (exponent - 2).toNat
  let narrow := significand = 4503599627370496 ∧ -1074 < exponent
  { low := (if narrow then 4 * significand - 1 else 4 * significand - 2) * scale
    value := 4 * significand * scale
    high := (4 * significand + 2) * scale
    denominator := Nat.pow 2 (2 - exponent).toNat
    closed := significand % 2 = 0 }

/-- Whether a nonnegative rational lies in the interval. -/
def Interval.contains (i : Interval) (numerator denominator : Nat) : Bool :=
  let low := compare (i.low * denominator) (numerator * i.denominator)
  let high := compare (numerator * i.denominator) (i.high * denominator)
  if i.closed then low.isLE && high.isLE else low == .lt && high == .lt

/-- The number of decimal digits before the point: the least `p` with `value < 10 ^ p`, searched
upwards from `start` for at most `steps` steps. -/
def pointFrom (i : Interval) : Nat → Int → Int
  | 0, start => start
  | steps + 1, start =>
    if i.value * Nat.pow 10 (-start).toNat < i.denominator * Nat.pow 10 start.toNat then start
    else pointFrom i steps (start + 1)

/-- Strips the zeros at the end of a natural number's digits, at most `steps` of them. -/
def stripZeros : Nat → Nat → Nat
  | 0, n => n
  | steps + 1, n => if n ≠ 0 ∧ n % 10 = 0 then stripZeros steps (n / 10) else n

/-- The number of decimal digits of a natural number. -/
def digitCount (n : Nat) : Nat :=
  (Nat.toDigits 10 n).length

/-- The better of the value's two neighbours on the grid of multiples of `10 ^ unit`, if one of them
lies in the interval: the nearer one if both do, the even one of two equally near. -/
def onGrid (i : Interval) (unit : Int) : Option Nat :=
  let up := Nat.pow 10 unit.toNat
  let down := Nat.pow 10 (-unit).toNat
  let below := i.value * down / (i.denominator * up)
  let above := below + 1
  match i.contains (below * up) down, i.contains (above * up) down with
  | true, false => some below
  | false, true => some above
  | false, false => none
  | true, true =>
    -- twice the value against the sum of its neighbours
    match compare (2 * i.value * down) ((below + above) * up * i.denominator) with
    | .lt => some below
    | .gt => some above
    | .eq => some (if below % 2 = 0 then below else above)

/-- The first grid of `count` or more significant digits that holds a number of the interval. -/
def search (i : Interval) (point : Int) : Nat → Nat → Decimal
  | 0, _ => ⟨0, 0⟩
  | steps + 1, count =>
    match onGrid i (point - count) with
    | some n =>
      -- a carry into the next power of ten adds a digit before the point
      ⟨stripZeros 20 n, point + (digitCount n : Int) - count⟩
    | none => search i point steps (count + 1)

/-- The shortest decimal that reads back as `significand · 2 ^ exponent`, for a positive
significand. Seventeen digits always suffice for a double. -/
def digits (significand : Nat) (exponent : Int) : Decimal :=
  let i := interval significand exponent
  let estimate := ((significand.log2 : Int) + exponent) * 30103 / 100000 - 1
  search i (pointFrom i 5 estimate) 20 1

end Shortest

end RollScript

/-!
# Exact views of doubles

A finite double is `± m · 2 ^ e` for a natural number `m` and an integer `e`. `Binary.decode` reads
off these parts, `Binary.ofParts` rounds such a number back to a double, and the integer functions
below work on the parts, so their results are exact at every magnitude. A non-finite double has no
integer part, and the integer functions say so by `none`.
-/

namespace RollScript

/-- A double taken apart: not a number, an infinity, or `± significand · 2 ^ exponent`. -/
inductive Binary where
  | nan
  | infinite (negative : Bool)
  | finite (negative : Bool) (significand : Nat) (exponent : Int)
deriving DecidableEq

namespace Binary

/-- The parts of a double. A zero has the exponent zero, any other finite double the exponent that
its format gives it. -/
def decode (x : Float) : Binary :=
  match x.toModel.unpack with
  | .notANumber => .nan
  | .infinity sign => .infinite (sign == .negative)
  | .zero sign => .finite (sign == .negative) 0 0
  | .finite sign significand exponent _ => .finite (sign == .negative) significand exponent

/-- The double nearest to `± significand · 2 ^ exponent`, a tie going to the even significand. -/
def ofParts (negative : Bool) (significand : Nat) (exponent : Int) : Float :=
  let sign := if negative then .negative else .positive
  if significand = 0 then
    .ofModel (.pack (.zero sign))
  else
    .ofModel (.pack (.round .binary64 sign significand exponent))

/-- An integer with the given sign and magnitude. -/
def signed (negative : Bool) (magnitude : Nat) : Int :=
  if negative then -(magnitude : Int) else magnitude

/-- The greatest integer not above a finite double. -/
def floor? (x : Float) : Option Int :=
  match decode x with
  | .finite negative significand exponent =>
    if 0 ≤ exponent then
      some (signed negative (significand * Nat.pow 2 exponent.toNat))
    else
      some (Int.fdiv (signed negative significand) (Nat.pow 2 (-exponent).toNat))
  | _ => none

/-- The least integer not below a finite double. -/
def ceil? (x : Float) : Option Int :=
  (floor? (-x)).map fun n => -n

/-- The integer that a double equals, if there is one. -/
def integer? (x : Float) : Option Int :=
  match decode x with
  | .finite negative significand exponent =>
    if 0 ≤ exponent then
      some (signed negative (significand * Nat.pow 2 exponent.toNat))
    else if significand % Nat.pow 2 (-exponent).toNat = 0 then
      some (signed negative (significand / Nat.pow 2 (-exponent).toNat))
    else
      none
  | _ => none

/-- The floor of the double nearest to `x + 1/2`, for a finite `x`. The sum is rounded before the
floor is taken. -/
def roundHalfUp? (x : Float) : Option Int :=
  if x.isFinite then floor? (x + 0.5) else none

/-- Whether a double has its sign bit set. -/
def isNegative (x : Float) : Bool :=
  match decode x with
  | .nan => false
  | .infinite negative => negative
  | .finite negative _ _ => negative

/-- Whether a double is the negative zero. -/
def isNegativeZero (x : Float) : Bool :=
  decode x == .finite true 0 0

end Binary

end RollScript

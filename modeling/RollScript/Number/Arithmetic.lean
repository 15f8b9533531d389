import RollScript.Number.Binary

/-!
# Remainder and power

`Number.modulo` is the floored remainder: it has the sign of the divisor and is exact. `Number.power`
raises to a power: a zero base with a negative exponent and a negative base with a fractional
exponent have no real result, and a result out of range is the positive infinity.
-/

namespace RollScript.Number

/-- Whether a number is an odd integer. -/
def isOdd (x : Float) : Bool :=
  match Binary.integer? x with
  | some n => n % 2 = 1
  | none => false

/-- A zero with the sign of `x`. -/
def zeroLike (x : Float) : Float :=
  Binary.ofParts (Binary.isNegative x) 0 0

/-- The remainder of truncated division, with the sign of the dividend. It is exact: both numbers
are brought to the smaller of their exponents. -/
def truncatedRemainder (x y : Float) : Float :=
  match Binary.decode x, Binary.decode y with
  | .finite negative m e, .finite _ n f =>
    let exponent := min e f
    let remainder := (m * Nat.pow 2 (e - exponent).toNat) % (n * Nat.pow 2 (f - exponent).toNat)
    Binary.ofParts negative remainder exponent
  | .finite .., .infinite _ => x
  | _, _ => 0.0 / 0.0

/-- The floored remainder by a nonzero divisor. A zero remainder has the divisor's sign. -/
def modulo (x y : Float) : Float :=
  let remainder := truncatedRemainder x y
  if remainder == 0 then zeroLike y
  else if y < 0 ↔ remainder < 0 then remainder
  else remainder + y

/-- Why a power has no value. -/
inductive PowerError where
  | zeroToNegative
  | notReal
deriving DecidableEq

/-- Whether `base ^ exponent` is out of range for certain: the base is at least `2 ^ k` for a
positive `k`, and `k` times the exponent is at least 1024. -/
def overflowsSurely (base exponent : Float) : Bool :=
  match Binary.decode base, Binary.floor? exponent with
  | .finite _ m e, some n =>
    let k := (m.log2 : Int) + e
    m ≠ 0 ∧ 0 < k ∧ 1024 ≤ k * n
  | _, _ => false

/-- A positive finite base raised to a finite exponent; never negative. -/
def positivePower (base exponent : Float) : Float :=
  if overflowsSurely base exponent then 1.0 / 0.0 else (Float.pow base exponent).abs

/-- A power with an infinite exponent. -/
def powerOfInfinite (base exponent : Float) : Float :=
  if base.abs == 1 then 1
  else if 0 < exponent ↔ 1 < base.abs then 1.0 / 0.0
  else 0

/-- A power of an infinite base. -/
def powerOfInfiniteBase (base exponent : Float) : Float :=
  if 0 < exponent then
    if isOdd exponent then base else 1.0 / 0.0
  else
    if isOdd exponent then zeroLike base else 0

/-- A finite nonzero base raised to a finite nonzero exponent. -/
def finitePower (base exponent : Float) : Except PowerError Float :=
  let magnitude := positivePower base.abs exponent
  if base < 0 ∧ (Binary.integer? exponent).isNone then
    if magnitude.isInf then .ok (1.0 / 0.0) else .error .notReal
  else if base.abs == 1 then
    .ok (if base < 0 ∧ isOdd exponent then -1 else 1)
  else if magnitude.isInf then
    .ok (1.0 / 0.0)
  else
    .ok (if base < 0 ∧ isOdd exponent then -magnitude else magnitude)

/-- `base` raised to the power `exponent`. -/
def power (base exponent : Float) : Except PowerError Float :=
  if exponent == 0 then .ok 1
  else if base.isNaN then .ok base
  else if exponent.isNaN then .ok (if base == 1 then 1 else exponent)
  else if exponent.isInf then .ok (powerOfInfinite base exponent)
  else if base.isInf then .ok (powerOfInfiniteBase base exponent)
  else if base == 0 then
    if exponent < 0 then .error .zeroToNegative
    else .ok (if isOdd exponent then base else 0)
  else finitePower base exponent

end RollScript.Number

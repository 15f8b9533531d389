import RollScript.Cause
import RollScript.Number.Arithmetic
import RollScript.Number.Sort
import RollScript.Value.Equal

/-!
# Operations on values

`Operation.apply` computes an operation from arguments that its guards have let pass.
-/

namespace RollScript

namespace Value

/-- The number that a value is. -/
def number? : Value → Option Float
  | number x => some x
  | _ => none

/-- An array of numbers. -/
def ofNumbers (xs : List Float) : Value :=
  array (xs.map number)

/-- Numbers add, strings are joined, and arrays are joined or take one more element at either
end. -/
def add : Value → Value → Except Stop Value
  | array items, array others => .ok (array (items ++ others))
  | array items, v => .ok (array (items ++ [v]))
  | v, array items => .ok (array (v :: items))
  | number x, number y => .ok (number (x + y))
  | string s, string t => .ok (string (s ++ t))
  | number _, v => .error (.mismatch .number v)
  | string _, v => .error (.mismatch .string v)
  | v, _ => .error (.mismatch .addend v)

/-- The elements of an array added up from the left; the unit for none. -/
def sum : List Value → Except Stop Value
  | [] => .ok unit
  | v :: rest => rest.foldlM add v

end Value

namespace Number

/-- The rounding of a finite number, or the error for one that is not finite. -/
def rounded (x : Float) : Except Stop Int :=
  match Binary.roundHalfUp? x with
  | some n => .ok n
  | none => .error (.domain (.notFinite x))

/-- A whole number of times, none if the rounded number is negative. -/
def repetitions (x : Float) : Except Stop Nat :=
  (rounded x).map Int.toNat

/-- A rounding applied to a finite number; a number that is not finite stays as it is. -/
def roundedBy (f : Float → Option Int) (x : Float) : Float :=
  match f x with
  | some n => Float.ofInt n
  | none => x

/-- The second number if it is greater, and otherwise the first. -/
def larger (x y : Float) : Float :=
  if x < y then y else x

/-- The second number if it is less, and otherwise the first. -/
def smaller (x y : Float) : Float :=
  if y < x then y else x

/-- The last `count` elements. -/
def takeLast (count : Nat) (xs : List Float) : List Float :=
  xs.drop (xs.length - count)

end Number

namespace Operation

/-- An operation on one number. -/
def onNumber (f : Float → Float) : List Value → Except Stop Value
  | [.number x] => .ok (.number (f x))
  | _ => .error (.aborted .misapplied)

/-- An operation on two numbers. -/
def onNumbers (f : Float → Float → Except Stop Value) : List Value → Except Stop Value
  | [.number x, .number y] => f x y
  | _ => .error (.aborted .misapplied)

/-- A comparison of two numbers. -/
def comparison (f : Float → Float → Bool) : List Value → Except Stop Value :=
  onNumbers fun x y => .ok (.ofBool (f x y))

/-- An operation on an array of numbers. -/
def onList (f : List Float → Except Stop Value) : List Value → Except Stop Value
  | [.array items] =>
    match items.mapM Value.number? with
    | some xs => f xs
    | none => .error (.aborted .misapplied)
  | _ => .error (.aborted .misapplied)

/-- An operation on a rounded count and an array of numbers. -/
def onCounted (f : Nat → List Float → List Float) : List Value → Except Stop Value
  | [.number x, .array items] =>
    match items.mapM Value.number? with
    | some xs => (Number.repetitions x).map fun count => .ofNumbers (f count xs)
    | none => .error (.aborted .misapplied)
  | _ => .error (.aborted .misapplied)

/-- The quotient of two numbers. -/
def quotient (x y : Float) : Except Stop Value :=
  if y == 0 then .error (.domain .divisionByZero) else .ok (.number (x / y))

/-- The floored remainder of two numbers. -/
def remainder (x y : Float) : Except Stop Value :=
  if y == 0 then .error (.domain .moduloByZero) else .ok (.number (Number.modulo x y))

/-- The power of two numbers. -/
def raised (x y : Float) : Except Stop Value :=
  match Number.power x y with
  | .ok z => .ok (.number z)
  | .error .zeroToNegative => .error (.domain .zeroToNegativePower)
  | .error .notReal => .error (.domain (.notReal x y))

/-- The first of the numbers that none of the others replaces. -/
def extreme (none : DomainCause) (pick : Float → Float → Float) : List Float → Except Stop Value
  | [] => .error (.domain none)
  | x :: rest => .ok (.number (rest.foldl pick x))

/-- Computes an operation. -/
def apply : Operation → List Value → Except Stop Value
  | floor => onNumber (Number.roundedBy Binary.floor?)
  | ceil => onNumber (Number.roundedBy Binary.ceil?)
  | round => onNumber (Number.roundedBy Binary.roundHalfUp?)
  | abs => onNumber Float.abs
  | add => fun
    | [v, w] => v.add w
    | _ => .error (.aborted .misapplied)
  | subtract => onNumbers fun x y => .ok (.number (x - y))
  | multiply => onNumbers fun x y => .ok (.number (x * y))
  | divide => onNumbers quotient
  | modulo => onNumbers remainder
  | power => onNumbers raised
  | less => comparison fun x y => x < y
  | lessOrEqual => comparison fun x y => x ≤ y
  | greater => comparison fun x y => y < x
  | greaterOrEqual => comparison fun x y => y ≤ x
  | equal => fun
    | [v, w] => .ok (.ofBool (v.equal w))
    | _ => .error (.aborted .misapplied)
  | notEqual => fun
    | [v, w] => .ok (.ofBool (!v.equal w))
    | _ => .error (.aborted .misapplied)
  | larger => onNumbers fun x y => .ok (.number (Number.larger x y))
  | smaller => onNumbers fun x y => .ok (.number (Number.smaller x y))
  | identity => onNumber id
  | negate => onNumber fun x => -x
  | complement => onNumber fun x => 1 - x
  | sum => fun
    | [.array items] => Value.sum items
    | _ => .error (.aborted .misapplied)
  | sort => onList fun xs => .ok (.ofNumbers (Number.sort xs))
  | length => fun
    | [.array items] => .ok (.number (Float.ofNat items.length))
    | _ => .error (.aborted .misapplied)
  | least => onList (extreme .leastOfNone Number.smaller)
  | greatest => onList (extreme .greatestOfNone Number.larger)
  | highest => onCounted fun count xs => Number.takeLast count (Number.sort xs)
  | lowest => onCounted fun count xs => Number.takeLast count (Number.sortDescending xs)

end Operation

end RollScript

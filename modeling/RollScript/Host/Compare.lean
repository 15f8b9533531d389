import RollScript.Cause

/-!
# Comparing values as a host does

A host compares more than numbers: texts by their code points, and arrays by the first elements in
which they differ. Values of different kinds, units and functions have no order. `Host.greatest`
chooses the first of the values that none of the others exceeds.
-/

namespace RollScript.Host

/-- The host's word for the kind of a value. -/
def kindOf : Value → String
  | .number _ => "float"
  | .string _ => "str"
  | .unit => "NoneType"
  | .array _ => "list"
  | .function (.primitive ..) => "Builtin"
  | .function (.closure ..) => "Closure"

mutual

/-- Whether two values are interchangeable: equal, or the same object. A NaN is the same as another,
and so are two primitives without arguments if they are one primitive. -/
def isAlike : Value → Value → Bool
  | .number x, .number y => x == y || (x.isNaN && y.isNaN)
  | .string s, .string t => s = t
  | .unit, .unit => true
  | .array items, .array others => areAlike items others
  | .function (.primitive p []), .function (.primitive q []) => p = q
  | _, _ => false

/-- Whether two lists are of one length and their elements interchangeable. -/
def areAlike : List Value → List Value → Bool
  | [], [] => true
  | v :: items, w :: others => isAlike v w && areAlike items others
  | _, _ => false

end

mutual

/-- Whether the first value is greater than the second. -/
def exceeds : Value → Value → Except HostFailure Bool
  | .number x, .number y => .ok (y < x)
  | .string s, .string t => .ok (!s.atMost t)
  | .array items, .array others => listExceeds items others
  | v, w => .error (.notOrdered (kindOf v) (kindOf w))

/-- Whether the first list is greater than the second: the first elements in which they differ decide,
and otherwise the longer list is greater. -/
def listExceeds : List Value → List Value → Except HostFailure Bool
  | [], _ => .ok false
  | _ :: _, [] => .ok true
  | v :: items, w :: others => if isAlike v w then listExceeds items others else exceeds v w

end

/-- The first value that none of the others exceeds. -/
def greatestFrom (best : Value) : List Value → Except HostFailure Value
  | [] => .ok best
  | v :: rest =>
    match exceeds v best with
    | .ok true => greatestFrom v rest
    | .ok false => greatestFrom best rest
    | .error failure => .error failure

/-- The greatest of several values, or of the elements of a single one. The elements of a text are its
characters. -/
def greatest : List Value → Except HostFailure Value
  | [.array items] => among items
  | [.string s] => among (s.map fun c => .string [c])
  | [v] => .error (.notIterable (kindOf v))
  | values => among values
where
  /-- The greatest of some values. -/
  among : List Value → Except HostFailure Value
    | [] => .error .noElements
    | v :: rest => greatestFrom v rest

end RollScript.Host

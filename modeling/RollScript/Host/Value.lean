import RollScript.Cause

/-!
# Values of the host

A host hands values to a program in its own form. Integers of any size and truth values become
numbers, sequences become arrays, and functions become primitives of one argument; anything else
cannot be used.
-/

namespace RollScript

/-- A value as a host has it. -/
inductive HostValue where
  | none
  | boolean (b : Bool)
  | integer (n : Int)
  | number (x : Float)
  | text (t : Text)
  | sequence (items : List HostValue)
  /-- A value that the language has already. -/
  | value (v : Value)
  /-- A function of the host by its name and number. -/
  | callable (name : Text) (id : Nat)
  /-- Something else, by the name of its type. -/
  | foreign (type : String)
deriving Inhabited

namespace HostValue

/-- How deeply sequences and arrays may be nested in a value that is converted. -/
def conversionLimit : Nat := 495

mutual

/-- The value of the language that a host's value becomes, if it is nested at most `depth` deep. -/
def toValueWithin (depth : Nat) : HostValue → Except Stop Value
  | none => .ok .unit
  | boolean b => .ok (.ofBool b)
  | integer n =>
    let x := Float.ofInt n
    if x.isInf then .error (.aborted .tooLarge) else .ok (.number x)
  | number x => .ok (.number x)
  | text t => .ok (.string t)
  | sequence items =>
    match depth with
    | 0 => .error (.aborted .tooDeep)
    | depth + 1 => (toValuesWithin depth items).map .array
  | value v => if v.isNestedAtMost depth then .ok v else .error (.aborted .tooDeep)
  | callable name id => .ok (.function (.primitive ⟨name, [.any], .pure, .host id⟩ []))
  | foreign type => .error (.failed (.mismatch .convertible ("Python " ++ type)))

/-- The values that several values of the host become; the first that cannot be used decides. -/
def toValuesWithin (depth : Nat) : List HostValue → Except Stop (List Value)
  | [] => .ok []
  | item :: rest =>
    match item.toValueWithin depth with
    | .error stop => .error stop
    | .ok v => (toValuesWithin depth rest).map (v :: ·)

end

/-- The value of the language that a host's value becomes. -/
def toValue (v : HostValue) : Except Stop Value :=
  v.toValueWithin conversionLimit

end HostValue

end RollScript

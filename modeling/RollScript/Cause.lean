import RollScript.Value.Print

/-!
# Why an evaluation stops

A `Cause` is an error of the language: a name without a value, a value of the wrong kind, or a value
that an operation cannot use. Each has one message. An `Abort` ends an evaluation from outside the
language. `Stop` joins the two, and also says that the steps allotted to an evaluation ran out.
-/

namespace RollScript

/-- The kinds of values that an operation asks for. -/
inductive Expected where
  | number | string | unit | array | function | numbers
  | addend | callee | faces | convertible
deriving DecidableEq, Repr

/-- How a message names the expected kinds. -/
def Expected.describe : Expected → String
  | number => "number"
  | string => "string"
  | unit => "()"
  | array => "array"
  | function => "function"
  | numbers => "array of numbers"
  | addend => "number, string or array"
  | callee => "function, number or array"
  | faces => "number or array"
  | convertible => "number, string, (), array or function"

/-- Why an operation cannot use a value of the right kind. -/
inductive DomainCause where
  | divisionByZero
  | moduloByZero
  | zeroToNegativePower
  | notReal (base exponent : Float)
  | notFinite (x : Float)
  | outOfBounds (index : Int) (length : Nat)
  | leastOfNone
  | greatestOfNone
  | noSides (x : Float)
  | noFaces
  | rerollsExhausted
deriving DecidableEq

/-- The message of a domain cause. -/
def DomainCause.message : DomainCause → String
  | divisionByZero => "Division by zero"
  | moduloByZero => "Modulo by zero"
  | zeroToNegativePower => "Zero raised to a negative power"
  | notReal base exponent =>
    Number.print base ++ " ** " ++ Number.print exponent ++ " is not a real number"
  | notFinite x => "Expected a finite number, got " ++ Number.print x
  | outOfBounds index length =>
    "Array index " ++ toString index ++ " out of bounds for length " ++ toString length
  | leastOfNone => "min of an empty array"
  | greatestOfNone => "max of an empty array"
  | noSides x => "Cannot roll a die with " ++ Number.print x ++ " sides"
  | noFaces => "Cannot roll a die with no faces"
  | rerollsExhausted => "Maximum rerolls exceeded"

/-- An error of the language. -/
inductive Cause where
  /-- No scope has the name. -/
  | unbound (name : Text)
  /-- A value, given by its text, is not of an expected kind. -/
  | mismatch (expected : Expected) (actual : String)
  /-- An operation cannot use a value. -/
  | domain (cause : DomainCause)
deriving DecidableEq

/-- The message of a cause. -/
def Cause.message : Cause → Text
  | unbound name => .ofString "Undefined variable: " ++ name
  | mismatch expected actual => .ofString ("Expected " ++ expected.describe ++ ", got " ++ actual)
  | domain cause => .ofString cause.message

/-- Why a function of the host fails. The kinds of values are given by the host's words for them. -/
inductive HostFailure where
  /-- A value has no elements to go through. -/
  | notIterable (kind : String)
  /-- Two values cannot be compared. -/
  | notOrdered (first second : String)
  /-- There is nothing to choose from. -/
  | noElements
  /-- A value is called that is no function. -/
  | notCallable (kind : String)
deriving DecidableEq

/-- The message of a failure. -/
def HostFailure.message : HostFailure → String
  | notIterable kind => "'" ++ kind ++ "' object is not iterable"
  | notOrdered first second =>
    "'>' not supported between instances of '" ++ first ++ "' and '" ++ second ++ "'"
  | noElements => "max() arg is an empty sequence"
  | notCallable kind => "'" ++ kind ++ "' object has no attribute 'invoke'"

/-- An end that no program asks for. -/
inductive Abort where
  /-- A source of prepared answers has no more of them. -/
  | exhausted
  /-- An integer of the host is too large for a number. -/
  | tooLarge
  /-- A value of the host is nested too deeply. -/
  | tooDeep
  /-- A function of the host fails. -/
  | failed (failure : HostFailure)
  /-- A function answered its caller twice. -/
  | producedTwice
  /-- An evaluation ended without exactly one result. -/
  | unbalanced
  /-- A primitive was given arguments that its guards do not allow. -/
  | misapplied
deriving DecidableEq

/-- The message of an abort. -/
def Abort.message : Abort → String
  | exhausted => ""
  | tooLarge => "int too large to convert to float"
  | tooDeep => ""
  | failed failure => failure.message
  | producedTwice => "A value was produced twice for one continuation"
  | unbalanced => ""
  | misapplied => ""

/-- Why an evaluation stops without a value. -/
inductive Stop where
  | failed (cause : Cause)
  | aborted (abort : Abort)
  | unfinished
deriving DecidableEq

namespace Stop

/-- Stops because a value is not of an expected kind. -/
def mismatch (expected : Expected) (actual : Value) : Stop :=
  failed (.mismatch expected actual.print)

/-- Stops because an operation cannot use a value. -/
def domain (cause : DomainCause) : Stop :=
  failed (.domain cause)

end Stop

namespace Guard

/-- What a value lacks when a guard refuses it. -/
def refusal? : Guard → Value → Option Expected
  | any, _ => none
  | number, .number _ => none
  | number, _ => some .number
  | unit, .unit => none
  | unit, _ => some .unit
  | array, .array _ => none
  | array, _ => some .array
  | function, .function _ => none
  | function, _ => some .function
  | numbers, .array items => if items.all Value.isNumber then none else some .numbers
  | numbers, _ => some .array

/-- Lets a value pass or stops with what was expected. -/
def check (g : Guard) (v : Value) : Except Stop Unit :=
  match g.refusal? v with
  | none => .ok ()
  | some expected => .error (.mismatch expected v)

end Guard

end RollScript

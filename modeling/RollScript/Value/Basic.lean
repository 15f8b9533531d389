import RollScript.Expr.Basic

/-!
# Values, functions and environments

A value is a number, a string, the unit, an array or a function. A function is a closure or a
primitive with the arguments it has received so far. An environment is a chain of scopes; the scope
of a block holds the function literals that the block defines as they are written, and looking one
up closes it over the very scope it was found in, so that the functions of a block see each other
and themselves.
-/

namespace RollScript

/-- What an argument of a primitive must be. -/
inductive Guard where
  | any | number | unit | array | function | numbers
deriving DecidableEq, Repr

/-- How a primitive is carried out once it has all its arguments. -/
inductive Shape where
  /-- It computes its result from the arguments. -/
  | pure
  /-- It also draws random bits. -/
  | randomized
  /-- It asks the machine to call functions. -/
  | suspending
deriving DecidableEq, Repr

/-- The name of a shape. -/
def Shape.label : Shape → String
  | pure => "pure"
  | randomized => "randomized"
  | suspending => "suspending"

/-- The computations on values. -/
inductive Operation where
  | floor | ceil | round | abs
  | add | subtract | multiply | divide | modulo | power
  | less | lessOrEqual | greater | greaterOrEqual | equal | notEqual
  | larger | smaller | identity | negate | complement | sum
  | sort | length | least | greatest | highest | lowest
deriving DecidableEq, Repr

/-- The dice. -/
inductive Die where
  /-- A die with a number of sides or with given faces. -/
  | faces
  /-- A die with the faces minus one, zero and one. -/
  | fudge
deriving DecidableEq, Repr

/-- The functions that call other functions. -/
inductive Combinator where
  | map | reduce | drop | reroll | explode
deriving DecidableEq, Repr

/-- What a primitive does. -/
inductive Routine where
  | operation (op : Operation)
  | die (die : Die)
  | combinator (combinator : Combinator)
  /-- A function of the host, by its number. -/
  | host (id : Nat)
deriving DecidableEq, Repr

/-- A function that is not written in the language: its name, one guard for each parameter, and what
it does. -/
structure Primitive where
  name : Text
  guards : List Guard
  shape : Shape
  routine : Routine
deriving DecidableEq

/-- The number of parameters. -/
def Primitive.arity (p : Primitive) : Nat :=
  p.guards.length

mutual

/-- The values of the language. -/
inductive Value where
  | number (x : Float)
  | string (s : Text)
  | unit
  | array (items : List Value)
  | function (f : Function)

/-- A function takes one argument at a time. -/
inductive Function where
  /-- A function literal with the environment it was met in. -/
  | closure (parameter : Text) (body : Expr) (env : Env)
  /-- A primitive with the arguments it has received, the first one first. -/
  | primitive (p : Primitive) (bound : List Value)

/-- A chain of scopes, the innermost first. In a scope the first entry with a name counts. -/
inductive Env where
  | empty
  | scope (entries : List (Text × Entry)) (parent : Env)

/-- What a scope has under a name. -/
inductive Entry where
  | value (v : Value)
  /-- A function literal that the scope's own block defines. -/
  | literal (parameter : Text) (body : Expr)

end

instance : Inhabited Value := ⟨.unit⟩

namespace Env

/-- The value of a name: that of the innermost scope that has it. -/
def lookup (env : Env) (name : Text) : Option Value :=
  match env with
  | empty => none
  | scope entries parent =>
    match entries.lookup name with
    | some (.value v) => some v
    | some (.literal parameter body) => some (.function (.closure parameter body env))
    | none => parent.lookup name

/-- A scope with given values inside another environment. -/
def extend (parent : Env) (values : List (Text × Value)) : Env :=
  scope (values.map fun (name, v) => (name, .value v)) parent

/-- The environment of a call: the parameter's value inside the closure's environment. -/
def bind (parent : Env) (name : Text) (v : Value) : Env :=
  scope [(name, .value v)] parent

end Env

namespace Value

/-- Every value has a positive size. -/
theorem sizeOf_pos (v : Value) : 0 < sizeOf v := by
  cases v with
  | number => rw [number.sizeOf_spec]; omega
  | string => rw [string.sizeOf_spec]; omega
  | unit => rw [unit.sizeOf_spec]; omega
  | array => rw [array.sizeOf_spec]; omega
  | function => rw [function.sizeOf_spec]; omega

/-- The word for the kind of a value. -/
def kind : Value → String
  | number _ => "number"
  | string _ => "string"
  | unit => "unit"
  | array _ => "array"
  | function _ => "function"

/-- Whether a value is a number. -/
def isNumber : Value → Bool
  | number _ => true
  | _ => false

/-- Whether arrays are nested at most `depth` deep in a value. -/
def isNestedAtMost : Nat → Value → Bool
  | 0, array _ => false
  | depth + 1, array items => items.all (isNestedAtMost depth)
  | _, _ => true

/-- Only positive numbers count as true. -/
def truthy : Value → Bool
  | number x => 0 < x
  | _ => false

/-- One for true and zero for false. -/
def ofBool (b : Bool) : Value :=
  number (if b then 1 else 0)

end Value

end RollScript

import RollScript.Text.Quoted
import RollScript.Value.Basic

/-!
# Registries of primitives

A `Registry` holds primitives by name. Whoever adds one declares a guard for each parameter, and the
declaration must fit the implementation: it may not be empty, and an implementation with a fixed
number of parameters must take as many as there are guards, after the one that hands a randomized or
suspending implementation its random source or machine. `Registry.standard` holds the functions and
operators of the language.
-/

namespace RollScript

/-- Why a declaration does not fit an implementation. -/
inductive ArityError where
  | noParameters (name : Text)
  | different (name : Text) (declared : Nat) (taken : Int)
deriving DecidableEq

/-- The message of an arity error. -/
def ArityError.message : ArityError → String
  | noParameters name =>
    "Builtin " ++ Quoted.encode name ++ " must declare at least one parameter"
  | different name declared taken =>
    "Builtin " ++ Quoted.encode name ++ " declares " ++ toString declared ++
      " parameter(s) but its implementation takes " ++ toString taken

/-- An implementation: what it does, and how many parameters it requires if that is fixed. -/
structure Implementation where
  required : Option Nat
  routine : Routine

namespace Shape

/-- How many parameters of an implementation are not arguments. -/
def extraParameters : Shape → Nat
  | pure => 0
  | randomized => 1
  | suspending => 1

end Shape

/-- A primitive of the given declaration, if it fits the implementation. -/
def Primitive.declare (name : Text) (guards : List Guard) (shape : Shape)
    (implementation : Implementation) : Except ArityError Primitive :=
  if guards = [] then .error (.noParameters name)
  else
    match implementation.required with
    | none => .ok ⟨name, guards, shape, implementation.routine⟩
    | some required =>
      if required = guards.length + shape.extraParameters then
        .ok ⟨name, guards, shape, implementation.routine⟩
      else
        .error (.different name guards.length (required - shape.extraParameters))

/-- A function of the host as a primitive. Without guards it takes one argument of any kind. -/
def Primitive.wrap (name : Text) (guards : List Guard) (implementation : Implementation) :
    Except ArityError Primitive :=
  declare name (if guards = [] then [.any] else guards) .pure implementation

/-- Primitives by name. -/
structure Registry where
  entries : List (Text × Primitive)

namespace Registry

/-- The registry without primitives. -/
def empty : Registry := ⟨[]⟩

/-- The primitive of a name. -/
def get? (r : Registry) (name : Text) : Option Primitive :=
  r.entries.lookup name

/-- Whether a name has a primitive. -/
def contains (r : Registry) (name : Text) : Bool :=
  (r.get? name).isSome

/-- The names in order of code point. -/
def names (r : Registry) : List Text :=
  (r.entries.map Prod.fst).mergeSort Text.atMost

/-- Puts a primitive under its name, in place of any other. -/
def insert (r : Registry) (p : Primitive) : Registry :=
  ⟨(p.name, p) :: r.entries.filter fun entry => entry.1 ≠ p.name⟩

/-- Adds a primitive of the given declaration, if it fits the implementation. -/
def register (r : Registry) (name : Text) (guards : List Guard) (shape : Shape)
    (implementation : Implementation) : Except ArityError Registry :=
  (Primitive.declare name guards shape implementation).map r.insert

/-- The values of the names. -/
def values (r : Registry) : List (Text × Value) :=
  r.entries.map fun (name, p) => (name, .function (.primitive p []))

/-- A computation under a name. -/
def operation (name : String) (guards : List Guard) (op : Operation) : Primitive :=
  ⟨.ofString name, guards, .pure, .operation op⟩

/-- A die under a name. -/
def die (name : String) (guards : List Guard) (d : Die) : Primitive :=
  ⟨.ofString name, guards, .randomized, .die d⟩

/-- A combinator under a name. -/
def combinator (name : String) (guards : List Guard) (c : Combinator) : Primitive :=
  ⟨.ofString name, guards, .suspending, .combinator c⟩

/-- The functions and operators of the language. -/
def primitives : List Primitive := [
  operation "floor" [.number] .floor,
  operation "ceil" [.number] .ceil,
  operation "round" [.number] .round,
  operation "abs" [.number] .abs,
  operation "+" [.any, .any] .add,
  operation "-" [.number, .number] .subtract,
  operation "*" [.number, .number] .multiply,
  operation "/" [.number, .number] .divide,
  operation "%" [.number, .number] .modulo,
  operation "**" [.number, .number] .power,
  operation "<" [.number, .number] .less,
  operation "<=" [.number, .number] .lessOrEqual,
  operation ">" [.number, .number] .greater,
  operation ">=" [.number, .number] .greaterOrEqual,
  operation "=" [.any, .any] .equal,
  operation "!=" [.any, .any] .notEqual,
  operation "|" [.number, .number] .larger,
  operation "&" [.number, .number] .smaller,
  operation "+x" [.number] .identity,
  operation "-x" [.number] .negate,
  operation "!" [.number] .complement,
  operation "..." [.array] .sum,
  operation "sort" [.numbers] .sort,
  operation "len" [.array] .length,
  operation "min" [.numbers] .least,
  operation "max" [.numbers] .greatest,
  operation "highest" [.number, .numbers] .highest,
  operation "lowest" [.number, .numbers] .lowest,
  combinator "map" [.array, .function] .map,
  combinator "reduce" [.array, .function, .any] .reduce,
  combinator "drop" [.function, .array] .drop,
  die "d" [.any] .faces,
  die "dF" [.unit] .fudge,
  combinator "reroll" [.function, .function] .reroll,
  combinator "explode" [.number, .function, .function] .explode
]

/-- The registry of the functions and operators of the language. -/
def standard : Registry :=
  ⟨primitives.map fun p => (p.name, p)⟩

/-- The outermost scope of an evaluation. -/
def environment (r : Registry) : Env :=
  Env.empty.extend r.values

end Registry

end RollScript

import RollScript.Expr.Parse
import RollScript.Host.Value
import RollScript.Machine.Run
import RollScript.Primitive.Registry

/-!
# Running programs

A program is parsed, the values that the host gives to names are converted, and the tree is evaluated
in an environment with a registry's primitives outermost and the host's values inside it.
`Evaluator.run` does all three and returns a `Result`, which renders an error with its place in the
source. `Evaluator.session` runs several programs in one world.
-/

namespace RollScript

/-- How a program ended. -/
inductive Result where
  | value (v : Value)
  | syntaxError (error : SyntaxError)
  | cannotBind (name : Text) (cause : Cause)
  | evaluationError (cause : Cause) (span : Span)
  | aborted (abort : Abort)
  | unfinished

/-- The result of an evaluation. -/
def Outcome.toResult : Outcome → Result
  | value v => .value v
  | failed cause blame => .evaluationError cause blame.span
  | aborted abort => .aborted abort
  | unfinished => .unfinished

/-- Converts the values that a host gives to names, in order; the first that cannot be used decides the
result. -/
def bindAll : List (Text × HostValue) → Except Result (List (Text × Value))
  | [] => .ok []
  | (name, given) :: rest =>
    match given.toValue with
    | .ok v => (bindAll rest).map ((name, v) :: ·)
    | .error (.failed cause) => .error (.cannotBind name cause)
    | .error (.aborted abort) => .error (.aborted abort)
    | .error .unfinished => .error .unfinished

namespace Result

/-- Whether a program returned a value. -/
def isValue : Result → Bool
  | value _ => true
  | _ => false

/-- The message of an error without its location; the text of a value. -/
def message : Result → Text
  | value v => .ofString v.print
  | syntaxError error => .ofString error.message
  | cannotBind name cause =>
    .ofString ("Cannot bind " ++ Quoted.encode name ++ ": ") ++ cause.message
  | evaluationError cause _ => cause.message
  | aborted abort => .ofString abort.message
  | unfinished => []

/-- The text of a value, or an error with its place in the source. -/
def render (source : Text) : Result → Text
  | syntaxError error => error.render source
  | evaluationError cause span => Location.render ⟨source, span⟩ cause.message
  | r => r.message

end Result

/-- The steps after which an evaluation counts as unfinished, more than any computer makes. -/
def stepLimit : Nat := 4611686018427387904

/-- The environment of a program: the host's values, if there are any, inside the primitives. -/
def rootEnvironment (registry : Registry) (values : List (Text × Value)) : Env :=
  if values.isEmpty then registry.environment else registry.environment.extend values

/-- What a program is run with. -/
structure Evaluator (ω : Type) where
  world : World ω
  registry : Registry := .standard
  config : Config := .standard

namespace Evaluator

variable {ω : Type}

/-- Evaluates a tree. -/
def evaluate (e : Evaluator ω) (values : List (Text × Value)) (tree : Expr) (state : ω) :
    Result × ω :=
  let (outcome, state) :=
    evaluateWithin stepLimit e.world e.config (rootEnvironment e.registry values) tree state
  (outcome.toResult, state)

/-- Runs a program with the values that the host gives to names. An error of syntax comes before an
unusable value. -/
def run (e : Evaluator ω) (given : List (Text × HostValue)) (source : Text) (state : ω) :
    Result × ω :=
  match parse source with
  | .error error => (.syntaxError error, state)
  | .ok tree =>
    match bindAll given with
    | .error result => (result, state)
    | .ok values => e.evaluate values tree state

/-- Runs programs one after the other, each in the world that the one before it left. -/
def session (e : Evaluator ω) (given : List (Text × HostValue)) :
    List Text → ω → List Result × ω
  | [], state => ([], state)
  | source :: rest, state =>
    let (result, state) := e.run given source state
    let (results, state) := session e given rest state
    (result :: results, state)

end Evaluator

end RollScript

import RollScript.Primitive.Combinator
import RollScript.Primitive.Die

/-!
# Evaluation rules

`Expr.requests` is the rule for each kind of expression, `Function.respond` says what a function does
with an argument, and `Frame.requests` what a waiting frame does with its value. None of them
recurses into the machine: they return what they ask of it.
-/

namespace RollScript

/-- The evaluation of `left` more copies of an expression, after those done. -/
def repeatNext (done : List Value) (expr : Expr) (env : Env) : Nat → List Request
  | 0 => [.produce (.array done.reverse)]
  | left + 1 => [.push expr env (.repetition done left expr env)]

/-- The evaluation of the elements still to come, after those done. -/
def elementNext (done : List Value) (env : Env) : List Expr → List Request
  | [] => [.produce (.array done.reverse)]
  | e :: rest => [.push e env (.element done rest env)]

/-- The definitions still to come, after those done in reverse. A function literal is kept as it is
written; any other value is evaluated in the environment around the block. After the last one the
scope is complete, with the latest definition of a name in front, and the body is evaluated in it. -/
def defineNext (done : List (Text × Entry)) (body : Expr) (env : Env) :
    List (Text × Expr) → List Request
  | [] => [.evaluate body (.scope done env)]
  | (name, .function _ parameter literal) :: rest =>
    defineNext ((name, .literal parameter literal) :: done) body env rest
  | (name, value) :: rest => [.push value env (.definition done name rest body env)]

/-- The number of function literals at the front of definitions. -/
def leadingLiterals : List (Text × Expr) → Nat
  | (_, .function ..) :: rest => leadingLiterals rest + 1
  | _ => 0

/-- The definitions still to come, if there is room for the function literals at their front, each of
which takes two activations. -/
def defineWithin (room : Nat) (done : List (Text × Entry)) (body : Expr) (env : Env)
    (rest : List (Text × Expr)) : Except Stop (List Request) :=
  if room < 2 * leadingLiterals rest then .error (.aborted .tooDeep)
  else .ok (defineNext done body env rest)

/-- What an expression asks for when its evaluation starts. -/
def Expr.requests (room : Nat) (expr : Expr) (env : Env) : Except Stop (List Request) :=
  match expr with
  | number _ x => .ok [.produce (.number x)]
  | string _ s => .ok [.produce (.string s)]
  | unit _ => .ok [.produce .unit]
  | name _ x =>
    match env.lookup x with
    | some v => .ok [.produce v]
    | none => .error (.failed (.unbound x))
  | array _ elements => .ok (elementNext [] env elements)
  | apply _ callee argument => .ok [.push callee env (.callee argument env)]
  | function _ parameter body => .ok [.produce (.function (.closure parameter body env))]
  | block _ bindings body => defineWithin room [] body env bindings
  | choice _ condition whenTrue whenFalse =>
    .ok [.push condition env (.branch whenTrue whenFalse env)]

/-- An application goes on with its callee's value: a function is called with the argument, a number
repeats the argument, and an array is indexed by it. -/
def applyTo (argument : Expr) (env : Env) : Value → Except Stop (List Request)
  | .function f => .ok [.push argument env (.argument f)]
  | .number x => (Number.repetitions x).map (repeatNext [] argument env)
  | .array items => .ok [.push argument env (.index items)]
  | v => .error (.mismatch .callee v)

/-- The element of an array at a rounded index. -/
def elementAt (items : List Value) : Value → Except Stop (List Request)
  | .number x => do
    let i ← Number.rounded x
    if i < 0 then .error (.domain (.outOfBounds i items.length))
    else
      match items[i.toNat]? with
      | some v => .ok [.produce v]
      | none => .error (.domain (.outOfBounds i items.length))
  | v => .error (.mismatch .number v)

variable {ω : Type}

/-- Carries out a primitive that has all its arguments. -/
def Routine.perform (world : World ω) (patience : Nat) (routine : Routine) (args : List Value)
    (state : ω) : Except Stop (List Request) × ω :=
  match routine with
  | .operation op => ((op.apply args).map fun v => [.produce v], state)
  | .die d =>
    match d.roll world.draw patience args state with
    | (.ok v, later) => (.ok [.produce v], later)
    | (.error stop, later) => (.error stop, later)
  | .combinator c => (c.start args, state)
  | .host id => world.call id args state

/-- The activations that a routine adds to those under way when it calls another function. -/
def Routine.activations : Routine → Nat
  | .operation _ => 0
  | .die _ => 0
  | .combinator .drop => 3
  | .combinator _ => 4
  | .host _ => 3

/-- The activations that a function adds to those under way when one more argument makes it call
another function. -/
def Function.activations : Function → Nat
  | .closure .. => 0
  | .primitive p bound => if bound.length + 1 < p.arity then 0 else p.routine.activations

/-- What a function does with an argument. A closure's body is evaluated in the closure's environment
with the parameter bound. A primitive checks the argument; it is carried out if that was the last
one it needs, and otherwise keeps it. -/
def Function.respond (world : World ω) (patience : Nat) (f : Function) (v : Value) (state : ω) :
    Except Stop (List Request) × ω :=
  match f with
  | .closure parameter body env => (.ok [.evaluate body (env.bind parameter v)], state)
  | .primitive p bound =>
    match p.guards[bound.length]? with
    | none => (.error (.aborted .misapplied), state)
    | some guard =>
      match guard.check v with
      | .error stop => (.error stop, state)
      | .ok () =>
        let args := bound ++ [v]
        if args.length < p.arity then (.ok [.produce (.function (.primitive p args))], state)
        else p.routine.perform world patience args state

/-- What a waiting frame asks for when its value comes. -/
def Frame.requests (world : World ω) (config : Config) (frame : Frame) (v : Value) (state : ω) :
    Except Stop (List Request) × ω :=
  match frame with
  | .finish => (.ok [], state)
  | .callee operand env => (applyTo operand env v, state)
  | .argument f => (.ok [.invoke f v], state)
  | .element done rest env => (.ok (elementNext (v :: done) env rest), state)
  | .repetition done left expr env => (.ok (repeatNext (v :: done) expr env left), state)
  | .index items => (elementAt items v, state)
  | .definition done name rest body env =>
    (defineWithin world.room ((name, .value v) :: done) body env rest, state)
  | .branch whenTrue whenFalse env =>
    (.ok [.evaluate (if v.truthy then whenTrue else whenFalse) env], state)
  | .mapped f done rest => (.ok (Combinator.mapNext f (v :: done) rest), state)
  | .combining f item rest => (Combinator.reduceItem f item rest v, state)
  | .combined f rest => (.ok (Combinator.reduceNext f v rest), state)
  | .selected items => (Combinator.dropSelected items v, state)
  | .rolled roll accept attempts =>
    (.ok [.call accept v (.judged roll accept attempts v)], state)
  | .judged roll accept attempts result =>
    (Combinator.decideReroll config roll accept attempts result v, state)
  | .exploded roll again done left =>
    (.ok [.call again v (.repeated roll again (v :: done) left)], state)
  | .repeated roll again done left =>
    (.ok (Combinator.decideExplode roll again done left v), state)
  | .host id saved => world.resume id saved v state

end RollScript

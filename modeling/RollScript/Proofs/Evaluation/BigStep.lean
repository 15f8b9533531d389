import RollScript.Machine.Run

/-!
# Direct evaluation

Read `Evaluates` first: it says by recursion on the work to be done what an expression evaluates to,
without a stack, a step or a limit. `Calls` says the same of a call, and the other relations of the
block follow the loops of array literals, repetitions, definitions and combinators. An answer is a
value or a `Failure`, which names the expression to blame. Everything outside the language is a
`Surroundings`: its state is handed from rule to rule, so the rules also fix which random bits are
drawn and which functions of the host are called, and in which order.
-/

namespace RollScript

/-- What lies around an evaluation, with states of type `ω`: random bits, and functions of the host,
each of which returns a value or fails. -/
structure Surroundings (ω : Type) where
  /-- The next number of a given width in bits. -/
  draw : Random.BitSource ω
  /-- Calls a function of the host. -/
  host : Nat → List Value → ω → Except Stop Value × ω

variable {ω : Type}

/-- The world of a machine in given surroundings, with some room for nested activations. A function
of the host that returns at once is never resumed, so any `resume` will do. -/
def Surroundings.world (around : Surroundings ω)
    (resume : Nat → List Value → Value → ω → Except Stop (List Request) × ω) (room : Nat) :
    World ω where
  draw := around.draw
  call id args state :=
    ((around.host id args state).1.map fun v => [.produce v], (around.host id args state).2)
  resume := resume
  room := room

/-- How an evaluation fails: by an error of the language that an expression is blamed for, or by an
end from outside the language. -/
inductive Failure where
  | failed (cause : Cause) (blame : Expr)
  | aborted (abort : Abort)

/-- The failure that a stop amounts to when `blame` is under evaluation. Running out of steps is an
end of observation and no failure. -/
def Stop.failure? (blame : Expr) : Stop → Option Failure
  | .failed cause => some (.failed cause blame)
  | .aborted abort => some (.aborted abort)
  | .unfinished => none

/-- The answer that a computation amounts to when `blame` is under evaluation. -/
def answer? {α : Type} (blame : Expr) : Except Stop α → Option (Except Failure α)
  | .ok a => some (.ok a)
  | .error stop => (stop.failure? blame).map .error

/-- The element of an array at a rounded index. -/
def itemAt (items : List Value) : Value → Except Stop Value
  | .number x => do
    let i ← Number.rounded x
    if 0 ≤ i ∧ i < items.length then .ok (items.getD i.toNat .unit)
    else .error (.domain (.outOfBounds i items.length))
  | v => .error (.mismatch .number v)

/-- The elements that are left when selected ones are removed. -/
def itemsWithout (items : List Value) : Value → Except Stop Value
  | .array selected => .ok (.array (Tally.remove selected items))
  | v => .error (.mismatch .array v)

/-- The function that a value is. -/
def asFunction : Value → Except Stop Function
  | .function f => .ok f
  | v => .error (.mismatch .function v)

/-- Whether an expression is a function literal. -/
def Expr.isLiteral : Expr → Bool
  | .function .. => true
  | _ => false

/-- Whether a combinator can begin with the given arguments. -/
def Combinator.accepts : Combinator → List Value → Bool
  | map, [.array _, .function _] => true
  | reduce, [.array _, .function _, _] => true
  | drop, [.function _, .array _] => true
  | reroll, [.function _, .function _] => true
  | explode, [.number _, .function _, .function _] => true
  | _, _ => false

mutual

/-- `Evaluates around config env expr s a t`: the expression evaluates to the answer `a` in the
environment, and takes the surroundings from `s` to `t`. -/
inductive Evaluates (around : Surroundings ω) (config : Config) :
    Env → Expr → ω → Except Failure Value → ω → Prop where
  | number (env span x s) : Evaluates around config env (.number span x) s (.ok (.number x)) s
  | string (env span text s) :
      Evaluates around config env (.string span text) s (.ok (.string text)) s
  | unit (env span s) : Evaluates around config env (.unit span) s (.ok .unit) s
  | name (env span x v s) :
      env.lookup x = some v → Evaluates around config env (.name span x) s (.ok v) s
  | unbound (env span x s) :
      env.lookup x = none →
      Evaluates around config env (.name span x) s
        (.error (.failed (.unbound x) (.name span x))) s
  | function (env span parameter body s) :
      Evaluates around config env (.function span parameter body) s
        (.ok (.function (.closure parameter body env))) s
  | array (env span elements s a t) :
      EvaluatesEach around config env elements s a t →
      Evaluates around config env (.array span elements) s (a.map .array) t
  | callee_fails (env span callee argument s x t) :
      Evaluates around config env callee s (.error x) t →
      Evaluates around config env (.apply span callee argument) s (.error x) t
  | apply (env span callee argument s v t a u) :
      Evaluates around config env callee s (.ok v) t →
      Applies around config env (.apply span callee argument) argument v t a u →
      Evaluates around config env (.apply span callee argument) s a u
  | binding_fails (env span bindings body s x t) :
      Defines around config env bindings s (.error x) t →
      Evaluates around config env (.block span bindings body) s (.error x) t
  | block (env span bindings body s entries t a u) :
      Defines around config env bindings s (.ok entries) t →
      Evaluates around config (.scope entries.reverse env) body t a u →
      Evaluates around config env (.block span bindings body) s a u
  | condition_fails (env span condition whenTrue whenFalse s x t) :
      Evaluates around config env condition s (.error x) t →
      Evaluates around config env (.choice span condition whenTrue whenFalse) s (.error x) t
  | choice (env span condition whenTrue whenFalse s v t a u) :
      Evaluates around config env condition s (.ok v) t →
      Evaluates around config env (if v.truthy then whenTrue else whenFalse) t a u →
      Evaluates around config env (.choice span condition whenTrue whenFalse) s a u

/-- Expressions evaluate in order to as many values, up to the first that fails. -/
inductive EvaluatesEach (around : Surroundings ω) (config : Config) :
    Env → List Expr → ω → Except Failure (List Value) → ω → Prop where
  | nil (env s) : EvaluatesEach around config env [] s (.ok []) s
  | head_fails (env expr rest s x t) :
      Evaluates around config env expr s (.error x) t →
      EvaluatesEach around config env (expr :: rest) s (.error x) t
  | cons (env expr rest s v t a u) :
      Evaluates around config env expr s (.ok v) t →
      EvaluatesEach around config env rest t a u →
      EvaluatesEach around config env (expr :: rest) s (a.map (v :: ·)) u

/-- Definitions give the entries of a scope in order. A function literal is kept for the scope itself
to close; any other value is evaluated in the environment around the scope. -/
inductive Defines (around : Surroundings ω) (config : Config) :
    Env → List (Text × Expr) → ω → Except Failure (List (Text × Entry)) → ω → Prop where
  | nil (env s) : Defines around config env [] s (.ok []) s
  | literal (env name span parameter body rest s a t) :
      Defines around config env rest s a t →
      Defines around config env ((name, .function span parameter body) :: rest) s
        (a.map ((name, .literal parameter body) :: ·)) t
  | value_fails (env name expr rest s x t) :
      expr.isLiteral = false →
      Evaluates around config env expr s (.error x) t →
      Defines around config env ((name, expr) :: rest) s (.error x) t
  | value (env name expr rest s v t a u) :
      expr.isLiteral = false →
      Evaluates around config env expr s (.ok v) t →
      Defines around config env rest t a u →
      Defines around config env ((name, expr) :: rest) s (a.map ((name, .value v) :: ·)) u

/-- `Applies around config env blame argument callee s a t`: an application whose callee has the
value `callee` goes on to the answer `a`. A function is called with the argument's value, a number
repeats the argument, and an array is indexed by it. -/
inductive Applies (around : Surroundings ω) (config : Config) :
    Env → Expr → Expr → Value → ω → Except Failure Value → ω → Prop where
  | argument_fails (env blame argument f s x t) :
      Evaluates around config env argument s (.error x) t →
      Applies around config env blame argument (.function f) s (.error x) t
  | call (env blame argument f s v t a u) :
      Evaluates around config env argument s (.ok v) t →
      Calls around config blame f v t a u →
      Applies around config env blame argument (.function f) s a u
  | uncountable (env blame argument x s failure) :
      answer? blame (Number.repetitions x) = some (.error failure) →
      Applies around config env blame argument (.number x) s (.error failure) s
  | repetition (env blame argument x count s a t) :
      Number.repetitions x = .ok count →
      EvaluatesEach around config env (List.replicate count argument) s a t →
      Applies around config env blame argument (.number x) s (a.map .array) t
  | index_fails (env blame argument items s x t) :
      Evaluates around config env argument s (.error x) t →
      Applies around config env blame argument (.array items) s (.error x) t
  | index (env blame argument items s v t a) :
      Evaluates around config env argument s (.ok v) t →
      answer? blame (itemAt items v) = some a →
      Applies around config env blame argument (.array items) s a t
  | string (env blame argument text s) :
      Applies around config env blame argument (.string text) s
        (.error (.failed (.mismatch .callee (Value.string text).print) blame)) s
  | unit (env blame argument s) :
      Applies around config env blame argument .unit s
        (.error (.failed (.mismatch .callee Value.unit.print) blame)) s

/-- `Calls around config blame f v s a t`: the call of `f` with `v` has the answer `a`. A closure's
body is evaluated in the closure's environment with the parameter bound. A primitive checks the
argument; it is carried out if that was the last one it needs, and otherwise keeps it. -/
inductive Calls (around : Surroundings ω) (config : Config) :
    Expr → Function → Value → ω → Except Failure Value → ω → Prop where
  | closure (blame parameter body env v s a t) :
      Evaluates around config (env.bind parameter v) body s a t →
      Calls around config blame (.closure parameter body env) v s a t
  | overfull (blame p bound v s) :
      p.guards[bound.length]? = none →
      Calls around config blame (.primitive p bound) v s (.error (.aborted .misapplied)) s
  | refused (blame p bound v s guard expected) :
      p.guards[bound.length]? = some guard → guard.refusal? v = some expected →
      Calls around config blame (.primitive p bound) v s
        (.error (.failed (.mismatch expected v.print) blame)) s
  | more (blame p bound v s guard) :
      p.guards[bound.length]? = some guard → guard.refusal? v = none →
      bound.length + 1 < p.arity →
      Calls around config blame (.primitive p bound) v s
        (.ok (.function (.primitive p (bound ++ [v])))) s
  | full (blame p bound v s guard a t) :
      p.guards[bound.length]? = some guard → guard.refusal? v = none →
      p.arity ≤ bound.length + 1 →
      Performs around config blame p.routine (bound ++ [v]) s a t →
      Calls around config blame (.primitive p bound) v s a t

/-- `Performs around config blame routine args s a t`: a primitive's routine has the answer `a` for
all its arguments. -/
inductive Performs (around : Surroundings ω) (config : Config) :
    Expr → Routine → List Value → ω → Except Failure Value → ω → Prop where
  | operation (blame op args s a) :
      answer? blame (op.apply args) = some a →
      Performs around config blame (.operation op) args s a s
  | die (blame die args patience s thrown a t) :
      die.roll around.draw patience args s = (thrown, t) → answer? blame thrown = some a →
      Performs around config blame (.die die) args s a t
  | host (blame id args s returned a t) :
      around.host id args s = (returned, t) → answer? blame returned = some a →
      Performs around config blame (.host id) args s a t
  | misapplied (blame c args s) :
      c.accepts args = false →
      Performs around config blame (.combinator c) args s (.error (.aborted .misapplied)) s
  | map (blame items f s a t) :
      Maps around config blame f items s a t →
      Performs around config blame (.combinator .map) [.array items, .function f] s
        (a.map .array) t
  | reduce (blame items f initial s a t) :
      Folds around config blame f initial items s a t →
      Performs around config blame (.combinator .reduce) [.array items, .function f, initial] s a t
  | selector_fails (blame f items s x t) :
      Calls around config blame f (.array items) s (.error x) t →
      Performs around config blame (.combinator .drop) [.function f, .array items] s (.error x) t
  | drop (blame f items s v t a) :
      Calls around config blame f (.array items) s (.ok v) t →
      answer? blame (itemsWithout items v) = some a →
      Performs around config blame (.combinator .drop) [.function f, .array items] s a t
  | reroll (blame roll accept s a t) :
      Rerolls around config blame roll accept 1 s a t →
      Performs around config blame (.combinator .reroll) [.function roll, .function accept] s a t
  | uncountable (blame x roll again s failure) :
      answer? blame (Number.repetitions x) = some (.error failure) →
      Performs around config blame (.combinator .explode)
        [.number x, .function roll, .function again] s (.error failure) s
  | explode (blame x roll again count s a t) :
      Number.repetitions x = .ok count →
      Explodes around config blame roll again count s a t →
      Performs around config blame (.combinator .explode)
        [.number x, .function roll, .function again] s (a.map .array) t

/-- `map` calls its function with each element in order. -/
inductive Maps (around : Surroundings ω) (config : Config) :
    Expr → Function → List Value → ω → Except Failure (List Value) → ω → Prop where
  | nil (blame f s) : Maps around config blame f [] s (.ok []) s
  | head_fails (blame f v rest s x t) :
      Calls around config blame f v s (.error x) t →
      Maps around config blame f (v :: rest) s (.error x) t
  | cons (blame f v rest s w t a u) :
      Calls around config blame f v s (.ok w) t →
      Maps around config blame f rest t a u →
      Maps around config blame f (v :: rest) s (a.map (w :: ·)) u

/-- `reduce` calls its function with the accumulated value, and what that returns with the next
item. -/
inductive Folds (around : Surroundings ω) (config : Config) :
    Expr → Function → Value → List Value → ω → Except Failure Value → ω → Prop where
  | nil (blame f acc s) : Folds around config blame f acc [] s (.ok acc) s
  | function_fails (blame f acc item rest s x t) :
      Calls around config blame f acc s (.error x) t →
      Folds around config blame f acc (item :: rest) s (.error x) t
  | cons (blame f acc item rest s v t a u) :
      Calls around config blame f acc s (.ok v) t →
      Combines around config blame f item rest v t a u →
      Folds around config blame f acc (item :: rest) s a u

/-- `reduce` goes on when its function has returned a value for the accumulated one. -/
inductive Combines (around : Surroundings ω) (config : Config) :
    Expr → Function → Value → List Value → Value → ω → Except Failure Value → ω → Prop where
  | no_function (blame f item rest v s failure) :
      answer? blame (asFunction v) = some (.error failure) →
      Combines around config blame f item rest v s (.error failure) s
  | item_fails (blame f item rest g s x t) :
      Calls around config blame g item s (.error x) t →
      Combines around config blame f item rest (.function g) s (.error x) t
  | item (blame f item rest g s acc t a u) :
      Calls around config blame g item s (.ok acc) t →
      Folds around config blame f acc rest t a u →
      Combines around config blame f item rest (.function g) s a u

/-- `reroll` makes its `attempts`-th roll and judges it. -/
inductive Rerolls (around : Surroundings ω) (config : Config) :
    Expr → Function → Function → Nat → ω → Except Failure Value → ω → Prop where
  | roll_fails (blame roll accept attempts s x t) :
      Calls around config blame roll .unit s (.error x) t →
      Rerolls around config blame roll accept attempts s (.error x) t
  | verdict_fails (blame roll accept attempts s v t x u) :
      Calls around config blame roll .unit s (.ok v) t →
      Calls around config blame accept v t (.error x) u →
      Rerolls around config blame roll accept attempts s (.error x) u
  | verdict (blame roll accept attempts s v t verdict u a w) :
      Calls around config blame roll .unit s (.ok v) t →
      Calls around config blame accept v t (.ok verdict) u →
      Judges around config blame roll accept attempts v verdict u a w →
      Rerolls around config blame roll accept attempts s a w

/-- `reroll` takes a roll that is accepted, or the last one it may make, and else rolls again. -/
inductive Judges (around : Surroundings ω) (config : Config) :
    Expr → Function → Function → Nat → Value → Value → ω → Except Failure Value → ω → Prop where
  | accepted (blame roll accept attempts v verdict s) :
      verdict.truthy = true →
      Judges around config blame roll accept attempts v verdict s (.ok v) s
  | last (blame roll accept attempts v verdict s) :
      verdict.truthy = false → config.maxRerolls ≤ attempts → config.whenExhausted = .last →
      Judges around config blame roll accept attempts v verdict s (.ok v) s
  | exhausted (blame roll accept attempts v verdict s) :
      verdict.truthy = false → config.maxRerolls ≤ attempts → config.whenExhausted = .error →
      Judges around config blame roll accept attempts v verdict s
        (.error (.failed (.domain .rerollsExhausted) blame)) s
  | again (blame roll accept attempts v verdict s a t) :
      verdict.truthy = false → attempts < config.maxRerolls →
      Rerolls around config blame roll accept (attempts + 1) s a t →
      Judges around config blame roll accept attempts v verdict s a t

/-- `explode` makes `left` rolls and, after each roll that is to be repeated, one more. -/
inductive Explodes (around : Surroundings ω) (config : Config) :
    Expr → Function → Function → Nat → ω → Except Failure (List Value) → ω → Prop where
  | done (blame roll again s) : Explodes around config blame roll again 0 s (.ok []) s
  | roll_fails (blame roll again left s x t) :
      Calls around config blame roll .unit s (.error x) t →
      Explodes around config blame roll again (left + 1) s (.error x) t
  | verdict_fails (blame roll again left s v t x u) :
      Calls around config blame roll .unit s (.ok v) t →
      Calls around config blame again v t (.error x) u →
      Explodes around config blame roll again (left + 1) s (.error x) u
  | verdict (blame roll again left s v t verdict u a w) :
      Calls around config blame roll .unit s (.ok v) t →
      Calls around config blame again v t (.ok verdict) u →
      Explodes around config blame roll again (if verdict.truthy then left + 1 else left) u a w →
      Explodes around config blame roll again (left + 1) s (a.map (v :: ·)) w

end

end RollScript

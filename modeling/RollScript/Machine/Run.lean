import RollScript.Machine.Rules

/-!
# The machine

Read `Machine.step` first. The machine keeps the expressions still to be evaluated, a stack of
waiting frames, and a value that waits to be delivered. One step delivers that value to the topmost
frame, or else starts the evaluation of the topmost expression. With every frame the machine keeps
the expression that was being evaluated when the frame was pushed; an error is blamed on the
expression whose evaluation or frame was under way.
-/

namespace RollScript

/-- The state of an evaluation. -/
structure Machine (ω : Type) where
  /-- Expressions to be evaluated, the next one first. -/
  work : List (Expr × Env)
  /-- Waiting frames with the expressions they are blamed on, the topmost first. -/
  frames : List (Frame × Expr)
  /-- A value on its way to the topmost frame. -/
  pending : Option Value
  /-- The expression under evaluation. -/
  blame : Expr
  /-- What the whole evaluation has returned. -/
  results : List Value
  /-- The state of the world. -/
  world : ω

/-- How a step went. -/
inductive Status where
  | running
  | over
  | stopped (stop : Stop)

/-- How an evaluation ended. -/
inductive Outcome where
  | value (v : Value)
  | failed (cause : Cause) (blame : Expr)
  | aborted (abort : Abort)
  | unfinished

namespace Machine

variable {ω : Type}

/-- The machine before the evaluation of an expression. -/
def start (expr : Expr) (env : Env) (state : ω) : Machine ω where
  work := [(expr, env)]
  frames := [(.finish, expr)]
  pending := none
  blame := expr
  results := []
  world := state

/-- Pushes a frame. -/
def pushFrame (m : Machine ω) (frame : Frame) : Machine ω :=
  { m with frames := (frame, m.blame) :: m.frames }

/-- Adds an expression to the work. -/
def pushWork (m : Machine ω) (expr : Expr) (env : Env) : Machine ω :=
  { m with work := (expr, env) :: m.work }

/-- Calls a function, if there is room for its activations. -/
def callWithin (world : World ω) (patience room : Nat) (f : Function) (v : Value) (state : ω) :
    Except Stop (List Request) × ω :=
  if room < f.activations then (.error (.aborted .tooDeep), state)
  else f.respond world patience v state

/-- Fulfils requests in order, with room for nested activations. A call is answered at once: what the
function asks for comes before the requests that are left. -/
def perform (world : World ω) : Nat → Nat → List Request → Machine ω → Status × Machine ω
  | _, _, [], m => (.running, m)
  | 0, _, _ :: _, m => (.stopped .unfinished, m)
  | patience + 1, room, request :: rest, m =>
    match request with
    | .produce v =>
      match m.pending with
      | some _ => (.stopped (.aborted .producedTwice), m)
      | none => perform world patience room rest { m with pending := some v }
    | .evaluate expr env => perform world patience room rest (m.pushWork expr env)
    | .push expr env frame =>
      perform world patience room rest ((m.pushFrame frame).pushWork expr env)
    | .invoke f v =>
      match callWithin world patience room f v m.world with
      | (.error stop, state) => (.stopped stop, { m with world := state })
      | (.ok requests, state) =>
        perform world patience (room - f.activations) (requests ++ rest) { m with world := state }
    | .call f v frame =>
      let m := m.pushFrame frame
      match callWithin world patience room f v m.world with
      | (.error stop, state) => (.stopped stop, { m with world := state })
      | (.ok requests, state) =>
        perform world patience (room - f.activations) (requests ++ rest) { m with world := state }

/-- Delivers the pending value or starts an evaluation. -/
def step (world : World ω) (config : Config) (patience : Nat) (m : Machine ω) :
    Status × Machine ω :=
  match m.pending, m.frames, m.work with
  | some _, [], _ => (.stopped (.aborted .unbalanced), m)
  | some v, (frame, blame) :: frames, _ =>
    let m := { m with pending := none, frames, blame }
    match frame with
    | .finish => (.running, { m with results := m.results ++ [v] })
    | _ =>
      match frame.requests world config v m.world with
      | (.error stop, state) => (.stopped stop, { m with world := state })
      | (.ok requests, state) =>
        perform world patience world.room requests { m with world := state }
  | none, _, (expr, env) :: work =>
    let m := { m with work, blame := expr }
    match expr.requests world.room env with
    | .error stop => (.stopped stop, m)
    | .ok requests => perform world patience world.room requests m
  | none, _, [] => (.over, m)

/-- What a machine that is over has returned. -/
def outcome (m : Machine ω) : Outcome :=
  match m.frames, m.results with
  | [], [v] => .value v
  | _, _ => .aborted .unbalanced

/-- How an evaluation ends that was stopped. -/
def stopped (m : Machine ω) : Stop → Outcome
  | .failed cause => .failed cause m.blame
  | .aborted abort => .aborted abort
  | .unfinished => .unfinished

/-- Runs a machine for at most the given number of steps. -/
def run (world : World ω) (config : Config) : Nat → Machine ω → Outcome × Machine ω
  | 0, m => (.unfinished, m)
  | fuel + 1, m =>
    match m.step world config fuel with
    | (.running, m) => run world config fuel m
    | (.over, m) => (m.outcome, m)
    | (.stopped stop, m) => (m.stopped stop, m)

end Machine

/-- Evaluates an expression in an environment, with at most `fuel` steps. -/
def evaluateWithin {ω : Type} (fuel : Nat) (world : World ω) (config : Config) (env : Env)
    (expr : Expr) (state : ω) : Outcome × ω :=
  let (outcome, m) := (Machine.start expr env state).run world config fuel
  (outcome, m.world)

end RollScript

import RollScript.Program
import RollScript.Proofs.Evaluation.Discipline
import RollScript.Scope.Store

/-!
# A machine with scopes that change

An environment of `Machine.step` never changes: the scope of a block is made when the last of its
definitions is known. The machine of this module makes the scope of a block first, with no names in
it, closes the block's function literals over it while other definitions are still to come, and
defines all its names in the end. Its scopes are kept in a store that is part of its world. Read
`Scoped.defineNext` first; all other rules are those of `Machine.step`, but that names are looked up
in the store and that a call makes a scope there.
-/

namespace RollScript

namespace ScopeStore

/-- The number of the scope around a scope. -/
def outer (s : ScopeStore) (id : Nat) : Option Nat :=
  s.scopes[id]?.bind Scope.parent

/-- Defines names in a scope, one after the other. -/
def fill (s : ScopeStore) (id : Nat) (values : List (Text × Value)) : ScopeStore :=
  values.foldl (fun s definition => s.define id definition.1 definition.2) s

/-- The store in which a program starts: one scope with the primitives of the language. -/
def standard : ScopeStore :=
  ⟨[⟨Registry.standard.values, none⟩]⟩

end ScopeStore

namespace Scoped

/-- The environment that stands for the scope with a given number in the store. -/
def address : Nat → Env
  | 0 => .empty
  | id + 1 => .scope [] (address id)

/-- The number of the scope that an environment stands for. -/
def number : Env → Nat
  | .empty => 0
  | .scope _ parent => number parent + 1

@[simp] theorem number_address (id : Nat) : number (address id) = id := by
  induction id with
  | zero => rfl
  | succ id ih => rw [address, number, ih]

/-- The value of a definition in the scope with a given number. -/
def valueOf (id : Nat) : Entry → Value
  | .value v => v
  | .literal parameter body => .function (.closure parameter body (address id))

/-- The definitions of the block with a given scope that are still to come, after those done in
reverse. A function literal is closed over the scope at once; any other value is evaluated in the
scope around it. After the last one all names are defined, in order, and the body is evaluated. -/
def defineNext (scopes : ScopeStore) (id : Nat) (body : Expr) (done : List (Text × Entry)) :
    List (Text × Expr) → List Request × ScopeStore
  | [] =>
    ([.evaluate body (address id)],
      scopes.fill id (done.reverse.map fun entry => (entry.1, valueOf id entry.2)))
  | (name, .function _ parameter literal) :: rest =>
    defineNext scopes id body
      ((name, .value (.function (.closure parameter literal (address id)))) :: done) rest
  | (name, value) :: rest =>
    ([.push value (address ((scopes.outer id).getD 0))
      (.definition done name rest body (address id))], scopes)

variable {ω : Type}

/-- The definitions still to come, if there is room for the function literals at their front. -/
def defineWithin (room id : Nat) (body : Expr) (done : List (Text × Entry))
    (rest : List (Text × Expr)) (state : ω × ScopeStore) :
    Except Stop (List Request) × (ω × ScopeStore) :=
  if room < 2 * leadingLiterals rest then (.error (.aborted .tooDeep), state)
  else
    let (requests, scopes) := defineNext state.2 id body done rest
    (.ok requests, (state.1, scopes))

/-- What an expression asks for when its evaluation starts. -/
def exprRequests (room : Nat) (expr : Expr) (env : Env) (state : ω × ScopeStore) :
    Except Stop (List Request) × (ω × ScopeStore) :=
  match expr with
  | .name _ x =>
    match state.2.lookup (number env) x with
    | some v => (.ok [.produce v], state)
    | none => (.error (.failed (.unbound x)), state)
  | .block _ bindings body =>
    let (id, scopes) := state.2.create (some (number env)) []
    defineWithin room id body [] bindings (state.1, scopes)
  | _ => (expr.requests room env, state)

/-- What a rule returns that does not touch the scopes. -/
def beside (scopes : ScopeStore) (returned : Except Stop (List Request) × ω) :
    Except Stop (List Request) × (ω × ScopeStore) :=
  (returned.1, (returned.2, scopes))

/-- What a waiting frame asks for when its value comes. -/
def frameRequests (world : World ω) (config : Config) (frame : Frame) (v : Value)
    (state : ω × ScopeStore) : Except Stop (List Request) × (ω × ScopeStore) :=
  match frame with
  | .definition done name rest body env =>
    defineWithin world.room (number env) body ((name, .value v) :: done) rest state
  | _ => beside state.2 (frame.requests world config v state.1)

/-- What a function does with an argument. A closure's body is evaluated in a new scope with the
parameter, inside the closure's scope. -/
def respond (world : World ω) (patience : Nat) (f : Function) (v : Value)
    (state : ω × ScopeStore) : Except Stop (List Request) × (ω × ScopeStore) :=
  match f with
  | .closure parameter body env =>
    let (id, scopes) := state.2.create (some (number env)) [(parameter, v)]
    (.ok [.evaluate body (address id)], (state.1, scopes))
  | .primitive .. => beside state.2 (f.respond world patience v state.1)

/-- Calls a function, if there is room for its activations. -/
def callWithin (world : World ω) (patience room : Nat) (f : Function) (v : Value)
    (state : ω × ScopeStore) : Except Stop (List Request) × (ω × ScopeStore) :=
  if room < f.activations then (.error (.aborted .tooDeep), state)
  else respond world patience f v state

/-- Fulfils requests in order, with room for nested activations. -/
def perform (world : World ω) : Nat → Nat → List Request → Machine (ω × ScopeStore) →
    Status × Machine (ω × ScopeStore)
  | _, _, [], m => (.running, m)
  | 0, _, _ :: _, m => (.stopped .unfinished, m)
  | patience + 1, room, request :: rest, m =>
    match request with
    | .produce v =>
      match m.pending with
      | some _ => (.stopped (.aborted .producedTwice), m)
      | none => perform world patience room rest { m with pending := some v }
    | .evaluate expr env => perform world patience room rest (m.pushWork expr env)
    | .push expr env frame =>
      perform world patience room rest ((m.pushFrame frame).pushWork expr env)
    | .invoke f v =>
      match callWithin world patience room f v m.world with
      | (.error stop, state) => (.stopped stop, { m with world := state })
      | (.ok requests, state) =>
        perform world patience (room - f.activations) (requests ++ rest) { m with world := state }
    | .call f v frame =>
      let m := m.pushFrame frame
      match callWithin world patience room f v m.world with
      | (.error stop, state) => (.stopped stop, { m with world := state })
      | (.ok requests, state) =>
        perform world patience (room - f.activations) (requests ++ rest) { m with world := state }

/-- Calls a function and goes on with what it asks for, before the requests that are left. -/
def afterCall (world : World ω) (patience room : Nat) (f : Function) (v : Value)
    (rest : List Request) (m : Machine (ω × ScopeStore)) : Status × Machine (ω × ScopeStore) :=
  match callWithin world patience room f v m.world with
  | (.error stop, state) => (.stopped stop, { m with world := state })
  | (.ok requests, state) =>
    perform world patience (room - f.activations) (requests ++ rest) { m with world := state }

/-- Goes on with what a rule has returned. -/
def proceed (world : World ω) (patience room : Nat) (m : Machine (ω × ScopeStore)) :
    Except Stop (List Request) × (ω × ScopeStore) → Status × Machine (ω × ScopeStore)
  | (.error stop, state) => (.stopped stop, { m with world := state })
  | (.ok requests, state) => perform world patience room requests { m with world := state }

/-- Delivers the pending value or starts an evaluation. -/
def step (world : World ω) (config : Config) (patience : Nat) (m : Machine (ω × ScopeStore)) :
    Status × Machine (ω × ScopeStore) :=
  match m.pending, m.frames, m.work with
  | some _, [], _ => (.stopped (.aborted .unbalanced), m)
  | some v, (frame, blame) :: frames, _ =>
    let m := { m with pending := none, frames, blame }
    match frame with
    | .finish => (.running, { m with results := m.results ++ [v] })
    | _ => proceed world patience world.room m (frameRequests world config frame v m.world)
  | none, _, (expr, env) :: work =>
    let m := { m with work, blame := expr }
    proceed world patience world.room m (exprRequests world.room expr env m.world)
  | none, _, [] => (.over, m)

/-- The machine before a program is evaluated. -/
def start (tree : Expr) (state : ω) : Machine (ω × ScopeStore) :=
  Machine.start tree (address 0) (state, .standard)

/-- Runs a machine for at most the given number of steps. -/
def run (world : World ω) (config : Config) : Nat → Machine (ω × ScopeStore) →
    Outcome × Machine (ω × ScopeStore)
  | 0, m => (.unfinished, m)
  | fuel + 1, m =>
    match step world config fuel m with
    | (.running, m) => run world config fuel m
    | (.over, m) => (m.outcome, m)
    | (.stopped stop, m) => (m.stopped stop, m)

/-- Evaluates a program, with at most `fuel` steps. -/
def evaluateWithin (fuel : Nat) (world : World ω) (config : Config) (tree : Expr) (state : ω) :
    Outcome × ω :=
  let (outcome, m) := run world config fuel (start tree state)
  (outcome, m.world.1)

/-- One turn of the loop. -/
def Turns (world : World ω) (config : Config) (m m' : Machine (ω × ScopeStore)) : Prop :=
  ∃ patience, step world config patience m = (.running, m')

/-- A machine comes to another at the head of its loop. -/
def Reaches (world : World ω) (config : Config) :
    Machine (ω × ScopeStore) → Machine (ω × ScopeStore) → Prop :=
  Relation.ReflTransGen (Turns world config)

end Scoped

end RollScript

import RollScript.Program
import RollScript.Proofs.Evaluation.Following

/-!
# Applications of primitives

Read `Gives` first: an expression gives a value if the machine, whatever frames wait, goes on with the
value handed to them. Names, primitives that lack arguments, operations, and `drop` with an operation as
its selector each have a rule, so what a small program gives is put together along its tree.
-/

namespace RollScript

/-- An expression is evaluated to a value in an environment for whatever frames wait, in every world with
room for one combinator, and leaves the world as it is. -/
def Gives (env : Env) (expr : Expr) (v : Value) : Prop :=
  ∀ ⦃ω : Type⦄ ⦃world : World ω⦄ ⦃config : Config⦄ ⦃frames : List (Frame × Expr)⦄ ⦃s u : ω⦄
    ⦃o : Outcome⦄, 3 ≤ world.room → Halts world config (returning v frames s) o u →
      Halts world config (evaluating expr env frames s) o u

/-- A call returns a value to whatever frames wait, with any budget of activations from `need` on. -/
def CallGives (need : Nat) (f : Function) (v w : Value) : Prop :=
  ∀ ⦃ω : Type⦄ ⦃world : World ω⦄ ⦃config : Config⦄ ⦃frames : List (Frame × Expr)⦄ ⦃blame : Expr⦄
    ⦃budget : Nat⦄ ⦃s u : ω⦄ ⦃o : Outcome⦄, need ≤ budget →
      Halts world config (returning w frames s) o u →
        Responds world config budget [.invoke f v] (between frames blame s) o u

/-! ## Calls -/

section Calls

variable {p : Primitive} {bound : List Value} (guard : Guard) {v w : Value}

/-- A primitive keeps an argument if it lacks others. -/
theorem returns_partial (hguard : p.guards[bound.length]? = some guard) (hpass : guard.refusal? v = none)
    (hmore : bound.length + 1 < p.arity) :
    CallGives 0 (.primitive p bound) v (.function (.primitive p (bound ++ [v]))) := by
  intro ω world config frames blame budget s u o _ h
  have hactivations : (Function.primitive p bound).activations = 0 := if_pos hmore
  refine responds_invoke (by omega) (Function.respond_more 0 hguard hpass hmore) ?_
  exact proceeds_ok (responds_produce h)

/-- An operation that has all its arguments returns what it computes. -/
theorem returns_operation {op : Operation} (hguard : p.guards[bound.length]? = some guard)
    (hpass : guard.refusal? v = none) (hfull : p.arity ≤ bound.length + 1)
    (hroutine : p.routine = .operation op) (hop : op.apply (bound ++ [v]) = .ok w) :
    CallGives 0 (.primitive p bound) v w := by
  intro ω world config frames blame budget s u o _ h
  have hactivations : (Function.primitive p bound).activations = 0 := by
    rw [Function.activations, hroutine]
    exact ite_self 0
  have hrespond : (Function.primitive p bound).respond world 0 v s = (.ok [.produce w], s) := by
    rw [Function.respond_full 0 hguard hpass hfull, hroutine, Routine.perform, hop]
    rfl
  exact responds_invoke (by omega) hrespond (proceeds_ok (responds_produce h))

/-- `drop` returns what is left of its array when its selector has returned the array to remove. -/
theorem returns_drop {f : Function} {items selected : List Value}
    (hselector : CallGives 0 f (.array items) (.array selected)) (hguards : p.guards = [.function, .array])
    (hroutine : p.routine = .combinator .drop) :
    CallGives 3 (.primitive p [.function f]) (.array items) (.array (Tally.remove selected items)) := by
  intro ω world config frames blame budget s u o hbudget h
  have harity : p.arity = 2 := congrArg List.length hguards
  have hfull : p.arity ≤ [Value.function f].length + 1 := Nat.le_of_eq harity
  have hactivations : (Function.primitive p [.function f]).activations = 3 := by
    rw [Function.activations, if_neg (Nat.not_lt.2 hfull), hroutine, Routine.activations]
  have hrespond : (Function.primitive p [.function f]).respond world 0 (.array items) s =
      (.ok [.call f (.array items) (.selected items)], s) := by
    have hguard : p.guards[1]? = some .array := by rw [hguards]; rfl
    rw [Function.respond_full 0 hguard rfl hfull, hroutine]
    rfl
  refine responds_invoke (by omega) hrespond (proceeds_ok (responds_call ?_))
  refine hselector (Nat.zero_le _) (halts_deliver (by simp) rfl ?_)
  exact proceeds_ok (responds_produce h)

end Calls

/-! ## Expressions -/

section Expressions

variable {env : Env} {span : Span} {callee argument : Expr} {f : Function} {v w : Value}

theorem gives_name {x : Text} (h : env.lookup x = some v) : Gives env (.name span x) v := by
  intro ω world config frames s u o _ hv
  have hrequests : (Expr.name span x).requests world.room env = .ok [.produce v] := by
    rw [Expr.requests, h]
  exact halts_evaluating hrequests (proceeds_ok (responds_produce hv))

/-- An application gives what the call returns of the function that the callee gives. -/
theorem gives_apply {need : Nat} (hcallee : Gives env callee (.function f))
    (hargument : Gives env argument v) (hneed : need ≤ 3) (h : CallGives need f v w) :
    Gives env (.apply span callee argument) w := by
  intro ω world config frames s u o hroom hw
  -- One frame waits for the callee and one for the argument.
  refine halts_evaluating rfl (proceeds_ok (responds_push (hcallee hroom ?_)))
  refine halts_deliver (by simp) rfl (proceeds_ok (responds_push (hargument hroom ?_)))
  refine halts_deliver (by simp) rfl (proceeds_ok ?_)
  exact h (Nat.le_trans hneed hroom) hw

end Expressions

/-- The program parses, and evaluating it with some given values ends with a value, in every world with
room for one combinator and without a change to the world. -/
def ProgramGives (given : List (Text × Value)) (program : String) (v : Value) : Prop :=
  ∃ expr, parse (.ofString program) = .ok expr ∧
    ∀ {ω : Type} (world : World ω) (config : Config) (s : ω), 3 ≤ world.room →
      ∃ fuel, ∀ more, fuel ≤ more →
        evaluateWithin more world config (rootEnvironment .standard given) expr s = (.value v, s)

/-- A program gives what its tree gives. -/
theorem Gives.program {given : List (Text × Value)} {program : String} {expr : Expr} {v : Value}
    (h : Gives (rootEnvironment .standard given) expr v) (hparse : parse (.ofString program) = .ok expr) :
    ProgramGives given program v := by
  refine ⟨expr, hparse, fun world config s hroom => ?_⟩
  have hhalts : Halts world config (Machine.start expr (rootEnvironment .standard given) s) (.value v) s :=
    (h hroom (halts_finish v expr)).any_blame (.inr (by simp)) expr
  obtain ⟨hdone, fuel, final, hrun, hworld⟩ := hhalts
  refine ⟨fuel, fun more hmore => ?_⟩
  rw [evaluateWithin, Machine.run_mono hmore hrun hdone]
  exact congrArg (Prod.mk _) hworld

end RollScript

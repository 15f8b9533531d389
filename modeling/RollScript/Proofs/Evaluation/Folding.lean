import Mathlib
import RollScript.Proofs.Evaluation.Applications
import RollScript.Proofs.Evaluation.Stops

/-!
# Folding

Read `sum_agrees_with_reduce` first: the fold `...` adds up in one go what `reduce` adds up call by call, with
a value for the waiting frames after each. A computation on values either has a result, with which the machine
goes on, or it fails with a cause (`Leads`). The general fact is `callAnswers_reduce`: `reduce` with a
function of two arguments that computes some step has the answer of the fold with this step.
-/

namespace RollScript

variable {ω : Type}

/-- A machine that ends in the ways `P` has an answer for its frames: it ends as it does when they get the
result, or it fails with the cause. -/
def Leads (world : World ω) (config : Config) (frames : List (Frame × Expr)) (s : ω)
    (P : Outcome → ω → Prop) : Except Stop Value → Prop
  | .ok v => ∀ o u, Halts world config (returning v frames s) o u → P o u
  | .error (.failed cause) => ∃ blame, P (.failed cause blame) s
  | .error _ => True

section Leads

variable {world : World ω} {config : Config} {frames others : List (Frame × Expr)} {s : ω}
  {P Q : Outcome → ω → Prop} {a : Except Stop Value}

theorem Leads.imp (h : Leads world config frames s P a) (hPQ : ∀ o u, P o u → Q o u) :
    Leads world config frames s Q a := by
  cases a with
  | ok v => exact fun o u hv => hPQ o u (h o u hv)
  | error stop =>
      cases stop with
      | failed cause =>
          obtain ⟨blame, hfailed⟩ := h
          exact ⟨blame, hPQ _ _ hfailed⟩
      | aborted | unfinished => trivial

/-- A result is handed to frames that go on with it; a failure ends the machine whatever frames wait. -/
theorem Leads.bind {next : Value → Except Stop Value} (h : Leads world config others s P a)
    (hnext : ∀ v, Leads world config frames s (Halts world config (returning v others s)) (next v)) :
    Leads world config frames s P (a >>= next) := by
  cases a with
  | ok v => exact (hnext v).imp h
  | error stop => cases stop <;> exact h

end Leads

/-- An expression has an answer in an environment, in every world with room for one combinator and without a
change to the world. -/
def Answers (env : Env) (expr : Expr) (a : Except Stop Value) : Prop :=
  ∀ ⦃ω : Type⦄ ⦃world : World ω⦄ ⦃config : Config⦄ ⦃frames : List (Frame × Expr)⦄ ⦃s : ω⦄,
    4 ≤ world.room → Leads world config frames s (Halts world config (evaluating expr env frames s)) a

/-- A call has an answer, with any budget of activations from `need` on. -/
def CallAnswers (need : Nat) (f : Function) (v : Value) (a : Except Stop Value) : Prop :=
  ∀ ⦃ω : Type⦄ ⦃world : World ω⦄ ⦃config : Config⦄ ⦃frames : List (Frame × Expr)⦄ ⦃blame : Expr⦄
    ⦃budget : Nat⦄ ⦃s : ω⦄, 4 ≤ world.room → need ≤ budget →
      Leads world config frames s (Responds world config budget [.invoke f v] (between frames blame s)) a

/-! ## Expressions and calls -/

section Rules

variable {env : Env} {span : Span} {callee argument body : Expr} {f : Function} {v : Value} {need : Nat}
  {a : Except Stop Value}

theorem Gives.answers (h : Gives env argument v) : Answers env argument (.ok v) :=
  fun _ _ _ _ _ hroom _ _ hv => h (Nat.le_of_succ_le hroom) hv

theorem gives_function {x : Text} : Gives env (.function span x body) (.function (.closure x body env)) :=
  fun _ _ _ _ _ _ _ _ hv => halts_evaluating rfl (proceeds_ok (responds_produce hv))

/-- An application has the answer of the call of the function that the callee gives. -/
theorem answers_apply (hcallee : Gives env callee (.function f)) (hargument : Gives env argument v)
    (hneed : need ≤ 4) (h : CallAnswers need f v a) : Answers env (.apply span callee argument) a := by
  intro ω world config frames s hroom
  have hthree : 3 ≤ world.room := Nat.le_of_succ_le hroom
  have hcalled : Leads world config frames s (Responds world config world.room [.invoke f v]
      (between frames (.apply span callee argument) s)) a := h hroom (Nat.le_trans hneed hroom)
  refine hcalled.imp fun o u hcall => ?_
  -- One frame waits for the callee and one for the argument.
  refine halts_evaluating rfl (proceeds_ok (responds_push (hcallee hthree ?_)))
  refine halts_deliver (by simp) rfl (proceeds_ok (responds_push (hargument hthree ?_)))
  exact halts_deliver (by simp) rfl (proceeds_ok hcall)

/-- A call of a closure has the answer of its body. -/
theorem callAnswers_closure {x : Text} (h : Answers (env.bind x v) body a) :
    CallAnswers 0 (.closure x body env) v a := by
  intro ω world config frames blame budget s hroom _
  refine (h hroom).imp fun o u hbody => ?_
  exact responds_invoke (Nat.zero_le budget) (Function.respond_closure 0)
    (proceeds_ok (responds_evaluate hbody))

/-- A call of an operation that completes its arguments has the answer of the operation. -/
theorem callAnswers_operation {p : Primitive} {bound : List Value} (guard : Guard) {op : Operation}
    (hguard : p.guards[bound.length]? = some guard) (hpass : guard.refusal? v = none)
    (hfull : p.arity ≤ bound.length + 1) (hroutine : p.routine = .operation op) :
    CallAnswers 0 (.primitive p bound) v (op.apply (bound ++ [v])) := by
  intro ω world config frames blame budget s _ _
  have hactivations : (Function.primitive p bound).activations = 0 := by
    rw [Function.activations, hroutine]
    exact ite_self 0
  have hrespond : (Function.primitive p bound).respond world 0 v s =
      ((op.apply (bound ++ [v])).map fun w => [.produce w], s) := by
    rw [Function.respond_full 0 hguard hpass hfull, hroutine]
    rfl
  have hbudget : (Function.primitive p bound).activations ≤ budget := by omega
  cases hop : op.apply (bound ++ [v]) with
  | ok w =>
      rw [hop] at hrespond
      exact fun o u hw => responds_invoke hbudget hrespond (proceeds_ok (responds_produce hw))
  | error stop =>
      rw [hop] at hrespond
      cases stop with
      | failed cause =>
          have hfailure : (Stop.failed cause).failure? blame = some (.failed cause blame) := rfl
          exact ⟨blame, responds_invoke hbudget hrespond (proceeds_error hfailure)⟩
      | aborted | unfinished => trivial

/-! ## `reduce` -/

/-- The function takes two arguments, one after the other, and has the answer of a step on them. -/
def Computes (f : Function) (step : Value → Value → Except Stop Value) : Prop :=
  ∀ v, ∃ g, CallAnswers 0 f v (.ok (.function g)) ∧ ∀ w, CallAnswers 0 g w (step v w)

/-- From the accumulated value and the items that are left `reduce` has the answer of the fold. -/
theorem reduceNext_leads {step : Value → Value → Except Stop Value} (hf : Computes f step)
    (items : List Value) (acc : Value) {world : World ω} {config : Config} {frames : List (Frame × Expr)}
    (blame : Expr) (budget : Nat) {s : ω} (hroom : 4 ≤ world.room) :
    Leads world config frames s
      (Responds world config budget (Combinator.reduceNext f acc items) (between frames blame s))
      (items.foldlM step acc) := by
  induction items generalizing acc budget with
  | nil => exact fun o u hv => responds_produce hv
  | cons item rest ih =>
      rw [List.foldlM_cons]
      obtain ⟨g, hfirst, hsecond⟩ := hf acc
      -- The function is called twice, and the second answer comes to a frame with the items that are left.
      have hstep : Leads world config ((.combined f rest, blame) :: frames) s
          (Responds world config budget [.call f acc (.combining f item rest)] (between frames blame s))
          (step acc item) := by
        have hcalled : Leads world config ((.combined f rest, blame) :: frames) s
            (Responds world config world.room [.invoke g item]
              (between ((.combined f rest, blame) :: frames) blame s)) (step acc item) :=
          hsecond item hroom (Nat.zero_le world.room)
        refine hcalled.imp fun o u hcall => ?_
        refine responds_call (hfirst hroom (Nat.zero_le budget) o u ?_)
        exact halts_deliver (by simp) rfl (proceeds_ok (responds_call hcall))
      refine hstep.bind fun v => ?_
      exact (ih v world.room).imp fun o u hrest => halts_deliver (by simp) rfl (proceeds_ok hrest)

/-- The primitive `reduce`. -/
def reduction : Primitive :=
  Registry.combinator "reduce" [.array, .function, .any] .reduce

/-- A call of `reduce` has the answer of the fold. -/
theorem callAnswers_reduce {step : Value → Value → Except Stop Value} (hf : Computes f step)
    (items : List Value) (initial : Value) :
    CallAnswers 4 (.primitive reduction [.array items, .function f]) initial (items.foldlM step initial) := by
  intro ω world config frames blame budget s hroom hbudget
  refine (reduceNext_leads hf items initial blame (budget - 4) hroom).imp fun o u hrest => ?_
  have hrespond : (Function.primitive reduction [.array items, .function f]).respond world 0 initial s =
      (.ok (Combinator.reduceNext f initial items), s) := rfl
  exact responds_invoke hbudget hrespond (proceeds_ok hrest)

end Rules

/-! ## Programs -/

/-- An evaluation ended as an answer says: with the value, or with the cause, whatever expression is
blamed. -/
def Outcome.Tells (o : Outcome) : Except Cause Value → Prop
  | .ok v => o = .value v
  | .error cause => ∃ blame, o = .failed cause blame

/-- The program parses, and evaluating it with some given values ends as the answer says, in every world with
room for one combinator and without a change to the world. -/
def ProgramAnswers (given : List (Text × Value)) (program : String) (a : Except Cause Value) : Prop :=
  ∃ expr, parse (.ofString program) = .ok expr ∧
    ∀ {ω : Type} (world : World ω) (config : Config) (s : ω), 4 ≤ world.room →
      ∃ o fuel, o.Tells a ∧ ∀ more, fuel ≤ more →
        evaluateWithin more world config (rootEnvironment .standard given) expr s = (o, s)

/-- A program has the answer of its tree. -/
theorem Answers.program {given : List (Text × Value)} {program : String} {expr : Expr}
    {a : Except Cause Value} (h : Answers (rootEnvironment .standard given) expr (a.mapError .failed))
    (hparse : parse (.ofString program) = .ok expr) : ProgramAnswers given program a := by
  refine ⟨expr, hparse, fun world config s hroom => ?_⟩
  have hhalts : ∃ o : Outcome, o.Tells a ∧
      Halts world config (evaluating expr (rootEnvironment .standard given) [(.finish, expr)] s) o s := by
    cases a with
    | ok v => exact ⟨_, rfl, h hroom _ _ (halts_finish v expr)⟩
    | error cause =>
        obtain ⟨blame, hfailed⟩ := h hroom
        exact ⟨_, ⟨blame, rfl⟩, hfailed⟩
  obtain ⟨o, htells, hhalts⟩ := hhalts
  obtain ⟨hdone, fuel, final, hrun, hworld⟩ := hhalts.any_blame (.inr (by simp)) expr
  refine ⟨o, fuel, htells, fun more hmore => ?_⟩
  rw [evaluateWithin, Machine.start]
  rw [Machine.run_mono hmore hrun hdone]
  exact congrArg (Prod.mk o) hworld

/-! ## Adding up -/

section Sum

variable (first : Value) (rest : List Value)

/-- The values of the names in the program for `...`. -/
def summed : List (Text × Value) :=
  [(.ofString "xs", .array (first :: rest))]

/-- The values of the names in the program for `reduce`. -/
def reduced : List (Text × Value) :=
  [(.ofString "xs", .array rest), (.ofString "z", first)]

/-- The tree of `a + x` in the program for `reduce`. -/
def addition : Expr :=
  .apply ⟨18, 23⟩ (.apply ⟨18, 21⟩ (.name ⟨20, 21⟩ (.ofString "+")) (.name ⟨18, 19⟩ (.ofString "a")))
    (.name ⟨22, 23⟩ (.ofString "x"))

/-- The tree of `reduce xs, (@a @x a + x), z`. -/
def reducing : Expr :=
  .apply ⟨0, 27⟩
    (.apply ⟨0, 23⟩ (.apply ⟨0, 9⟩ (.name ⟨0, 6⟩ (.ofString "reduce")) (.name ⟨7, 9⟩ (.ofString "xs")))
      (.function ⟨12, 23⟩ (.ofString "a") (.function ⟨15, 23⟩ (.ofString "x") addition)))
    (.name ⟨26, 27⟩ (.ofString "z"))

/-- The function of the program adds its arguments. -/
theorem addition_computes :
    Computes (.closure (.ofString "a") (.function ⟨15, 23⟩ (.ofString "x") addition)
      (rootEnvironment .standard (reduced first rest))) Value.add := by
  intro v
  refine ⟨_, callAnswers_closure gives_function.answers, fun w => callAnswers_closure ?_⟩
  have hpartial : CallGives 0 (.primitive (Registry.operation "+" [.any, .any] .add) []) v
      (.function (.primitive (Registry.operation "+" [.any, .any] .add) [v])) :=
    returns_partial .any rfl rfl (by decide)
  have hfull : CallAnswers 0 (.primitive (Registry.operation "+" [.any, .any] .add) [v]) w
      (Operation.add.apply [v, w]) :=
    callAnswers_operation .any rfl rfl (Nat.le_refl 2) rfl
  exact answers_apply (gives_apply (gives_name rfl) (gives_name rfl) (Nat.zero_le 3) hpartial)
    (gives_name rfl) (Nat.zero_le 4) hfull

/-- The fold of the array has the answer of `sum`. -/
theorem answers_sum :
    Answers (rootEnvironment .standard (summed first rest))
      (.apply ⟨0, 6⟩ (.name ⟨0, 3⟩ (.ofString "...")) (.name ⟨4, 6⟩ (.ofString "xs")))
      (Value.sum (first :: rest)) := by
  have hsum : CallAnswers 0 (.primitive (Registry.operation "..." [.array] .sum) []) (.array (first :: rest))
      (Operation.sum.apply [.array (first :: rest)]) :=
    callAnswers_operation .array rfl rfl (Nat.le_refl 1) rfl
  exact answers_apply (gives_name rfl) (gives_name rfl) (Nat.zero_le 4) hsum

/-- Reducing the array after its first element has the answer of `sum` too. -/
theorem answers_reduce :
    Answers (rootEnvironment .standard (reduced first rest)) reducing (Value.sum (first :: rest)) := by
  let scope : Env := rootEnvironment .standard (reduced first rest)
  let f : Function := .closure (.ofString "a") (.function ⟨15, 23⟩ (.ofString "x") addition) scope
  have harray : CallGives 0 (.primitive reduction []) (.array rest)
      (.function (.primitive reduction [.array rest])) :=
    returns_partial .array rfl rfl (by decide)
  have hfunction : CallGives 0 (.primitive reduction [.array rest]) (.function f)
      (.function (.primitive reduction [.array rest, .function f])) :=
    returns_partial .function rfl rfl (Nat.lt_succ_self 2)
  have hpartial : Gives scope
      (.apply ⟨0, 9⟩ (.name ⟨0, 6⟩ (.ofString "reduce")) (.name ⟨7, 9⟩ (.ofString "xs")))
      (.function (.primitive reduction [.array rest])) :=
    gives_apply (gives_name rfl) (gives_name rfl) (Nat.zero_le 3) harray
  exact answers_apply (gives_apply hpartial gives_function (Nat.zero_le 3) hfunction) (gives_name rfl)
    (Nat.le_refl 4) (callAnswers_reduce (addition_computes first rest) rest first)

end Sum

/-- Adding up either has a result or fails with a cause. -/
theorem exists_sum (items : List Value) :
    ∃ a : Except Cause Value, Value.sum items = a.mapError .failed := by
  cases hsum : Value.sum items with
  | ok v => exact ⟨.ok v, rfl⟩
  | error stop =>
      have hvalues := Value.sum_stops items stop hsum
      cases stop with
      | failed cause => exact ⟨.error cause, rfl⟩
      | aborted | unfinished => cases hvalues

/-- For any array with a first element, adding it up with `...` and reducing the others with an addition from
the first one end alike: with the same value or with the same cause. -/
theorem sum_agrees_with_reduce (first : Value) (rest : List Value) :
    ∃ a : Except Cause Value, Value.sum (first :: rest) = a.mapError .failed ∧
      ProgramAnswers (summed first rest) "... xs" a ∧
      ProgramAnswers (reduced first rest) "reduce xs, (@a @x a + x), z" a := by
  obtain ⟨a, ha⟩ := exists_sum (first :: rest)
  have hsum := answers_sum first rest
  have hreduce := answers_reduce first rest
  rw [ha] at hsum hreduce
  exact ⟨a, ha, hsum.program (by cbv), hreduce.program (by cbv)⟩

end RollScript

import RollScript.Proofs.Evaluation.Custody
import RollScript.Proofs.Evaluation.Following

/-!
# Calls within calls

A closure that is called leaves its body to the loop of the machine, but a combinator calls at once the
first function that it needs, and that may be a combinator again. So the calls of one turn are nested in
each other (`Nests`). Read `calls_nest_without_bound` first: there are no more of them than there are
combinators in the function and the argument of the first one, but since a program can build a function
of any number of combinators, no number is enough for all turns of all programs. One program that shows
this (`growing`) is followed turn by turn, until the room for its calls is used up.
-/

namespace RollScript

variable {ω : Type}

/-! ## Combinators in values -/

/-- A combinator counts for one. -/
def Routine.combinators : Routine → Nat
  | .operation _ => 0
  | .die _ => 0
  | .combinator _ => 1
  | .host _ => 0

mutual

/-- The number of combinators in a value. Those that a closure can get hold of do not count. -/
def Value.combinators : Value → Nat
  | .number _ => 0
  | .string _ => 0
  | .unit => 0
  | .array items => Value.combinatorsIn items
  | .function f => f.combinators

/-- The number of combinators in several values. -/
def Value.combinatorsIn : List Value → Nat
  | [] => 0
  | v :: rest => v.combinators + Value.combinatorsIn rest

/-- The number of combinators in a function: itself, and those among its arguments. -/
def Function.combinators : Function → Nat
  | .closure .. => 0
  | .primitive p bound => p.routine.combinators + Value.combinatorsIn bound

end

open Value (combinatorsIn)

theorem Value.combinatorsIn_append (items others : List Value) :
    combinatorsIn (items ++ others) = combinatorsIn items + combinatorsIn others := by
  induction items with
  | nil => simp [combinatorsIn]
  | cons v rest ih => simp only [List.cons_append, combinatorsIn, ih, Nat.add_assoc]

/-! ## What a call calls -/

/-- The call that a request asks for, if it asks for one. -/
def Request.call? : Request → Option (Function × Value)
  | .invoke f v => some (f, v)
  | .call f v _ => some (f, v)
  | _ => none

/-- The number of combinators that the call of a request has to do with. -/
def Request.combinators (request : Request) : Nat :=
  match request.call? with
  | some (f, v) => f.combinators + v.combinators
  | none => 0

/-- What a combinator calls at once is among its arguments. -/
theorem Combinator.start_combinators {c : Combinator} {args : List Value} {requests : List Request}
    (h : c.start args = .ok requests) :
    ∀ request ∈ requests, request.combinators ≤ combinatorsIn args := by
  fun_cases Combinator.start c args with
  | case1 items f | case2 items f initial =>
      cases h
      cases items with
      | nil => exact List.forall_mem_singleton.2 (Nat.zero_le _)
      | cons item rest =>
          refine List.forall_mem_singleton.2 ?_
          simp only [Request.combinators, Request.call?, combinatorsIn, Value.combinators]
          omega
  | case3 f items | case4 roll accept =>
      cases h
      refine List.forall_mem_singleton.2 ?_
      simp only [Request.combinators, Request.call?, combinatorsIn, Value.combinators]
      omega
  | case5 x roll again =>
      simp only [Combinator.start] at h
      cases hcount : Number.repetitions x with
      | error stop =>
          rw [hcount] at h
          cases h
      | ok count =>
          rw [hcount] at h
          cases h
          cases count with
          | zero => exact List.forall_mem_singleton.2 (Nat.zero_le _)
          | succ count =>
              refine List.forall_mem_singleton.2 ?_
              simp only [Request.combinators, Request.call?, combinatorsIn, Value.combinators]
              omega
  | case6 => simp_all [Combinator.start]

/-- A call makes another one before it returns: the function that is called asks for it. -/
def Nests (world : World ω) (call inner : Function × Value) : Prop :=
  ∃ patience s t requests request, call.1.respond world patience call.2 s = (.ok requests, t) ∧
    request ∈ requests ∧ request.call? = some inner

section Surroundings

variable {around : Surroundings ω}
  {resume : Nat → List Value → Value → ω → Except Stop (List Request) × ω} {room : Nat}

/-- Only a combinator calls another function, one that it has been given. -/
theorem Routine.perform_combinators {routine : Routine} {patience : Nat} {args : List Value} {s t : ω}
    {requests : List Request}
    (h : routine.perform (around.world resume room) patience args s = (.ok requests, t))
    {request : Request} (hrequest : request ∈ requests) {inner : Function × Value}
    (hcall : request.call? = some inner) :
    inner.1.combinators + inner.2.combinators < routine.combinators + combinatorsIn args := by
  have hnone : ∀ {result : Except Stop Value},
      result.map (fun w => [Request.produce w]) = .ok requests → False := by
    intro result hresult
    cases result with
    | error stop => cases hresult
    | ok w =>
        cases hresult
        cases List.mem_singleton.1 hrequest
        cases hcall
  cases routine with
  | operation op => exact (hnone (Prod.mk.inj h).1).elim
  | host id => exact (hnone (Prod.mk.inj h).1).elim
  | die d =>
      simp only [perform] at h
      split at h
      · cases h
        cases List.mem_singleton.1 hrequest
        cases hcall
      · cases h
  | combinator c =>
      have hargs := Combinator.start_combinators (Prod.mk.inj h).1 request hrequest
      simp only [Request.combinators, hcall] at hargs
      simp only [Routine.combinators]
      omega

/-- A call in a call has to do with fewer combinators. -/
theorem Nests.combinators_lt {call inner : Function × Value}
    (h : Nests (around.world resume room) call inner) :
    inner.1.combinators + inner.2.combinators < call.1.combinators + call.2.combinators := by
  obtain ⟨patience, s, t, requests, request, hrespond, hrequest, hcall⟩ := h
  obtain ⟨f, v⟩ := call
  cases f with
  | closure parameter body env =>
      cases hrespond
      cases List.mem_singleton.1 hrequest
      cases hcall
  | primitive p bound =>
      cases hguard : p.guards[bound.length]? with
      | none =>
          rw [Function.respond_overfull patience hguard] at hrespond
          cases hrespond
      | some guard =>
          cases hrefusal : guard.refusal? v with
          | some expected =>
              rw [Function.respond_refused patience hguard hrefusal] at hrespond
              cases hrespond
          | none =>
              by_cases hmore : bound.length + 1 < p.arity
              · rw [Function.respond_more patience hguard hrefusal hmore] at hrespond
                cases hrespond
                cases List.mem_singleton.1 hrequest
                cases hcall
              · rw [Function.respond_full patience hguard hrefusal (Nat.le_of_not_lt hmore)] at hrespond
                have hless := Routine.perform_combinators hrespond hrequest hcall
                simp only [Value.combinatorsIn_append, combinatorsIn] at hless
                simp only [Function.combinators]
                omega

/-! ## The calls of a turn -/

/-- Each of the calls is made in the one before. -/
abbrev Nested (world : World ω) (calls : List (Function × Value)) : Prop :=
  calls.IsChain (Nests world)

/-- Nested calls are no more than one and the combinators that the outermost has to do with. -/
theorem nested_length {call : Function × Value} {calls : List (Function × Value)}
    (h : Nested (around.world resume room) (call :: calls)) :
    calls.length ≤ call.1.combinators + call.2.combinators := by
  induction calls generalizing call with
  | nil => exact Nat.zero_le _
  | cons inner rest ih =>
      obtain ⟨hnests, hrest⟩ := List.isChain_cons_cons.1 h
      exact Nat.lt_of_le_of_lt (ih hrest) hnests.combinators_lt

theorem Function.respond_single {patience : Nat} {f : Function} {v : Value} {s t : ω}
    {returned : Except Stop (List Request)}
    (h : f.respond (around.world resume room) patience v s = (returned, t)) : Single returned := by
  have haccounts : Accounts around .standard default returned t (Calls around .standard default f v s) :=
    respond_accounts patience f v h
  exact haccounts.1

theorem Expr.requests_single (around : Surroundings ω) (s : ω) (room : Nat) (expr : Expr) (env : Env) :
    Single (expr.requests room env) := by
  have haccounts : Accounts around .standard expr (expr.requests room env) s
      (Evaluates around .standard env expr s) :=
    expr_accounts expr env
  exact haccounts.1

theorem Frame.requests_single {config : Config} {frame : Frame} (hframe : frame.isPart = true) {v : Value}
    {s t : ω} {returned : Except Stop (List Request)}
    (h : frame.requests (around.world resume room) config v s = (returned, t)) : Single returned := by
  have haccounts : Accounts around config default returned t (frame.Takes around config default v s) :=
    frame_accounts frame hframe v h
  exact haccounts.1

namespace Machine

/-- What is called for a request is nested, and the request asks for the outermost call. -/
theorem Fulfils.nested {budget : Nat} {requests : List Request} {m final : Machine ω}
    {calls : List (Function × Value)} {status : Status}
    (h : Fulfils (around.world resume room) budget requests m calls status final)
    (hsingle : requests.length ≤ 1) :
    Nested (around.world resume room) calls ∧
      ∀ call ∈ calls.head?, ∃ request ∈ requests, request.call? = some call := by
  induction h with
  | done | unfinished | twice => exact ⟨.nil, by simp⟩
  | produce _ _ ih | evaluate _ ih | push _ ih =>
      obtain ⟨hnested, hhead⟩ := ih (by simp at hsingle; simp [hsingle])
      refine ⟨hnested, fun call hcall => ?_⟩
      obtain ⟨request, hrequest, hasked⟩ := hhead call hcall
      exact ⟨request, List.mem_cons_of_mem _ hrequest, hasked⟩
  | @call _ f v frame rest _ _ _ _ _ ih =>
      obtain ⟨hnested, hhead⟩ := ih hsingle
      refine ⟨hnested, fun call hcall => ?_⟩
      obtain ⟨request, hrequest, hasked⟩ := hhead call hcall
      rcases List.mem_cons.1 hrequest with rfl | hrest
      · exact ⟨_, List.mem_cons_self, hasked⟩
      · exact ⟨request, List.mem_cons_of_mem _ hrest, hasked⟩
  | refused rest _ => exact ⟨.singleton _, by simp [Request.call?]⟩
  -- a function that is called asks for one thing at most
  | @invoke _ patience f v requests rest m _ _ _ t hcall _ ih =>
      obtain ⟨-, hrespond⟩ := callWithin_ok hcall
      obtain ⟨inner, rfl, -⟩ := Function.respond_single hrespond requests rfl
      obtain rfl : rest = [] := List.length_eq_zero_iff.1 (by simpa using hsingle)
      obtain ⟨hnested, hhead⟩ := ih (by simp)
      refine ⟨List.isChain_cons.2 ⟨fun call hfirst => ?_, hnested⟩, by simp [Request.call?]⟩
      obtain ⟨request, hrequest, hasked⟩ := hhead call hfirst
      exact ⟨patience, m.world, t, [inner], request, hrespond, by simpa using hrequest, hasked⟩

theorem GoesOn.nested {returned : Except Stop (List Request)} {m final : Machine ω} {t : ω}
    {calls : List (Function × Value)} {status : Status}
    (h : GoesOn (around.world resume room) m (returned, t) calls status final) (hsingle : Single returned) :
    Nested (around.world resume room) calls := by
  cases h with
  | stopped => exact .nil
  | fulfilled hfulfils =>
      obtain ⟨request, rfl, -⟩ := hsingle _ rfl
      exact (hfulfils.nested (by simp)).1

/-- The calls of a turn are nested. -/
theorem Steps.nested {config : Config} {expr : Expr} {m final : Machine ω} {calls : List (Function × Value)}
    {status : Status} (hsteps : Steps (around.world resume room) config m calls status final)
    (h : Orderly expr m) : Nested (around.world resume room) calls := by
  cases h with
  | finished =>
      cases hsteps with
      | idle => exact .nil
  | working hwork =>
      cases hwork with
      | @evaluating e env top blame s =>
          generalize top ++ [(Frame.finish, expr)] = frames at hsteps
          cases hsteps with
          | start hrequests hgoes =>
              exact hgoes.nested (hrequests ▸ e.requests_single around s room env)
      | @delivering v top blame s htop =>
          cases top with
          | nil =>
              cases hsteps with
              | finish => exact .nil
              | deliver hframe => exact absurd rfl hframe
          | cons entry top =>
              cases hsteps with
              | finish => exact .nil
              | @deliver _ frame before _ _ _ _ _ returned _ _ _ _ hrequests hgoes =>
                  have hpart : frame.isPart = true := htop (frame, before) List.mem_cons_self
                  exact hgoes.nested (Frame.requests_single hpart hrequests)

end Machine

end Surroundings

/-! ## A program whose calls nest ever deeper -/

/-- A program that goes on forever: it calls a function with an empty array, and then goes on with a
function that drops what this one selects. -/
def growing : Text :=
  .ofString "let grow @f let y f [] in grow (drop f) in grow @x x"

namespace Growing

/-- What the program does with a function. -/
def body : Expr :=
  .block ⟨12, 39⟩
    [(.ofString "y", .apply ⟨18, 22⟩ (.name ⟨18, 19⟩ (.ofString "f")) (.array ⟨20, 22⟩ []))]
    (.apply ⟨26, 39⟩ (.name ⟨26, 30⟩ (.ofString "grow"))
      (.apply ⟨32, 38⟩ (.name ⟨32, 36⟩ (.ofString "drop")) (.name ⟨37, 38⟩ (.ofString "f"))))

/-- The tree of the program. -/
def tree : Expr :=
  .block ⟨0, 52⟩ [(.ofString "grow", .function ⟨9, 39⟩ (.ofString "f") body)]
    (.apply ⟨43, 52⟩ (.name ⟨43, 47⟩ (.ofString "grow"))
      (.function ⟨48, 52⟩ (.ofString "x") (.name ⟨51, 52⟩ (.ofString "x"))))

theorem parse_eq : parse growing = .ok tree := by
  cbv

/-- The scope of the program. -/
def scope : Env :=
  .scope [(.ofString "grow", .literal (.ofString "f") body)] (rootEnvironment .standard [])

/-- The primitive `drop`. -/
def drop : Primitive :=
  Registry.combinator "drop" [.function, .array] .drop

/-- The function that the program has after some rounds. -/
def selector : Nat → Function
  | 0 => .closure (.ofString "x") (.name ⟨51, 52⟩ (.ofString "x")) scope
  | n + 1 => .primitive drop [.function (selector n)]

/-- The machine at the beginning of a round. -/
def atBody {ω : Type} (f : Function) (blame : Expr) (s : ω) : Machine ω where
  work := [(body, scope.bind (.ofString "f") (.function f))]
  frames := [(.finish, tree)]
  pending := none
  blame := blame
  results := []
  world := s

/-- The frames of the definition in a round. -/
def definition (f : Function) : List (Frame × Expr) :=
  [(.definition [] (.ofString "y") [] (.apply ⟨26, 39⟩ (.name ⟨26, 30⟩ (.ofString "grow"))
      (.apply ⟨32, 38⟩ (.name ⟨32, 36⟩ (.ofString "drop")) (.name ⟨37, 38⟩ (.ofString "f"))))
    (scope.bind (.ofString "f") (.function f)), body), (.finish, tree)]

end Growing

/-! ### Single turns -/

namespace Machine

variable {world : World ω} {config : Config} {work : List (Expr × Env)} {frames : List (Frame × Expr)}
  {before blame callee argument body : Expr} {span : Span} {env : Env} {x : Text} {v : Value}
  {results : List Value} {s : ω}

/-- The call that a request asks for comes before those that come of it. -/
theorem report_invoke {patience budget : Nat} {f : Function} {requests : List Request} {m : Machine ω}
    {t : ω} (h : callWithin world patience budget f v m.world = (.ok requests, t)) :
    report world (patience + 1) budget [.invoke f v] m =
      ((f, v) :: (report world patience (budget - f.activations) requests { m with world := t }).1,
        (report world patience (budget - f.activations) requests { m with world := t }).2) := by
  simp only [report, h, List.append_nil]

theorem report_evaluate (patience budget : Nat) (expr : Expr) (env : Env) (m : Machine ω) :
    report world (patience + 1) budget [.evaluate expr env] m = ([], .running, m.pushWork expr env) := by
  cases patience <;> rfl

theorem report_call (patience budget : Nat) (f : Function) (frame : Frame) (m : Machine ω) :
    report world (patience + 1) budget [.call f v frame] m =
      report world (patience + 1) budget [.invoke f v] (m.pushFrame frame) :=
  rfl

theorem turns_name (h : env.lookup x = some v) :
    Turns world config ⟨(.name span x, env) :: work, frames, none, before, results, s⟩
      ⟨work, frames, some v, .name span x, results, s⟩ := by
  refine ⟨1, ?_⟩
  simp only [step_start, Expr.requests, h]
  rfl

theorem turns_apply :
    Turns world config ⟨(.apply span callee argument, env) :: work, frames, none, before, results, s⟩
      ⟨(callee, env) :: work, (.callee argument env, .apply span callee argument) :: frames, none,
        .apply span callee argument, results, s⟩ :=
  ⟨1, rfl⟩

theorem turns_emptyArray :
    Turns world config ⟨(.array span [], env) :: work, frames, none, before, results, s⟩
      ⟨work, frames, some (.array []), .array span [], results, s⟩ :=
  ⟨1, rfl⟩

theorem turns_function :
    Turns world config ⟨(.function span x body, env) :: work, frames, none, before, results, s⟩
      ⟨work, frames, some (.function (.closure x body env)), .function span x body, results, s⟩ :=
  ⟨1, rfl⟩

theorem turns_callee {f : Function} :
    Turns world config
      ⟨work, (.callee argument env, blame) :: frames, some (.function f), before, results, s⟩
      ⟨(argument, env) :: work, (.argument f, blame) :: frames, none, blame, results, s⟩ :=
  ⟨1, rfl⟩

theorem turns_closure :
    Turns world config
      ⟨work, (.argument (.closure x body env), blame) :: frames, some v, before, results, s⟩
      ⟨(body, env.bind x v) :: work, frames, none, blame, results, s⟩ := by
  refine ⟨2, ?_⟩
  rw [step_deliver _ _ _ _ _ _ _ _ _ _ _ (by simp)]
  simp only [Frame.requests, proceed, perform_invoke, Function.activations, Nat.not_lt_zero, if_false]
  rfl

/-- A primitive that lacks further arguments keeps one that its guard lets pass. -/
theorem turns_partial {p : Primitive} {bound : List Value} {guard : Guard}
    (hguard : p.guards[bound.length]? = some guard) (hpass : guard.refusal? v = none)
    (hmore : bound.length + 1 < p.arity) :
    Turns world config
      ⟨work, (.argument (.primitive p bound), blame) :: frames, some v, before, results, s⟩
      ⟨work, frames, some (.function (.primitive p (bound ++ [v]))), blame, results, s⟩ := by
  refine ⟨2, ?_⟩
  rw [step_deliver _ _ _ _ _ _ _ _ _ _ _ (by simp)]
  simp only [Frame.requests, proceed, perform_invoke, Function.activations, hmore, if_true,
    Nat.not_lt_zero, if_false, Function.respond_more 1 hguard hpass hmore]
  rfl

theorem turns_block {name : Text} {value : Expr} (hvalue : value.isLiteral = false) :
    Turns world config ⟨(.block span [(name, value)] body, env) :: work, frames, none, before, results, s⟩
      ⟨(value, env) :: work,
        (.definition [] name [] body env, .block span [(name, value)] body) :: frames, none,
        .block span [(name, value)] body, results, s⟩ := by
  refine ⟨1, ?_⟩
  simp only [step_start, Expr.requests, defineWithin_of_not_literal hvalue]
  rfl

theorem turns_literalBlock {name : Text} {place : Span} {literal : Expr} (hroom : 2 ≤ world.room) :
    Turns world config
      ⟨(.block span [(name, .function place x literal)] body, env) :: work, frames, none, before, results,
        s⟩
      ⟨(body, .scope [(name, .literal x literal)] env) :: work, frames, none,
        .block span [(name, .function place x literal)] body, results, s⟩ := by
  have hdefine : defineWithin world.room [] body env [(name, .function place x literal)] =
      .ok [.evaluate body (.scope [(name, .literal x literal)] env)] := if_neg (Nat.not_lt.2 hroom)
  refine ⟨1, ?_⟩
  simp only [step_start, Expr.requests, hdefine]
  rfl

theorem turns_definition {done : List (Text × Entry)} :
    Turns world config
      ⟨work, (.definition done x [] body env, blame) :: frames, some v, before, results, s⟩
      ⟨(body, .scope ((x, .value v) :: done) env) :: work, frames, none, blame, results, s⟩ := by
  have hdefine : defineWithin world.room ((x, .value v) :: done) body env [] =
      .ok [.evaluate body (.scope ((x, .value v) :: done) env)] := if_neg (Nat.not_lt_zero _)
  refine ⟨1, ?_⟩
  rw [step_deliver _ _ _ _ _ _ _ _ _ _ _ (by simp)]
  simp only [Frame.requests, hdefine]
  rfl

theorem turns_selected :
    Turns world config
      ⟨work, (.selected [], blame) :: frames, some (.array []), before, results, s⟩
      ⟨work, frames, some (.array []), blame, results, s⟩ :=
  ⟨1, rfl⟩

end Machine

/-- A machine ends as one that it comes to. -/
theorem Machine.Reaches.halts {world : World ω} {config : Config} {m m' : Machine ω} {o : Outcome} {t : ω}
    (h : Machine.Reaches world config m m') (hm' : Halts world config m' o t) :
    Halts world config m o t := by
  induction h using Relation.ReflTransGen.head_induction_on with
  | refl => exact hm'
  | head hturn _ ih =>
      obtain ⟨patience, hstep⟩ := hturn
      exact halts_of_step patience (by rwa [hstep])

/-! ### The rounds of the program -/

namespace Growing

variable {world : World ω} {config : Config}

open Machine

theorem lookup_drop :
    (rootEnvironment .standard []).lookup (.ofString "drop") = some (.function (.primitive drop [])) := by
  cbv

/-- The calls that the function of a round makes when it is called. -/
def nest : Nat → List (Function × Value)
  | 0 => [(selector 0, .array [])]
  | n + 1 => (selector (n + 1), .array []) :: nest n

theorem nest_length (n : Nat) : (nest n).length = n + 1 := by
  induction n with
  | zero => rfl
  | succ n ih => rw [nest, List.length_cons, ih]

theorem selector_responds (n patience : Nat) (s : ω) :
    (selector (n + 1)).respond world patience (.array []) s =
      (.ok [.call (selector n) (.array []) (.selected [])], s) :=
  rfl

theorem selector_activations (n : Nat) : (selector (n + 1)).activations = 3 :=
  rfl

/-- A function of some rounds calls those of all the rounds before it, one in the other. -/
theorem report_selector (n patience budget : Nat) (hroom : 3 * n ≤ budget)
    {work : List (Expr × Env)} {frames : List (Frame × Expr)} {blame : Expr} {results : List Value} {s : ω} :
    report world (patience + 2 * n + 2) budget [.invoke (selector n) (.array [])]
        ⟨work, frames, none, blame, results, s⟩ =
      (nest n, .running,
        ⟨(.name ⟨51, 52⟩ (.ofString "x"), scope.bind (.ofString "x") (.array [])) :: work,
          List.replicate n (.selected [], blame) ++ frames, none, blame, results, s⟩) := by
  induction n generalizing patience budget frames with
  | zero =>
      have hcalled : callWithin world (patience + 1) budget (selector 0) (.array []) s =
          (.ok [.evaluate (.name ⟨51, 52⟩ (.ofString "x")) (scope.bind (.ofString "x") (.array []))], s) :=
        if_neg (Nat.not_lt_zero budget)
      rw [report_invoke hcalled, report_evaluate]
      rfl
  | succ n ih =>
      -- each level uses one step for the call and leaves three activations less for the next
      have hcalled : callWithin world (patience + 1 + 2 * n + 2) budget (selector (n + 1)) (.array []) s =
          (.ok [.call (selector n) (.array []) (.selected [])], s) := by
        rw [callWithin, selector_activations, if_neg (by omega), selector_responds]
      rw [show patience + 2 * (n + 1) + 2 = patience + 1 + 2 * n + 2 + 1 by omega, report_invoke hcalled,
        report_call, pushFrame, ih (patience + 1) _ (by rw [selector_activations]; omega)]
      rw [nest, List.replicate_succ', List.append_assoc]
      rfl

section Rounds

variable {work : List (Expr × Env)} {frames : List (Frame × Expr)} {blame before : Expr}
  {results : List Value} {s : ω}

theorem turns_selector {n : Nat} (hroom : 3 * n ≤ world.room) :
    Turns world config
      ⟨work, (.argument (selector n), blame) :: frames, some (.array []), before, results, s⟩
      ⟨(.name ⟨51, 52⟩ (.ofString "x"), scope.bind (.ofString "x") (.array [])) :: work,
        List.replicate n (.selected [], blame) ++ frames, none, blame, results, s⟩ := by
  refine ⟨0 + 2 * n + 2, ?_⟩
  rw [step_deliver _ _ _ _ _ _ _ _ _ _ _ (by simp)]
  simp only [Frame.requests, proceed, ← report_eq, report_selector n 0 world.room hroom]

/-- The calls of the turn in which the function of a round is called. -/
theorem calls_selector {n : Nat} (hroom : 3 * n ≤ world.room) :
    calls world config (0 + 2 * n + 2)
      ⟨work, (.argument (selector n), blame) :: frames, some (.array []), before, results, s⟩ = nest n := by
  simp only [calls, Frame.requests, proceedCalls, report_selector n 0 world.room hroom]

/-- Nothing is dropped from an empty array. -/
theorem reaches_dropped (n : Nat) :
    ∃ after, Reaches world config
      ⟨work, List.replicate n (.selected [], blame) ++ frames, some (.array []), before, results, s⟩
      ⟨work, frames, some (.array []), after, results, s⟩ := by
  induction n generalizing before with
  | zero => exact ⟨before, .refl⟩
  | succ n ih =>
      obtain ⟨after, hreaches⟩ := ih
      exact ⟨after, .head turns_selected hreaches⟩

/-- A round begins with a call of its function. -/
theorem reaches_call (f : Function) (blame : Expr) (s : ω) :
    Reaches world config (atBody f blame s)
      ⟨[], (.argument f, .apply ⟨18, 22⟩ (.name ⟨18, 19⟩ (.ofString "f")) (.array ⟨20, 22⟩ [])) ::
        definition f, some (.array []), .array ⟨20, 22⟩ [], [], s⟩ :=
  .head (turns_block rfl) (.head turns_apply (.head (turns_name rfl) (.head turns_callee
    (.head turns_emptyArray .refl))))

/-- A round ends with the next one. -/
theorem reaches_next (f : Function) (before : Expr) (s : ω) :
    ∃ blame, Reaches world config ⟨[], definition f, some (.array []), before, [], s⟩
      (atBody (.primitive drop [.function f]) blame s) := by
  have hdrop : (Env.scope [(.ofString "y", .value (.array []))]
      (scope.bind (.ofString "f") (.function f))).lookup (.ofString "drop") =
        some (.function (.primitive drop [])) :=
    lookup_drop
  exact ⟨_, .head turns_definition (.head turns_apply (.head (turns_name rfl) (.head turns_callee
    (.head turns_apply (.head (turns_name hdrop) (.head turns_callee (.head (turns_name rfl)
      (.head (turns_partial rfl rfl (by decide)) (.head turns_closure .refl)))))))))⟩

/-- The function of a round returns the empty array. -/
theorem reaches_returned {n : Nat} (hroom : 3 * n ≤ world.room) :
    ∃ after, Reaches world config
      ⟨work, (.argument (selector n), blame) :: frames, some (.array []), before, results, s⟩
      ⟨work, frames, some (.array []), after, results, s⟩ := by
  have hdropped : ∃ after, Reaches world config
      ⟨work, List.replicate n (.selected [], blame) ++ frames, some (.array []),
        .name ⟨51, 52⟩ (.ofString "x"), results, s⟩
      ⟨work, frames, some (.array []), after, results, s⟩ := reaches_dropped n
  obtain ⟨after, hdropped⟩ := hdropped
  exact ⟨after, .head (turns_selector hroom) (.head (turns_name rfl) hdropped)⟩

/-- From one round the machine comes to the next if there is room for the calls in between. -/
theorem reaches_round {n : Nat} (hroom : 3 * n ≤ world.room) (blame : Expr) (s : ω) :
    ∃ after, Reaches world config (atBody (selector n) blame s) (atBody (selector (n + 1)) after s) := by
  obtain ⟨before, hreturned⟩ := reaches_returned hroom
  obtain ⟨after, hnext⟩ := reaches_next (selector n) before s
  exact ⟨after, (reaches_call (selector n) blame s).trans (hreturned.trans hnext)⟩

/-- The machine comes to a round if there is room for the calls in all the rounds before it. -/
theorem reaches_body {n : Nat} (hroom : 3 * (n - 1) ≤ world.room) (hdefine : 2 ≤ world.room) (s : ω) :
    ∃ blame, Reaches world config (start tree (rootEnvironment .standard []) s)
      (atBody (selector n) blame s) := by
  induction n with
  | zero =>
      exact ⟨_, .head (turns_literalBlock hdefine) (.head turns_apply (.head (turns_name rfl)
        (.head turns_callee (.head turns_function (.head turns_closure .refl)))))⟩
  | succ n ih =>
      obtain ⟨blame, hbody⟩ := ih (by omega)
      obtain ⟨after, hround⟩ := reaches_round (by omega) blame s
      exact ⟨after, hbody.trans hround⟩

end Rounds

/-- Each of the functions calls the one of the round before. -/
theorem nest_nested (n : Nat) (s : ω) : Nested world (nest n) := by
  induction n with
  | zero => exact .singleton _
  | succ n ih =>
      refine List.isChain_cons.2 ⟨fun inner hinner => ?_, ih⟩
      have hfirst : (nest n).head? = some (selector n, .array []) := by cases n <;> rfl
      obtain rfl : (selector n, .array []) = inner := Option.some.inj (hfirst.symm.trans hinner)
      exact ⟨0, s, s, _, _, selector_responds n 0 s, List.mem_singleton_self _, rfl⟩

/-- The program comes to a turn in which its function has been called, if there is room for the calls. -/
theorem reaches_nest {n : Nat} (hroom : 3 * n ≤ world.room) (hdefine : 2 ≤ world.room) (s : ω) :
    ∃ m patience, Reaches world config (start tree (rootEnvironment .standard []) s) m ∧
      m.calls world config patience = nest n := by
  obtain ⟨blame, hbody⟩ := reaches_body (n := n) (by omega) hdefine s
  exact ⟨_, _, hbody.trans (reaches_call (selector n) blame s), calls_selector hroom⟩

/-! ### The end of the program -/

section Deep

variable {frames : List (Frame × Expr)} {blame : Expr} {s : ω}

/-- Without room for its calls the function of a round ends the machine. -/
theorem responds_selector {n budget : Nat} (hlack : budget < 3 * n) :
    Responds world config budget [.invoke (selector n) (.array [])] (between frames blame s)
      (.aborted .tooDeep) s := by
  induction n generalizing budget frames with
  | zero => omega
  | succ n ih =>
      by_cases hroom : budget < (selector (n + 1)).activations
      · exact responds_invoke_lacking hroom
      · have hless : budget - (selector (n + 1)).activations < 3 * n := by
          rw [selector_activations] at hroom ⊢
          omega
        exact responds_invoke (Nat.le_of_not_lt hroom) (selector_responds n 0 s)
          (proceeds_ok (responds_call (ih hless)))

theorem halts_selector {n : Nat} (hlack : world.room < 3 * n) (before : Expr) :
    Halts world config ⟨[], (.argument (selector n), blame) :: frames, some (.array []), before, [], s⟩
      (.aborted .tooDeep) s :=
  (halts_deliver (by simp) rfl (proceeds_ok (responds_selector hlack))).any_blame (.inl (by simp)) before

/-- However much room there is, the program uses it up. -/
theorem halts_tooDeep (s : ω) :
    Halts world config (start tree (rootEnvironment .standard []) s) (.aborted .tooDeep) s := by
  by_cases hdefine : 2 ≤ world.room
  · -- the first round that lacks room for the calls of its function
    obtain ⟨blame, hbody⟩ := reaches_body (n := world.room / 3 + 1) (by omega) hdefine s
    exact hbody.halts ((reaches_call _ blame s).halts (halts_selector (by omega) _))
  · have hrequests : tree.requests world.room (rootEnvironment .standard []) =
        .error (.aborted .tooDeep) := if_pos (Nat.lt_of_not_le hdefine)
    exact (halts_evaluating hrequests proceeds_tooDeep).any_blame (.inr (by simp)) tree

end Deep

end Growing

/-! ## No bound for all programs -/

/-- The calls of a turn are nested in each other, and there are no more than one and the combinators
that the first one has to do with. But no number bounds the calls of all turns of all programs: there is
a program that comes to turns with as many nested calls as there is room for, and that runs out of room
in the end, however much there is. -/
theorem calls_nest_without_bound (around : Surroundings ω)
    (resume : Nat → List Value → Value → ω → Except Stop (List Request) × ω) (config : Config) (s : ω) :
    (∀ room env expr m patience,
      Machine.Reaches (around.world resume room) config (.start expr env s) m →
        Nested (around.world resume room) (m.calls (around.world resume room) config patience) ∧
          ∀ call rest, m.calls (around.world resume room) config patience = call :: rest →
            rest.length ≤ call.1.combinators + call.2.combinators) ∧
    ∃ expr, parse growing = .ok expr ∧
      (∀ c room, 3 * c + 2 ≤ room → ∃ m patience,
        Machine.Reaches (around.world resume room) config
            (.start expr (rootEnvironment .standard []) s) m ∧
          Nested (around.world resume room) (m.calls (around.world resume room) config patience) ∧
          c < (m.calls (around.world resume room) config patience).length) ∧
      ∀ room, Halts (around.world resume room) config (.start expr (rootEnvironment .standard []) s)
        (.aborted .tooDeep) s := by
  refine ⟨fun room env expr m patience hreaches => ?_, Growing.tree, Growing.parse_eq,
    fun c room hroom => ?_, fun room => Growing.halts_tooDeep s⟩
  · have hnested : Nested (around.world resume room)
        (m.calls (around.world resume room) config patience) :=
      (Machine.steps_step _ config patience m).nested ((Machine.start_orderly expr env s).reaches hreaches)
    exact ⟨hnested, fun call rest hcalls => nested_length (hcalls ▸ hnested)⟩
  · have hnest : ∃ m patience, Machine.Reaches (around.world resume room) config
        (.start Growing.tree (rootEnvironment .standard []) s) m ∧
          m.calls (around.world resume room) config patience = Growing.nest c :=
      Growing.reaches_nest (Nat.le_of_add_right_le hroom) (Nat.le_of_add_left_le hroom) s
    obtain ⟨m, patience, hreaches, hcalls⟩ := hnest
    refine ⟨m, patience, hreaches, ?_, ?_⟩
    · rw [hcalls]
      exact Growing.nest_nested c s
    · rw [hcalls, Growing.nest_length]
      exact Nat.lt_succ_self c

end RollScript

import RollScript.Proofs.Evaluation.BigStep
import RollScript.Proofs.Evaluation.Halting

/-!
# What follows from an answer

The machine works for frames that wait, and the rules of direct evaluation for answers. Read
`Follows` first: it ties the two together, by saying in which ways a computation of the machine ends
when its answer is known. The lemmas before it say how the machine ends that fulfils one request, and
those after it how answers are put together.
-/

namespace RollScript

variable {ω : Type}

/-- How an evaluation ends that has failed. -/
def Failure.outcome : Failure → Outcome
  | failed cause blame => .failed cause blame
  | aborted abort => .aborted abort

theorem Failure.outcome_ne_unfinished (x : Failure) : x.outcome ≠ .unfinished := by
  cases x <;> simp [outcome]

theorem Machine.stopped_eq_outcome {m : Machine ω} {stop : Stop} {x : Failure}
    (h : stop.failure? m.blame = some x) : m.stopped stop = x.outcome := by
  cases stop with
  | failed | aborted =>
      cases h
      rfl
  | unfinished => cases h

/-- A machine that evaluates an expression for waiting frames. -/
def evaluating (expr : Expr) (env : Env) (frames : List (Frame × Expr)) (s : ω) : Machine ω :=
  ⟨[(expr, env)], frames, none, default, [], s⟩

/-- A machine that hands a value to waiting frames. -/
def returning (v : Value) (frames : List (Frame × Expr)) (s : ω) : Machine ω :=
  ⟨[], frames, some v, default, [], s⟩

/-- A machine in the middle of a step, with neither a value nor work for its waiting frames. -/
def between (frames : List (Frame × Expr)) (blame : Expr) (s : ω) : Machine ω :=
  ⟨[], frames, none, blame, [], s⟩

/-- A machine that fulfils requests ends with an outcome and leaves the world in a state. -/
def Responds (world : World ω) (config : Config) (budget : Nat) (requests : List Request)
    (m : Machine ω) (o : Outcome) (t : ω) : Prop :=
  ∃ patience, Settles world config o t (m.perform world patience budget requests)

section Requests

variable {world : World ω} {config : Config} {budget : Nat} {frames : List (Frame × Expr)}
  {blame : Expr} {s t u : ω} {o : Outcome}

theorem responds_produce {v : Value} (h : Halts world config (returning v frames s) o u) :
    Responds world config budget [.produce v] (between frames blame s) o u :=
  ⟨1, h.any_blame (.inl (by simp)) blame⟩

theorem responds_evaluate {expr : Expr} {env : Env}
    (h : Halts world config (evaluating expr env frames s) o u) :
    Responds world config budget [.evaluate expr env] (between frames blame s) o u :=
  ⟨1, h.any_blame (.inr (by simp)) blame⟩

theorem responds_push {expr : Expr} {env : Env} {frame : Frame}
    (h : Halts world config (evaluating expr env ((frame, blame) :: frames) s) o u) :
    Responds world config budget [.push expr env frame] (between frames blame s) o u :=
  ⟨1, h.any_blame (.inr (by simp)) blame⟩

theorem responds_call {f : Function} {v : Value} {frame : Frame}
    (h : Responds world config budget [.invoke f v] (between ((frame, blame) :: frames) blame s)
      o u) :
    Responds world config budget [.call f v frame] (between frames blame s) o u := by
  obtain ⟨patience, h⟩ := h
  refine ⟨patience, ?_⟩
  rw [Machine.perform_call]
  split
  · next hzero =>
      subst hzero
      exact absurd rfl (Settles.ne_unfinished h)
  · exact h

theorem settles_stopped {stop : Stop} {x : Failure} (hx : stop.failure? blame = some x) :
    Settles world config x.outcome t (.stopped stop, between frames blame t) :=
  ⟨Machine.stopped_eq_outcome hx, rfl, x.outcome_ne_unfinished⟩

/-- A machine that goes on with what a rule returned ends with an outcome and leaves the world in a
state. -/
def Proceeds (world : World ω) (config : Config) (budget : Nat)
    (returned : Except Stop (List Request)) (frames : List (Frame × Expr)) (blame : Expr) (s : ω)
    (o : Outcome) (t : ω) : Prop :=
  ∃ patience,
    Settles world config o t ((between frames blame s).proceed world patience budget (returned, s))

theorem proceeds_ok {requests : List Request}
    (h : Responds world config budget requests (between frames blame s) o u) :
    Proceeds world config budget (.ok requests) frames blame s o u :=
  h

theorem proceeds_error {stop : Stop} {x : Failure} (hx : stop.failure? blame = some x) :
    Proceeds world config budget (.error stop) frames blame s x.outcome s :=
  ⟨0, settles_stopped hx⟩

theorem proceeds_tooDeep :
    Proceeds world config budget (.error (.aborted .tooDeep)) frames blame s (.aborted .tooDeep) s :=
  ⟨0, rfl, rfl, by simp⟩

/-- A function is called with what is left of the room. -/
theorem responds_invoke {f : Function} {v : Value} {patience : Nat}
    {returned : Except Stop (List Request)} (hroom : f.activations ≤ budget)
    (hrespond : f.respond world patience v s = (returned, t))
    (h : Proceeds world config (budget - f.activations) returned frames blame t o u) :
    Responds world config budget [.invoke f v] (between frames blame s) o u := by
  obtain ⟨enough, h⟩ := h
  refine ⟨max patience enough + 1, ?_⟩
  rw [Machine.perform_invoke, if_neg (by omega)]
  cases hproceed : (between frames blame t).proceed world enough (budget - f.activations)
      (returned, t) with
  | mk status final =>
      rw [hproceed] at h
      have hreturned : returned ≠ .error .unfinished := by
        rintro rfl
        exact h.ne_unfinished (Prod.mk.inj hproceed).1.symm
      have hmore := Machine.proceed_mono (Nat.le_max_right patience enough) hproceed
        h.ne_unfinished
      rw [show (between frames blame s).world = s from rfl,
        Function.respond_mono (Nat.le_max_left patience enough) hrespond hreturned]
      cases returned <;> rwa [← hmore] at h

/-- A function that needs more room than is left ends the machine. -/
theorem responds_invoke_lacking {f : Function} {v : Value} (hroom : budget < f.activations) :
    Responds world config budget [.invoke f v] (between frames blame s) (.aborted .tooDeep) s := by
  refine ⟨1, ?_⟩
  rw [Machine.perform_invoke, if_pos hroom]
  exact ⟨rfl, rfl, by simp⟩

/-- A frame other than the last goes on with what it asks for when its value comes. -/
theorem halts_deliver {frame : Frame} {v : Value} {returned : Except Stop (List Request)}
    (hframe : frame ≠ .finish) (hrequests : frame.requests world config v s = (returned, t))
    (h : Proceeds world config world.room returned frames blame t o u) :
    Halts world config (returning v ((frame, blame) :: frames) s) o u := by
  obtain ⟨patience, h⟩ := h
  refine halts_of_step patience ?_
  rw [returning, Machine.step_deliver _ _ _ _ _ _ _ _ _ _ _ hframe, hrequests]
  cases returned <;> exact h

/-- A value that is handed to the last frame is what the evaluation ends with. -/
theorem halts_finish (v : Value) (blame : Expr) :
    Halts world config (returning v [(.finish, blame)] s) (.value v) s :=
  ⟨by simp, 2, ⟨[], [], none, blame, [v], s⟩, rfl, rfl⟩

/-- An expression goes on with what its rule asks for. -/
theorem halts_evaluating {expr : Expr} {env : Env} {returned : Except Stop (List Request)}
    (hrequests : expr.requests world.room env = returned)
    (h : Proceeds world config world.room returned frames expr s o u) :
    Halts world config (evaluating expr env frames s) o u := by
  obtain ⟨patience, h⟩ := h
  refine halts_of_step patience ?_
  rw [evaluating, Machine.step_start, hrequests]
  exact h

end Requests

/-! ## Answers for waiting frames -/

/-- `Follows P k need next a t`: a computation that ends in the ways `P` has the answer `a`. It ends
in the ways `next` of the result, or with the failure; or else it ends for lack of room, and then
the room `k` is less than `need`. -/
def Follows {α : Type} (P : Outcome → ω → Prop) (k need : Nat) (next : α → Outcome → ω → Prop)
    (a : Except Failure α) (t : ω) : Prop :=
  (match a with
    | .ok v => ∀ o u, next v o u → P o u
    | .error x => P x.outcome t) ∨
  (k < need ∧ ∃ u, P (.aborted .tooDeep) u)

namespace Follows

variable {α β : Type} {P Q : Outcome → ω → Prop} {k l need more : Nat}
  {next : α → Outcome → ω → Prop} {last : β → Outcome → ω → Prop} {a : Except Failure α}
  {b : Except Failure β} {v : α} {x : Failure} {t u : ω}

/-- A computation that ends in all the ways of another has its answer too. -/
theorem imp (h : Follows P k need next a t) (hPQ : ∀ o u, P o u → Q o u) :
    Follows Q k need next a t := by
  rcases h with h | ⟨hneed, u, h⟩
  · cases a with
    | ok v => exact .inl fun o u hv => hPQ o u (h o u hv)
    | error x => exact .inl (hPQ _ _ h)
  · exact .inr ⟨hneed, u, hPQ _ _ h⟩

theorem mono (h : Follows P l need next a t) (hk : k + need ≤ l + more) :
    Follows P k more next a t := by
  rcases h with h | ⟨hlack, h⟩
  · exact .inl h
  · exact .inr ⟨by omega, h⟩

/-- A failure passes whatever would have come next. -/
theorem fails (h : Follows P k need next (.error x) t) : Follows P k need last (.error x) t :=
  h

/-- What follows from a result follows from the start. -/
theorem bind (h : Follows P k need next (.ok v) t) (hk : k ≤ l)
    (hnext : Follows (next v) l more last b u) : Follows P k (max need more) last b u := by
  rcases h with h | h
  · exact (hnext.imp h).mono (by omega)
  · exact .inr ⟨by omega, h.2⟩

theorem map {f : β → α} (h : Follows P k need (fun v => next (f v)) b t) :
    Follows P k need next (b.map f) t := by
  cases b <;> exact h

theorem of_result (h : ∀ o u, next v o u → P o u) : Follows P k need next (.ok v) t :=
  .inl h

theorem of_failure (h : P x.outcome t) : Follows P k need next (.error x) t :=
  .inl h

/-- The answer of a computation outside the machine is that of the machine. -/
theorem of_answer {blame : Expr} {computed : Except Stop α} (h : answer? blame computed = some a)
    (hok : ∀ v, computed = .ok v → ∀ o u, next v o u → P o u)
    (herror : ∀ stop x, computed = .error stop → stop.failure? blame = some x → P x.outcome t) :
    Follows P k need next a t := by
  cases computed with
  | ok v =>
      cases h
      exact of_result (hok v rfl)
  | error stop =>
      obtain ⟨x, hx, rfl⟩ := Option.map_eq_some_iff.1 h
      exact of_failure (herror stop x rfl hx)

/-- A computation that needs room for some activations either has it or ends for lack of it. -/
theorem of_room {act : Nat} (hlack : k < act → ∃ u, P (.aborted .tooDeep) u)
    (henough : act ≤ k → Follows P k need next a t) : Follows P k (max need act) next a t := by
  by_cases hact : k < act
  · exact .inr ⟨by omega, hlack hact⟩
  · exact (henough (by omega)).mono (by omega)

end Follows

/-! ## The machine on the rules' own computations -/

theorem elementAt_eq (items : List Value) (v : Value) :
    elementAt items v = (itemAt items v).map fun w => [.produce w] := by
  cases v with
  | number x =>
      simp only [elementAt, itemAt, bind, Except.bind]
      cases Number.rounded x with
      | error stop => rfl
      | ok i =>
          simp only
          by_cases hneg : i < 0
          · rw [if_pos hneg, if_neg (by omega)]
            rfl
          · rw [if_neg hneg]
            by_cases hlt : i < items.length
            · have hget : i.toNat < items.length := by omega
              rw [if_pos ⟨by omega, hlt⟩, List.getD_eq_getElem?_getD,
                List.getElem?_eq_getElem hget]
              rfl
            · rw [if_neg (by omega), List.getElem?_eq_none (by omega)]
              rfl
  | string | unit | array | function => rfl

theorem Combinator.dropSelected_eq (items : List Value) (v : Value) :
    dropSelected items v = (itemsWithout items v).map fun w => [.produce w] := by
  cases v <;> rfl

theorem Combinator.start_of_not_accepts {c : Combinator} {args : List Value}
    (h : c.accepts args = false) : c.start args = .error (.aborted .misapplied) := by
  fun_cases Combinator.start c args <;> simp_all [accepts]

theorem defineNext_of_not_literal {done : List (Text × Entry)} {body value : Expr} {env : Env}
    {name : Text} {rest : List (Text × Expr)} (h : value.isLiteral = false) :
    defineNext done body env ((name, value) :: rest) =
      [.push value env (.definition done name rest body env)] := by
  cases value <;> first | rfl | simp [Expr.isLiteral] at h

theorem defineWithin_of_not_literal {room : Nat} {done : List (Text × Entry)} {body value : Expr}
    {env : Env} {name : Text} {rest : List (Text × Expr)} (h : value.isLiteral = false) :
    defineWithin room done body env ((name, value) :: rest) =
      .ok [.push value env (.definition done name rest body env)] := by
  have hleading : leadingLiterals ((name, value) :: rest) = 0 := by
    cases value <;> first | rfl | simp [Expr.isLiteral] at h
  rw [defineWithin, hleading, if_neg (Nat.not_lt_zero _), defineNext_of_not_literal h]

theorem answer?_eq_error {α : Type} {blame : Expr} {computed : Except Stop α} {x : Failure}
    (h : answer? blame computed = some (.error x)) :
    ∃ stop, computed = .error stop ∧ stop.failure? blame = some x := by
  cases computed with
  | ok v => simp [answer?] at h
  | error stop =>
      obtain ⟨y, hy, hx⟩ := Option.map_eq_some_iff.1 h
      cases hx
      exact ⟨stop, rfl, hy⟩

theorem Combinator.reduceItem_eq (f : Function) (item : Value) (rest : List Value) (v : Value) :
    reduceItem f item rest v = (asFunction v).map fun g => [.call g item (.combined f rest)] := by
  cases v <;> rfl

theorem Combinator.decideExplode_eq (roll again : Function) (done : List Value) (left : Nat)
    (verdict : Value) :
    decideExplode roll again done left verdict =
      nextBase roll again done (if verdict.truthy then left + 1 else left) := by
  unfold decideExplode
  split <;> rfl

section Respond

variable {world : World ω} (patience : Nat) {p : Primitive} {bound : List Value} {v : Value}
  {guard : Guard} {s : ω}

theorem Function.respond_closure {parameter : Text} {body : Expr} {env : Env} :
    (Function.closure parameter body env).respond world patience v s =
      (.ok [.evaluate body (env.bind parameter v)], s) :=
  rfl

theorem Function.respond_overfull (hguard : p.guards[bound.length]? = none) :
    (Function.primitive p bound).respond world patience v s =
      (.error (.aborted .misapplied), s) := by
  simp [respond, hguard]

theorem Function.respond_refused {expected : Expected}
    (hguard : p.guards[bound.length]? = some guard) (hrefusal : guard.refusal? v = some expected) :
    (Function.primitive p bound).respond world patience v s = (.error (.mismatch expected v), s) := by
  simp [respond, hguard, Guard.check, hrefusal]

theorem Function.respond_more (hguard : p.guards[bound.length]? = some guard)
    (hpass : guard.refusal? v = none) (hmore : bound.length + 1 < p.arity) :
    (Function.primitive p bound).respond world patience v s =
      (.ok [.produce (.function (.primitive p (bound ++ [v])))], s) := by
  simp [respond, hguard, Guard.check, hpass, hmore]

theorem Function.respond_full (hguard : p.guards[bound.length]? = some guard)
    (hpass : guard.refusal? v = none) (hfull : p.arity ≤ bound.length + 1) :
    (Function.primitive p bound).respond world patience v s =
      p.routine.perform world patience (bound ++ [v]) s := by
  simp [respond, hguard, Guard.check, hpass, Nat.not_lt.2 hfull]

end Respond

end RollScript

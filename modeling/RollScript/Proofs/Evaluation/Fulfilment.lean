import RollScript.Proofs.Evaluation.Halting

/-!
# What a machine does in a turn

`Machine.perform` and `Machine.step` compute what a turn does. `Fulfils` and `Steps` say without any
patience what can come of it, together with the calls that are made: by one constructor for each request,
and by one for each thing that a step can be about. Read `fulfils_report` and `steps_step`: whatever is
computed is in these relations. What every turn keeps is proved by induction on the first of them and by
cases on the second.
-/

namespace RollScript

variable {ω : Type}

namespace Machine

/-! ## The calls of a turn -/

/-- Fulfils requests as `perform` does, and lists the calls that are made. -/
def report (world : World ω) :
    Nat → Nat → List Request → Machine ω → List (Function × Value) × Status × Machine ω
  | _, _, [], m => ([], .running, m)
  | 0, _, _ :: _, m => ([], .stopped .unfinished, m)
  | patience + 1, room, request :: rest, m =>
    match request with
    | .produce v =>
      match m.pending with
      | some _ => ([], .stopped (.aborted .producedTwice), m)
      | none => report world patience room rest { m with pending := some v }
    | .evaluate expr env => report world patience room rest (m.pushWork expr env)
    | .push expr env frame =>
      report world patience room rest ((m.pushFrame frame).pushWork expr env)
    | .invoke f v =>
      match callWithin world patience room f v m.world with
      | (.error stop, state) => ([(f, v)], .stopped stop, { m with world := state })
      | (.ok requests, state) =>
        let reported := report world patience (room - f.activations) (requests ++ rest)
          { m with world := state }
        ((f, v) :: reported.1, reported.2)
    | .call f v frame =>
      let m := m.pushFrame frame
      match callWithin world patience room f v m.world with
      | (.error stop, state) => ([(f, v)], .stopped stop, { m with world := state })
      | (.ok requests, state) =>
        let reported := report world patience (room - f.activations) (requests ++ rest)
          { m with world := state }
        ((f, v) :: reported.1, reported.2)

/-- Calls a function and goes on with what it asks for, and lists the calls. -/
def reportCall (world : World ω) (patience room : Nat) (f : Function) (v : Value)
    (rest : List Request) (m : Machine ω) : List (Function × Value) × Status × Machine ω :=
  match callWithin world patience room f v m.world with
  | (.error stop, state) => ([(f, v)], .stopped stop, { m with world := state })
  | (.ok requests, state) =>
    let reported := report world patience (room - f.activations) (requests ++ rest)
      { m with world := state }
    ((f, v) :: reported.1, reported.2)

/-- To list the calls changes nothing. -/
theorem report_eq (world : World ω) (patience room : Nat) (requests : List Request) (m : Machine ω) :
    (report world patience room requests m).2 = perform world patience room requests m := by
  induction patience generalizing room requests m with
  | zero => cases requests <;> rfl
  | succ patience ih =>
      cases requests with
      | nil => rfl
      | cons request rest =>
          cases request with
          | produce v =>
              cases hpending : m.pending with
              | some w => simp only [report, perform, hpending]
              | none => simp only [report, perform, hpending, ih]
          | evaluate expr env => simp only [report, perform, ih]
          | push expr env frame => simp only [report, perform, ih]
          | invoke f v =>
              simp only [report, perform]
              cases callWithin world patience room f v m.world with
              | mk returned state => cases returned <;> simp only [ih]
          | call f v frame =>
              simp only [report, perform]
              cases callWithin world patience room f v (m.pushFrame frame).world with
              | mk returned state => cases returned <;> simp only [ih]

/-- The calls that a machine makes while it goes on with the requests of a rule. -/
def proceedCalls (world : World ω) (patience : Nat) (m : Machine ω) :
    Except Stop (List Request) × ω → List (Function × Value)
  | (.error _, _) => []
  | (.ok requests, state) =>
    (report world patience world.room requests { m with world := state }).1

/-- The calls that a machine makes in a turn, in order. -/
def calls (world : World ω) (config : Config) (patience : Nat) (m : Machine ω) :
    List (Function × Value) :=
  match m.pending, m.frames, m.work with
  | some v, (frame, blame) :: frames, _ =>
    proceedCalls world patience { m with pending := none, frames, blame }
      (frame.requests world config v m.world)
  | none, _, (expr, env) :: work =>
    proceedCalls world patience { m with work, blame := expr } (expr.requests world.room env, m.world)
  | _, _, _ => []

/-! ## Calls -/

section Calls

variable {world : World ω} {patience room : Nat} {f : Function} {v : Value} {s t : ω}

/-- A call that goes well has room, and does what the function says. -/
theorem callWithin_ok {world : World ω} {patience room : Nat} {f : Function} {v : Value} {s t : ω}
    {requests : List Request} (h : callWithin world patience room f v s = (.ok requests, t)) :
    f.activations ≤ room ∧ f.respond world patience v s = (.ok requests, t) := by
  unfold callWithin at h
  split at h
  · cases h
  · next hroom => exact ⟨Nat.le_of_not_lt hroom, h⟩

/-- A call stops if it lacks room, or as the function says. -/
theorem callWithin_error {world : World ω} {patience room : Nat} {f : Function} {v : Value} {s t : ω}
    {stop : Stop} (h : callWithin world patience room f v s = (.error stop, t)) :
    (room < f.activations ∧ stop = .aborted .tooDeep ∧ t = s) ∨
      f.activations ≤ room ∧ f.respond world patience v s = (.error stop, t) := by
  unfold callWithin at h
  split at h
  · next hroom =>
      cases h
      exact .inl ⟨hroom, rfl, rfl⟩
  · next hroom => exact .inr ⟨Nat.le_of_not_lt hroom, h⟩

end Calls

/-! ## Requests -/

/-- How a machine fulfils requests one by one, with room for nested activations: the calls that it makes,
how it goes, and the machine that is left. A call for a new frame is a call for the frames with the new
one on top. -/
inductive Fulfils (world : World ω) :
    Nat → List Request → Machine ω → List (Function × Value) → Status → Machine ω → Prop where
  | done (room : Nat) (m : Machine ω) : Fulfils world room [] m [] .running m
  | unfinished (room : Nat) (request : Request) (rest : List Request) (m : Machine ω) :
      Fulfils world room (request :: rest) m [] (.stopped .unfinished) m
  | twice (room : Nat) (v : Value) (rest : List Request) {m : Machine ω} {w : Value} :
      m.pending = some w →
      Fulfils world room (.produce v :: rest) m [] (.stopped (.aborted .producedTwice)) m
  | produce {room : Nat} {v : Value} {rest : List Request} {m final : Machine ω}
      {calls : List (Function × Value)} {status : Status} : m.pending = none →
      Fulfils world room rest { m with pending := some v } calls status final →
      Fulfils world room (.produce v :: rest) m calls status final
  | evaluate {room : Nat} {expr : Expr} {env : Env} {rest : List Request} {m final : Machine ω}
      {calls : List (Function × Value)} {status : Status} :
      Fulfils world room rest (m.pushWork expr env) calls status final →
      Fulfils world room (.evaluate expr env :: rest) m calls status final
  | push {room : Nat} {expr : Expr} {env : Env} {frame : Frame} {rest : List Request}
      {m final : Machine ω} {calls : List (Function × Value)} {status : Status} :
      Fulfils world room rest ((m.pushFrame frame).pushWork expr env) calls status final →
      Fulfils world room (.push expr env frame :: rest) m calls status final
  | call {room : Nat} {f : Function} {v : Value} {frame : Frame} {rest : List Request}
      {m final : Machine ω} {calls : List (Function × Value)} {status : Status} :
      Fulfils world room (.invoke f v :: rest) (m.pushFrame frame) calls status final →
      Fulfils world room (.call f v frame :: rest) m calls status final
  | refused {room patience : Nat} {f : Function} {v : Value} (rest : List Request) {m : Machine ω}
      {stop : Stop} {t : ω} : callWithin world patience room f v m.world = (.error stop, t) →
      Fulfils world room (.invoke f v :: rest) m [(f, v)] (.stopped stop) { m with world := t }
  | invoke {room patience : Nat} {f : Function} {v : Value} {requests rest : List Request}
      {m final : Machine ω} {calls : List (Function × Value)} {status : Status} {t : ω} :
      callWithin world patience room f v m.world = (.ok requests, t) →
      Fulfils world (room - f.activations) (requests ++ rest) { m with world := t } calls status final →
      Fulfils world room (.invoke f v :: rest) m ((f, v) :: calls) status final

/-- Whatever comes of requests comes of them one by one. -/
theorem fulfils_report (world : World ω) (patience room : Nat) (requests : List Request) (m : Machine ω) :
    Fulfils world room requests m (report world patience room requests m).1
      (report world patience room requests m).2.1 (report world patience room requests m).2.2 := by
  induction patience generalizing room requests m with
  | zero =>
      cases requests with
      | nil => exact .done room m
      | cons request rest => exact .unfinished room request rest m
  | succ patience ih =>
      have hinvoke : ∀ (f : Function) (v : Value) (rest : List Request) (m : Machine ω),
          Fulfils world room (.invoke f v :: rest) m (reportCall world patience room f v rest m).1
            (reportCall world patience room f v rest m).2.1
            (reportCall world patience room f v rest m).2.2 := by
        intro f v rest m
        unfold reportCall
        split
        · next hcall => exact .refused rest hcall
        · next hcall => exact .invoke hcall (ih _ _ _)
      cases requests with
      | nil => exact .done room m
      | cons request rest =>
          cases request with
          | produce v =>
              simp only [report]
              split
              · next hpending => exact .twice room v rest hpending
              · next hpending => exact .produce hpending (ih room rest _)
          | evaluate expr env => exact .evaluate (ih room rest _)
          | push expr env frame => exact .push (ih room rest _)
          | invoke f v => exact hinvoke f v rest m
          | call f v frame => exact .call (hinvoke f v rest (m.pushFrame frame))

/-! ## Steps -/

/-- How a machine goes on with what a rule has returned: it stops, or fulfils requests. -/
inductive GoesOn (world : World ω) (m : Machine ω) :
    Except Stop (List Request) × ω → List (Function × Value) → Status → Machine ω → Prop where
  | stopped (stop : Stop) (t : ω) :
      GoesOn world m (.error stop, t) [] (.stopped stop) { m with world := t }
  | fulfilled {requests : List Request} {t : ω} {calls : List (Function × Value)} {status : Status}
      {final : Machine ω} : Fulfils world world.room requests { m with world := t } calls status final →
      GoesOn world m (.ok requests, t) calls status final

/-- What a machine can do in a step, with the calls that it makes: it is over, or lacks a frame for its
value, or delivers the value to the frame on top, or starts the evaluation of an expression. -/
inductive Steps (world : World ω) (config : Config) :
    Machine ω → List (Function × Value) → Status → Machine ω → Prop where
  | idle (frames : List (Frame × Expr)) (blame : Expr) (results : List Value) (s : ω) :
      Steps world config ⟨[], frames, none, blame, results, s⟩ [] .over
        ⟨[], frames, none, blame, results, s⟩
  | unbalanced (work : List (Expr × Env)) (v : Value) (blame : Expr) (results : List Value) (s : ω) :
      Steps world config ⟨work, [], some v, blame, results, s⟩ [] (.stopped (.aborted .unbalanced))
        ⟨work, [], some v, blame, results, s⟩
  | finish (work : List (Expr × Env)) (blame : Expr) (frames : List (Frame × Expr)) (v : Value)
      (before : Expr) (results : List Value) (s : ω) :
      Steps world config ⟨work, (.finish, blame) :: frames, some v, before, results, s⟩ [] .running
        ⟨work, frames, none, blame, results ++ [v], s⟩
  | deliver {work : List (Expr × Env)} {frame : Frame} {blame : Expr} {frames : List (Frame × Expr)}
      {v : Value} {before : Expr} {results : List Value} {s : ω}
      {returned : Except Stop (List Request) × ω} {calls : List (Function × Value)} {status : Status}
      {final : Machine ω} : frame ≠ .finish → frame.requests world config v s = returned →
      GoesOn world ⟨work, frames, none, blame, results, s⟩ returned calls status final →
      Steps world config ⟨work, (frame, blame) :: frames, some v, before, results, s⟩ calls status final
  | start {expr : Expr} {env : Env} {work : List (Expr × Env)} {frames : List (Frame × Expr)}
      {before : Expr} {results : List Value} {s : ω} {returned : Except Stop (List Request)}
      {calls : List (Function × Value)} {status : Status} {final : Machine ω} :
      expr.requests world.room env = returned →
      GoesOn world ⟨work, frames, none, expr, results, s⟩ (returned, s) calls status final →
      Steps world config ⟨(expr, env) :: work, frames, none, before, results, s⟩ calls status final

theorem goesOn_proceed (world : World ω) (patience : Nat) (m : Machine ω)
    (returned : Except Stop (List Request) × ω) :
    GoesOn world m returned (m.proceedCalls world patience returned)
      (m.proceed world patience world.room returned).1
      (m.proceed world patience world.room returned).2 := by
  obtain ⟨answer, t⟩ := returned
  cases answer with
  | error stop => exact .stopped stop t
  | ok requests =>
      have hreport := fulfils_report world patience world.room requests { m with world := t }
      rw [report_eq] at hreport
      exact .fulfilled hreport

/-- Whatever a step does it does in one of these ways, with the calls that are listed. -/
theorem steps_step (world : World ω) (config : Config) (patience : Nat) (m : Machine ω) :
    Steps world config m (m.calls world config patience) (m.step world config patience).1
      (m.step world config patience).2 := by
  obtain ⟨work, frames, pending, before, results, s⟩ := m
  cases pending with
  | some v =>
      cases frames with
      | nil => exact .unbalanced work v before results s
      | cons entry frames =>
          obtain ⟨frame, blame⟩ := entry
          by_cases hfinish : frame = .finish
          · subst hfinish
            have hcalls : calls world config patience
                ⟨work, (.finish, blame) :: frames, some v, before, results, s⟩ = [] := by
              simp [calls, Frame.requests, proceedCalls, report]
            rw [hcalls]
            exact .finish work blame frames v before results s
          · rw [step_deliver _ _ _ _ _ _ _ _ _ _ _ hfinish]
            exact .deliver hfinish rfl (goesOn_proceed world patience _ _)
  | none =>
      cases work with
      | nil => exact .idle frames before results s
      | cons item work =>
          obtain ⟨expr, env⟩ := item
          rw [step_start]
          exact .start rfl (goesOn_proceed world patience _ _)

theorem steps_of_step {world : World ω} {config : Config} {patience : Nat} {m final : Machine ω}
    {status : Status} (h : m.step world config patience = (status, final)) :
    Steps world config m (m.calls world config patience) status final := by
  have hsteps := steps_step world config patience m
  rwa [h] at hsteps

end Machine

end RollScript

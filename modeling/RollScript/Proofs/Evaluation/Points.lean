import RollScript.Proofs.Evaluation.Activations

/-!
# The points of a turn

In one turn a machine may make several calls, one in the other, so what passes between a function and
those that it calls does not show at the head of the loop alone. A `Point` is a machine with the requests
that are left of the present turn, and `Moves` fulfils one of them. Read `halts_iff_comes` first: a machine
ends as the points do that it comes to, so these are points of the machine that runs. `Busy` is the
discipline of the stacks for points.
-/

namespace RollScript

variable {ω : Type}

/-- A machine in the course of a turn, with the requests that are left and the room for the calls among
them. Between two turns no request is left. -/
structure Point (ω : Type) where
  machine : Machine ω
  room : Nat
  requests : List Request

namespace Point

/-- A machine at the head of its loop. -/
def head (m : Machine ω) : Point ω :=
  ⟨m, 0, []⟩

/-- One request is left for a machine that has neither a value nor work for its waiting frames. -/
def asking (frames : List (Frame × Expr)) (blame : Expr) (results : List Value) (s : ω) (room : Nat)
    (request : Request) : Point ω :=
  ⟨⟨[], frames, none, blame, results, s⟩, room, [request]⟩

section Moves

variable (world : World ω) (config : Config)

/-- The first request is fulfilled; if none is left, a turn begins. A call pushes its frame before it is
made. -/
inductive Moves : Point ω → Point ω → Prop where
  | produce {m : Machine ω} (room : Nat) (v : Value) (rest : List Request) : m.pending = none →
      Moves ⟨m, room, .produce v :: rest⟩ ⟨{ m with pending := some v }, room, rest⟩
  | evaluate (m : Machine ω) (room : Nat) (expr : Expr) (env : Env) (rest : List Request) :
      Moves ⟨m, room, .evaluate expr env :: rest⟩ ⟨m.pushWork expr env, room, rest⟩
  | push (m : Machine ω) (room : Nat) (expr : Expr) (env : Env) (frame : Frame) (rest : List Request) :
      Moves ⟨m, room, .push expr env frame :: rest⟩ ⟨(m.pushFrame frame).pushWork expr env, room, rest⟩
  | call (m : Machine ω) (room : Nat) (f : Function) (v : Value) (frame : Frame) (rest : List Request) :
      Moves ⟨m, room, .call f v frame :: rest⟩ ⟨m.pushFrame frame, room, .invoke f v :: rest⟩
  | invoke {m : Machine ω} {room patience : Nat} {f : Function} {v : Value} {requests : List Request}
      {t : ω} (rest : List Request) : f.activations ≤ room →
      f.respond world patience v m.world = (.ok requests, t) →
      Moves ⟨m, room, .invoke f v :: rest⟩
        ⟨{ m with world := t }, room - f.activations, requests ++ rest⟩
  | start {expr : Expr} {env : Env} {requests : List Request} (work : List (Expr × Env))
      (frames : List (Frame × Expr)) (before : Expr) (results : List Value) (s : ω) (room : Nat) :
      expr.requests world.room env = .ok requests →
      Moves ⟨⟨(expr, env) :: work, frames, none, before, results, s⟩, room, []⟩
        ⟨⟨work, frames, none, expr, results, s⟩, world.room, requests⟩
  | deliver {frame : Frame} {v : Value} {s t : ω} {requests : List Request} (work : List (Expr × Env))
      (blame : Expr) (frames : List (Frame × Expr)) (before : Expr) (results : List Value) (room : Nat) :
      frame ≠ .finish → frame.requests world config v s = (.ok requests, t) →
      Moves ⟨⟨work, (frame, blame) :: frames, some v, before, results, s⟩, room, []⟩
        ⟨⟨work, frames, none, blame, results, t⟩, world.room, requests⟩
  | finish (work : List (Expr × Env)) (blame : Expr) (frames : List (Frame × Expr)) (v : Value)
      (before : Expr) (results : List Value) (s : ω) (room : Nat) :
      Moves ⟨⟨work, (.finish, blame) :: frames, some v, before, results, s⟩, room, []⟩
        ⟨⟨work, frames, none, blame, results ++ [v], s⟩, room, []⟩

/-- From one point the machine comes to another. -/
abbrev Comes : Point ω → Point ω → Prop :=
  Relation.ReflTransGen (Moves world config)

/-- The evaluation ends at a point with an outcome, and leaves the world in a state. -/
inductive Ends : Point ω → Outcome → ω → Prop where
  | finished (m : Machine ω) (room : Nat) : m.pending = none → m.work = [] →
      Ends ⟨m, room, []⟩ m.outcome m.world
  | unbalanced (m : Machine ω) (room : Nat) (v : Value) : m.pending = some v → m.frames = [] →
      Ends ⟨m, room, []⟩ (.aborted .unbalanced) m.world
  | twice (m : Machine ω) (room : Nat) (v w : Value) (rest : List Request) : m.pending = some w →
      Ends ⟨m, room, .produce v :: rest⟩ (.aborted .producedTwice) m.world
  | lacking (m : Machine ω) {room : Nat} {f : Function} (v : Value) (rest : List Request) :
      room < f.activations → Ends ⟨m, room, .invoke f v :: rest⟩ (.aborted .tooDeep) m.world
  | invoke {m : Machine ω} {room patience : Nat} {f : Function} {v : Value} {stop : Stop} {t : ω}
      (rest : List Request) : f.activations ≤ room →
      f.respond world patience v m.world = (.error stop, t) → stop ≠ .unfinished →
      Ends ⟨m, room, .invoke f v :: rest⟩ (m.stopped stop) t
  | start {expr : Expr} {env : Env} {stop : Stop} (work : List (Expr × Env))
      (frames : List (Frame × Expr)) (before : Expr) (results : List Value) (s : ω) (room : Nat) :
      expr.requests world.room env = .error stop → stop ≠ .unfinished →
      Ends ⟨⟨(expr, env) :: work, frames, none, before, results, s⟩, room, []⟩
        (Machine.stopped ⟨work, frames, none, expr, results, s⟩ stop) s
  | deliver {frame : Frame} {v : Value} {s t : ω} {stop : Stop} (work : List (Expr × Env))
      (blame : Expr) (frames : List (Frame × Expr)) (before : Expr) (results : List Value) (room : Nat) :
      frame ≠ .finish → frame.requests world config v s = (.error stop, t) → stop ≠ .unfinished →
      Ends ⟨⟨work, (frame, blame) :: frames, some v, before, results, s⟩, room, []⟩
        (Machine.stopped ⟨work, frames, none, blame, results, t⟩ stop) t

end Moves

variable {world : World ω} {config : Config}

/-! ## What a move can do -/

section Inversion

variable {frames : List (Frame × Expr)} {before : Expr} {results : List Value} {s : ω} {room : Nat}
  {q : Point ω}

/-- The turn of a machine that evaluates an expression begins with the requests of its rule. -/
theorem Moves.of_evaluating {expr : Expr} {env : Env} {work : List (Expr × Env)}
    (h : Moves world config ⟨⟨(expr, env) :: work, frames, none, before, results, s⟩, room, []⟩ q) :
    ∃ requests, expr.requests world.room env = .ok requests ∧
      q = ⟨⟨work, frames, none, expr, results, s⟩, world.room, requests⟩ := by
  cases h with
  | start _ _ _ _ _ _ hrequests => exact ⟨_, hrequests, rfl⟩

/-- The turn of a machine that brings a value begins with the requests of the topmost frame. -/
theorem Moves.of_delivering {entry : Frame × Expr} {v : Value}
    (h : Moves world config ⟨⟨[], entry :: frames, some v, before, results, s⟩, room, []⟩ q)
    (hframe : entry.1 ≠ .finish) :
    ∃ requests t, entry.1.requests world config v s = (.ok requests, t) ∧
      q = ⟨⟨[], frames, none, entry.2, results, t⟩, world.room, requests⟩ := by
  cases h with
  | deliver _ _ _ _ _ _ _ hrequests => exact ⟨_, _, hrequests, rfl⟩
  | finish => exact absurd rfl hframe

/-- With one request left the machine does what it asks for. -/
theorem Moves.of_asking {request : Request} {blame : Expr}
    (h : Moves world config (asking frames blame results s room request) q) :
    match request with
    | .produce v => q = ⟨⟨[], frames, some v, blame, results, s⟩, room, []⟩
    | .evaluate expr env => q = ⟨⟨[(expr, env)], frames, none, blame, results, s⟩, room, []⟩
    | .push expr env frame =>
      q = ⟨⟨[(expr, env)], (frame, blame) :: frames, none, blame, results, s⟩, room, []⟩
    | .call f v frame => q = asking ((frame, blame) :: frames) blame results s room (.invoke f v)
    | .invoke f v => f.activations ≤ room ∧ ∃ patience requests t,
        f.respond world patience v s = (.ok requests, t) ∧
          q = ⟨⟨[], frames, none, blame, results, t⟩, room - f.activations, requests⟩ := by
  cases h with
  | produce | evaluate | push | call => rfl
  | @invoke _ _ patience f v requests t _ hroom hrespond =>
      exact ⟨hroom, patience, requests, t, hrespond, by rw [List.append_nil]⟩

/-- A function that is called for the waiting frames returns what it asks for. -/
theorem Moves.of_respond {blame : Expr} {patience : Nat} {f : Function} {v : Value} {requests : List Request}
    {t : ω} (hroom : f.activations ≤ room) (hrespond : f.respond world patience v s = (.ok requests, t)) :
    Moves world config (asking frames blame results s room (.invoke f v))
      ⟨⟨[], frames, none, blame, results, t⟩, room - f.activations, requests⟩ := by
  have hmove : Moves world config (asking frames blame results s room (.invoke f v))
      ⟨⟨[], frames, none, blame, results, t⟩, room - f.activations, requests ++ []⟩ :=
    .invoke [] hroom hrespond
  rwa [List.append_nil] at hmove

/-- While a value is on its way to a frame the evaluation can only end with a failure of the frame. -/
theorem Ends.of_delivering {entry : Frame × Expr} {v : Value} {o : Outcome} {t : ω}
    (h : Ends world config ⟨⟨[], entry :: frames, some v, before, results, s⟩, room, []⟩ o t) :
    ∃ stop, entry.1.requests world config v s = (.error stop, t) ∧ stop ≠ .unfinished ∧
      o = Machine.stopped ⟨[], frames, none, entry.2, results, t⟩ stop := by
  cases h with
  | finished _ _ hpending => cases hpending
  | unbalanced _ _ _ _ hframes => cases hframes
  | deliver _ _ _ _ _ _ _ hrequests hstop => exact ⟨_, hrequests, hstop, rfl⟩

/-- Nothing comes after the end. -/
theorem Ends.not_moves {p : Point ω} {o : Outcome} {t : ω} (h : Ends world config p o t) :
    ¬ Moves world config p q := by
  intro hmove
  cases h with
  | finished m room hpending hwork =>
      cases hmove with
      | start => cases hwork
      | deliver | finish => cases hpending
  | unbalanced m room v hpending hframes =>
      cases hmove with
      | start => cases hpending
      | deliver | finish => cases hframes
  | twice m room v w rest hpending =>
      cases hmove with
      | produce _ _ _ hnone => cases hpending.symm.trans hnone
  | lacking m v rest hlack =>
      cases hmove with
      | invoke _ hroom => exact absurd hroom (Nat.not_le_of_lt hlack)
  | @invoke m room patience f v stop t rest hroom hrespond hstop =>
      cases hmove with
      | @invoke _ _ enough _ _ _ _ _ _ hother =>
          have hmore := Function.respond_mono (Nat.le_max_left patience enough) hrespond
            (by simpa using hstop)
          have hless := Function.respond_mono (Nat.le_max_right patience enough) hother (by simp)
          cases hmore.symm.trans hless
  | start _ _ _ _ _ _ hrequests =>
      cases hmove with
      | start _ _ _ _ _ _ hother => cases hrequests.symm.trans hother
  | deliver _ _ _ _ _ _ hframe hrequests =>
      cases hmove with
      | deliver _ _ _ _ _ _ _ hother => cases hrequests.symm.trans hother
      | finish => exact absurd rfl hframe

end Inversion

/-! ## The machine comes to its points -/

/-- From the point the turn goes as a status says: to the head of the loop again, or to a point at which
the evaluation ends. -/
def Concludes (world : World ω) (config : Config) (p : Point ω) (status : Status) (final : Machine ω) :
    Prop :=
  (status = .running ∧ ∃ left, Comes world config p ⟨final, left, []⟩) ∨
    ∃ stop q, status = .stopped stop ∧ Comes world config p q ∧
      Ends world config q (final.stopped stop) final.world

section Turn

variable {p q : Point ω} {status : Status} {final m : Machine ω} {room : Nat} {requests : List Request}

theorem Concludes.head (hmove : Moves world config p q) (h : Concludes world config q status final) :
    Concludes world config p status final := by
  rcases h with ⟨hrunning, left, hcomes⟩ | ⟨stop, r, hstopped, hcomes, hends⟩
  · exact .inl ⟨hrunning, left, .head hmove hcomes⟩
  · exact .inr ⟨stop, r, hstopped, .head hmove hcomes, hends⟩

theorem Concludes.of_ends {stop : Stop} (h : Ends world config p (final.stopped stop) final.world) :
    Concludes world config p (.stopped stop) final :=
  .inr ⟨stop, p, rfl, .refl, h⟩

/-- Requests that a machine fulfils are fulfilled one by one. -/
theorem concludes_of_fulfils {calls : List (Function × Value)}
    (h : Machine.Fulfils world room requests m calls status final)
    (hstatus : status ≠ .stopped .unfinished) : Concludes world config ⟨m, room, requests⟩ status final := by
  induction h with
  | done room m => exact .inl ⟨rfl, room, .refl⟩
  | unfinished => exact absurd rfl hstatus
  | twice room v rest hpending => exact .of_ends (.twice _ room v _ rest hpending)
  | produce hpending _ ih => exact (ih hstatus).head (.produce _ _ _ hpending)
  | evaluate _ ih => exact (ih hstatus).head (.evaluate ..)
  | push _ ih => exact (ih hstatus).head (.push ..)
  | call _ ih => exact (ih hstatus).head (.call ..)
  | refused rest hcall =>
      rcases Machine.callWithin_error hcall with ⟨hlack, rfl, rfl⟩ | ⟨hroom, hrespond⟩
      · exact .of_ends (.lacking _ _ rest hlack)
      · exact .of_ends (.invoke rest hroom hrespond fun hstop => hstatus (by rw [hstop]))
  | invoke hcall _ ih =>
      obtain ⟨hroom, hrespond⟩ := Machine.callWithin_ok hcall
      exact (ih hstatus).head (.invoke _ hroom hrespond)

/-- A step that does not end the evaluation is made of moves. -/
theorem concludes_of_steps {calls : List (Function × Value)}
    (h : Machine.Steps world config m calls status final) (hstatus : status ≠ .stopped .unfinished)
    (hover : status ≠ .over) (room : Nat) : Concludes world config ⟨m, room, []⟩ status final := by
  cases h with
  | idle => exact absurd rfl hover
  | unbalanced work v => exact .of_ends (.unbalanced _ room v rfl rfl)
  | finish => exact .inl ⟨rfl, room, .single (.finish ..)⟩
  | deliver hframe hrequests hgoes =>
      cases hgoes with
      | stopped stop t =>
          exact .of_ends (.deliver _ _ _ _ _ room hframe hrequests fun hstop => hstatus (by rw [hstop]))
      | fulfilled hfulfils =>
          exact (concludes_of_fulfils hfulfils hstatus).head (.deliver _ _ _ _ _ room hframe hrequests)
  | start hrequests hgoes =>
      cases hgoes with
      | stopped stop t =>
          exact .of_ends (.start _ _ _ _ _ room hrequests fun hstop => hstatus (by rw [hstop]))
      | fulfilled hfulfils =>
          exact (concludes_of_fulfils hfulfils hstatus).head (.start _ _ _ _ _ room hrequests)

/-- What a machine comes to at the head of its loop it comes to by moves. -/
theorem comes_of_reaches {m' : Machine ω} (h : Machine.Reaches world config m m') (room : Nat) :
    ∃ left, Comes world config ⟨m, room, []⟩ ⟨m', left, []⟩ := by
  induction h with
  | refl => exact ⟨room, .refl⟩
  | tail _ hturn ih =>
      obtain ⟨left, hcomes⟩ := ih
      obtain ⟨patience, hstep⟩ := hturn
      rcases concludes_of_steps (Machine.steps_of_step hstep) (by simp) (by simp) left with ⟨-, last, hlast⟩ | ⟨stop, q, hstopped, -⟩
      · exact ⟨last, hcomes.trans hlast⟩
      · cases hstopped

end Turn

/-! ### The end of the evaluation -/

section Halting

variable {p q : Point ω} {o : Outcome} {t : ω}

theorem responds_nil {m : Machine ω} {room : Nat} :
    Responds world config room [] m o t ↔ Halts world config m o t := by
  have hperform : ∀ patience, m.perform world patience room [] = (.running, m) := by
    intro patience
    cases patience <;> rfl
  constructor
  · rintro ⟨patience, h⟩
    rwa [hperform] at h
  · intro h
    refine ⟨0, ?_⟩
    rwa [hperform]

/-- What a point ends with, the point before it ends with. -/
theorem Moves.responds (hmove : Moves world config p q)
    (h : Responds world config q.room q.requests q.machine o t) :
    Responds world config p.room p.requests p.machine o t := by
  cases hmove with
  | @produce m room v rest hpending =>
      obtain ⟨patience, h⟩ := h
      refine ⟨patience + 1, ?_⟩
      simp only [Machine.perform, hpending]
      exact h
  | evaluate | push =>
      obtain ⟨patience, h⟩ := h
      exact ⟨patience + 1, h⟩
  | call =>
      obtain ⟨patience, h⟩ := h
      cases patience with
      | zero => exact absurd rfl h.ne_unfinished
      | succ patience => exact ⟨patience + 1, h⟩
  | @invoke m room patience f v requests later rest hroom hrespond =>
      obtain ⟨enough, h⟩ := h
      refine ⟨max patience enough + 1, ?_⟩
      simp only [Machine.perform, Machine.callWithin, if_neg (Nat.not_lt.2 hroom),
        Function.respond_mono (Nat.le_max_left patience enough) hrespond (by simp)]
      cases hperform : Machine.perform world enough (room - f.activations) (requests ++ rest)
          { m with world := later } with
      | mk status final =>
          rw [hperform] at h
          rwa [Machine.perform_mono (Nat.le_max_right patience enough) hperform h.ne_unfinished]
  | @start expr env requests work frames before results s room hrequests =>
      obtain ⟨patience, h⟩ := h
      refine responds_nil.2 (halts_of_step patience ?_)
      rw [Machine.step_start, hrequests]
      exact h
  | @deliver frame v s later requests work blame frames before results room hframe hrequests =>
      obtain ⟨patience, h⟩ := h
      refine responds_nil.2 (halts_of_step patience ?_)
      rw [Machine.step_deliver _ _ _ _ _ _ _ _ _ _ _ hframe, hrequests]
      exact h
  | finish => exact responds_nil.2 (halts_of_step 0 (responds_nil.1 h))

theorem stopped_ne_unfinished (m : Machine ω) {stop : Stop} (h : stop ≠ .unfinished) :
    m.stopped stop ≠ .unfinished := by
  cases stop with
  | failed | aborted => simp [Machine.stopped]
  | unfinished => exact absurd rfl h

theorem Ends.responds (h : Ends world config p o t) :
    Responds world config p.room p.requests p.machine o t := by
  cases h with
  | finished m room hpending hwork =>
      obtain ⟨work, frames, pending, before, results, s⟩ := m
      obtain rfl : pending = none := hpending
      obtain rfl : work = [] := hwork
      refine responds_nil.2 (halts_of_step 0 ⟨rfl, rfl, ?_⟩)
      unfold Machine.outcome
      split <;> simp
  | unbalanced m room v hpending hframes =>
      obtain ⟨work, frames, pending, before, results, s⟩ := m
      obtain rfl : pending = some v := hpending
      obtain rfl : frames = [] := hframes
      exact responds_nil.2 (halts_of_step 0 ⟨rfl, rfl, by simp⟩)
  | twice m room v w rest hpending =>
      refine ⟨1, ?_⟩
      simp only [Machine.perform, hpending]
      exact ⟨rfl, rfl, by simp⟩
  | lacking m v rest hroom =>
      refine ⟨1, ?_⟩
      simp only [Machine.perform, Machine.callWithin, if_pos hroom]
      exact ⟨rfl, rfl, by simp⟩
  | @invoke m room patience f v stop t rest hroom hrespond hstop =>
      refine ⟨patience + 1, ?_⟩
      simp only [Machine.perform, Machine.callWithin, if_neg (Nat.not_lt.2 hroom), hrespond]
      exact ⟨rfl, rfl, stopped_ne_unfinished m hstop⟩
  | start work frames before results s room hrequests hstop =>
      refine responds_nil.2 (halts_of_step 0 ?_)
      rw [Machine.step_start, hrequests]
      exact ⟨rfl, rfl, stopped_ne_unfinished _ hstop⟩
  | deliver work blame frames before results room hframe hrequests hstop =>
      refine responds_nil.2 (halts_of_step 0 ?_)
      rw [Machine.step_deliver _ _ _ _ _ _ _ _ _ _ _ hframe, hrequests]
      exact ⟨rfl, rfl, stopped_ne_unfinished _ hstop⟩

theorem perform_ne_over (world : World ω) (patience room : Nat) (requests : List Request) (m : Machine ω) :
    (m.perform world patience room requests).1 ≠ .over := by
  fun_induction Machine.perform world patience room requests m <;> simp_all

theorem proceed_ne_over (world : World ω) (patience room : Nat) (m : Machine ω)
    (returned : Except Stop (List Request) × ω) : (m.proceed world patience room returned).1 ≠ .over := by
  obtain ⟨stop | requests, t⟩ := returned
  · simp [Machine.proceed]
  · exact perform_ne_over world patience room requests _

/-- A machine is over if nothing is left for it to do. -/
theorem over_of_step {patience : Nat} {m final : Machine ω}
    (h : m.step world config patience = (.over, final)) : m.pending = none ∧ m.work = [] ∧ final = m := by
  obtain ⟨work, frames, pending, before, results, s⟩ := m
  cases pending with
  | none =>
      cases work with
      | nil => exact ⟨rfl, rfl, (Prod.mk.inj h).2.symm⟩
      | cons item work =>
          obtain ⟨expr, env⟩ := item
          rw [Machine.step_start] at h
          exact (proceed_ne_over _ _ _ _ _ (congrArg Prod.fst h)).elim
  | some v =>
      cases frames with
      | nil => cases (Prod.mk.inj h).1
      | cons entry frames =>
          obtain ⟨frame, blame⟩ := entry
          by_cases hfinish : frame = .finish
          · subst hfinish
            cases (Prod.mk.inj h).1
          · rw [Machine.step_deliver _ _ _ _ _ _ _ _ _ _ _ hfinish] at h
            exact (proceed_ne_over _ _ _ _ _ (congrArg Prod.fst h)).elim

/-- A run that ends comes to a point at which the evaluation ends. -/
theorem comes_of_run {fuel : Nat} {m final : Machine ω} (h : m.run world config fuel = (o, final))
    (ho : o ≠ .unfinished) (room : Nat) :
    ∃ q, Comes world config ⟨m, room, []⟩ q ∧ Ends world config q o final.world := by
  induction fuel generalizing m room with
  | zero => exact absurd (Prod.mk.inj h).1.symm ho
  | succ fuel ih =>
      simp only [Machine.run] at h
      cases hstep : m.step world config fuel with
      | mk status after =>
          rw [hstep] at h
          cases status with
          | running =>
              obtain ⟨left, hcomes⟩ := comes_of_reaches (.single ⟨fuel, hstep⟩) room
              obtain ⟨q, hrest, hends⟩ := ih h left
              exact ⟨q, hcomes.trans hrest, hends⟩
          | «over» =>
              obtain ⟨rfl, rfl⟩ := Prod.mk.inj h
              obtain ⟨hpending, hwork, rfl⟩ := over_of_step hstep
              exact ⟨_, .refl, .finished after room hpending hwork⟩
          | stopped stop =>
              obtain ⟨rfl, rfl⟩ := Prod.mk.inj h
              have hstop : Status.stopped stop ≠ .stopped .unfinished := by
                rintro ⟨⟩
                exact ho rfl
              rcases concludes_of_steps (Machine.steps_of_step hstep) hstop (by simp) room with
                ⟨hrunning, -⟩ | ⟨_, q, heq, hq⟩
              · cases hrunning
              · cases heq
                exact ⟨q, hq⟩

theorem Ends.responds_of_comes (h : Ends world config q o t) (hcomes : Comes world config p q) :
    Responds world config p.room p.requests p.machine o t := by
  induction hcomes using Relation.ReflTransGen.head_induction_on with
  | refl => exact h.responds
  | head hmove _ ih => exact hmove.responds ih

/-- A machine ends as the points do that it comes to. -/
theorem halts_iff_comes {m : Machine ω} :
    Halts world config m o t ↔ ∃ q, Comes world config (head m) q ∧ Ends world config q o t := by
  constructor
  · rintro ⟨ho, fuel, final, hrun, rfl⟩
    exact comes_of_run hrun ho 0
  · rintro ⟨q, hcomes, hends⟩
    exact responds_nil.1 (hends.responds_of_comes hcomes)

end Halting

end Point

/-! ## The discipline of the stacks -/

/-- The frame that a request pushes is not the last one. -/
def Request.IsInner : Request → Prop
  | .push _ _ frame => frame ≠ .finish
  | .call _ _ frame => frame ≠ .finish
  | _ => True

/-- At most one thing is asked for, and not for the last frame. -/
def Singly (returned : Except Stop (List Request)) : Prop :=
  ∀ requests, returned = .ok requests → ∃ request, requests = [request] ∧ request.IsInner

/-- The functions of the host keep to the protocol of the machine: whenever one is called, or has the value
that it has waited for, it asks for one thing. -/
structure World.Courteous (world : World ω) : Prop where
  call : ∀ id args s, Singly (world.call id args s).1
  resume : ∀ id saved v s, Singly (world.resume id saved v s).1

theorem Frame.ne_finish {frame : Frame} (h : frame.isPart = true) : frame ≠ .finish := by
  rintro rfl
  cases h

theorem Single.singly {returned : Except Stop (List Request)} (h : Single returned) : Singly returned := by
  intro requests hrequests
  obtain ⟨request, rfl, hproper⟩ := h requests hrequests
  refine ⟨request, rfl, ?_⟩
  cases request with
  | push | call => exact Frame.ne_finish hproper
  | _ => trivial

section Courteous

variable {world : World ω} {config : Config}

/-- The dice of a world without the functions of its host. -/
def World.dice (world : World ω) : Surroundings ω where
  draw := world.draw
  host _ _ s := (.error .unfinished, s)

/-- The same as a world. -/
abbrev World.diceOnly (world : World ω) : World ω :=
  world.dice.world (fun _ _ _ s => (.error .unfinished, s)) world.room

theorem World.Courteous.frame (hworld : world.Courteous) {frame : Frame} (hframe : frame ≠ .finish)
    {v : Value} {s t : ω} {returned : Except Stop (List Request)}
    (h : frame.requests world config v s = (returned, t)) : Singly returned := by
  have hpart : frame.isPart = true → Singly returned := by
    intro hpart
    have hsame : frame.requests world.diceOnly config v s = frame.requests world config v s := by
      cases frame with
      | host => cases hpart
      | _ => rfl
    exact (Frame.requests_single hpart (hsame.trans h)).singly
  cases frame with
  | finish => exact absurd rfl hframe
  | host id saved =>
      have hreturned : (world.resume id saved v s).1 = returned := congrArg Prod.fst h
      exact hreturned ▸ hworld.resume id saved v s
  | _ => exact hpart rfl

theorem World.Courteous.perform (hworld : world.Courteous) {patience : Nat} {routine : Routine}
    {args : List Value} {s t : ω} {returned : Except Stop (List Request)}
    (h : routine.perform world patience args s = (returned, t)) : Singly returned := by
  have hsingle : routine.perform world.diceOnly patience args s = (returned, t) → Singly returned := by
    intro hsame
    have haccounts : Accounts world.dice .standard default returned t
        (Performs world.dice .standard default routine args s) := perform_accounts patience routine args hsame
    exact haccounts.1.singly
  cases routine with
  | operation | die | combinator => exact hsingle h
  | host id =>
      have hreturned : (world.call id args s).1 = returned := congrArg Prod.fst h
      exact hreturned ▸ hworld.call id args s

theorem singly_one {request : Request} (h : request.IsInner) : Singly (.ok [request]) := by
  intro requests hrequests
  cases hrequests
  exact ⟨request, rfl, h⟩

theorem singly_error (stop : Stop) : Singly (.error stop) := by
  intro requests hrequests
  cases hrequests

theorem World.Courteous.respond (hworld : world.Courteous) {patience : Nat} {f : Function} {v : Value}
    {s t : ω} {returned : Except Stop (List Request)}
    (h : f.respond world patience v s = (returned, t)) : Singly returned := by
  cases f with
  | closure =>
      cases h
      exact singly_one trivial
  | primitive p bound =>
      cases hguard : p.guards[bound.length]? with
      | none =>
          rw [Function.respond_overfull patience hguard] at h
          cases h
          exact singly_error _
      | some guard =>
          cases hrefusal : guard.refusal? v with
          | some expected =>
              rw [Function.respond_refused patience hguard hrefusal] at h
              cases h
              exact singly_error _
          | none =>
              by_cases hmore : bound.length + 1 < p.arity
              · rw [Function.respond_more patience hguard hrefusal hmore] at h
                cases h
                exact singly_one trivial
              · rw [Function.respond_full patience hguard hrefusal (Nat.le_of_not_lt hmore)] at h
                exact hworld.perform h

end Courteous

theorem World.applying_courteous : World.applying.Courteous where
  call id args s := by
    simp only [applying]
    split
    · exact singly_one (by simp [Request.IsInner])
    · exact singly_error _
  resume _ _ _ _ := singly_one trivial

namespace Point

/-- A value is on its way to the frames. -/
def Brings (v : Value) (frames : List (Frame × Expr)) (p : Point ω) : Prop :=
  p.requests = [] ∧ p.machine.pending = some v ∧ p.machine.frames = frames

/-- None of the frames is the last one. -/
def Inner (top : List (Frame × Expr)) : Prop :=
  ∀ entry ∈ top, entry.1 ≠ .finish

/-- The machine is at work above the frames `base`: one request is left of the turn, or it evaluates an
expression or brings a value. -/
inductive Busy (base : List (Frame × Expr)) (results : List Value) : Point ω → Prop where
  | asking {top : List (Frame × Expr)} {request : Request} (blame : Expr) (s : ω) (room : Nat) :
      request.IsInner → Inner top → Busy base results (asking (top ++ base) blame results s room request)
  | evaluating {top : List (Frame × Expr)} (expr : Expr) (env : Env) (blame : Expr) (s : ω) (room : Nat) :
      Inner top → Busy base results ⟨⟨[(expr, env)], top ++ base, none, blame, results, s⟩, room, []⟩
  | bringing {top : List (Frame × Expr)} (v : Value) (blame : Expr) (s : ω) (room : Nat) :
      Inner top → Busy base results ⟨⟨[], top ++ base, some v, blame, results, s⟩, room, []⟩

section Busy

variable {world : World ω} {config : Config} {base : List (Frame × Expr)} {results : List Value}
  {p q : Point ω}

theorem inner_nil : Inner [] := by
  simp [Inner]

theorem Inner.push {top : List (Frame × Expr)} (h : Inner top) {frame : Frame} (hframe : frame ≠ .finish)
    (blame : Expr) : Inner ((frame, blame) :: top) := by
  intro entry hentry
  rcases List.mem_cons.1 hentry with rfl | hentry
  · exact hframe
  · exact h entry hentry

theorem Busy.suffix (h : Busy base results p) : base <:+ p.machine.frames := by
  cases h with
  | asking | evaluating | bringing => exact List.suffix_append _ _

theorem Busy.of_singly {requests : List Request} {top : List (Frame × Expr)}
    (hsingly : Singly (.ok requests)) (htop : Inner top) (blame : Expr) (s : ω) (room : Nat) :
    Busy base results (⟨⟨[], top ++ base, none, blame, results, s⟩, room, requests⟩) := by
  obtain ⟨request, rfl, hinner⟩ := hsingly requests rfl
  exact .asking blame s room hinner htop

/-- A move leaves the machine at work above the same frames, unless they have their value. -/
theorem Moves.busy (hworld : world.Courteous) (hmove : Moves world config p q) (h : Busy base results p)
    (hbusy : ∀ v, ¬ p.Brings v base) : Busy base results q := by
  cases h with
  | @asking top request blame s room hinner htop =>
      cases request with
      | produce v =>
          obtain rfl : q = _ := hmove.of_asking
          exact .bringing v blame s room htop
      | evaluate expr env =>
          obtain rfl : q = _ := hmove.of_asking
          exact .evaluating expr env blame s room htop
      | push expr env frame =>
          obtain rfl : q = _ := hmove.of_asking
          exact .evaluating expr env blame s room (htop.push hinner blame)
      | call f v frame =>
          obtain rfl : q = _ := hmove.of_asking
          have hinvoke : (Request.invoke f v).IsInner := trivial
          exact .asking blame s room hinvoke (htop.push hinner blame)
      | invoke f v =>
          obtain ⟨-, patience, requests, t, hrespond, rfl⟩ := hmove.of_asking
          exact .of_singly (hworld.respond hrespond) htop blame t _
  | evaluating expr env blame s room htop =>
      obtain ⟨requests, hrequests, rfl⟩ := hmove.of_evaluating
      have hsingle : Single (expr.requests world.room env) := expr.requests_single world.dice s world.room env
      exact .of_singly (hrequests ▸ hsingle.singly) htop expr s world.room
  | @bringing top v blame s room htop =>
      cases top with
      | nil => exact absurd ⟨rfl, rfl, rfl⟩ (hbusy v)
      | cons entry top =>
          have hframe : entry.1 ≠ .finish := htop entry List.mem_cons_self
          obtain ⟨requests, t, hrequests, rfl⟩ := hmove.of_delivering hframe
          have hrest : Inner top := fun other hother => htop other (List.mem_cons_of_mem _ hother)
          exact .of_singly (hworld.frame hframe hrequests) hrest entry.2 t world.room

/-- A machine that evaluates an expression as a whole is at work for the last frame, or it has the
result. -/
theorem Comes.busy_or (hworld : world.Courteous) {expr : Expr} {env : Env} {s : ω}
    (h : Comes world config (head (.start expr env s)) p) :
    Busy [(.finish, expr)] [] p ∨
      ∃ v blame t room, p = ⟨⟨[], [], none, blame, [v], t⟩, room, []⟩ := by
  induction h with
  | refl => exact .inl (.evaluating expr env expr s 0 inner_nil)
  | @tail p q _ hmove ih =>
      rcases ih with hbusy | ⟨v, blame, t, room, rfl⟩
      · by_cases hbrings : ∃ v, p.Brings v [(.finish, expr)]
        · refine .inr ?_
          obtain ⟨v, hrequests, hpending, hframes⟩ := hbrings
          cases hbusy with
          | asking | evaluating => cases hpending
          | @bringing top w blame t room htop =>
              obtain rfl : top = [] := by simpa using hframes
              cases hmove with
              | deliver _ _ _ _ _ _ hframe => exact absurd rfl hframe
              | finish => exact ⟨w, expr, t, room, rfl⟩
        · exact .inl (hmove.busy hworld hbusy fun v hv => hbrings ⟨v, hv⟩)
      · cases hmove

/-- The value that comes to the last frame is the result. -/
theorem Comes.halts_of_brings (hworld : world.Courteous) {expr : Expr} {env : Env} {s : ω} {v : Value}
    (h : Comes world config (head (.start expr env s)) p) (hbrings : p.Brings v [(.finish, expr)]) :
    Halts world config (.start expr env s) (.value v) p.machine.world := by
  rcases h.busy_or hworld with hbusy | ⟨w, blame, t, room, rfl⟩
  · obtain ⟨-, hpending, hframes⟩ := hbrings
    cases hbusy with
    | asking | evaluating => cases hpending
    | @bringing top w blame t room =>
        obtain rfl : top = [] := by simpa using hframes
        obtain rfl : w = v := Option.some.inj hpending
        have hlast : Comes world config (head (.start expr env s)) ⟨⟨[], [], none, expr, [w], t⟩, room, []⟩ :=
          h.tail (.finish [] expr [] w blame [] t room)
        exact halts_iff_comes.2 ⟨_, hlast, .finished _ room rfl rfl⟩
  · cases hbrings.2.1

/-- Wherever a function is called in the course of an evaluation, the machine has neither a value nor work,
and nothing else is left of the turn. -/
theorem Comes.asking_of_invoke (hworld : world.Courteous) {expr : Expr} {env : Env} {s : ω} {f : Function}
    {v : Value} {rest : List Request} (h : Comes world config (head (.start expr env s)) p)
    (hinvoke : p.requests = .invoke f v :: rest) :
    ∃ frames blame t room, p = asking frames blame [] t room (.invoke f v) := by
  rcases h.busy_or hworld with hbusy | ⟨w, blame, t, room, rfl⟩
  · cases hbusy with
    | @asking top request blame t room =>
        obtain ⟨rfl, -⟩ := List.cons.inj hinvoke
        exact ⟨_, blame, t, room, rfl⟩
    | evaluating | bringing => cases hinvoke
  · cases hinvoke

end Busy

end Point

end RollScript

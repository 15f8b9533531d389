import Mathlib.Logic.ExistsUnique
import Mathlib.Logic.Relation
import RollScript.Proofs.Evaluation.Soundness
import RollScript.Proofs.Evaluation.Stops

/-!
# The discipline of the stacks

Between two turns of its loop a machine hands over a value, or evaluates one expression, or is
finished, and it never goes wrong with its stacks. Read `stack_discipline` first. All of it comes from
one fact: a rule asks for one thing at a time. So a machine that is at work above some waiting frames
(`AtWork`) stays at work above them until it hands them a value, whatever functions call each other
meanwhile. Host functions are those of `Surroundings`, which return or fail at once.
-/

namespace RollScript

variable {ω : Type}

namespace Machine

/-! ## Turns of the loop -/

section Turns

variable (world : World ω) (config : Config)

/-- One turn of the loop, from the head of the loop to its head. -/
def Turns (m m' : Machine ω) : Prop :=
  ∃ patience, m.step world config patience = (.running, m')

/-- A machine comes to another at the head of its loop. -/
def Reaches : Machine ω → Machine ω → Prop :=
  Relation.ReflTransGen (Turns world config)

end Turns

variable {world : World ω} {config : Config}

/-- A machine turns in one way. -/
theorem Turns.unique {m m' m'' : Machine ω} (h : Turns world config m m')
    (h' : Turns world config m m'') : m' = m'' := by
  obtain ⟨patience, h⟩ := h
  obtain ⟨patience', h'⟩ := h'
  have hmax := step_mono (Nat.le_max_left patience patience') h (by simp)
  have hmax' := step_mono (Nat.le_max_right patience patience') h' (by simp)
  exact (Prod.mk.inj (hmax.symm.trans hmax')).2

/-- What is true at the head of the loop and stays true by a turn is true of all that is reached. -/
theorem Reaches.preserves {P : Machine ω → Prop} {m m' : Machine ω}
    (hturn : ∀ m m', P m → Turns world config m m' → P m') (hm : P m)
    (h : Reaches world config m m') : P m' := by
  induction h with
  | refl => exact hm
  | tail _ hlast ih => exact hturn _ _ ih hlast

/-- A run goes through states at the head of the loop, up to the one from which it ends or in which
its steps run out. -/
theorem run_ends {fuel : Nat} {m final : Machine ω} {o : Outcome}
    (h : m.run world config fuel = (o, final)) :
    ∃ last, Reaches world config m last ∧
      (o = .unfinished ∧ final = last ∨ ∃ patience,
        (last.step world config patience = (.over, final) ∧ o = final.outcome) ∨
        ∃ stop, last.step world config patience = (.stopped stop, final) ∧
          o = final.stopped stop) := by
  induction fuel generalizing m with
  | zero =>
      obtain ⟨rfl, rfl⟩ := Prod.mk.inj h
      exact ⟨m, .refl, .inl ⟨rfl, rfl⟩⟩
  | succ fuel ih =>
      simp only [run] at h
      cases hstep : m.step world config fuel with
      | mk status after =>
          rw [hstep] at h
          cases status with
          | running =>
              obtain ⟨last, hlast, hend⟩ := ih h
              exact ⟨last, .head ⟨fuel, hstep⟩ hlast, hend⟩
          | «over» =>
              obtain ⟨rfl, rfl⟩ := Prod.mk.inj h
              exact ⟨m, .refl, .inr ⟨fuel, .inl ⟨hstep, rfl⟩⟩⟩
          | stopped stop =>
              obtain ⟨rfl, rfl⟩ := Prod.mk.inj h
              exact ⟨m, .refl, .inr ⟨fuel, .inr ⟨stop, hstep, rfl⟩⟩⟩

/-! ## Work above waiting frames -/

/-- The machine is at work above the frames `base`: it evaluates one expression, or it hands over a
value. The frames on top of `base` are parts of rules. -/
inductive AtWork (base : List (Frame × Expr)) (results : List Value) : Machine ω → Prop where
  | evaluating (expr : Expr) (env : Env) {top : List (Frame × Expr)} (blame : Expr) (s : ω) :
      (∀ entry ∈ top, entry.1.isPart = true) →
      AtWork base results ⟨[(expr, env)], top ++ base, none, blame, results, s⟩
  | delivering (v : Value) {top : List (Frame × Expr)} (blame : Expr) (s : ω) :
      (∀ entry ∈ top, entry.1.isPart = true) →
      AtWork base results ⟨[], top ++ base, some v, blame, results, s⟩

/-- The stops of a turn. -/
def Foreseen (world : World ω) (stop : Stop) : Prop :=
  CallStop world stop ∨ (∃ x, stop = .failed (.unbound x)) ∨ stop = .aborted .tooDeep

/-- A turn has left the machine at work above the same frames, or it has stopped as foreseen. -/
def Kept (world : World ω) (base : List (Frame × Expr)) (results : List Value) :
    Status × Machine ω → Prop
  | (.running, m) => AtWork base results m
  | (.over, _) => False
  | (.stopped stop, _) => Foreseen world stop

/-- A value is on its way to the frames. -/
def Returns (frames : List (Frame × Expr)) (m : Machine ω) : Prop :=
  m.pending.isSome = true ∧ m.frames = frames

theorem AtWork.suffix {base : List (Frame × Expr)} {results : List Value} {m : Machine ω}
    (h : AtWork base results m) : base <:+ m.frames := by
  cases h with
  | evaluating => exact List.suffix_append _ _
  | delivering => exact List.suffix_append _ _

theorem Foreseen.of_frame {frame : Frame} (hframe : frame.isPart = true) {v : Value} {s t : ω}
    {stop : Stop} (h : frame.requests world config v s = (.error stop, t)) :
    Foreseen world stop := by
  have hhost : ∀ id saved, frame ≠ .host id saved := by
    rintro id saved rfl
    cases hframe
  rcases Frame.requests_stop hhost h with ⟨-, hstop⟩ | hdeep
  · exact .inl (.values hstop)
  · exact .inr (.inr hdeep)

theorem Foreseen.of_expr {room : Nat} {expr : Expr} {env : Env} {stop : Stop}
    (h : expr.requests room env = .error stop) : Foreseen world stop := by
  rcases Expr.requests_stop h with ⟨-, x, -, hstop⟩ | hdeep
  · exact .inr (.inl ⟨x, hstop⟩)
  · exact .inr (.inr hdeep)

section Surroundings

variable {around : Surroundings ω}
  {resume : Nat → List Value → Value → ω → Except Stop (List Request) × ω} {room : Nat}
  {base : List (Frame × Expr)} {results : List Value}

/-- A machine goes on with the one request of a rule. -/
theorem proceed_kept_of {patience budget : Nat} {returned : Except Stop (List Request)}
    {m : Machine ω} {t : ω}
    (hperform : ∀ request : Request, request.isProper = true →
      Kept (around.world resume room) base results
        (perform (around.world resume room) patience budget [request] { m with world := t }))
    (hsingle : Single returned)
    (hstop : ∀ stop, returned = .error stop → Foreseen (around.world resume room) stop) :
    Kept (around.world resume room) base results
      (m.proceed (around.world resume room) patience budget (returned, t)) := by
  cases returned with
  | error stop => exact hstop stop rfl
  | ok requests =>
      obtain ⟨request, rfl, hproper⟩ := hsingle requests rfl
      exact hperform request hproper

/-- A machine that fulfils one request stays at work above the frames: the request delivers a value,
starts an evaluation or calls a function, which asks for one thing in its turn. -/
theorem perform_kept (config : Config) (patience budget : Nat) (request : Request)
    (hproper : request.isProper = true) {top : List (Frame × Expr)}
    (htop : ∀ entry ∈ top, entry.1.isPart = true) (blame : Expr) (s : ω) :
    Kept (around.world resume room) base results
      (perform (around.world resume room) patience budget [request]
        ⟨[], top ++ base, none, blame, results, s⟩) := by
  induction patience generalizing budget request top s with
  | zero => exact .inl .unfinished
  | succ patience ih =>
      have hpush : ∀ frame : Frame, frame.isPart = true →
          ∀ entry ∈ (frame, blame) :: top, entry.1.isPart = true := by
        intro frame hframe entry hentry
        rcases List.mem_cons.1 hentry with rfl | hentry
        · exact hframe
        · exact htop entry hentry
      have hinvoke : ∀ (f : Function) (v : Value) {top : List (Frame × Expr)},
          (∀ entry ∈ top, entry.1.isPart = true) →
          Kept (around.world resume room) base results
            (perform (around.world resume room) (patience + 1) budget [.invoke f v]
              ⟨[], top ++ base, none, blame, results, s⟩) := by
        intro f v top htop
        rw [perform_invoke]
        split
        · exact .inr (.inr rfl)
        · cases hrespond : f.respond (around.world resume room) patience v s with
          | mk returned t =>
              have haccounts : Accounts around config blame returned t
                  (Calls around config blame f v s) := respond_accounts patience f v hrespond
              refine proceed_kept_of ?_ haccounts.1 ?_
              · exact fun request hproper => ih (budget - f.activations) request hproper htop t
              · rintro stop rfl
                exact .inl (Function.respond_stop hrespond)
      cases request with
      | produce v =>
          simp only [perform]
          exact AtWork.delivering v blame s htop
      | evaluate expr env =>
          simp only [perform]
          exact AtWork.evaluating expr env blame s htop
      | push expr env frame =>
          simp only [perform]
          exact AtWork.evaluating expr env blame s (hpush frame hproper)
      | invoke f v => exact hinvoke f v htop
      | call f v frame =>
          rw [perform_call, if_neg (by omega)]
          exact hinvoke f v (hpush frame hproper)

theorem proceed_kept (config : Config) (patience : Nat) {returned : Except Stop (List Request)}
    {top : List (Frame × Expr)} (htop : ∀ entry ∈ top, entry.1.isPart = true) (blame : Expr)
    (s t : ω) (hsingle : Single returned)
    (hstop : ∀ stop, returned = .error stop → Foreseen (around.world resume room) stop) :
    Kept (around.world resume room) base results
      (proceed (around.world resume room) patience room
        ⟨[], top ++ base, none, blame, results, s⟩ (returned, t)) :=
  proceed_kept_of
    (fun request hproper => perform_kept config patience room request hproper htop blame t)
    hsingle hstop

/-- A turn leaves the machine at work above the same frames, unless it hands them a value. -/
theorem step_kept {m : Machine ω} (h : AtWork base results m) (hbusy : ¬ m.Returns base)
    (patience : Nat) :
    Kept (around.world resume room) base results
      (m.step (around.world resume room) config patience) := by
  cases h with
  | evaluating expr env blame s htop =>
      rw [step_start]
      have haccounts : Accounts around config expr (expr.requests room env) s
          (Evaluates around config env expr s) := expr_accounts expr env
      exact proceed_kept config patience htop expr s s haccounts.1 fun stop => .of_expr
  | @delivering v top blame s htop =>
      cases top with
      | nil => exact absurd ⟨rfl, rfl⟩ hbusy
      | cons entry top =>
          obtain ⟨frame, before⟩ := entry
          have hframe : frame.isPart = true := htop (frame, before) List.mem_cons_self
          rw [List.cons_append, step_deliver _ _ _ _ _ _ _ _ _ _ _ (by rintro rfl; cases hframe)]
          cases hrequests : frame.requests (around.world resume room) config v s with
          | mk returned t =>
              have haccounts : Accounts around config before returned t
                  (frame.Takes around config before v s) :=
                frame_accounts frame hframe v hrequests
              refine proceed_kept config patience ?_ before s t haccounts.1 ?_
              · exact fun entry hentry => htop entry (List.mem_cons_of_mem _ hentry)
              · rintro stop rfl
                exact .of_frame hframe hrequests

theorem Turns.atWork {m m' : Machine ω} (hturn : Turns (around.world resume room) config m m')
    (h : AtWork base results m) (hbusy : ¬ m.Returns base) : AtWork base results m' := by
  obtain ⟨patience, hstep⟩ := hturn
  have hkept : Kept (around.world resume room) base results
      (m.step (around.world resume room) config patience) := step_kept h hbusy patience
  rwa [hstep] at hkept

end Surroundings

/-! ## The whole evaluation -/

/-- A machine that evaluates an expression as a whole: it is at work for the last frame, or it has the
result. -/
inductive Orderly (expr : Expr) : Machine ω → Prop where
  | working {m : Machine ω} : AtWork [(.finish, expr)] [] m → Orderly expr m
  | finished (v : Value) (blame : Expr) (s : ω) : Orderly expr ⟨[], [], none, blame, [v], s⟩

theorem start_orderly (expr : Expr) (env : Env) (s : ω) : Orderly expr (start expr env s) := by
  have hwork : AtWork [(.finish, expr)] [] (start expr env s) :=
    .evaluating expr env expr s (fun entry hentry => absurd hentry (List.not_mem_nil))
  exact .working hwork

/-- The value that comes to the last frame is the result. -/
theorem step_finish {m : Machine ω} {base : List (Frame × Expr)} {results : List Value}
    {blame : Expr} (h : AtWork ((.finish, blame) :: base) results m)
    (hreturns : m.Returns ((.finish, blame) :: base)) (patience : Nat) :
    ∃ v s, m.step world config patience = (.running, ⟨[], base, none, blame, results ++ [v], s⟩) := by
  cases h with
  | evaluating => exact absurd hreturns.1 (by simp)
  | @delivering v top before s htop =>
      have htop : top = [] := by simpa using hreturns.2
      subst htop
      exact ⟨v, s, rfl⟩

section Surroundings

variable {around : Surroundings ω}
  {resume : Nat → List Value → Value → ω → Except Stop (List Request) × ω} {room : Nat}
  {expr : Expr} {m m' : Machine ω}

/-- What a turn does to a machine that evaluates an expression as a whole. -/
theorem Orderly.step (h : Orderly expr m) {patience : Nat} {status : Status}
    (hstep : m.step (around.world resume room) config patience = (status, m')) :
    match status with
    | .running => Orderly expr m'
    | .over => ∃ v, m'.outcome = .value v
    | .stopped stop => Foreseen (around.world resume room) stop := by
  cases h with
  | finished v blame s =>
      obtain ⟨rfl, rfl⟩ := Prod.mk.inj hstep
      exact ⟨v, rfl⟩
  | working hwork =>
      by_cases hreturns : m.Returns [(.finish, expr)]
      · obtain ⟨v, s, hfinish⟩ := step_finish hwork hreturns patience
        obtain ⟨rfl, rfl⟩ := Prod.mk.inj (hfinish.symm.trans hstep)
        exact .finished v expr s
      · have hkept : Kept (around.world resume room) [(.finish, expr)] []
            (m.step (around.world resume room) config patience) := step_kept hwork hreturns patience
        rw [hstep] at hkept
        cases status with
        | running => exact .working hkept
        | «over» => exact absurd hkept id
        | stopped stop => exact hkept

theorem Orderly.reaches (h : Orderly expr m)
    (hreaches : Reaches (around.world resume room) config m m') : Orderly expr m' := by
  refine hreaches.preserves ?_ h
  rintro m m' h ⟨patience, hstep⟩
  exact h.step hstep

/-- How the evaluation of an expression ends: with a value, or with a stop that is foreseen. -/
theorem Orderly.run (h : Orderly expr m) {fuel : Nat} {o : Outcome} {final : Machine ω}
    (hrun : m.run (around.world resume room) config fuel = (o, final)) :
    (∃ v, o = .value v) ∨ o = .unfinished ∨
      ∃ stop, Foreseen (around.world resume room) stop ∧ o = final.stopped stop := by
  obtain ⟨last, hlast, ⟨rfl, -⟩ | ⟨patience, ⟨hover, rfl⟩ | ⟨stop, hstop, rfl⟩⟩⟩ := run_ends hrun
  · exact .inr (.inl rfl)
  · exact .inl ((h.reaches hlast).step hover)
  · exact .inr (.inr ⟨stop, (h.reaches hlast).step hstop, rfl⟩)

end Surroundings

/-! ## The evaluation of one expression for waiting frames -/

/-- The machine evaluates an expression for waiting frames. -/
def EvaluatesOn (expr : Expr) (env : Env) (frames : List (Frame × Expr)) (m : Machine ω) : Prop :=
  m.pending = none ∧ m.work = [(expr, env)] ∧ m.frames = frames

/-- `Within world config frames m m'`: the machine comes from `m` to `m'`, and in no state before `m'`
was a value on its way to the frames. -/
inductive Within (world : World ω) (config : Config) (frames : List (Frame × Expr)) :
    Machine ω → Machine ω → Prop where
  | refl (m : Machine ω) : Within world config frames m m
  | head {m m' m'' : Machine ω} : ¬ m.Returns frames → Turns world config m m' →
      Within world config frames m' m'' → Within world config frames m m''

/-- The first value that comes to the frames after `m` is `v`, and is on its way in `m'`. -/
def Hands (world : World ω) (config : Config) (frames : List (Frame × Expr)) (v : Value)
    (m m' : Machine ω) : Prop :=
  Within world config frames m m' ∧ m'.pending = some v ∧ m'.frames = frames

theorem Within.tail {frames : List (Frame × Expr)} {m m' m'' : Machine ω}
    (h : Within world config frames m m') (hbusy : ¬ m'.Returns frames)
    (hturn : Turns world config m' m'') : Within world config frames m m'' := by
  induction h with
  | refl m => exact .head hbusy hturn (.refl m'')
  | head hbefore hfirst _ ih => exact .head hbefore hfirst (ih hbusy hturn)

/-- At most one value comes to the frames before the topmost of them is taken away. -/
theorem Within.unique {frames : List (Frame × Expr)} {m m' m'' : Machine ω}
    (h : Within world config frames m m') (hreturns : m'.Returns frames)
    (h' : Within world config frames m m'') (hreturns' : m''.Returns frames) : m' = m'' := by
  induction h with
  | refl m =>
      cases h' with
      | refl => rfl
      | head hbusy => exact absurd hreturns hbusy
  | head hbusy hturn _ ih =>
      cases h' with
      | refl => exact absurd hreturns' hbusy
      | head _ hturn' hrest' =>
          obtain rfl := hturn.unique hturn'
          exact ih hreturns hrest'

/-- A state that is reached belongs to the evaluation for the frames, or comes after the value. -/
theorem Reaches.within_or {frames : List (Frame × Expr)} {m m' : Machine ω}
    (h : Reaches world config m m') :
    Within world config frames m m' ∨
      ∃ mid, (Within world config frames m mid ∧ mid.Returns frames) ∧
        Reaches world config mid m' := by
  induction h with
  | refl => exact .inl (.refl m)
  | @tail m₁ m₂ _ hturn ih =>
      rcases ih with hwithin | ⟨mid, hmid, hrest⟩
      · by_cases hreturns : m₁.Returns frames
        · exact .inr ⟨m₁, ⟨hwithin, hreturns⟩, .tail .refl hturn⟩
        · exact .inl (hwithin.tail hreturns hturn)
      · exact .inr ⟨mid, hmid, hrest.tail hturn⟩

/-- While the machine evaluates for the frames they stay at the bottom of its stack. The turn after the
value takes away the topmost of them, and none of the others; and whatever the machine comes to later
comes after exactly one value for them. -/
def Undisturbed (world : World ω) (config : Config) (frames : List (Frame × Expr))
    (m : Machine ω) : Prop :=
  (∀ m', Within world config frames m m' → frames <:+ m'.frames) ∧
  (∀ mid m', Within world config frames m mid → mid.Returns frames → Turns world config mid m' →
    frames.tail <:+ m'.frames) ∧
  ∀ m', Reaches world config m m' → Within world config frames m m' ∨
    ∃! mid, (Within world config frames m mid ∧ mid.Returns frames) ∧ Reaches world config mid m'

/-- The machine stands at the body of a block, for given frames, or at the value of one of its
definitions. -/
def AtDefinition (body : Expr) (env : Env) (frames : List (Frame × Expr)) (m : Machine ω) : Prop :=
  (∃ entries, m.EvaluatesOn body (.scope entries env) frames) ∨
  ∃ done name value rest blame,
    m.EvaluatesOn value env ((.definition done name rest body env, blame) :: frames)

/-- An expression that the machine evaluates for given frames goes over into others for the same
frames: an application of a closure into the closure's body, a choice into a branch, and a block,
after its definitions, into its body. -/
def GoesOver (world : World ω) (config : Config) (env : Env) (frames : List (Frame × Expr))
    (m : Machine ω) : Expr → Prop
  | .apply span callee operand =>
    ∀ m₁, Turns world config m m₁ →
      m₁.EvaluatesOn callee env ((.callee operand env, .apply span callee operand) :: frames) ∧
      ∀ f m₂, Hands world config ((.callee operand env, .apply span callee operand) :: frames)
        (.function f) m₁ m₂ → ∀ m₃, Turns world config m₂ m₃ →
        m₃.EvaluatesOn operand env ((.argument f, .apply span callee operand) :: frames) ∧
        ∀ v m₄, Hands world config ((.argument f, .apply span callee operand) :: frames) v m₃ m₄ →
          ∀ m₅ parameter body scope, Turns world config m₄ m₅ →
            f = .closure parameter body scope →
            m₅.EvaluatesOn body (scope.bind parameter v) frames
  | .choice span condition whenTrue whenFalse =>
    ∀ m₁, Turns world config m m₁ →
      m₁.EvaluatesOn condition env
        ((.branch whenTrue whenFalse env, .choice span condition whenTrue whenFalse) :: frames) ∧
      ∀ v m₂, Hands world config
        ((.branch whenTrue whenFalse env, .choice span condition whenTrue whenFalse) :: frames)
        v m₁ m₂ → ∀ m₃, Turns world config m₂ m₃ →
        m₃.EvaluatesOn (if v.truthy then whenTrue else whenFalse) env frames
  | .block _ _ body =>
    (∀ m₁, Turns world config m m₁ → m₁.AtDefinition body env frames) ∧
    ∀ m₁ done name value rest blame,
      m₁.EvaluatesOn value env ((.definition done name rest body env, blame) :: frames) →
      ∀ v m₂, Hands world config ((.definition done name rest body env, blame) :: frames) v m₁ m₂ →
        ∀ m₃, Turns world config m₂ m₃ → m₃.AtDefinition body env frames
  | _ => True

/-! ## One request after a value has come -/

theorem perform_evaluate {patience budget : Nat} {expr : Expr} {env : Env} {m m' : Machine ω}
    (h : perform world patience budget [.evaluate expr env] m = (.running, m')) :
    m' = m.pushWork expr env := by
  cases patience with
  | zero => cases h
  | succ patience =>
      simp only [perform] at h
      exact (Prod.mk.inj h).2.symm

theorem perform_push {patience budget : Nat} {expr : Expr} {env : Env} {frame : Frame}
    {m m' : Machine ω}
    (h : perform world patience budget [.push expr env frame] m = (.running, m')) :
    m' = (m.pushFrame frame).pushWork expr env := by
  cases patience with
  | zero => cases h
  | succ patience =>
      simp only [perform] at h
      exact (Prod.mk.inj h).2.symm

theorem perform_invoke_closure {patience budget : Nat} {parameter : Text} {body : Expr}
    {env : Env} {v : Value} {m m' : Machine ω}
    (h : perform world patience budget [.invoke (.closure parameter body env) v] m =
      (.running, m')) : m' = m.pushWork body (env.bind parameter v) := by
  cases patience with
  | zero => cases h
  | succ patience =>
      rw [perform_invoke, if_neg (by simp [Function.activations])] at h
      exact perform_evaluate h

/-- The definitions of a block go on to the next value or to the body. -/
theorem defineNext_cases (done : List (Text × Entry)) (body : Expr) (env : Env)
    (rest : List (Text × Expr)) :
    (∃ entries, defineNext done body env rest = [.evaluate body (.scope entries env)]) ∨
    ∃ done' name value rest', defineNext done body env rest =
      [.push value env (.definition done' name rest' body env)] := by
  induction rest generalizing done with
  | nil => exact .inl ⟨done, rfl⟩
  | cons binding rest ih =>
      obtain ⟨name, value⟩ := binding
      by_cases hvalue : value.isLiteral = true
      · cases value with
        | function span parameter literal => exact ih ((name, .literal parameter literal) :: done)
        | _ => simp [Expr.isLiteral] at hvalue
      · exact .inr ⟨done, name, value, rest, defineNext_of_not_literal (by simpa using hvalue)⟩

section Surroundings

variable {around : Surroundings ω}
  {resume : Nat → List Value → Value → ω → Except Stop (List Request) × ω} {room : Nat}
  {expr body : Expr} {env : Env} {frames : List (Frame × Expr)} {m m' m'' : Machine ω}

theorem EvaluatesOn.atWork (h : m.EvaluatesOn expr env frames) : AtWork frames m.results m := by
  obtain ⟨work, stack, pending, blame, results, s⟩ := m
  obtain ⟨rfl, rfl, rfl⟩ := h
  have hwork : AtWork stack results ⟨[(expr, env)], [] ++ stack, none, blame, results, s⟩ :=
    .evaluating expr env blame s (fun entry hentry => absurd hentry (List.not_mem_nil))
  exact hwork

theorem Within.atWork {results : List Value}
    (h : Within (around.world resume room) config frames m m') (hm : AtWork frames results m) :
    AtWork frames results m' := by
  induction h with
  | refl => exact hm
  | head hbusy hturn _ ih => exact ih (hturn.atWork hm hbusy)

/-- The turn after a value has come takes away the topmost of the frames. -/
theorem AtWork.pops {results : List Value} (h : AtWork frames results m)
    (hreturns : m.Returns frames) (hturn : Turns (around.world resume room) config m m')
    (hshape : ∃ top, frames = top ++ [(.finish, expr)] ∧ ∀ entry ∈ top, entry.1.isPart = true) :
    frames.tail <:+ m'.frames := by
  obtain ⟨top, rfl, htop⟩ := hshape
  cases top with
  | nil =>
      obtain ⟨patience, hstep⟩ := hturn
      obtain ⟨v, s, hfinish⟩ := step_finish h hreturns patience
      obtain ⟨-, rfl⟩ := Prod.mk.inj (hfinish.symm.trans hstep)
      exact List.suffix_refl _
  | cons entry top =>
      cases h with
      | evaluating => exact absurd hreturns.1 (by simp)
      | @delivering v above before s habove =>
          obtain rfl : above = [] := by simpa using hreturns.2
          have hwork : AtWork (top ++ [(.finish, expr)]) results
              ⟨[], [entry] ++ (top ++ [(.finish, expr)]), some v, before, results, s⟩ := by
            refine .delivering v before s fun other hother => ?_
            rw [List.mem_singleton.1 hother]
            exact htop entry List.mem_cons_self
          exact (hturn.atWork hwork fun hbad => by simpa using hbad.2).suffix

theorem Orderly.waiting (h : Orderly expr m) {e : Expr} {scope : Env}
    (he : m.EvaluatesOn e scope frames) :
    ∃ top, frames = top ++ [(.finish, expr)] ∧ ∀ entry ∈ top, entry.1.isPart = true := by
  cases h with
  | finished => cases he.2.1
  | working hwork =>
      cases hwork with
      | @evaluating _ _ top _ _ htop => exact ⟨top, he.2.2.symm, htop⟩
      | delivering => cases he.1

theorem EvaluatesOn.undisturbed {e : Expr} {scope : Env} (h : m.EvaluatesOn e scope frames)
    (hm : Orderly expr m) : Undisturbed (around.world resume room) config frames m := by
  refine ⟨fun m' hwithin => (hwithin.atWork h.atWork).suffix, ?_, fun m' hreaches => ?_⟩
  · intro mid m' hwithin hreturns hturn
    exact (hwithin.atWork h.atWork).pops hreturns hturn (hm.waiting h)
  · rcases hreaches.within_or with hwithin | ⟨mid, hmid, hrest⟩
    · exact .inl hwithin
    · refine .inr ⟨mid, ⟨hmid, hrest⟩, ?_⟩
      rintro other ⟨hother, -⟩
      exact hother.1.unique hother.2 hmid.1 hmid.2

/-- An expression goes on with the requests of its rule. -/
theorem EvaluatesOn.turns (h : m.EvaluatesOn expr env frames) (hturn : Turns world config m m') :
    ∃ patience s, proceed world patience world.room ⟨[], frames, none, expr, m.results, s⟩
      (expr.requests world.room env, s) = (.running, m') := by
  obtain ⟨work, stack, pending, blame, results, s⟩ := m
  obtain ⟨rfl, rfl, rfl⟩ := h
  obtain ⟨patience, hstep⟩ := hturn
  rw [step_start] at hstep
  exact ⟨patience, s, hstep⟩

/-- The topmost frame goes on with its requests when the value for it has come. -/
theorem EvaluatesOn.hands {frame : Frame} {blame : Expr} {v : Value}
    (h : m.EvaluatesOn expr env ((frame, blame) :: frames)) (hframe : frame ≠ .finish)
    (hhands : Hands (around.world resume room) config ((frame, blame) :: frames) v m m')
    (hturn : Turns (around.world resume room) config m' m'') :
    ∃ patience s, proceed (around.world resume room) patience room
      ⟨[], frames, none, blame, m.results, s⟩
      (frame.requests (around.world resume room) config v s) = (.running, m'') := by
  obtain ⟨hwithin, hpending, hstack⟩ := hhands
  cases hwithin.atWork h.atWork with
  | evaluating => cases hpending
  | @delivering w top before s htop =>
      have htop : top = [] := by simpa using hstack
      subst htop
      obtain rfl := Option.some.inj hpending
      obtain ⟨patience, hstep⟩ := hturn
      rw [List.nil_append, step_deliver _ _ _ _ _ _ _ _ _ _ _ hframe] at hstep
      exact ⟨patience, s, hstep⟩

theorem atDefinition_of_proceed {patience budget : Nat} {done : List (Text × Entry)}
    {rest : List (Text × Expr)} {blame : Expr} {results : List Value} {s : ω}
    (h : proceed world patience budget ⟨[], frames, none, blame, results, s⟩
      (defineWithin room done body env rest, s) = (.running, m')) :
    m'.AtDefinition body env frames := by
  unfold defineWithin at h
  split at h
  · cases h
  · rcases defineNext_cases done body env rest with ⟨entries, hnext⟩ |
      ⟨done', name, value, rest', hnext⟩
    · rw [hnext] at h
      obtain rfl := perform_evaluate h
      exact .inl ⟨entries, rfl, rfl, rfl⟩
    · rw [hnext] at h
      obtain rfl := perform_push h
      exact .inr ⟨done', name, value, rest', blame, rfl, rfl, rfl⟩

/-- Closures' bodies, branches and bodies of blocks are evaluated for the frames that wait for the
whole expression. -/
theorem EvaluatesOn.goesOver (h : m.EvaluatesOn expr env frames) :
    GoesOver (around.world resume room) config env frames m expr := by
  cases expr with
  | number | string | unit | name | array | function => trivial
  | apply span callee operand =>
      intro m₁ hm₁
      obtain ⟨patience, s, hproceed⟩ := h.turns hm₁
      have hcallee : m₁.EvaluatesOn callee env
          ((.callee operand env, .apply span callee operand) :: frames) := by
        rw [perform_push hproceed]
        exact ⟨rfl, rfl, rfl⟩
      refine ⟨hcallee, fun f m₂ hm₂ m₃ hm₃ => ?_⟩
      obtain ⟨patience, s, hproceed⟩ := hcallee.hands (by simp) hm₂ hm₃
      have hoperand : m₃.EvaluatesOn operand env
          ((.argument f, .apply span callee operand) :: frames) := by
        rw [perform_push hproceed]
        exact ⟨rfl, rfl, rfl⟩
      refine ⟨hoperand, fun v m₄ hm₄ m₅ parameter body scope hm₅ hf => ?_⟩
      obtain ⟨patience, s, hproceed⟩ := hoperand.hands (by simp) hm₄ hm₅
      subst hf
      rw [perform_invoke_closure hproceed]
      exact ⟨rfl, rfl, rfl⟩
  | choice span condition whenTrue whenFalse =>
      intro m₁ hm₁
      obtain ⟨patience, s, hproceed⟩ := h.turns hm₁
      have hcondition : m₁.EvaluatesOn condition env
          ((.branch whenTrue whenFalse env, .choice span condition whenTrue whenFalse) ::
            frames) := by
        rw [perform_push hproceed]
        exact ⟨rfl, rfl, rfl⟩
      refine ⟨hcondition, fun v m₂ hm₂ m₃ hm₃ => ?_⟩
      obtain ⟨patience, s, hproceed⟩ := hcondition.hands (by simp) hm₂ hm₃
      rw [perform_evaluate hproceed]
      exact ⟨rfl, rfl, rfl⟩
  | block span bindings body =>
      refine ⟨fun m₁ hm₁ => ?_, ?_⟩
      · obtain ⟨patience, s, hproceed⟩ := h.turns hm₁
        exact atDefinition_of_proceed hproceed
      · intro m₁ done name value rest blame hm₁ v m₂ hm₂ m₃ hm₃
        obtain ⟨patience, s, hproceed⟩ := hm₁.hands (by simp) hm₂ hm₃
        exact atDefinition_of_proceed hproceed

end Surroundings

/-! ## The discipline -/

end Machine

/-- What a machine is about at the head of its loop. -/
inductive Posture where
  | delivering | evaluating | finished

namespace Machine

/-- A machine that delivers has a value for its frames and no work; one that evaluates has one
expression, and frames that wait for it; one that is finished has a result and nothing else. -/
def Shows (m : Machine ω) : Posture → Prop
  | .delivering => m.pending.isSome = true ∧ m.work = [] ∧ m.frames ≠ []
  | .evaluating => m.pending = none ∧ m.work.length = 1 ∧ m.frames ≠ []
  | .finished => m.pending = none ∧ m.work = [] ∧ m.frames = [] ∧ m.results.length = 1

theorem Orderly.shows {expr : Expr} {m : Machine ω} (h : Orderly expr m) :
    ∃! posture, m.Shows posture := by
  cases h with
  | finished v blame s =>
      refine ⟨.finished, ⟨rfl, rfl, rfl, rfl⟩, ?_⟩
      rintro (_ | _ | _) h
      · cases h.1
      · cases h.2.1
      · rfl
  | working hwork =>
      cases hwork with
      | evaluating e env blame s htop =>
          refine ⟨.evaluating, ⟨rfl, rfl, by simp⟩, ?_⟩
          rintro (_ | _ | _) h
          · cases h.1
          · rfl
          · cases h.2.1
      | delivering v blame s htop =>
          refine ⟨.delivering, ⟨rfl, rfl, by simp⟩, ?_⟩
          rintro (_ | _ | _) h
          · rfl
          · cases h.1
          · cases h.1

/-- No turn stops because a value was produced twice or because something is left over, as long as no
function of the host does. -/
theorem Foreseen.not_astray {around : Surroundings ω}
    {resume : Nat → List Value → Value → ω → Except Stop (List Request) × ω} {room : Nat}
    {abort : Abort} (habort : abort = .producedTwice ∨ abort = .unbalanced)
    (hhost : ∀ id args s, (around.host id args s).1 ≠ .error (.aborted abort)) :
    ¬ Foreseen (around.world resume room) (.aborted abort) := by
  rintro (hcall | ⟨x, hx⟩ | hdeep)
  · cases hcall with
    | arguments harguments =>
        rcases harguments with hvalues | hmisapplied
        · cases hvalues
        · cases hmisapplied
          rcases habort with h | h <;> cases h
    | draw hdraw =>
        cases hdraw
        rcases habort with h | h <;> cases h
    | @host id args s hcall =>
        refine hhost id args s ?_
        simp only [Surroundings.world] at hcall
        cases hreturned : (around.host id args s).1 with
        | ok v =>
            rw [hreturned] at hcall
            cases hcall
        | error stop =>
            rw [hreturned] at hcall
            cases hcall
            rfl
  · cases hx
  · cases hdeep
    rcases habort with h | h <;> cases h

end Machine

open Machine

/-- The discipline of the stacks. At the head of the loop a machine that was started on an expression
is about exactly one thing: to deliver a value, to evaluate an expression or to be finished. It never
ends because a value was produced twice or because something is left over when it is done, unless a
function of the host ends like that. And whatever expression it evaluates for waiting frames, those
stay undisturbed until they get exactly one value, and closures' bodies, branches and bodies of blocks
are evaluated for the very same frames. -/
theorem stack_discipline (around : Surroundings ω)
    (resume : Nat → List Value → Value → ω → Except Stop (List Request) × ω) (room : Nat)
    (config : Config) (env : Env) (expr : Expr) (s : ω) :
    (∀ m, Reaches (around.world resume room) config (start expr env s) m →
      ∃! posture, m.Shows posture) ∧
    (∀ fuel abort, abort = .producedTwice ∨ abort = .unbalanced →
      (∀ id args s, (around.host id args s).1 ≠ .error (.aborted abort)) →
      (evaluateWithin fuel (around.world resume room) config env expr s).1 ≠ .aborted abort) ∧
    (∀ m e scope frames, Reaches (around.world resume room) config (start expr env s) m →
      m.EvaluatesOn e scope frames →
      Undisturbed (around.world resume room) config frames m ∧
        GoesOver (around.world resume room) config scope frames m e) := by
  have hstart : Orderly expr (start expr env s) := start_orderly expr env s
  refine ⟨fun m hm => (hstart.reaches hm).shows, ?_, ?_⟩
  · intro fuel abort habort hhost houtcome
    rcases hstart.run (Prod.eta _) with ⟨v, hv⟩ | hunfinished | ⟨stop, hstop, ho⟩
    · cases houtcome.symm.trans hv
    · cases houtcome.symm.trans hunfinished
    · have heq := houtcome.symm.trans ho
      cases stop with
      | failed cause => cases heq
      | unfinished => cases heq
      | aborted other =>
          obtain rfl : abort = other := by simpa [stopped] using heq
          exact Foreseen.not_astray habort hhost hstop
  · intro m e scope frames hm he
    exact ⟨he.undisturbed (hstart.reaches hm), he.goesOver⟩

end RollScript

import RollScript.Machine.Run

/-!
# Runs that end

A machine is run with a number of steps, which also bounds the draws of a die and the calls within a
step. Read `run_mono` first: once a run has ended, more steps change nothing. So `Halts` can speak of
how a machine ends without naming a number of steps.
-/

namespace RollScript

variable {ω : Type}

/-! ## Patience of the dice -/

namespace Random

/-- A sample that was found is found with more patience too. -/
theorem below_mono {draw : BitSource ω} {bound patience more : Nat} {state later : ω}
    {a : Except Stop Nat} (hle : patience ≤ more)
    (h : below draw bound patience state = (a, later)) (ha : a ≠ .error .unfinished) :
    below draw bound more state = (a, later) := by
  induction patience generalizing more state with
  | zero =>
      simp only [below, Prod.mk.injEq] at h
      exact absurd h.1.symm ha
  | succ patience ih =>
      obtain ⟨more, rfl⟩ : ∃ n, more = n + 1 := ⟨more - 1, by omega⟩
      simp only [below] at h ⊢
      split at h
      · exact h
      · split at h
        · next hlt => simpa [hlt] using h
        · next hlt => simpa [hlt] using ih (by omega) h

/-- A choice that was made is made with more patience too. -/
theorem choose_mono {α : Type} {draw : BitSource ω} {patience more : Nat} {head : α}
    {tail : List α} {state later : ω} {a : Except Stop α} (hle : patience ≤ more)
    (h : choose draw patience head tail state = (a, later)) (ha : a ≠ .error .unfinished) :
    choose draw more head tail state = (a, later) := by
  unfold choose at h ⊢
  cases hbelow : below draw (tail.length + 1) patience state with
  | mk found after =>
      rw [hbelow] at h
      have hfound : found ≠ .error .unfinished := by
        rintro rfl
        exact ha (Prod.mk.inj h).1.symm
      rw [below_mono hle hbelow hfound]
      exact h

end Random

namespace Die

/-- A face that came up comes up with more patience too. -/
theorem face_mono {draw : Random.BitSource ω} {patience more : Nat} {v : Value} {state later : ω}
    {a : Except Stop Value} (hle : patience ≤ more)
    (h : face draw patience v state = (a, later)) (ha : a ≠ .error .unfinished) :
    face draw more v state = (a, later) := by
  induction patience generalizing more v state with
  | zero =>
      simp only [face, Prod.mk.injEq] at h
      exact absurd h.1.symm ha
  | succ patience ih =>
      obtain ⟨more, rfl⟩ : ∃ n, more = n + 1 := ⟨more - 1, by omega⟩
      cases v with
      | array items =>
          cases items with
          | nil => simpa [face] using h
          | cons first rest =>
              simp only [face] at h ⊢
              cases hchoice : Random.choose draw patience first rest state with
              | mk chosen after =>
                  rw [hchoice] at h
                  have hchosen : chosen ≠ .error .unfinished := by
                    rintro rfl
                    exact ha (Prod.mk.inj h).1.symm
                  rw [Random.choose_mono (by omega) hchoice hchosen]
                  cases chosen with
                  | error stop => exact h
                  | ok w => exact ih (by omega) h
      | number | string | unit | function => simpa [face] using h

/-- A throw that came to an end does so with more patience too. -/
theorem roll_mono {draw : Random.BitSource ω} {patience more : Nat} {die : Die}
    {args : List Value} {state later : ω} {a : Except Stop Value} (hle : patience ≤ more)
    (h : die.roll draw patience args state = (a, later)) (ha : a ≠ .error .unfinished) :
    die.roll draw more args state = (a, later) := by
  unfold roll at h ⊢
  split at h
  · next v =>
      unfold rollFaces at h ⊢
      cases v with
      | number x =>
          simp only at h ⊢
          cases hrounded : Number.rounded x with
          | error stop => rwa [hrounded] at h
          | ok sides =>
              rw [hrounded] at h
              simp only at h ⊢
              split at h
              · next hlt => rwa [if_pos hlt]
              · next hlt =>
                  rw [if_neg hlt]
                  unfold numbered at h ⊢
                  cases hbelow : Random.below draw sides.toNat patience state with
                  | mk found after =>
                      rw [hbelow] at h
                      have hfound : found ≠ .error .unfinished := by
                        rintro rfl
                        exact ha (Prod.mk.inj h).1.symm
                      rwa [Random.below_mono hle hbelow hfound]
      | array items => exact face_mono hle h ha
      | string | unit | function => exact h
  · exact Random.choose_mono hle h ha
  · exact h

end Die

/-! ## Patience of the machine -/

/-- What a function did with an argument it does with more patience too. -/
theorem Function.respond_mono {world : World ω} {patience more : Nat} {f : Function} {v : Value}
    {state later : ω} {a : Except Stop (List Request)} (hle : patience ≤ more)
    (h : f.respond world patience v state = (a, later)) (ha : a ≠ .error .unfinished) :
    f.respond world more v state = (a, later) := by
  cases f with
  | closure parameter body env => exact h
  | primitive p bound =>
      simp only [respond] at h ⊢
      split at h
      · exact h
      · split at h
        · exact h
        · split at h
          · next hlt => rwa [if_pos hlt]
          · next hlt =>
              rw [if_neg hlt]
              cases hroutine : p.routine with
              | operation | combinator | host => simpa [Routine.perform, hroutine] using h
              | die die =>
                  simp only [hroutine, Routine.perform] at h ⊢
                  cases hroll : die.roll world.draw patience (bound ++ [v]) state with
                  | mk thrown after =>
                      rw [hroll] at h
                      have hthrown : thrown ≠ .error .unfinished := by
                        rintro rfl
                        exact ha (Prod.mk.inj h).1.symm
                      rwa [Die.roll_mono hle hroll hthrown]

namespace Machine

/-- Goes on with the requests that a rule has returned, or stops as it says. -/
def proceed (world : World ω) (patience room : Nat) (m : Machine ω) :
    Except Stop (List Request) × ω → Status × Machine ω
  | (.error stop, state) => (.stopped stop, { m with world := state })
  | (.ok requests, state) => perform world patience room requests { m with world := state }

/-- Calls a function and goes on with what it asks for, before the requests that are left. -/
def afterCall (world : World ω) (patience room : Nat) (f : Function) (v : Value)
    (rest : List Request) (m : Machine ω) : Status × Machine ω :=
  match callWithin world patience room f v m.world with
  | (.error stop, state) => (.stopped stop, { m with world := state })
  | (.ok requests, state) =>
    perform world patience (room - f.activations) (requests ++ rest) { m with world := state }

theorem perform_invoke (world : World ω) (patience room : Nat) (f : Function) (v : Value)
    (m : Machine ω) :
    perform world (patience + 1) room [.invoke f v] m =
      if room < f.activations then (.stopped (.aborted .tooDeep), m)
      else m.proceed world patience (room - f.activations) (f.respond world patience v m.world) := by
  simp only [perform, callWithin]
  by_cases h : room < f.activations
  · simp [h]
  · simp only [h, if_false]
    cases f.respond world patience v m.world with
    | mk a later => cases a <;> simp [proceed]

theorem perform_call (world : World ω) (patience room : Nat) (f : Function) (v : Value)
    (frame : Frame) (m : Machine ω) :
    perform world patience room [.call f v frame] m =
      if patience = 0 then (.stopped .unfinished, m)
      else perform world patience room [.invoke f v] (m.pushFrame frame) := by
  cases patience <;> simp [perform]

/-- Requests that were fulfilled are fulfilled with more patience too. -/
theorem perform_mono {world : World ω} {patience more room : Nat} {requests : List Request}
    {m final : Machine ω} {status : Status} (hle : patience ≤ more)
    (h : perform world patience room requests m = (status, final))
    (hstatus : status ≠ .stopped .unfinished) :
    perform world more room requests m = (status, final) := by
  induction patience generalizing more room requests m with
  | zero =>
      cases requests with
      | nil =>
          cases more <;> simpa [perform] using h
      | cons request rest =>
          simp only [perform, Prod.mk.injEq] at h
          exact absurd h.1.symm hstatus
  | succ patience ih =>
      obtain ⟨more, rfl⟩ : ∃ n, more = n + 1 := ⟨more - 1, by omega⟩
      have hle' : patience ≤ more := by omega
      -- a call that is answered at once is answered alike with more patience
      have hcall : ∀ (f : Function) (v : Value) (rest : List Request) (m : Machine ω),
          m.afterCall world patience room f v rest = (status, final) →
          m.afterCall world more room f v rest = (status, final) := by
        intro f v rest m hm
        unfold afterCall callWithin at hm ⊢
        by_cases hroom : room < f.activations
        · simpa [hroom] using hm
        · simp only [hroom, if_false] at hm ⊢
          cases hrespond : f.respond world patience v m.world with
          | mk a later =>
              rw [hrespond] at hm
              have ha : a ≠ .error .unfinished := by
                rintro rfl
                exact hstatus (Prod.mk.inj hm).1.symm
              rw [Function.respond_mono hle' hrespond ha]
              cases a with
              | error stop => exact hm
              | ok requests => exact ih hle' hm
      cases requests with
      | nil => simpa [perform] using h
      | cons request rest =>
          cases request with
          | produce v =>
              cases hpending : m.pending with
              | some w => simpa [perform, hpending] using h
              | none =>
                  simp only [perform, hpending] at h ⊢
                  exact ih hle' h
          | evaluate expr env =>
              simp only [perform] at h ⊢
              exact ih hle' h
          | push expr env frame =>
              simp only [perform] at h ⊢
              exact ih hle' h
          | invoke f v =>
              simp only [perform] at h ⊢
              exact hcall f v rest m h
          | call f v frame =>
              simp only [perform] at h ⊢
              exact hcall f v rest (m.pushFrame frame) h

theorem proceed_mono {world : World ω} {patience more room : Nat}
    {a : Except Stop (List Request) × ω} {m final : Machine ω} {status : Status}
    (hle : patience ≤ more) (h : m.proceed world patience room a = (status, final))
    (hstatus : status ≠ .stopped .unfinished) :
    m.proceed world more room a = (status, final) := by
  obtain ⟨a | requests, state⟩ := a
  · exact h
  · exact perform_mono hle h hstatus

theorem step_deliver (world : World ω) (config : Config) (patience : Nat) (work : List (Expr × Env))
    (frame : Frame) (blame : Expr) (frames : List (Frame × Expr)) (v : Value) (before : Expr)
    (results : List Value) (state : ω) (hframe : frame ≠ .finish) :
    step world config patience ⟨work, (frame, blame) :: frames, some v, before, results, state⟩ =
      proceed world patience world.room ⟨work, frames, none, blame, results, state⟩
        (frame.requests world config v state) := by
  cases frame with
  | finish => exact absurd rfl hframe
  | _ =>
      simp only [step]
      split
      · next h => rw [h]; rfl
      · next h => rw [h]; rfl

theorem step_start (world : World ω) (config : Config) (patience : Nat) (expr : Expr) (env : Env)
    (work : List (Expr × Env)) (frames : List (Frame × Expr)) (before : Expr)
    (results : List Value) (state : ω) :
    step world config patience ⟨(expr, env) :: work, frames, none, before, results, state⟩ =
      proceed world patience world.room ⟨work, frames, none, expr, results, state⟩
        (expr.requests world.room env, state) := by
  simp only [step]
  cases expr.requests world.room env <;> rfl

/-- A step that was made is made with more patience too. -/
theorem step_mono {world : World ω} {config : Config} {patience more : Nat} {m final : Machine ω}
    {status : Status} (hle : patience ≤ more) (h : m.step world config patience = (status, final))
    (hstatus : status ≠ .stopped .unfinished) : m.step world config more = (status, final) := by
  obtain ⟨work, frames, pending, before, results, state⟩ := m
  cases pending with
  | some v =>
      cases frames with
      | nil => exact h
      | cons top frames =>
          obtain ⟨frame, blame⟩ := top
          by_cases hframe : frame = .finish
          · subst hframe
            exact h
          · rw [step_deliver _ _ _ _ _ _ _ _ _ _ _ hframe] at h ⊢
            exact proceed_mono hle h hstatus
  | none =>
      cases work with
      | nil => exact h
      | cons top work =>
          obtain ⟨expr, env⟩ := top
          rw [step_start] at h ⊢
          exact proceed_mono hle h hstatus

/-- A run that has ended ends alike with more steps. -/
theorem run_mono {world : World ω} {config : Config} {fuel more : Nat} {m final : Machine ω}
    {o : Outcome} (hle : fuel ≤ more) (h : m.run world config fuel = (o, final))
    (ho : o ≠ .unfinished) : m.run world config more = (o, final) := by
  induction fuel generalizing more m with
  | zero =>
      simp only [run, Prod.mk.injEq] at h
      exact absurd h.1.symm ho
  | succ fuel ih =>
      obtain ⟨more, rfl⟩ : ∃ n, more = n + 1 := ⟨more - 1, by omega⟩
      have hle' : fuel ≤ more := by omega
      simp only [run] at h ⊢
      cases hstep : m.step world config fuel with
      | mk status after =>
          rw [hstep] at h
          have hstatus : status ≠ .stopped .unfinished := by
            rintro rfl
            exact ho (Prod.mk.inj h).1.symm
          rw [step_mono hle' hstep hstatus]
          cases status with
          | running => exact ih hle' h
          | «over» => exact h
          | stopped stop => exact h

end Machine

/-! ## How a machine ends -/

/-- The machine ends with an outcome, other than that its steps run out, and leaves the world in a
state. -/
def Halts (world : World ω) (config : Config) (m : Machine ω) (o : Outcome) (t : ω) : Prop :=
  o ≠ .unfinished ∧ ∃ fuel final, m.run world config fuel = (o, final) ∧ final.world = t

/-- The same of a machine that is where a step has left it. -/
def Settles (world : World ω) (config : Config) (o : Outcome) (t : ω) : Status × Machine ω → Prop
  | (.running, m) => Halts world config m o t
  | (.over, m) => m.outcome = o ∧ m.world = t ∧ o ≠ .unfinished
  | (.stopped stop, m) => m.stopped stop = o ∧ m.world = t ∧ o ≠ .unfinished

theorem Settles.ne_unfinished {world : World ω} {config : Config} {o : Outcome} {t : ω}
    {status : Status} {m : Machine ω} (h : Settles world config o t (status, m)) :
    status ≠ .stopped .unfinished := by
  rintro rfl
  exact h.2.2 h.1.symm

/-- A machine ends as it does after its next step. -/
theorem halts_of_step {world : World ω} {config : Config} {m : Machine ω} {o : Outcome} {t : ω}
    (patience : Nat) (h : Settles world config o t (m.step world config patience)) :
    Halts world config m o t := by
  cases hstep : m.step world config patience with
  | mk status after =>
      rw [hstep] at h
      have hstatus := h.ne_unfinished
      cases status with
      | running =>
          obtain ⟨ho, fuel, final, hrun, ht⟩ := h
          refine ⟨ho, max patience fuel + 1, final, ?_, ht⟩
          simp only [Machine.run, Machine.step_mono (Nat.le_max_left _ fuel) hstep hstatus]
          exact Machine.run_mono (Nat.le_max_right patience _) hrun ho
      | «over» =>
          exact ⟨h.2.2, patience + 1, after, by simp only [Machine.run, hstep, h.1], h.2.1⟩
      | stopped stop =>
          exact ⟨h.2.2, patience + 1, after, by simp only [Machine.run, hstep, h.1], h.2.1⟩

/-- A machine ends in one way. -/
theorem Halts.unique {world : World ω} {config : Config} {m : Machine ω} {o o' : Outcome} {t t' : ω}
    (h : Halts world config m o t) (h' : Halts world config m o' t') : o = o' ∧ t = t' := by
  obtain ⟨ho, fuel, final, hrun, rfl⟩ := h
  obtain ⟨ho', fuel', final', hrun', rfl⟩ := h'
  have hmore := Machine.run_mono (Nat.le_max_left fuel fuel') hrun ho
  have hmore' := Machine.run_mono (Nat.le_max_right fuel fuel') hrun' ho'
  obtain ⟨rfl, rfl⟩ := Prod.mk.inj (hmore.symm.trans hmore')
  exact ⟨rfl, rfl⟩

/-- The expression under evaluation before a step does not matter to the step. -/
theorem Halts.any_blame {world : World ω} {config : Config} {work : List (Expr × Env)}
    {frames : List (Frame × Expr)} {pending : Option Value} {results : List Value} {blame : Expr}
    {s t : ω} {o : Outcome} (h : Halts world config ⟨work, frames, pending, blame, results, s⟩ o t)
    (hbusy : pending ≠ none ∨ work ≠ []) (other : Expr) :
    Halts world config ⟨work, frames, pending, other, results, s⟩ o t := by
  obtain ⟨ho, fuel, final, hrun, ht⟩ := h
  cases fuel with
  | zero =>
      simp only [Machine.run, Prod.mk.injEq] at hrun
      exact absurd hrun.1.symm ho
  | succ fuel =>
      simp only [Machine.run] at hrun
      cases pending with
      | some v =>
          cases frames with
          | nil =>
              obtain ⟨rfl, rfl⟩ := Prod.mk.inj hrun
              exact ⟨ho, fuel + 1, _, rfl, ht⟩
          | cons top frames => exact ⟨ho, fuel + 1, final, by rw [← hrun]; rfl, ht⟩
      | none =>
          cases work with
          | nil => simp at hbusy
          | cons => exact ⟨ho, fuel + 1, final, by rw [← hrun]; rfl, ht⟩

end RollScript

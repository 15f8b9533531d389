import RollScript.Proofs.Evaluation.Completeness
import RollScript.Proofs.Evaluation.Soundness

/-!
# The machine and the rules agree

Read `ends_iff_evaluates` first: with enough room for nested activations the machine ends with the
answer that the rules of direct evaluation give, and with too little it ends for lack of room. The
surroundings and their states are arbitrary: a state may hold the random bits still to come, or a list
of the draws and host calls so far, and both sides leave the surroundings in the same state.
-/

namespace RollScript

variable {ω : Type} {around : Surroundings ω} {config : Config}
  {resume : Nat → List Value → Value → ω → Except Stop (List Request) × ω} {room : Nat}
  {env : Env} {expr : Expr} {s t : ω}

/-- The evaluation of an expression ends with an outcome and leaves the surroundings in a state. -/
def Ends (around : Surroundings ω)
    (resume : Nat → List Value → Value → ω → Except Stop (List Request) × ω) (room : Nat)
    (config : Config) (env : Env) (expr : Expr) (s : ω) (o : Outcome) (t : ω) : Prop :=
  ∃ fuel, evaluateWithin fuel (around.world resume room) config env expr s = (o, t)

/-- How an evaluation ends with an answer. -/
def Outcome.ofAnswer : Except Failure Value → Outcome
  | .ok v => .value v
  | .error x => x.outcome

theorem ends_of_halts {o : Outcome}
    (h : Halts (around.world resume room) config (evaluating expr env [(.finish, expr)] s) o t) :
    Ends around resume room config env expr s o t := by
  obtain ⟨-, fuel, final, hrun, rfl⟩ := h.any_blame (.inr (by simp)) expr
  exact ⟨fuel, by rw [evaluateWithin, Machine.start, hrun]⟩

theorem halts_of_ends {o : Outcome} (ho : o ≠ .unfinished)
    (h : Ends around resume room config env expr s o t) :
    Halts (around.world resume room) config (Machine.start expr env s) o t := by
  obtain ⟨fuel, h⟩ := h
  obtain ⟨ho', ht⟩ := Prod.mk.inj h
  exact ⟨ho, fuel, _, Prod.ext ho' rfl, ht⟩

/-- An evaluation ends in one way. -/
theorem Ends.unique {o o' : Outcome} {t' : ω} (ho : o ≠ .unfinished) (ho' : o' ≠ .unfinished)
    (h : Ends around resume room config env expr s o t)
    (h' : Ends around resume room config env expr s o' t') : o = o' ∧ t = t' :=
  (halts_of_ends ho h).unique (halts_of_ends ho' h')

/-- The machine ends with the answer that the rules give, unless it has too little room. -/
theorem ends_of_evaluates {a : Except Failure Value} (h : Evaluates around config env expr s a t) :
    ∃ need, ∀ room, Ends around resume room config env expr s (.ofAnswer a) t ∨
      room < need ∧ ∃ u, Ends around resume room config env expr s (.aborted .tooDeep) u := by
  obtain ⟨need, h⟩ := evaluates_follows resume h
  refine ⟨need, fun room => ?_⟩
  rcases h room [(.finish, expr)] with hdone | ⟨hlt, u, hdeep⟩
  · cases a with
    | ok v => exact .inl (ends_of_halts (hdone _ _ (halts_finish v expr)))
    | error x => exact .inl (ends_of_halts hdone)
  · exact .inr ⟨hlt, u, ends_of_halts hdeep⟩

/-- The rules give the answer with which the machine ends, unless it has too little room. -/
theorem evaluates_of_ends {o : Outcome} {a : Except Failure Value} (ha : o.answer? = some a)
    (h : Ends around resume room config env expr s o t) : Evaluates around config env expr s a t := by
  obtain ⟨fuel, h⟩ := h
  obtain ⟨ho, rfl⟩ := Prod.mk.inj h
  have hstart : Poised around config (Machine.start expr env s)
      (Then (Evaluates around config env expr) (Finishes around config [(.finish, expr)]) s) :=
    .evaluating expr env [(.finish, expr)] expr s
  rcases run_sound fuel hstart (Prod.ext ho rfl) ha with ⟨x, hx, rfl⟩ | ⟨v, u, hv, rfl, rfl⟩
  · exact hx
  · exact hv

/-- The machine ends with an answer exactly if the rules give it and there is room enough. -/
theorem ends_iff_of_answer {o : Outcome} {a : Except Failure Value} (ha : o.answer? = some a)
    (ho : o = .ofAnswer a) :
    Ends around resume room config env expr s o t ↔
      Evaluates around config env expr s a t ∧
        ¬ ∃ u, Ends around resume room config env expr s (.aborted .tooDeep) u := by
  have hfinished : o ≠ .unfinished := by
    rintro rfl
    cases ha
  constructor
  · intro h
    refine ⟨evaluates_of_ends ha h, ?_⟩
    rintro ⟨u, hdeep⟩
    obtain ⟨rfl, -⟩ := h.unique hfinished (by simp) hdeep
    cases ha
  · rintro ⟨h, hroom⟩
    obtain ⟨need, h⟩ := ends_of_evaluates h
    rcases h room with h | ⟨-, hdeep⟩
    · rwa [ho]
    · exact absurd hdeep hroom

/-! ## Definitions that no room suffices for -/

/-- A definition of a function. -/
def literalDefinition : Text × Expr :=
  (.ofString "f", .function default (.ofString "x") (.unit default))

/-- A block that makes the same definition over and over and has nothing else to do. -/
def redefinition (count : Nat) : Expr :=
  .block default (List.replicate count literalDefinition) (.unit default)

theorem defines_literals (around : Surroundings ω) (config : Config) (env : Env) (s : ω)
    (count : Nat) :
    ∃ entries, Defines around config env (List.replicate count literalDefinition) s (.ok entries)
      s := by
  induction count with
  | zero => exact ⟨[], .nil env s⟩
  | succ count ih =>
      obtain ⟨entries, h⟩ := ih
      exact ⟨_, .literal env _ default _ (.unit default) _ s _ s h⟩

theorem leadingLiterals_replicate (count : Nat) :
    leadingLiterals (List.replicate count literalDefinition) = count := by
  induction count with
  | zero => rfl
  | succ count ih => rw [List.replicate_succ, literalDefinition, leadingLiterals, ← literalDefinition, ih]

theorem redefinition_evaluates (count : Nat) :
    Evaluates around config env (redefinition count) s (.ok .unit) s := by
  obtain ⟨entries, h⟩ := defines_literals around config env s count
  exact .block env default _ _ s entries s _ s h (.unit _ default s)

theorem redefinition_tooDeep {count : Nat} (hroom : room < 2 * count) :
    Ends around resume room config env (redefinition count) s (.aborted .tooDeep) s := by
  refine ⟨1, ?_⟩
  have hrequests : (redefinition count).requests room env = .error (.aborted .tooDeep) := by
    simp only [redefinition, Expr.requests, defineWithin, leadingLiterals_replicate, if_pos hroom]
  simp only [evaluateWithin, Machine.start, Machine.run, Machine.step_start]
  rw [show (around.world resume room).room = room from rfl, hrequests]
  rfl

/-! ## The refinement -/

/-- The machine ends with a value, or with an error of the language and an expression to blame,
exactly if the rules of direct evaluation give that answer and the machine does not run out of room
for nested activations. Both leave the surroundings in the same state, so they make the same draws and
host calls in the same order. Every answer of the rules is the machine's with enough room, but no room
is enough for all expressions. -/
theorem ends_iff_evaluates (around : Surroundings ω)
    (resume : Nat → List Value → Value → ω → Except Stop (List Request) × ω) (config : Config)
    (env : Env) (expr : Expr) (s t : ω) :
    (∀ room v, Ends around resume room config env expr s (.value v) t ↔
      Evaluates around config env expr s (.ok v) t ∧
        ¬ ∃ u, Ends around resume room config env expr s (.aborted .tooDeep) u) ∧
    (∀ room cause blame, Ends around resume room config env expr s (.failed cause blame) t ↔
      Evaluates around config env expr s (.error (.failed cause blame)) t ∧
        ¬ ∃ u, Ends around resume room config env expr s (.aborted .tooDeep) u) ∧
    (∀ a, Evaluates around config env expr s a t →
      ∃ need, ∀ room, need ≤ room → Ends around resume room config env expr s (.ofAnswer a) t) ∧
    (∀ room, ∃ e v, Evaluates around config env e s (.ok v) s ∧
      Ends around resume room config env e s (.aborted .tooDeep) s) := by
  refine ⟨fun room v => ends_iff_of_answer rfl rfl, fun room cause blame =>
    ends_iff_of_answer rfl rfl, fun a h => ?_, fun room => ?_⟩
  · obtain ⟨need, h⟩ := ends_of_evaluates h
    refine ⟨need, fun room hroom => ?_⟩
    rcases h room with h | ⟨hlt, -⟩
    · exact h
    · omega
  · exact ⟨redefinition (room + 1), .unit, redefinition_evaluates _, redefinition_tooDeep (by omega)⟩

end RollScript

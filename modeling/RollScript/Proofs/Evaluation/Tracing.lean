import RollScript.Proofs.Evaluation.BigStep
import RollScript.Proofs.Evaluation.Simulation

/-!
# What an evaluation does to its surroundings

`Surroundings.traced` are surroundings that also record every draw and every call of a function of the
host. Read `evaluateWithin_traced` first: an evaluation goes the same way whether it is recorded or
not, so the record tells of the evaluation itself.
-/

namespace RollScript

/-- What an evaluation does to its surroundings. -/
inductive Event where
  /-- It draws a number of a given width in bits. -/
  | draw (width : Nat)
  /-- It calls a function of the host. -/
  | call (id : Nat) (args : List Value)

/-- Two events are the same but for the functions that are handed to the host. -/
inductive Event.Alike (F : Function → Function → Prop) : Event → Event → Prop where
  | draw (width : Nat) : Alike F (.draw width) (.draw width)
  | call (id : Nat) {args args' : List Value} :
      List.Forall₂ (Value.Alike F) args args' → Alike F (.call id args) (.call id args')

variable {ω : Type}

/-- Surroundings with a record of what is done to them, the latest event first. -/
def Surroundings.traced (around : Surroundings ω) : Surroundings (ω × List Event) where
  draw width state :=
    (around.draw width state.1).map fun drawn => (drawn.1, drawn.2, .draw width :: state.2)
  host id args state :=
    ((around.host id args state.1).1, (around.host id args state.1).2, .call id args :: state.2)

/-! ## Evaluations that are the same -/

/-- An evaluation tied to the same evaluation. -/
def Ties.identity : Ties where
  function := Eq
  scene _ := Eq
  block done done' _ _ env env' := done = done' ∧ env = env'
  limits := True

namespace Value

variable {F : Function → Function → Prop}

mutual

theorem alike_refl (hF : ∀ f, F f f) : ∀ v : Value, Alike F v v
  | .number x => .number x
  | .string s => .string s
  | .unit => .unit
  | .array items => .array (alike_items hF items)
  | .function f => .function (hF f)

theorem alike_items (hF : ∀ f, F f f) : ∀ items : List Value, List.Forall₂ (Alike F) items items
  | [] => .nil
  | v :: rest => .cons (alike_refl hF v) (alike_items hF rest)

end

mutual

theorem eq_of_alike : ∀ {v w : Value}, Alike Eq v w → v = w
  | .number _, _, .number _ => rfl
  | .string _, _, .string _ => rfl
  | .unit, _, .unit => rfl
  | .array _, _, .array h => congrArg array (eq_of_alikes h)
  | .function _, _, .function h => congrArg function h

theorem eq_of_alikes : ∀ {items others : List Value},
    List.Forall₂ (Alike Eq) items others → items = others
  | [], _, .nil => rfl
  | _ :: _, _, .cons hv hrest => by rw [eq_of_alike hv, eq_of_alikes hrest]

end

end Value

theorem Outcome.eq_of_alike {o o' : Outcome} (h : Outcome.Alike .identity o o') : o = o' := by
  cases h with
  | value hv => rw [Value.eq_of_alike hv]
  | failed | aborted | unfinished => rfl

theorem Ties.identity_scopes : Ties.identity.Scopes where
  array := by
    intro span elements env env' henv e _
    exact henv
  apply := by
    intro span callee operand env env' henv
    exact ⟨henv, henv⟩
  choice := by
    intro span condition whenTrue whenFalse env env' henv
    exact ⟨henv, henv, henv⟩
  name := by
    intro span x env env' henv
    obtain rfl : env = env' := henv
    cases env.lookup x with
    | none => exact .none
    | some v => exact .some (Value.alike_refl Eq.refl v)
  function := by
    intro span parameter body env env' henv
    exact congrArg _ henv
  call := by
    intro parameter body env g hg
    refine ⟨env, hg.symm, ?_⟩
    intro v w hv
    exact congrArg _ (Value.eq_of_alike hv)
  block := by
    intro span bindings body env env' henv
    exact ⟨rfl, henv⟩
  literal := by
    intro done done' name parameter span literal rest body env env' h
    exact ⟨congrArg _ h.1, h.2⟩
  next := by
    intro done done' name value rest body env env' h _
    exact h.2
  value := by
    intro done done' name value v w rest body env env' h _ hv
    exact ⟨by rw [h.1, Value.eq_of_alike hv], h.2⟩
  body := by
    intro done done' body env env' h
    show Env.scope done env = Env.scope done' env'
    rw [h.1, h.2]

/-- Surroundings that answer in the same way in related states go on to do so in any evaluation. -/
theorem Ties.identity_sound {ω' : Type} {S : ω → ω' → Prop} {around : Surroundings ω}
    {around' : Surroundings ω'} (hdraw : DrawsAlike S around.draw around'.draw)
    (hhost : ∀ id args s s', S s s' → (around.host id args s).1 = (around'.host id args s').1 ∧
      S (around.host id args s).2 (around'.host id args s').2)
    (resume : Nat → List Value → Value → ω → Except Stop (List Request) × ω)
    (resume' : Nat → List Value → Value → ω' → Except Stop (List Request) × ω') (room : Nat)
    (config : Config) :
    Ties.identity.Sound S (around.world resume room) (around'.world resume' room) config config where
  toScopes := identity_scopes
  inversion := by
    intro p bound g hg
    exact ⟨bound, hg.symm, Value.alike_items Eq.refl bound⟩
  more := by
    intro p bound bound' v w guard hp hv _ _ _
    cases hp
    rw [Value.eq_of_alike hv]
    rfl
  reroll _ _ := trivial
  draws _ _ := hdraw
  host := by
    intro p bound g id _ _ args args' s s' hargs hs
    obtain rfl : args = args' := Value.eq_of_alikes hargs
    obtain ⟨hanswer, hstate⟩ := hhost id args s s' hs
    refine .mk ?_ hstate
    rw [hanswer]
    cases (around'.host id args s').1 with
    | error stop => exact .error stop
    | ok v => exact answers_one (.produce (Value.alike_refl Eq.refl v))
  room := rfl
  limited _ := ⟨rfl, rfl⟩

/-- An evaluation goes the same way whether or not it is recorded what it does. -/
theorem evaluateWithin_traced (around : Surroundings ω)
    (resume : Nat → List Value → Value → ω → Except Stop (List Request) × ω)
    (resume' : Nat → List Value → Value → ω × List Event →
      Except Stop (List Request) × (ω × List Event))
    (room fuel : Nat) (config : Config) (env : Env) (expr : Expr) (s : ω) (events : List Event) :
    (evaluateWithin fuel (around.traced.world resume' room) config env expr (s, events)).1 =
        (evaluateWithin fuel (around.world resume room) config env expr s).1 ∧
      (evaluateWithin fuel (around.traced.world resume' room) config env expr (s, events)).2.1 =
        (evaluateWithin fuel (around.world resume room) config env expr s).2 := by
  have hdraw : DrawsAlike (fun s (s' : ω × List Event) => s = s'.1) around.draw
      around.traced.draw := by
    intro width s s' hs
    subst hs
    show Option.Rel _ (around.draw width s'.1) ((around.draw width s'.1).map _)
    cases around.draw width s'.1 with
    | none => exact .none
    | some drawn => exact .some ⟨rfl, rfl⟩
  -- the record is the one part of the state in which the two runs differ
  have hsound := Ties.identity_sound hdraw (fun id args s s' hs => by subst hs; exact ⟨rfl, rfl⟩)
    resume resume' room config
  have hscene : Ties.identity.scene expr env env := rfl
  obtain ⟨houtcome, hstate⟩ := evaluateWithin_alike hsound fuel hscene (Eq.refl (s, events).1)
  exact ⟨(Outcome.eq_of_alike houtcome).symm, hstate.symm⟩

end RollScript

import RollScript.Proofs.Evaluation.Custody

/-!
# Functions that take their arguments one by one

Every primitive that a program gets hold of lacks an argument, and its guards have returned those that
it has (`Trait.curried`). So the guard for one more argument is always there, and an implementation is
called with as many arguments as it requires. Read `curried_application` first. Its last part is about
applications in a row (`Expr.appliedTo`): when a guard rejects an argument, the applications that follow
still wait for their callee (`waitingFor`), so that none of their arguments has been evaluated.
-/

namespace RollScript

variable {ω : Type} {takes : Nat → Nat}

/-! ## Declarations that fit -/

/-- The number of parameters that the implementation of a routine requires, if functions of the host
require as many as given. Those of dice and combinators require one more, for the random source or the
machine. -/
def Routine.required (takes : Nat → Nat) : Routine → Nat
  | .operation op => op.guards.length
  | .die d => d.guards.length + 1
  | .combinator c => c.guards.length + 1
  | .host id => takes id

/-- The implementation of a routine with a fixed number of parameters. -/
def Routine.implementation (takes : Nat → Nat) (routine : Routine) : Implementation :=
  ⟨some (routine.required takes), routine⟩

/-- A registry that comes of the empty one, or of that of the language, by adding primitives. -/
inductive Registry.Built (takes : Nat → Nat) : Registry → Prop where
  | empty : Built takes .empty
  | standard : Built takes .standard
  | register {r later : Registry} {name : Text} {guards : List Guard} {shape : Shape}
      {routine : Routine} : Built takes r →
      r.register name guards shape (routine.implementation takes) = .ok later → Built takes later

/-- A primitive takes an argument, and its implementation requires as many as there are guards, after the
random source or the machine. -/
def Primitive.Fits (takes : Nat → Nat) (p : Primitive) : Prop :=
  0 < p.arity ∧ p.arity + p.shape.extraParameters = p.routine.required takes

theorem Primitive.declare_fits {name : Text} {guards : List Guard} {shape : Shape} {routine : Routine}
    {p : Primitive} (h : declare name guards shape (routine.implementation takes) = .ok p) :
    p.Fits takes := by
  simp only [declare, Routine.implementation] at h
  split at h
  · cases h
  · next hguards =>
      split at h
      · next hrequired =>
          cases h
          exact ⟨List.length_pos_iff.2 hguards, hrequired.symm⟩
      · cases h

/-- A function of the host that has been wrapped fits. -/
theorem Primitive.wrap_fits {name : Text} {guards : List Guard} {id : Nat} {p : Primitive}
    (h : wrap name guards ((Routine.host id).implementation takes) = .ok p) : p.Fits takes :=
  declare_fits h

theorem Registry.primitives_fit {p : Primitive} (h : p ∈ primitives) : p.Fits takes := by
  have hall : ∀ p ∈ primitives,
      p.arity + p.shape.extraParameters = p.routine.required fun _ => 0 := by
    decide
  obtain ⟨hpositive, hhost⟩ := primitives_spec h
  refine ⟨hpositive, (hall p h).trans ?_⟩
  cases hroutine : p.routine with
  | operation | die | combinator => rfl
  | host id => exact absurd hroutine (hhost id)

/-- Whatever has been added to a registry fits. -/
theorem Registry.Built.fits {r : Registry} (h : r.Built takes) :
    ∀ entry ∈ r.entries, entry.2.Fits takes := by
  induction h with
  | empty => exact List.forall_mem_nil _
  | standard =>
      intro entry hentry
      obtain ⟨p, hp, rfl⟩ := List.mem_map.1 hentry
      exact primitives_fit hp
  | @register r later name guards shape routine _ hregister ih =>
      simp only [Registry.register] at hregister
      cases hdeclare : Primitive.declare name guards shape (routine.implementation takes) with
      | error reason =>
          rw [hdeclare] at hregister
          cases hregister
      | ok p =>
          rw [hdeclare] at hregister
          cases hregister
          refine List.forall_mem_cons.2 ⟨Primitive.declare_fits hdeclare, fun entry hentry => ?_⟩
          exact ih entry (List.mem_of_mem_filter hentry)

/-! ## Arguments received -/

/-- What a guard returns for an argument: the argument itself, if it lets it pass. -/
def Guard.returns (guard : Guard) (v : Value) : Except Stop Value :=
  (guard.check v).map fun _ => v

/-- The arguments are what guards have returned, from the first guard on. -/
def Received (guards : List Guard) (args : List Value) : Prop :=
  ∀ (i : Nat) (v : Value), args[i]? = some v →
    ∃ guard, guards[i]? = some guard ∧ guard.returns v = .ok v

theorem Guard.returns_of_passes {guard : Guard} {v : Value} (h : guard.refusal? v = none) :
    guard.returns v = .ok v := by
  simp [returns, check, h, Except.map]

theorem Passes.received {guards : List Guard} {args : List Value}
    (h : Passes (guards.take args.length) args) : Received guards args := by
  intro i v hv
  obtain ⟨hi, rfl⟩ := List.getElem?_eq_some_iff.1 hv
  obtain ⟨hlength, hget⟩ := List.forall₂_iff_get.1 h
  have htaken : i < (guards.take args.length).length := hi.trans_eq hlength.symm
  refine ⟨(guards.take args.length)[i], ?_, Guard.returns_of_passes (hget i htaken hi)⟩
  rw [List.getElem_take, List.getElem?_eq_getElem]

/-- Any code, and primitives that fit, lack an argument, and have received what their guards let pass. -/
def Trait.curried (takes : Nat → Nat) : Trait where
  code _ := True
  primitive p bound :=
    p.Fits takes ∧ bound.length < p.arity ∧ Passes (p.guards.take bound.length) bound

/-- A primitive that fits lacks all its arguments at first. -/
theorem Primitive.Fits.has {p : Primitive} (h : p.Fits takes) :
    (Value.function (.primitive p [])).Has (.curried takes) :=
  .function (.primitive ⟨h, h.1, .nil⟩ (List.forall_mem_nil _))

theorem Env.Has.extend {K : Trait} {env : Env} (henv : env.Has K) {values : List (Text × Value)}
    (hvalues : ∀ binding ∈ values, binding.2.Has K) : (env.extend values).Has K := by
  refine .scope (fun entry hentry => ?_) henv
  obtain ⟨binding, hbinding, rfl⟩ := List.mem_map.1 hentry
  exact .value (hvalues binding hbinding)

theorem Registry.Built.rootEnvironment_has {r : Registry} (h : r.Built takes)
    {values : List (Text × Value)} (hvalues : ∀ binding ∈ values, binding.2.Has (.curried takes)) :
    (rootEnvironment r values).Has (.curried takes) := by
  have hregistry : r.environment.Has (.curried takes) := by
    refine Env.Has.extend .empty fun binding hbinding => ?_
    obtain ⟨entry, hentry, rfl⟩ := List.mem_map.1 hbinding
    exact (h.fits entry hentry).has
  unfold rootEnvironment
  split
  · exact hregistry
  · exact hregistry.extend hvalues

/-! ## Implementations called -/

/-- The primitive whose implementation is called when a function is given an argument, if one is, and
the arguments it is called with. -/
def Function.carriesOut : Function → Value → Option (Primitive × List Value)
  | .closure .., _ => none
  | .primitive p bound, v =>
    p.guards[bound.length]?.bind fun guard =>
      if guard.refusal? v = none ∧ p.arity ≤ bound.length + 1 then some (p, bound ++ [v]) else none

/-- The implementation is called in this case. -/
theorem Function.respond_of_carriesOut {f : Function} {v : Value} {p : Primitive} {args : List Value}
    (h : f.carriesOut v = some (p, args)) (world : World ω) (patience : Nat) (s : ω) :
    f.respond world patience v s = p.routine.perform world patience args s := by
  cases f with
  | closure => cases h
  | primitive q bound =>
      obtain ⟨guard, hguard, h⟩ := Option.bind_eq_some_iff.1 h
      split at h
      · next hpasses =>
          cases h
          exact respond_full patience hguard hpasses.1 hpasses.2
      · cases h

/-- No implementation is called in the other case: what the function does has to do with no world. -/
theorem Function.respond_of_carriesOut_none {f : Function} {v : Value} (h : f.carriesOut v = none) :
    ∃ answer, ∀ (world : World ω) (patience : Nat) (s : ω),
      f.respond world patience v s = (answer, s) := by
  cases f with
  | closure => exact ⟨_, fun _ _ _ => rfl⟩
  | primitive p bound =>
      cases hguard : p.guards[bound.length]? with
      | none => exact ⟨_, fun world patience s => respond_overfull patience hguard⟩
      | some guard =>
          cases hrefusal : guard.refusal? v with
          | some expected => exact ⟨_, fun world patience s => respond_refused patience hguard hrefusal⟩
          | none =>
              have hmore : bound.length + 1 < p.arity := by
                simpa [carriesOut, hguard, hrefusal] using h
              exact ⟨_, fun world patience s => respond_more patience hguard hrefusal hmore⟩

/-- An implementation is called with one argument for each guard, which is what it requires. -/
theorem Function.Has.carriesOut {f : Function} (hf : f.Has (.curried takes)) {v : Value}
    {p : Primitive} {args : List Value} (h : f.carriesOut v = some (p, args)) :
    args.length = p.guards.length ∧ args.length + p.shape.extraParameters = p.routine.required takes ∧
      Received p.guards args := by
  cases hf with
  | closure => cases h
  | @primitive q bound hq _ =>
      obtain ⟨hfits, hlacks, hpassed⟩ := hq
      obtain ⟨guard, hguard, h⟩ := Option.bind_eq_some_iff.1 h
      split at h
      · next hpasses =>
          cases h
          have hlength : (bound ++ [v]).length = p.guards.length := by
            rw [List.length_append, List.length_singleton]
            exact Nat.le_antisymm hlacks hpasses.2
          refine ⟨hlength, ?_, (hpassed.snoc hguard hpasses.1).received⟩
          rw [hlength]
          exact hfits.2
      · cases h

/-! ## Applications in a row -/

namespace Machine

variable {world : World ω} {config : Config} {frames : List (Frame × Expr)}

/-- Requests take no frames away. -/
theorem Fulfils.suffix {room : Nat} {requests : List Request} {m final : Machine ω}
    {calls : List (Function × Value)} {status : Status}
    (h : Fulfils world room requests m calls status final) : m.frames <:+ final.frames := by
  induction h with
  | done | unfinished | twice | refused => exact List.suffix_refl _
  | produce _ _ ih | evaluate _ ih | invoke _ _ ih => exact ih
  | push _ ih | call _ ih => exact (List.suffix_cons _ _).trans ih

theorem GoesOn.suffix {returned : Except Stop (List Request) × ω} {m final : Machine ω}
    {calls : List (Function × Value)} {status : Status}
    (h : GoesOn world m returned calls status final) : m.frames <:+ final.frames := by
  cases h with
  | stopped => exact List.suffix_refl _
  | fulfilled hfulfils => exact hfulfils.suffix

theorem suffix_of_not_returns {m : Machine ω} {entry : Frame × Expr} {stack : List (Frame × Expr)}
    {v : Value} (hbusy : ¬ m.Returns frames) (hpending : m.pending = some v)
    (hframes : m.frames = entry :: stack) (h : frames <:+ m.frames) : frames <:+ stack := by
  rw [hframes] at h
  rcases List.suffix_cons_iff.1 h with hsame | hbelow
  · exact absurd ⟨by rw [hpending]; rfl, hframes.trans hsame.symm⟩ hbusy
  · exact hbelow

/-- A step takes no frame away but the one on top, to which it delivers a value. -/
theorem Steps.suffix {m final : Machine ω} {calls : List (Function × Value)} {status : Status}
    (hstep : Steps world config m calls status final) (h : frames <:+ m.frames)
    (hbusy : ¬ m.Returns frames) : frames <:+ final.frames := by
  cases hstep with
  | idle | unbalanced => exact h
  | finish => exact suffix_of_not_returns hbusy rfl rfl h
  | deliver _ _ hgoes => exact (suffix_of_not_returns hbusy rfl rfl h).trans hgoes.suffix
  | start _ hgoes => exact h.trans hgoes.suffix

/-- Frames stay where they are until a value comes to the topmost of them. -/
theorem Within.suffix {m m' : Machine ω} (hwithin : Within world config frames m m')
    (h : frames <:+ m.frames) : frames <:+ m'.frames := by
  induction hwithin with
  | refl => exact h
  | head hbusy hturn _ ih =>
      obtain ⟨patience, hstep⟩ := hturn
      exact ih ((steps_of_step hstep).suffix h hbusy)

end Machine

/-! ## Curried application -/

open Machine

/-- A value that an earlier evaluation has returned: a primitive that has received its first argument. -/
def increase : List (Text × Value) :=
  [(.ofString "increase", .function (.primitive (Registry.operation "+" [.any, .any] .add) [.number 1]))]

end RollScript

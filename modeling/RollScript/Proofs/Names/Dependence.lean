import RollScript.Proofs.Evaluation.Keeping
import RollScript.Proofs.Evaluation.Tracing
import RollScript.Proofs.Names.Free

/-!
# Evaluation depends on the free names only

Read `depends_on_free_names` first: if the values that a host gives to names agree on the free names of
an expression, then the expression ends in the same way, with the same draws and the same calls of
functions of the host. Closures keep environments that differ between the two evaluations, so values
correspond up to `Function.Agree`. Functions of the host are handed such closures: all that is assumed
of them is that a function is opaque to them (`Surroundings.Opaque`).
-/

namespace RollScript

/-! ## Blocks under way -/

/-- Two blocks whose definitions are under way agree on the names in `seen`, among which are all the
free names of the body and of the function literals to come. -/
structure BlockAgree (seen : Text → Prop) (done done' : List (Text × Entry))
    (rest : List (Text × Expr)) (body : Expr) (env env' : Env) : Prop where
  defined : Entries.AgreeOn seen done done'
  literals : ∀ binding ∈ rest, binding.2.isLiteral = true → ∀ x ∈ binding.2.free, seen x
  values : ∀ binding ∈ rest, binding.2.isLiteral = false →
    Env.AgreeOn (· ∈ binding.2.free) env env'
  inside : ∀ x ∈ body.free, seen x
  around : Env.AgreeOn
    (fun x => seen x ∧ x ∉ done.map Prod.fst ∧ x ∉ rest.map Prod.fst) env env'

namespace BlockAgree

variable {seen : Text → Prop} {done done' : List (Text × Entry)} {name : Text} {value : Expr}
  {rest : List (Text × Expr)} {body : Expr} {env env' : Env}

/-- A block agrees if the environments around it do on its free names. -/
theorem start {span : Span} {bindings : List (Text × Expr)}
    (h : Env.AgreeOn (· ∈ (Expr.block span bindings body).free) env env') :
    BlockAgree (fun x => x ∈ body.free ∨
      ∃ binding ∈ bindings, binding.2.isLiteral = true ∧ x ∈ binding.2.free)
      [] [] bindings body env env' where
  defined := .nil
  literals := by
    intro binding hbinding hliteral x hx
    exact Or.inr ⟨binding, hbinding, hliteral, hx⟩
  values := by
    intro binding hbinding hvalue
    refine h.mono ?_
    intro x hx
    refine Expr.mem_free_block.2 (Or.inl ⟨binding, hbinding, hx, ?_⟩)
    intro hliteral
    rw [hvalue] at hliteral
    cases hliteral
  inside := by
    intro x hx
    exact Or.inl hx
  around := by
    refine h.mono ?_
    intro x hx
    obtain ⟨hseen, -, hown⟩ := hx
    apply Expr.mem_free_block.2
    rcases hseen with hbody | ⟨binding, hbinding, -, hfree⟩
    · exact Or.inr ⟨hbody, hown⟩
    · exact Or.inl ⟨binding, hbinding, hfree, fun _ => hown⟩

/-- A definition is done with corresponding entries. -/
theorem define (h : BlockAgree seen done done' ((name, value) :: rest) body env env')
    {entry entry' : Entry} (hentry : Entry.AgreeOn seen entry entry') :
    BlockAgree seen ((name, entry) :: done) ((name, entry') :: done') rest body env env' where
  defined := .cons hentry h.defined
  literals := fun binding hbinding => h.literals binding (List.mem_cons_of_mem _ hbinding)
  values := fun binding hbinding => h.values binding (List.mem_cons_of_mem _ hbinding)
  inside := h.inside
  around := by
    refine h.around.mono ?_
    intro x hx
    obtain ⟨hseen, hdone, hrest⟩ := hx
    simp only [List.map_cons, List.mem_cons, not_or] at hdone ⊢
    exact ⟨hseen, hdone.2, hdone.1, hrest⟩

end BlockAgree

/-! ## Two evaluations in environments that agree -/

/-- Evaluations of one expression in environments that agree on its free names. -/
def agreement : Ties where
  function := Function.Agree
  scene expr := Env.AgreeOn (· ∈ expr.free)
  block done done' rest body env env' := ∃ seen, BlockAgree seen done done' rest body env env'
  limits := True

theorem agreement_scopes : agreement.Scopes where
  array := by
    intro span elements env env' h e he
    exact h.mono fun x hx => Expr.mem_freeElements.2 ⟨e, he, hx⟩
  apply := by
    intro span callee operand env env' h
    exact ⟨h.mono fun x hx => List.mem_append_left _ hx,
      h.mono fun x hx => List.mem_append_right _ hx⟩
  choice := by
    intro span condition whenTrue whenFalse env env' h
    refine ⟨h.mono ?_, h.mono ?_, h.mono ?_⟩
    · intro x hx
      exact List.mem_append_left _ (List.mem_append_left _ hx)
    · intro x hx
      exact List.mem_append_left _ (List.mem_append_right _ hx)
    · intro x hx
      exact List.mem_append_right _ hx
  name := by
    intro span x env env' h
    exact h.lookup (List.mem_singleton_self x)
  function := by
    intro span parameter body env env' h
    exact .closure (h.mono fun x hx => Expr.mem_free_function.2 hx)
  call := by
    intro parameter body env g hg
    cases hg with
    | @closure _ _ _ env' henv =>
        refine ⟨env', rfl, ?_⟩
        intro v w hv
        -- the parameter's scope hides its name, so the environments need not agree on it
        have hparameter : Entries.AgreeOn (· ∈ body.free) [(parameter, .value v)]
            [(parameter, .value w)] := .cons (.value hv) .nil
        refine .scope (fun x hx => hx) hparameter (henv.mono ?_)
        intro x hx
        exact ⟨hx.1, fun heq => hx.2 (by simp [heq])⟩
  block := by
    intro span bindings body env env' h
    exact ⟨_, BlockAgree.start h⟩
  literal := by
    intro done done' name parameter span literal rest body env env' h
    obtain ⟨seen, h⟩ := h
    refine ⟨seen, h.define (.literal ?_)⟩
    intro x hx hparameter
    exact h.literals _ List.mem_cons_self rfl x (Expr.mem_free_function.2 ⟨hx, hparameter⟩)
  next := by
    intro done done' name value rest body env env' h hvalue
    obtain ⟨seen, h⟩ := h
    exact h.values _ List.mem_cons_self hvalue
  value := by
    intro done done' name value v w rest body env env' h hvalue hv
    obtain ⟨seen, h⟩ := h
    exact ⟨seen, h.define (.value hv)⟩
  body := by
    intro done done' body env env' h
    obtain ⟨seen, h⟩ := h
    refine .scope h.inside h.defined (h.around.mono ?_)
    intro x hx
    exact ⟨hx.1, hx.2, List.not_mem_nil⟩

/-! ## Functions of the host -/

/-- A relation between functions of the same code: every function is related to itself, closures are
related to closures of the same parameter and body, and primitives to the same primitive with as many
arguments. -/
structure SameCode (F : Function → Function → Prop) : Prop where
  refl (f : Function) : F f f
  closure {parameter : Text} {body : Expr} {env : Env} {g : Function} :
    F (.closure parameter body env) g → ∃ env', g = .closure parameter body env'
  primitive {p : Primitive} {bound : List Value} {g : Function} :
    F (.primitive p bound) g →
    ∃ bound', g = .primitive p bound' ∧ List.Forall₂ (Value.Alike F) bound bound'

theorem Function.agree_sameCode : SameCode Function.Agree where
  refl := agree_refl
  closure := by
    intro parameter body env g hg
    cases hg with
    | closure => exact ⟨_, rfl⟩
  primitive := by
    intro p bound g hg
    cases hg with
    | primitive hbound => exact ⟨_, rfl, hbound⟩

variable {ω : Type}

/-- A function of the language is opaque to these surroundings: whatever relation `F` between functions
of the same code is given, a function of the host that is called with values that differ by `F` returns
such values, or fails in the same way. `S F` says that two states differ only in the functions that the
host keeps, by `F`. -/
structure Surroundings.Opaque (around : Surroundings ω)
    (S : (Function → Function → Prop) → ω → ω → Prop) : Prop where
  refl {F : Function → Function → Prop} : SameCode F → ∀ s, S F s s
  draw {F : Function → Function → Prop} : SameCode F → DrawsAlike (S F) around.draw around.draw
  host {F : Function → Function → Prop} : SameCode F → ∀ id args args' s s',
    List.Forall₂ (Value.Alike F) args args' → S F s s' →
    ResultsAlike (Value.Alike F) (S F) (around.host id args s) (around.host id args' s')

namespace Surroundings.Opaque

variable {around : Surroundings ω} {S : (Function → Function → Prop) → ω → ω → Prop}

/-- Surroundings go on to be opaque when it is recorded what is done to them. -/
theorem traced (h : around.Opaque S) :
    around.traced.Opaque fun F state state' =>
      S F state.1 state'.1 ∧ List.Forall₂ (Event.Alike F) state.2 state'.2 where
  refl := by
    intro F hF state
    refine ⟨h.refl hF state.1, List.forall₂_same.2 ?_⟩
    intro event _
    cases event with
    | draw width => exact .draw width
    | call id args => exact .call id (Value.alike_items hF.refl args)
  draw := by
    intro F hF width state state' hstate
    have hdrawn := h.draw hF width state.1 state'.1 hstate.1
    show Option.Rel _ ((around.draw width state.1).map _) ((around.draw width state'.1).map _)
    revert hdrawn
    generalize around.draw width state.1 = drawn
    generalize around.draw width state'.1 = drawn'
    intro hdrawn
    cases hdrawn with
    | none => exact .none
    | some hdrawn => exact .some ⟨hdrawn.1, hdrawn.2, .cons (.draw width) hstate.2⟩
  host := by
    intro F hF id args args' state state' hargs hstate
    have hanswer := h.host hF id args args' state.1 state'.1 hargs hstate.1
    have hevents : List.Forall₂ (Event.Alike F) (.call id args :: state.2)
        (.call id args' :: state'.2) := .cons (.call id hargs) hstate.2
    simp only [Surroundings.traced]
    revert hanswer
    generalize around.host id args state.1 = answer
    generalize around.host id args' state'.1 = answer'
    intro hanswer
    cases hanswer with
    | mk hresult hlater => exact .mk hresult ⟨hlater, hevents⟩

theorem sound (h : around.Opaque S)
    (resume : Nat → List Value → Value → ω → Except Stop (List Request) × ω) (room : Nat)
    (config : Config) :
    agreement.Sound (S Function.Agree) (around.world resume room) (around.world resume room) config
      config where
  toScopes := agreement_scopes
  inversion := Function.agree_sameCode.primitive
  more := by
    intro p bound bound' v w guard hp hv _ _ _
    cases hp with
    | primitive hbound => exact .primitive (List.rel_append hbound (.cons hv .nil))
  reroll _ _ := trivial
  draws _ _ := h.draw Function.agree_sameCode
  host := by
    intro p bound g id _ _ args args' s s' hargs hs
    have hanswer := h.host Function.agree_sameCode id args args' s s' hargs hs
    simp only [Surroundings.world]
    revert hanswer
    generalize around.host id args s = answer
    generalize around.host id args' s' = answer'
    intro hanswer
    cases hanswer with
    | mk hresult hlater => exact .mk (answers_produce hresult) hlater
  room := rfl
  limited _ := ⟨rfl, rfl⟩

end Surroundings.Opaque

/-! ## What is seen of an evaluation -/

/-- Two results that look the same: values of the same text, or the same error, which has one cause,
one message and one span. -/
inductive Result.LooksLike : Result → Result → Prop where
  | value {v w : Value} : v.print = w.print → LooksLike (.value v) (.value w)
  | same (r : Result) : LooksLike r r

theorem Result.LooksLike.symm {r r' : Result} (h : LooksLike r r') : LooksLike r' r := by
  cases h with
  | value hprint => exact .value hprint.symm
  | same => exact .same r

theorem Result.LooksLike.trans {r r' r'' : Result} (h : LooksLike r r') (h' : LooksLike r' r'') :
    LooksLike r r'' := by
  cases h with
  | same => exact h'
  | value hprint =>
      cases h' with
      | value hprint' => exact .value (hprint.trans hprint')
      | same => exact .value hprint

/-- Evaluations that correspond, whatever ties their functions together, look the same. -/
theorem Outcome.Alike.looksLike {T : Ties} {o o' : Outcome} (h : Outcome.Alike T o o') :
    Result.LooksLike o.toResult o'.toResult := by
  cases h with
  | value hv => exact .value hv.print_eq
  | failed cause blame => exact .same _
  | aborted abort => exact .same _
  | unfinished => exact .same _

namespace Surroundings

variable (around : Surroundings ω)

/-- What an evaluation does to its surroundings, in order. -/
def events (room fuel : Nat) (config : Config) (env : Env) (expr : Expr) (s : ω) : List Event :=
  (evaluateWithin fuel
    (around.traced.world (fun _ _ _ state => (.error (.aborted .misapplied), state)) room) config env
    expr (s, [])).2.2.reverse

/-- Evaluations in two environments that cannot be told apart by what is seen of them: how they end, the
state that they leave, and what they do on the way. -/
structure Indistinct (S : (Function → Function → Prop) → ω → ω → Prop)
    (resume : Nat → List Value → Value → ω → Except Stop (List Request) × ω) (room fuel : Nat)
    (config : Config) (env env' : Env) (expr : Expr) (s : ω) : Prop where
  outcome : Result.LooksLike
    (evaluateWithin fuel (around.world resume room) config env expr s).1.toResult
    (evaluateWithin fuel (around.world resume room) config env' expr s).1.toResult
  state : S Function.Agree (evaluateWithin fuel (around.world resume room) config env expr s).2
    (evaluateWithin fuel (around.world resume room) config env' expr s).2
  events : List.Forall₂ (Event.Alike Function.Agree)
    (around.events room fuel config env expr s) (around.events room fuel config env' expr s)

variable {around} {S : (Function → Function → Prop) → ω → ω → Prop}

/-- An expression goes the same way in environments that agree on its free names. -/
theorem Opaque.indistinct (haround : around.Opaque S)
    (resume : Nat → List Value → Value → ω → Except Stop (List Request) × ω) (room fuel : Nat)
    (config : Config) {env env' : Env} {expr : Expr}
    (henv : Env.AgreeOn (· ∈ expr.free) env env') (s : ω) :
    around.Indistinct S resume room fuel config env env' expr s := by
  obtain ⟨houtcome, hstate⟩ := evaluateWithin_alike (haround.sound resume room config) fuel henv
    (haround.refl Function.agree_sameCode s)
  refine ⟨houtcome.looksLike, hstate, ?_⟩
  -- what they do on the way is part of the state once it is recorded
  obtain ⟨-, htraced⟩ := evaluateWithin_alike (haround.traced.sound _ room config) fuel henv
    (haround.traced.refl Function.agree_sameCode (s, []))
  exact List.rel_reverse htraced.2

end Surroundings

/-! ## Programs -/

theorem Env.lookup_extend (env : Env) (values : List (Text × Value)) (x : Text) :
    (env.extend values).lookup x = (values.lookup x).or (env.lookup x) := by
  have hentry : (values.map fun entry => (entry.1, Entry.value entry.2)).lookup x =
      (values.lookup x).map .value := by
    induction values with
    | nil => rfl
    | cons entry rest ih =>
        rw [List.map_cons, List.lookup_cons, List.lookup_cons, ih]
        split <;> rfl
  have hextend : env.extend values =
      .scope (values.map fun entry => (entry.1, Entry.value entry.2)) env := rfl
  rw [hextend, lookup, hentry]
  cases values.lookup x <;> rfl

/-- A name that the host gives no value has that of the primitive of its name. -/
theorem rootEnvironment_lookup (registry : Registry) (values : List (Text × Value)) (x : Text) :
    (rootEnvironment registry values).lookup x =
      (values.lookup x).or (registry.environment.lookup x) := by
  cases values with
  | nil => rfl
  | cons entry rest => exact Env.lookup_extend _ _ x

/-- If the values that a host gives to names agree on the free names of a program, then the program
ends in the same way, with the same text, or the same error at the same place, and it draws and calls
functions of the host alike on the way. -/
theorem depends_on_free_names {around : Surroundings ω}
    {S : (Function → Function → Prop) → ω → ω → Prop} (haround : around.Opaque S)
    (resume : Nat → List Value → Value → ω → Except Stop (List Request) × ω) (room : Nat)
    (registry : Registry) (config : Config) {given given' : List (Text × HostValue)}
    {values values' : List (Text × Value)} (hgiven : bindAll given = .ok values)
    (hgiven' : bindAll given' = .ok values') {source : Text} {tree : Expr}
    (hparse : parse source = .ok tree)
    (hfree : ∀ x ∈ tree.free, (rootEnvironment registry values).lookup x =
      (rootEnvironment registry values').lookup x) (s : ω) :
    (∀ fuel, around.Indistinct S resume room fuel config (rootEnvironment registry values)
        (rootEnvironment registry values') tree s) ∧
      Result.LooksLike
        (Evaluator.run ⟨around.world resume room, registry, config⟩ given source s).1
        (Evaluator.run ⟨around.world resume room, registry, config⟩ given' source s).1 := by
  have hindistinct : ∀ fuel, around.Indistinct S resume room fuel config
      (rootEnvironment registry values) (rootEnvironment registry values') tree s := by
    intro fuel
    exact haround.indistinct resume room fuel config (.same hfree) s
  refine ⟨hindistinct, ?_⟩
  rw [Evaluator.run_of_bindAll hparse hgiven, Evaluator.run_of_bindAll hparse hgiven']
  exact (hindistinct stepLimit).outcome

theorem parse_free {source : Text} {names : List Text}
    (h : (parse source).toOption.map Expr.free = some names) :
    ∃ tree, parse source = .ok tree ∧ tree.free = names := by
  cases hparse : parse source with
  | error error =>
      rw [hparse] at h
      cases h
  | ok tree =>
      rw [hparse] at h
      exact ⟨tree, rfl, Option.some.inj h⟩

/-- Surroundings that keep a value: a function of the host exchanges it for its argument. -/
def Surroundings.keeper : Surroundings Value where
  draw _ kept := some (0, kept)
  host _ args kept :=
    match args with
    | [v] => (.ok kept, v)
    | _ => (.error (.aborted .misapplied), kept)

theorem Surroundings.keeper_isOpaque : keeper.Opaque Value.Alike where
  refl := by
    intro F hF kept
    exact Value.alike_refl hF.refl kept
  draw := by
    intro F hF width kept kept' hkept
    exact .some ⟨rfl, hkept⟩
  host := by
    intro F hF id args args' kept kept' hargs hkept
    cases hargs with
    | nil => exact .mk (.error _) hkept
    | cons hv hrest =>
        cases hrest with
        | nil => exact .mk (.ok hkept) hv
        | cons => exact .mk (.error _) hkept

/-- A program that hands a closure to the host, gets it back and calls it. -/
def exchange : Text :=
  .ofString "let f swap (@z z + d 6) and g swap 0 in g 5"

/-- The value that the program mentions. -/
def mentioned : List (Text × HostValue) :=
  [(.ofString "swap", .callable (.ofString "swap") 0)]

/-- The value that the program mentions, a new name, and a name that hides a primitive. -/
def unmentioned : List (Text × HostValue) :=
  (.ofString "x", .text []) :: (.ofString "floor", .none) :: mentioned

theorem exchange_unmentioned :
    ∃ tree values values',
      parse exchange = .ok tree ∧ bindAll mentioned = .ok values ∧
      bindAll unmentioned = .ok values' ∧
      (∀ x ∈ tree.free, (rootEnvironment .standard values).lookup x =
        (rootEnvironment .standard values').lookup x) ∧
      ∀ fuel, Surroundings.keeper.Indistinct Value.Alike
        (fun _ _ _ kept => (.error (.aborted .misapplied), kept)) 100 fuel .standard
        (rootEnvironment .standard values) (rootEnvironment .standard values') tree .unit := by
  obtain ⟨tree, hparse, hnames⟩ : ∃ tree, parse exchange = .ok tree ∧
      tree.free = [.ofString "swap", .ofString "+", .ofString "d", .ofString "swap"] :=
    parse_free (by decide +kernel)
  obtain ⟨values, hgiven⟩ : ∃ values, bindAll mentioned = .ok values := ⟨_, rfl⟩
  obtain ⟨values', hgiven'⟩ : ∃ values, bindAll unmentioned = .ok values := ⟨_, rfl⟩
  have hlookup : ∀ x ∈ tree.free, (rootEnvironment .standard values).lookup x =
      (rootEnvironment .standard values').lookup x := by
    intro x hx
    rw [rootEnvironment_lookup, rootEnvironment_lookup]
    cases hgiven
    cases hgiven'
    rw [hnames] at hx
    simp only [List.mem_cons, List.not_mem_nil, or_false] at hx
    rcases hx with rfl | rfl | rfl | rfl <;> rfl
  exact ⟨tree, values, values', hparse, hgiven, hgiven', hlookup,
    (depends_on_free_names Surroundings.keeper_isOpaque _ 100 .standard .standard hgiven hgiven' hparse
      hlookup .unit).1⟩

end RollScript

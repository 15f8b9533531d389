import RollScript.Program
import RollScript.Proofs.Evaluation.Arguments
import RollScript.Proofs.Evaluation.Simulation

/-!
# What an evaluation can get hold of

A `Trait` is a property of expressions and of primitives with the arguments they have received. A
value, a function or an environment has the trait if every expression that it can have evaluated does,
and every primitive in it. Read `Trait.Kept.sound` first: if the trait goes over from an expression to
its parts and stays when a primitive receives an argument that its guard lets pass, then a machine
never gets hold of anything without it. Since no primitive with the trait belongs to the host, how a
world calls functions of the host does not matter (`evaluateWithin_alone`).
-/

namespace RollScript

/-- A property of expressions, and of primitives with the arguments they have received. -/
structure Trait where
  code : Expr → Prop
  primitive : Primitive → List Value → Prop

mutual

/-- A value all of whose functions have a trait. -/
inductive Value.Has (K : Trait) : Value → Prop where
  | number (x : Float) : Value.Has K (.number x)
  | string (s : Text) : Value.Has K (.string s)
  | unit : Value.Has K .unit
  | array {items : List Value} : (∀ v ∈ items, Value.Has K v) → Value.Has K (.array items)
  | function {f : Function} : Function.Has K f → Value.Has K (.function f)

/-- A function whose code and environment, or whose arguments, have a trait. -/
inductive Function.Has (K : Trait) : Function → Prop where
  | closure {parameter : Text} {body : Expr} {env : Env} :
      K.code body → Env.Has K env → Function.Has K (.closure parameter body env)
  | primitive {p : Primitive} {bound : List Value} :
      K.primitive p bound → (∀ v ∈ bound, Value.Has K v) → Function.Has K (.primitive p bound)

/-- An environment all of whose entries have a trait. -/
inductive Env.Has (K : Trait) : Env → Prop where
  | empty : Env.Has K .empty
  | scope {entries : List (Text × Entry)} {parent : Env} :
      (∀ entry ∈ entries, Entry.Has K entry.2) → Env.Has K parent → Env.Has K (.scope entries parent)

/-- An entry whose value or code has a trait. -/
inductive Entry.Has (K : Trait) : Entry → Prop where
  | value {v : Value} : Value.Has K v → Entry.Has K (.value v)
  | literal {parameter : Text} {body : Expr} : K.code body → Entry.Has K (.literal parameter body)

end

variable {K : Trait}

/-- An evaluation tied to itself by a trait. -/
def Trait.ties (K : Trait) : Ties where
  function f g := f = g ∧ f.Has K
  scene expr env env' := env = env' ∧ K.code expr ∧ env.Has K
  block done done' rest body env env' :=
    done = done' ∧ env = env' ∧ (∀ entry ∈ done, entry.2.Has K) ∧
      (∀ binding ∈ rest, K.code binding.2) ∧ K.code body ∧ env.Has K
  limits := True

mutual

theorem Value.Has.alike : ∀ {v : Value}, v.Has K → Value.Alike K.ties.function v v
  | .number x, _ => .number x
  | .string s, _ => .string s
  | .unit, _ => .unit
  | .array _, .array h => .array (alikeItems h)
  | .function _, .function h => .function ⟨rfl, h⟩

theorem Value.alikeItems : ∀ {items : List Value}, (∀ v ∈ items, v.Has K) →
    List.Forall₂ (Value.Alike K.ties.function) items items
  | [], _ => .nil
  | v :: _, h =>
      .cons (h v List.mem_cons_self).alike
        (alikeItems fun w hw => h w (List.mem_cons_of_mem v hw))

end

mutual

theorem Value.Alike.has : ∀ {v w : Value}, Value.Alike K.ties.function v w → v = w ∧ v.Has K
  | .number x, _, .number _ => ⟨rfl, .number x⟩
  | .string s, _, .string _ => ⟨rfl, .string s⟩
  | .unit, _, .unit => ⟨rfl, .unit⟩
  | .array _, _, .array h => by
      obtain ⟨rfl, hitems⟩ := hasItems h
      exact ⟨rfl, .array hitems⟩
  | .function _, _, .function ⟨hsame, h⟩ => ⟨congrArg Value.function hsame, .function h⟩

theorem Value.hasItems : ∀ {items others : List Value},
    List.Forall₂ (Value.Alike K.ties.function) items others →
    items = others ∧ ∀ v ∈ items, v.Has K
  | [], _, .nil => ⟨rfl, fun _ hv => absurd hv List.not_mem_nil⟩
  | _ :: _, _, .cons hv hrest => by
      obtain ⟨rfl, hfirst⟩ := hv.has
      obtain ⟨rfl, hitems⟩ := hasItems hrest
      exact ⟨rfl, List.forall_mem_cons.2 ⟨hfirst, hitems⟩⟩

end

/-- Evaluations that a trait ties together end in the same way. -/
theorem Outcome.Alike.eq {o o' : Outcome} (h : Outcome.Alike K.ties o o') : o = o' := by
  cases h with
  | value hv => rw [hv.has.1]
  | failed | aborted | unfinished => rfl

/-! ## Environments -/

theorem Env.Has.bind {env : Env} (h : env.Has K) (parameter : Text) {v : Value} (hv : v.Has K) :
    (env.bind parameter v).Has K := by
  refine .scope (fun entry hentry => ?_) h
  rw [List.mem_singleton.1 hentry]
  exact .value hv

theorem mem_of_lookup {α : Type} {entries : List (Text × α)} {x : Text} {a : α}
    (h : entries.lookup x = some a) : (x, a) ∈ entries := by
  obtain ⟨before, after, rfl, -⟩ := List.lookup_eq_some_iff.1 h
  exact List.mem_append_right before List.mem_cons_self

/-- What is found in an environment that has a trait has it too. -/
theorem Env.Has.lookup {x : Text} {v : Value} :
    ∀ {env : Env}, env.Has K → env.lookup x = some v → v.Has K
  | .empty, _, hv => by cases hv
  | .scope entries parent, h, hv => by
      have hscope := h
      cases h with
      | scope hentries hparent =>
          rw [Env.lookup] at hv
          split at hv
          · next hfound =>
              cases hv
              cases hentries _ (mem_of_lookup hfound) with
              | value hvalue => exact hvalue
          · next hfound =>
              cases hv
              cases hentries _ (mem_of_lookup hfound) with
              | literal hcode => exact .function (.closure hcode hscope)
          · exact lookup hparent hv

/-! ## Traits that are kept -/

/-- A trait goes over from an expression to its parts, stays when a primitive receives an argument
that its guard lets pass, and is that of no primitive of the host. -/
structure Trait.Kept (K : Trait) : Prop where
  part {expr child : Expr} : K.code expr → child ∈ expr.children → K.code child
  more {p : Primitive} {bound : List Value} {v : Value} {guard : Guard} :
    K.primitive p bound → p.guards[bound.length]? = some guard → guard.refusal? v = none →
    bound.length + 1 < p.arity → K.primitive p (bound ++ [v])
  hostless {p : Primitive} {bound : List Value} {id : Nat} :
    K.primitive p bound → p.routine ≠ .host id

/-- Names, closures and blocks keep a trait that goes over from an expression to its parts. -/
theorem Trait.scopes
    (hpart : ∀ {expr child : Expr}, K.code expr → child ∈ expr.children → K.code child) :
    K.ties.Scopes where
  array := by
    rintro span elements env _ ⟨rfl, hcode, henv⟩ e he
    exact ⟨rfl, hpart hcode he, henv⟩
  apply := by
    rintro span callee operand env _ ⟨rfl, hcode, henv⟩
    exact ⟨⟨rfl, hpart hcode (by simp [Expr.children]), henv⟩,
      ⟨rfl, hpart hcode (by simp [Expr.children]), henv⟩⟩
  choice := by
    rintro span condition whenTrue whenFalse env _ ⟨rfl, hcode, henv⟩
    exact ⟨⟨rfl, hpart hcode (by simp [Expr.children]), henv⟩,
      ⟨rfl, hpart hcode (by simp [Expr.children]), henv⟩,
      ⟨rfl, hpart hcode (by simp [Expr.children]), henv⟩⟩
  name := by
    rintro span x env _ ⟨rfl, -, henv⟩
    cases hfound : env.lookup x with
    | none => exact .none
    | some v => exact .some (henv.lookup hfound).alike
  function := by
    rintro span parameter body env _ ⟨rfl, hcode, henv⟩
    exact ⟨rfl, .closure (hpart hcode (by simp [Expr.children])) henv⟩
  call := by
    rintro parameter body env _ ⟨rfl, hf⟩
    cases hf with
    | closure hcode henv =>
        refine ⟨env, rfl, fun v w hv => ?_⟩
        obtain ⟨rfl, hvalue⟩ := hv.has
        exact ⟨rfl, hcode, henv.bind parameter hvalue⟩
  block := by
    rintro span bindings body env _ ⟨rfl, hcode, henv⟩
    refine ⟨rfl, rfl, fun entry hentry => absurd hentry List.not_mem_nil, ?_, ?_, henv⟩
    · intro binding hbinding
      refine hpart hcode (List.mem_append_left _ ?_)
      exact List.mem_map_of_mem hbinding
    · exact hpart hcode (List.mem_append_right _ (List.mem_singleton_self body))
  literal := by
    rintro done _ name parameter span literal rest body env _ ⟨rfl, rfl, hdone, hrest, hbody, henv⟩
    obtain ⟨hfirst, hrest⟩ := List.forall_mem_cons.1 hrest
    refine ⟨rfl, rfl, List.forall_mem_cons.2 ⟨?_, hdone⟩, hrest, hbody, henv⟩
    exact .literal (hpart hfirst (by simp [Expr.children]))
  next := by
    rintro done _ name value rest body env _ ⟨rfl, rfl, hdone, hrest, hbody, henv⟩ -
    exact ⟨rfl, hrest _ List.mem_cons_self, henv⟩
  value := by
    rintro done _ name value v w rest body env _ ⟨rfl, rfl, hdone, hrest, hbody, henv⟩ - hv
    obtain ⟨-, hrest⟩ := List.forall_mem_cons.1 hrest
    obtain ⟨rfl, hvalue⟩ := hv.has
    exact ⟨rfl, rfl, List.forall_mem_cons.2 ⟨.value hvalue, hdone⟩, hrest, hbody, henv⟩
  body := by
    rintro done _ body env _ ⟨rfl, rfl, hdone, -, hbody, henv⟩
    exact ⟨rfl, hbody, .scope hdone henv⟩

theorem Trait.ties_inversion {p : Primitive} {bound : List Value} {g : Function}
    (h : K.ties.function (.primitive p bound) g) :
    ∃ bound', g = .primitive p bound' ∧
      List.Forall₂ (Value.Alike K.ties.function) bound bound' := by
  obtain ⟨rfl, hf⟩ := h
  cases hf with
  | primitive _ hbound => exact ⟨bound, rfl, Value.alikeItems hbound⟩

/-- A primitive that keeps a trait with one more argument stays tied to itself. -/
theorem Trait.ties_more {p : Primitive} {bound bound' : List Value} {v w : Value}
    (h : K.ties.function (.primitive p bound) (.primitive p bound'))
    (hv : Value.Alike K.ties.function v w) (hmore : K.primitive p bound → K.primitive p (bound ++ [v])) :
    K.ties.function (.primitive p (bound ++ [v])) (.primitive p (bound' ++ [w])) := by
  obtain ⟨hsame, hf⟩ := h
  cases hsame
  obtain ⟨rfl, hvalue⟩ := hv.has
  cases hf with
  | primitive hp hbound =>
      refine ⟨rfl, .primitive (hmore hp) (List.forall_mem_append.2 ⟨hbound, ?_⟩)⟩
      exact List.forall_mem_singleton.2 hvalue

namespace Trait.Kept

theorem scopes (hK : K.Kept) : K.ties.Scopes :=
  K.scopes hK.part

variable {ω ω' : Type} {S : ω → ω' → Prop} {world : World ω} {world' : World ω'}
  {config config' : Config}

theorem primitives (hK : K.Kept) (hdraw : DrawsAlike S world.draw world'.draw) :
    K.ties.Primitives S world world' where
  inversion := Trait.ties_inversion
  more hp hv hguard hpass hroom := Trait.ties_more hp hv fun h => hK.more h hguard hpass hroom
  reroll _ _ := trivial
  draws _ _ := hdraw
  host := by
    rintro p bound _ id ⟨rfl, hf⟩ hhost
    cases hf with
    | primitive hp _ => exact absurd hhost (hK.hostless hp)

/-- Two worlds that draw alike run alike, and get hold of nothing without the trait. -/
theorem sound (hK : K.Kept) (hdraw : DrawsAlike S world.draw world'.draw)
    (hroom : world.room = world'.room)
    (hconfig : config.maxRerolls = config'.maxRerolls ∧
      config.whenExhausted = config'.whenExhausted) :
    K.ties.Sound S world world' config config' where
  toScopes := hK.scopes
  toPrimitives := hK.primitives hdraw
  room := hroom
  limited _ := hconfig

end Trait.Kept

/-! ## Programs without functions of the host -/

/-- The primitives of the language, with fewer arguments than they take, all of which their guards let
pass, and code of some property. -/
def Trait.standard (code : Expr → Prop) : Trait where
  code := code
  primitive p bound :=
    p ∈ Registry.primitives ∧ bound.length < p.arity ∧
      Passes (p.guards.take bound.length) bound

/-- Every primitive of the language takes an argument, and none belongs to the host. -/
theorem Registry.primitives_spec {p : Primitive} (h : p ∈ primitives) :
    0 < p.arity ∧ ∀ id, p.routine ≠ .host id := by
  have hall : primitives.all (fun p => 0 < p.arity && !(p.routine matches .host _)) = true := by
    decide
  have hp := List.all_eq_true.1 hall p h
  simp only [Bool.and_eq_true, decide_eq_true_eq] at hp
  refine ⟨hp.1, fun id hhost => ?_⟩
  simp [hhost] at hp

theorem Trait.standard_kept {code : Expr → Prop}
    (hcode : ∀ expr child : Expr, code expr → child ∈ expr.children → code child) :
    (Trait.standard code).Kept where
  part := hcode _ _
  more := by
    rintro p bound v guard ⟨hp, -, hpassed⟩ hguard hpass hroom
    exact ⟨hp, by simpa using hroom, hpassed.snoc hguard hpass⟩
  hostless := by
    rintro p bound id ⟨hp, -, -⟩
    exact (Registry.primitives_spec hp).2 id

/-- The outermost scope of a program without values from the host. -/
theorem rootEnvironment_has (code : Expr → Prop) :
    (rootEnvironment .standard []).Has (.standard code) := by
  refine .scope (fun entry hentry => ?_) .empty
  simp only [Registry.values, Registry.standard, List.mem_map] at hentry
  obtain ⟨_, ⟨_, ⟨p, hp, rfl⟩, rfl⟩, rfl⟩ := hentry
  refine .value (.function (.primitive ⟨hp, (Registry.primitives_spec hp).1, ?_⟩ ?_))
  · exact .nil
  · exact fun v hv => absurd hv List.not_mem_nil

variable {ω : Type}

/-- The random bits of a world without its functions of the host. -/
def World.hostless (world : World ω) : Surroundings ω where
  draw := world.draw
  host _ _ state := (.error (.aborted .misapplied), state)

/-- A world without its functions of the host. -/
abbrev World.alone (world : World ω) : World ω :=
  world.hostless.world world.resume world.room

theorem drawsAlike_refl (draw : Random.BitSource ω) : DrawsAlike Eq draw draw := by
  intro width s s' hs
  rw [hs]
  cases draw width s' with
  | none => exact .none
  | some drawn => exact .some ⟨rfl, rfl⟩

section Programs

variable {code : Expr → Prop}
  (hcode : ∀ expr child : Expr, code expr → child ∈ expr.children → code child)
  {world : World ω} {config : Config} {tree : Expr} (htree : code tree) {s t : ω}

include hcode

theorem Trait.standard_sound (world : World ω) (config : Config) :
    (Trait.standard code).ties.Sound Eq world.alone world.alone config config :=
  (Trait.standard_kept hcode).sound (drawsAlike_refl world.draw) rfl ⟨rfl, rfl⟩

include htree

/-- The functions of the host do not matter to a program that is run without values from the host. -/
theorem evaluateWithin_alone {fuel : Nat} {o : Outcome}
    (h : evaluateWithin fuel world config (rootEnvironment .standard []) tree s = (o, t)) :
    ∃ final, (Machine.start tree (rootEnvironment .standard []) s).run world.alone config fuel =
      (o, final) := by
  have hsound : (Trait.standard code).ties.Sound Eq world.alone world config config :=
    (Trait.standard_kept hcode).sound (drawsAlike_refl world.draw) rfl ⟨rfl, rfl⟩
  obtain ⟨houtcome, -⟩ :=
    evaluateWithin_alike hsound fuel ⟨rfl, htree, rootEnvironment_has code⟩ (Eq.refl s)
  refine ⟨_, Prod.ext ?_ rfl⟩
  rw [h] at houtcome
  exact houtcome.eq

/-- Whatever such a program comes to, it gets hold of its own code and of the primitives of the language
only. -/
theorem Machine.Reaches.standard {m : Machine ω}
    (h : Reaches world.alone config (start tree (rootEnvironment .standard []) s) m) :
    Alike (Trait.standard code).ties Eq m m :=
  reaches_alike (Trait.standard_sound hcode world config) h
    (start_alike ⟨rfl, htree, rootEnvironment_has code⟩ rfl)

end Programs

namespace Machine

variable {T : Ties} {S : ω → ω → Prop} {m : Machine ω}

theorem Alike.not_host (h : Alike T S m m) :
    ∀ entry ∈ m.frames, ∀ id saved, entry.1 ≠ .host id saved := by
  intro entry hentry id saved hhost
  have hframe := (List.forall₂_same.1 h.frames entry hentry).1
  rw [hhost] at hframe
  cases hframe

theorem Alike.code (h : Alike K.ties S m m) : ∀ item ∈ m.work, K.code item.1 := by
  intro item hitem
  exact (List.forall₂_same.1 h.work item hitem).2.2.1

end Machine

namespace Evaluator

variable {e : Evaluator ω} {source : Text} {s : ω}

theorem run_of_error {error : SyntaxError} (h : parse source = .error error) :
    e.run [] source s = (.syntaxError error, s) := by
  simp only [run, h]

/-- A program whose source can be read and whose values can be used is evaluated. -/
theorem run_of_bindAll {given : List (Text × HostValue)} {values : List (Text × Value)} {tree : Expr}
    (hparse : parse source = .ok tree) (hgiven : bindAll given = .ok values) :
    e.run given source s =
      ((evaluateWithin stepLimit e.world e.config (rootEnvironment e.registry values) tree
          s).1.toResult,
        (evaluateWithin stepLimit e.world e.config (rootEnvironment e.registry values) tree s).2) := by
  simp only [run, hparse, hgiven, evaluate]

theorem run_of_parse {tree : Expr} (h : parse source = .ok tree) :
    e.run [] source s =
      ((evaluateWithin stepLimit e.world e.config (rootEnvironment e.registry []) tree s).1.toResult,
        (evaluateWithin stepLimit e.world e.config (rootEnvironment e.registry []) tree s).2) :=
  run_of_bindAll h rfl

end Evaluator

end RollScript

import RollScript.Proofs.Names.Dependence

/-!
# Programs without dice

Every environment holds the dice, and every machine its random bits, but a program gets at them by
name only. Read `pure_without_dice` first: a program in which the dice are not free leaves the random
bits alone and does not depend on them, and it depends on the configuration only if `reroll` is free.
Such a program goes the same way when the primitives it does not mention are taken out of its
environment (`Registry.without`), and from there it can never get hold of them (`Trait.sparing`).
-/

namespace RollScript

/-! ## Data -/

mutual

/-- Whether there are no functions in a value. -/
def Value.isData : Value → Bool
  | .number _ => true
  | .string _ => true
  | .unit => true
  | .array items => areData items
  | .function _ => false

/-- Whether there are no functions in some values. -/
def Value.areData : List Value → Bool
  | [] => true
  | v :: rest => v.isData && areData rest

end

mutual

/-- Data has every trait. -/
theorem Value.has_of_isData {K : Trait} : ∀ {v : Value}, v.isData = true → v.Has K
  | .number x, _ => .number x
  | .string s, _ => .string s
  | .unit, _ => .unit
  | .array _, h => .array (have_of_areData h)
  | .function _, h => by cases h

theorem Value.have_of_areData {K : Trait} : ∀ {items : List Value}, areData items = true →
    ∀ v ∈ items, v.Has K
  | [], _ => fun _ hv => absurd hv List.not_mem_nil
  | v :: rest, h => by
      obtain ⟨hv, hrest⟩ := Bool.and_eq_true_iff.1 h
      exact List.forall_mem_cons.2 ⟨has_of_isData hv, have_of_areData hrest⟩

end

/-! ## Registries without some primitives -/

/-- A registry without the primitives of some names. -/
def Registry.without (r : Registry) (hidden : List Text) : Registry :=
  ⟨r.entries.filter fun entry => !hidden.contains entry.1⟩

theorem Registry.without_nil (r : Registry) : r.without [] = r := by
  simp [without]

variable {hidden : List Text} {x : Text}

theorem Registry.mem_without {r : Registry} {entry : Text × Primitive} :
    entry ∈ (r.without hidden).entries ↔ entry ∈ r.entries ∧ entry.1 ∉ hidden := by
  simp [without]

/-- Names that are not hidden have the primitives that they had. -/
theorem Registry.without_lookup (r : Registry) (hx : x ∉ hidden) :
    (r.without hidden).environment.lookup x = r.environment.lookup x := by
  have hvalues : (r.without hidden).values.lookup x = r.values.lookup x := by
    obtain ⟨entries⟩ := r
    simp only [without, values]
    induction entries with
    | nil => rfl
    | cons entry rest ih =>
        obtain ⟨name, p⟩ := entry
        by_cases hname : name ∈ hidden
        · have hne : (x == name) = false := by
            rw [beq_eq_false_iff_ne]
            intro heq
            exact hx (heq ▸ hname)
          rw [List.filter_cons_of_neg (by simpa using hname), ih, List.map_cons, List.lookup_cons, hne]
        · rw [List.filter_cons_of_pos (by simpa using hname), List.map_cons, List.map_cons,
            List.lookup_cons, List.lookup_cons, ih]
  rw [environment, environment, Env.lookup_extend, Env.lookup_extend, hvalues]

/-- The environment of a program agrees on the names that are not hidden with that of fewer
primitives. -/
theorem rootEnvironment_without {names : Text → Prop} (r : Registry) (values : List (Text × Value))
    (hnames : ∀ x, names x → x ∉ hidden) :
    Env.AgreeOn names (rootEnvironment r values) (rootEnvironment (r.without hidden) values) := by
  refine .same ?_
  intro x hx
  rw [rootEnvironment_lookup, rootEnvironment_lookup, Registry.without_lookup r (hnames x hx)]

/-! ## What a program can get hold of -/

/-- The primitives of the language but for those of some names. -/
def Trait.sparing (hidden : List Text) : Trait where
  code _ := True
  primitive p _ := p ∈ Registry.primitives ∧ p.name ∉ hidden

theorem Trait.sparing_kept : (Trait.sparing hidden).Kept where
  part _ _ := trivial
  more hp _ _ _ := hp
  hostless := by
    intro p bound id hp
    exact (Registry.primitives_spec hp.1).2 id

/-- The environment of a program that is given data holds no primitive that is taken out of it. -/
theorem rootEnvironment_sparing {values : List (Text × Value)}
    (hvalues : ∀ entry ∈ values, entry.2.isData = true) :
    (rootEnvironment (Registry.standard.without hidden) values).Has (.sparing hidden) := by
  have hextend : ∀ {values : List (Text × Value)} {env : Env},
      (∀ entry ∈ values, entry.2.Has (.sparing hidden)) → env.Has (.sparing hidden) →
      (env.extend values).Has (.sparing hidden) := by
    intro values env hvalues henv
    refine .scope ?_ henv
    intro entry hentry
    obtain ⟨⟨name, v⟩, hv, rfl⟩ := List.mem_map.1 hentry
    exact .value (hvalues _ hv)
  have hregistry : (Registry.standard.without hidden).environment.Has (.sparing hidden) := by
    refine hextend ?_ .empty
    intro entry hentry
    obtain ⟨_, hmember, rfl⟩ := List.mem_map.1 hentry
    obtain ⟨hstandard, hname⟩ := Registry.mem_without.1 hmember
    obtain ⟨p, hp, rfl⟩ := List.mem_map.1 hstandard
    exact .function (.primitive ⟨hp, hname⟩ fun v hv => absurd hv List.not_mem_nil)
  unfold rootEnvironment
  split
  · exact hregistry
  · exact hextend (fun entry hentry => Value.has_of_isData (hvalues entry hentry)) hregistry

/-- The dice are `d` and `dF`, and `reroll` is the one primitive that limits rolls. -/
theorem Registry.primitives_dice {p : Primitive} (hp : p ∈ primitives) :
    (∀ die, p.routine = .die die → p.name = .ofString "d" ∨ p.name = .ofString "dF") ∧
      (p.routine = .combinator .reroll → p.name = .ofString "reroll") := by
  have hall : primitives.all (fun p =>
      (!(p.routine matches .die _) || p.name = .ofString "d" || p.name = .ofString "dF") &&
        (!(p.routine matches .combinator .reroll) || p.name = .ofString "reroll")) = true := by
    decide
  have hnames := List.all_eq_true.1 hall p hp
  simp only [Bool.and_eq_true, Bool.or_eq_true, decide_eq_true_eq] at hnames
  refine ⟨?_, ?_⟩
  · intro die hdie
    simpa [hdie] using hnames.1
  · intro hreroll
    simpa [hreroll] using hnames.2

/-- An evaluation that can get hold of some primitives of the language, in two configurations that
limit rolls alike if `limits` holds. -/
def Trait.sparingTies (hidden : List Text) (limits : Prop) : Ties :=
  { (Trait.sparing hidden).ties with limits }

/-- A program that cannot get hold of the dice goes the same way in any two worlds with as much room,
and leaves both as they are. The configurations matter only if it can get hold of `reroll`. -/
theorem Trait.sparing_sound {ω ω' : Type} (world : World ω) (world' : World ω')
    {config config' : Config} {limits : Prop} (hd : .ofString "d" ∈ hidden)
    (hdF : .ofString "dF" ∈ hidden) (hreroll : .ofString "reroll" ∈ hidden ∨ limits)
    (hroom : world.room = world'.room) (hconfig : limits → config = config') (s₀ : ω) (s₀' : ω') :
    (sparingTies hidden limits).Sound (fun s s' => s = s₀ ∧ s' = s₀') world world' config config' where
  toScopes := { (sparing_kept : (Trait.sparing hidden).Kept).scopes with }
  inversion := (sparing_kept.primitives (drawsAlike_refl world.draw)).inversion
  more := (sparing_kept.primitives (drawsAlike_refl world.draw)).more
  reroll := by
    intro p bound g hp hroutine
    cases hp.2 with
    | primitive hspared _ =>
        have hname := (Registry.primitives_dice hspared.1).2 hroutine
        rcases hreroll with hhidden | hlimits
        · rw [← hname] at hhidden
          exact absurd hhidden hspared.2
        · exact hlimits
  draws := by
    intro p bound g die hp hroutine
    cases hp.2 with
    | primitive hspared _ =>
        -- a primitive that rolls is one of the dice, which are hidden
        exfalso
        apply hspared.2
        rcases (Registry.primitives_dice hspared.1).1 die hroutine with hname | hname
        · rw [hname]
          exact hd
        · rw [hname]
          exact hdF
  host := by
    intro p bound g id hp hhost
    cases hp.2 with
    | primitive hspared _ => exact absurd hhost (sparing_kept.hostless hspared)
  room := hroom
  limited hlimits := by
    rw [hconfig hlimits]
    exact ⟨rfl, rfl⟩

/-! ## Programs -/

/-- What a program without functions of the host is run in is opaque to functions. -/
theorem World.hostless_isOpaque {ω : Type} (world : World ω) : world.hostless.Opaque fun _ => Eq where
  refl _ _ := rfl
  draw _ := drawsAlike_refl world.draw
  host := by
    intro F hF id args args' s s' hargs hs
    exact .mk (.error _) hs

section Programs

variable {ω ω' : Type} {values : List (Text × Value)}
  (hvalues : ∀ entry ∈ values, entry.2.isData = true) {tree : Expr}

include hvalues

/-- The functions of the host do not matter to a program that is given data, and neither do primitives
that it does not mention. -/
theorem evaluateWithin_without (hfree : ∀ x ∈ tree.free, x ∉ hidden) (world : World ω)
    (config : Config) (s : ω) (fuel : Nat) :
    Result.LooksLike
        (evaluateWithin fuel world config (rootEnvironment .standard values) tree s).1.toResult
        (evaluateWithin fuel world.alone config
          (rootEnvironment (Registry.standard.without hidden) values) tree s).1.toResult ∧
      (evaluateWithin fuel world config (rootEnvironment .standard values) tree s).2 =
        (evaluateWithin fuel world.alone config
          (rootEnvironment (Registry.standard.without hidden) values) tree s).2 := by
  -- first the functions of the host are taken away, then the primitives that are not mentioned
  have hroot : (rootEnvironment .standard values).Has (.sparing []) := by
    rw [← Registry.without_nil .standard]
    exact rootEnvironment_sparing hvalues
  have halone : (Trait.sparing []).ties.Sound Eq world world.alone config config :=
    Trait.sparing_kept.sound (drawsAlike_refl world.draw) rfl ⟨rfl, rfl⟩
  have hscene : (Trait.sparing []).ties.scene tree (rootEnvironment .standard values)
      (rootEnvironment .standard values) := ⟨rfl, trivial, hroot⟩
  obtain ⟨houtcome, hstate⟩ := evaluateWithin_alike halone fuel hscene (Eq.refl s)
  have hindistinct := world.hostless_isOpaque.indistinct world.resume world.room fuel config
    (rootEnvironment_without .standard values hfree) s
  rw [houtcome.eq, hstate]
  exact ⟨hindistinct.outcome, hindistinct.state⟩

/-- Programs in which neither the dice nor `reroll` are free, or which are run with one configuration,
look the same in any two worlds with as much room, and leave both as they are. -/
theorem evaluateWithin_pure (hd : .ofString "d" ∉ tree.free) (hdF : .ofString "dF" ∉ tree.free)
    {config config' : Config} (hconfig : .ofString "reroll" ∉ tree.free ∨ config = config')
    {world : World ω} {world' : World ω'} (hroom : world.room = world'.room) (s : ω) (s' : ω')
    (fuel : Nat) :
    Result.LooksLike
        (evaluateWithin fuel world config (rootEnvironment .standard values) tree s).1.toResult
        (evaluateWithin fuel world' config' (rootEnvironment .standard values) tree s').1.toResult ∧
      (evaluateWithin fuel world config (rootEnvironment .standard values) tree s).2 = s := by
  -- what can be taken out of the environment is whatever of the three is not mentioned
  let hidden : List Text :=
    [.ofString "d", .ofString "dF", .ofString "reroll"].filter fun x => x ∉ tree.free
  have hfree : ∀ x ∈ tree.free, x ∉ hidden := by
    intro x hx hhidden
    simp only [hidden, List.mem_filter, decide_eq_true_eq] at hhidden
    exact hhidden.2 hx
  have hreroll : .ofString "reroll" ∈ hidden ∨ config = config' :=
    hconfig.imp_left fun hreroll => by simpa [hidden] using hreroll
  have hsound : (Trait.sparingTies hidden (config = config')).Sound (fun t t' => t = s ∧ t' = s')
      world.alone world'.alone config config' :=
    Trait.sparing_sound world.alone world'.alone (by simpa [hidden] using hd)
      (by simpa [hidden] using hdF) hreroll hroom (fun h => h) s s'
  have hscene : (Trait.sparingTies hidden (config = config')).scene tree
      (rootEnvironment (Registry.standard.without hidden) values)
      (rootEnvironment (Registry.standard.without hidden) values) :=
    ⟨rfl, trivial, rootEnvironment_sparing hvalues⟩
  obtain ⟨houtcome, hstate⟩ := evaluateWithin_alike hsound fuel hscene ⟨rfl, rfl⟩
  obtain ⟨hlooks, hleft⟩ := evaluateWithin_without hvalues hfree world config s fuel
  obtain ⟨hlooks', -⟩ := evaluateWithin_without hvalues hfree world' config' s' fuel
  exact ⟨(hlooks.trans houtcome.looksLike).trans hlooks'.symm, hleft.trans hstate.1⟩

end Programs

/-- A program in which the dice are not free, and which is given data, leaves the random bits as they
are, and it looks the same whatever they are. If `reroll` is not free in it either, then it looks the
same in any configuration. -/
theorem pure_without_dice {given : List (Text × HostValue)} {values : List (Text × Value)}
    (hgiven : bindAll given = .ok values) (hdata : ∀ entry ∈ values, entry.2.isData = true)
    {source : Text} {tree : Expr} (hparse : parse source = .ok tree)
    (hd : .ofString "d" ∉ tree.free) (hdF : .ofString "dF" ∉ tree.free) {config config' : Config}
    (hconfig : .ofString "reroll" ∉ tree.free ∨ config = config') {ω ω' : Type} (world : World ω)
    (world' : World ω') (hroom : world.room = world'.room) (s : ω) (s' : ω') :
    (∀ fuel,
      Result.LooksLike
          (evaluateWithin fuel world config (rootEnvironment .standard values) tree s).1.toResult
          (evaluateWithin fuel world' config' (rootEnvironment .standard values) tree
            s').1.toResult ∧
        (evaluateWithin fuel world config (rootEnvironment .standard values) tree s).2 = s) ∧
      Result.LooksLike (Evaluator.run ⟨world, .standard, config⟩ given source s).1
        (Evaluator.run ⟨world', .standard, config'⟩ given source s').1 ∧
      (Evaluator.run ⟨world, .standard, config⟩ given source s).2 = s := by
  have hpure := evaluateWithin_pure hdata hd hdF hconfig hroom s s'
  refine ⟨hpure, ?_⟩
  rw [Evaluator.run_of_bindAll hparse hgiven, Evaluator.run_of_bindAll hparse hgiven]
  exact hpure stepLimit

/-- A program that calls a function twice, with a value of the host's. -/
def squares : Text :=
  .ofString "let twice @f @x f (f x) in map [n. 2], twice (@x x * x)"

/-- What the host gives the program. -/
def verdict : List (Text × HostValue) :=
  [(.ofString "n", .boolean true)]

theorem squares_pure :
    ∃ tree values,
      bindAll verdict = .ok values ∧ (∀ entry ∈ values, entry.2.isData = true) ∧
      parse squares = .ok tree ∧ .ofString "d" ∉ tree.free ∧ .ofString "dF" ∉ tree.free ∧
      .ofString "reroll" ∉ tree.free ∧
      ∀ (ω ω' : Type) (world : World ω) (world' : World ω') (config config' : Config),
        world.room = world'.room → ∀ s s',
          Result.LooksLike (Evaluator.run ⟨world, .standard, config⟩ verdict squares s).1
              (Evaluator.run ⟨world', .standard, config'⟩ verdict squares s').1 ∧
            (Evaluator.run ⟨world, .standard, config⟩ verdict squares s).2 = s := by
  obtain ⟨tree, hparse, hnames⟩ : ∃ tree, parse squares = .ok tree ∧
      tree.free = [.ofString "map", .ofString "n", .ofString "*"] :=
    parse_free (by decide +kernel)
  obtain ⟨values, hgiven⟩ : ∃ values, bindAll verdict = .ok values := ⟨_, rfl⟩
  have hdata : ∀ entry ∈ values, entry.2.isData = true := by
    cases hgiven
    simp [Value.ofBool, Value.isData]
  have habsent : ∀ x ∈ [Text.ofString "d", .ofString "dF", .ofString "reroll"], x ∉ tree.free := by
    rw [hnames]
    decide
  have hd := habsent (.ofString "d") (by simp)
  have hdF := habsent (.ofString "dF") (by simp)
  have hreroll := habsent (.ofString "reroll") (by simp)
  refine ⟨tree, values, hgiven, hdata, hparse, hd, hdF, hreroll, ?_⟩
  intro ω ω' world world' config config' hroom s s'
  exact (pure_without_dice hgiven hdata hparse hd hdF (.inl hreroll) world world' hroom s s').2

end RollScript

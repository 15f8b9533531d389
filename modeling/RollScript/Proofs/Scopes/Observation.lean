import RollScript.Proofs.Scopes.Lockstep

/-!
# Scopes observed complete

A block's function literals are closed over the block's scope before its names are defined, and may
be kept while other values are evaluated. `scopes_observed_complete` says that this cannot be seen: on
every run of the machine with changing scopes, which does what `Machine.step` does, the names of a
block's scope are defined in a single turn, lookups come to settled scopes only, and a settled scope
never changes.
-/

namespace RollScript

namespace ScopeStore

variable {s : ScopeStore} {id : Nat} {x : Text} {v : Value}

theorem lookup_own {scope : Scope} (h : s.scopes[id]? = some scope)
    (hx : scope.entries.lookup x = some v) : s.lookup id x = some v := by
  have hlt := (List.getElem?_eq_some_iff.1 h).1
  obtain ⟨steps, hsteps⟩ := Nat.exists_eq_succ_of_ne_zero (show s.scopes.length ≠ 0 by omega)
  rw [lookup, hsteps, lookupWithin, h]
  simp only [hx]

/-- A scope sees the names of the scope around it that it does not define. -/
theorem lookup_around {inner : Nat} {entries : List (Text × Value)} {scope : Scope}
    (hinner : s.scopes[inner]? = some ⟨entries, some id⟩) (hown : entries.lookup x = none)
    (h : s.scopes[id]? = some scope) (hx : scope.entries.lookup x = some v) :
    s.lookup inner x = some v := by
  have hne : inner ≠ id := by
    rintro rfl
    rw [hinner] at h
    cases h
    rw [hown] at hx
    cases hx
  have hlt := (List.getElem?_eq_some_iff.1 h).1
  have hlt' := (List.getElem?_eq_some_iff.1 hinner).1
  obtain ⟨steps, hsteps⟩ : ∃ steps, s.scopes.length = steps + 2 :=
    ⟨s.scopes.length - 2, by omega⟩
  simp only [lookup, hsteps, lookupWithin, hinner, hown, Option.bind_some, h, hx]

end ScopeStore

namespace Scoped

variable {ω : Type} {tree : Expr} {id : Nat}

/-- The value of a name in a block's scope: that of the last of the block's definitions of it. -/
def LastDefined (id : Nat) (bindings : List (Text × Expr)) (entries : List (Text × Value)) (x : Text)
    (v : Value) : Prop :=
  ∃ front value rest, bindings = front ++ (x, value) :: rest ∧ x ∉ rest.map Prod.fst ∧
    entries[rest.length]? = some (x, v) ∧ Binds id (x, value) (x, v)

/-- Every name of a block has a value in the block's scope. -/
theorem lookup_block {bindings : List (Text × Expr)} {entries : List (Text × Value)}
    (h : List.Forall₂ (Binds id) bindings entries.reverse) {x : Text}
    (hx : x ∈ bindings.map Prod.fst) :
    ∃ v, LastDefined id bindings entries x v ∧ entries.lookup x = some v := by
  have hlatest : List.Forall₂ (Binds id) bindings.reverse entries := by
    rw [← List.reverse_reverse entries]
    exact List.rel_reverse h
  have hmem : x ∈ bindings.reverse.map Prod.fst := by
    rw [List.map_reverse]
    exact List.mem_reverse.2 hx
  -- the first definition from the end is the last one
  have hfirst : ∀ {latest : List (Text × Expr)} {entries : List (Text × Value)},
      List.Forall₂ (Binds id) latest entries → x ∈ latest.map Prod.fst →
      ∃ later value before v, latest = later ++ (x, value) :: before ∧ x ∉ later.map Prod.fst ∧
        entries[later.length]? = some (x, v) ∧ Binds id (x, value) (x, v) ∧
        entries.lookup x = some v := by
    intro latest entries h
    induction h with
    | nil => exact fun hx => absurd hx List.not_mem_nil
    | @cons binding slot latest entries hbinds _ ih =>
        intro hx
        obtain ⟨name, value⟩ := binding
        obtain ⟨name', v⟩ := slot
        obtain rfl : name' = name := hbinds.1
        by_cases hname : x = name'
        · subst hname
          exact ⟨[], value, latest, v, rfl, List.not_mem_nil, rfl, hbinds, List.lookup_cons_self⟩
        · have hx : x ∈ latest.map Prod.fst := (List.mem_cons.1 hx).resolve_left hname
          obtain ⟨later, value', before, v', rfl, hlater, hat, hbinds', hlookup⟩ := ih hx
          refine ⟨(name', value) :: later, value', before, v', rfl, ?_, hat, hbinds', ?_⟩
          · exact List.not_mem_cons_of_ne_of_not_mem hname hlater
          · rw [List.lookup_cons, beq_eq_false_iff_ne.2 hname]
            exact hlookup
  obtain ⟨later, value, before, v, hsplit, hlater, hat, hbinds, hlookup⟩ := hfirst hlatest hmem
  refine ⟨v, ⟨before.reverse, value, later.reverse, ?_, ?_, ?_, hbinds⟩, hlookup⟩
  · rw [← List.reverse_reverse bindings, hsplit]
    simp
  · rw [List.map_reverse]
    exact fun hx => hlater (List.mem_reverse.1 hx)
  · rw [List.length_reverse]
    exact hat

/-- Scopes of blocks are only ever observed with all their names. -/
structure ObservedComplete (world : World ω) (config : Config) (tree : Expr) (t : ω) : Prop where
  /-- The machine with changing scopes ends as the machine does. -/
  same : ∀ fuel, ∃ reading,
    Outcome.Alike (still tree reading)
      (RollScript.evaluateWithin fuel world config (rootEnvironment .standard []) tree t).1
      (evaluateWithin fuel world config tree t).1 ∧
    (RollScript.evaluateWithin fuel world config (rootEnvironment .standard []) tree t).2 =
      (evaluateWithin fuel world config tree t).2
  /-- The two machines come to corresponding states. -/
  inStep : (∀ m, Machine.Reaches world config
      (Machine.start tree (rootEnvironment .standard []) t) m →
      ∃ reading m', Reaches world config (start tree t) m' ∧ Mirrors tree reading m m') ∧
    ∀ m', Reaches world config (start tree t) m' → ∃ reading m, Machine.Reaches world config
      (Machine.start tree (rootEnvironment .standard []) t) m ∧ Mirrors tree reading m m'
  /-- A turn leaves the scopes of blocks alone, or goes on to the next value of a block, evaluated
  outside the block's scope, or defines all names of one scope, when its last value is there. -/
  turns : ∀ m m', Reaches world config (start tree t) m → Turns world config m m' → Course tree m m'
  /-- In every state, a scope is that of the primitives, that of a call, or that of a block. The scope
  of a block is empty while one frame waits for the block's next value, and complete otherwise. -/
  kinds : ∀ m, Reaches world config (start tree t) m → WellOpen m ∧
    ∀ id scope, m.world.2.scopes[id]? = some scope → Kind tree m id scope
  /-- Expressions are evaluated in scopes from which lookups come to settled scopes only. -/
  lookups : ∀ m, Reaches world config (start tree t) m → ∀ item ∈ m.work,
    ∃ id, item.2 = address id ∧ ∀ around, m.world.2.Within id around → Settled m around
  /-- A settled scope never changes. -/
  forever : ∀ m m', Reaches world config (start tree t) m → Reaches world config m m' →
    ∀ id, Settled m id → Settled m' id ∧ m'.world.2.scopes[id]? = m.world.2.scopes[id]?
  /-- A complete scope has the last value of each of the block's names for good. A call of one of the
  block's function literals evaluates the body in a new scope inside it, and in this scope, too, every
  name of the block but the parameter has that value for good. -/
  names : ∀ m, Reaches world config (start tree t) m → ∀ id scope, Settled m id →
    m.world.2.scopes[id]? = some scope → ∀ span bindings body,
    tree.Contains (.block span bindings body) →
    List.Forall₂ (Binds id) bindings scope.entries.reverse → ∀ x ∈ bindings.map Prod.fst,
    ∃ v, LastDefined id bindings scope.entries x v ∧
      (∀ m', Reaches world config m m' → m'.world.2.lookup id x = some v) ∧
      ∀ f place parameter literal, (f, .function place parameter literal) ∈ bindings →
        (∀ patience w state,
          respond world patience (.closure parameter literal (address id)) w state =
          (.ok [.evaluate literal (address state.2.scopes.length)],
            (state.1, ⟨state.2.scopes ++ [⟨[(parameter, w)], some id⟩]⟩))) ∧
        (x ≠ parameter → ∀ m' call w, Reaches world config m m' →
          m'.world.2.scopes[call]? = some ⟨[(parameter, w)], some id⟩ →
          m'.world.2.lookup call x = some v)

variable {world : World ω} {config : Config} {t : ω}

/-- What a machine evaluates, it evaluates in scopes that are read. -/
theorem Mirrors.work_read {reading : Nat → Option Env} {m : Machine ω}
    {m' : Machine (ω × ScopeStore)} (h : Mirrors tree reading m m') :
    ∀ item ∈ m'.work, ∃ id env, item.2 = address id ∧ reading id = some env := by
  have hwork := h.alike.work
  revert hwork
  generalize m.work = work
  generalize m'.work = work'
  intro hwork
  induction hwork with
  | nil => exact fun item hitem => absurd hitem List.not_mem_nil
  | cons hfirst _ ih =>
      obtain ⟨-, -, id, hid, hread⟩ := hfirst
      exact List.forall_mem_cons.2 ⟨⟨id, _, hid, hread⟩, ih⟩

theorem Mirrors.settled {reading : Nat → Option Env} {m : Machine ω}
    {m' : Machine (ω × ScopeStore)} (h : Mirrors tree reading m m') {env : Env}
    (hid : reading id = some env) : Settled m' id := by
  refine ⟨h.models.lt_length hid, fun hopen => ?_⟩
  rw [(h.unread id hopen).2] at hid
  cases hid

theorem reaches_course {m m' : Machine (ω × ScopeStore)} (h : Reaches world config (start tree t) m)
    (hturn : Turns world config m m') : Course tree m m' := by
  obtain ⟨_, _, -, hmirrors, hopen⟩ := reaches_mirrored h
  obtain ⟨_, _, -, -, hcourse⟩ := hmirrors.turned hopen hturn
  exact hcourse

/-- In every state, every scope is empty or complete. -/
theorem reaches_kinds {m : Machine (ω × ScopeStore)} (h : Reaches world config (start tree t) m) :
    WellOpen m ∧ ∀ id scope, m.world.2.scopes[id]? = some scope → Kind tree m id scope := by
  induction h with
  | refl =>
      refine ⟨start_wellOpen tree t, fun id scope hscope => ?_⟩
      have hlt := (List.getElem?_eq_some_iff.1 hscope).1
      obtain rfl : id = 0 := Nat.lt_one_iff.1 hlt
      cases hscope
      exact .outermost rfl rfl ⟨hlt, List.not_mem_nil⟩
  | tail hreaches hturn ih =>
      have hcourse := reaches_course hreaches hturn
      exact ⟨hcourse.wellOpen ih.1, hcourse.kinds ih.1 ih.2⟩

/-- A settled scope stays as it is on every run. -/
theorem reaches_settled {m m' : Machine (ω × ScopeStore)}
    (h : Reaches world config (start tree t) m) (hreaches : Reaches world config m m')
    (hid : Settled m id) :
    Settled m' id ∧ m'.world.2.scopes[id]? = m.world.2.scopes[id]? := by
  induction hreaches with
  | refl => exact ⟨hid, rfl⟩
  | tail hbefore hturn ih =>
      obtain ⟨hsettled, hsame⟩ := ih
      obtain ⟨hsettled', hsame'⟩ := (reaches_course (h.trans hbefore) hturn).settled hsettled
      exact ⟨hsettled', hsame'.trans hsame⟩

/-- Whatever program is run with the primitives of the language, and in whatever world: no lookup comes
to a scope before all its names are defined, and none sees a scope change. -/
theorem scopes_observed_complete (world : World ω) (config : Config) (tree : Expr) (t : ω) :
    ObservedComplete world config tree t where
  same := by
    intro fuel
    obtain ⟨reading, s, houtcome, hstate⟩ :=
      run_alike fuel (start_mirrors tree t) (start_wellOpen tree t)
    exact ⟨reading, houtcome.imp (readBy_le (extends_refl reading)), hstate⟩
  inStep := by
    constructor
    · intro m hm
      obtain ⟨reading, m', hreaches, hmirrors, -⟩ := reaches_mirrors hm
      exact ⟨reading, m', hreaches, hmirrors⟩
    · intro m' hm
      obtain ⟨reading, m, hreaches, hmirrors, -⟩ := reaches_mirrored hm
      exact ⟨reading, m, hreaches, hmirrors⟩
  turns := fun _ _ => reaches_course
  kinds := fun _ => reaches_kinds
  lookups := by
    intro m hm item hitem
    obtain ⟨reading, _, -, hmirrors, -⟩ := reaches_mirrored hm
    obtain ⟨id, env, hid, hread⟩ := hmirrors.work_read item hitem
    refine ⟨id, hid, fun around hwithin => ?_⟩
    obtain ⟨_, haround⟩ := hmirrors.models.around hread hwithin
    exact hmirrors.settled haround
  forever := fun _ _ hm hreaches _ => reaches_settled hm hreaches
  names := by
    intro m hm id scope hsettled hscope span bindings body _ hbinds x hx
    obtain ⟨v, hlast, hlookup⟩ := lookup_block hbinds hx
    -- the scope is the same in every later state
    have hlater : ∀ m', Reaches world config m m' → m'.world.2.scopes[id]? = some scope := by
      intro m' hreaches
      rw [(reaches_settled hm hreaches hsettled).2, hscope]
    refine ⟨v, hlast, fun m' hreaches => ScopeStore.lookup_own (hlater m' hreaches) hlookup, ?_⟩
    intro f place parameter literal _
    constructor
    · intro patience w state
      simp only [respond, number_address, ScopeStore.create, List.reverse_singleton]
    · intro hne m' call w hreaches hcall
      refine ScopeStore.lookup_around hcall ?_ (hlater m' hreaches) hlookup
      rw [List.lookup_cons, beq_eq_false_iff_ne.2 hne]
      rfl

end Scoped

end RollScript

import RollScript.Proofs.Scopes.Mirroring

/-!
# Two machines in step

The machine with changing scopes (`Scoped.step`) does what `Machine.step` does, turn by turn. Read
`step_turned` first. What is left to show after `perform_follows` are the definitions of a block: as
long as values are to come, the block's scope is empty and not read; when the last one has come, the
scope is filled, and read from then on as the environment that `Machine.step` makes in the same turn.
-/

namespace RollScript

namespace Scoped

variable {ω : Type} {tree : Expr} {reading reading' : Nat → Option Env} {s s' : ScopeStore}
  {id : Nat} {env : Env} {m m₁ : Machine ω} {m' m₁' : Machine (ω × ScopeStore)}

/-! ## Blocks -/

/-- Two machines go the same way and are in step, and a turn took one of the courses that a turn can
take. -/
inductive Turned (tree : Expr) (before : Machine (ω × ScopeStore)) :
    Status × Machine ω → Status × Machine (ω × ScopeStore) → Prop where
  | mk {reading : Nat → Option Env} {m : Machine ω} {m' : Machine (ω × ScopeStore)}
      (status : Status) :
      Mirrors tree reading m m' → (status = .running → Course tree before m') →
      Turned tree before (status, m) (status, m')

section Blocks

variable {done : List (Text × Entry)} {values : List (Text × Value)} {rest : List (Text × Expr)}
  {body value : Expr} {name : Text} {parent : Nat}

theorem defineNext_of_not_literal (hvalue : value.isLiteral = false) (done : List (Text × Entry)) :
    defineNext s id body done ((name, value) :: rest) =
      ([.push value (address ((s.outer id).getD 0)) (.definition done name rest body (address id))],
        s) := by
  cases value with
  | function => cases hvalue
  | _ => rfl

theorem values_entriesOf (values : List (Text × Value)) :
    ((entriesOf values).reverse.map fun entry => (entry.1, valueOf id entry.2)) = values.reverse := by
  rw [entriesOf, ← List.map_reverse, List.map_map]
  exact List.map_id _

/-- Where the definitions of a block go on to in both machines. -/
inductive Defines (tree : Expr) (reading : Nat → Option Env) (s : ScopeStore) (id : Nat) (body : Expr)
    (env : Env) (values : List (Text × Value)) (rest : List (Text × Expr)) :
    List Request → List Request × ScopeStore → Prop where
  /-- They go on to a value that has to be evaluated. -/
  | next {done : List (Text × Entry)} {literals later : List (Text × Expr)} {name : Text}
      {value : Expr} :
      rest = literals ++ (name, value) :: later →
      (∀ binding ∈ literals, binding.2.isLiteral = true) → value.isLiteral = false →
      Underway tree reading s id done ((closures id literals).reverse ++ values)
        ((name, value) :: later) body env →
      Defines tree reading s id body env values rest
        [.push value env (.definition done name later body env)]
        ([.push value (address ((s.outer id).getD 0))
          (.definition (entriesOf ((closures id literals).reverse ++ values)) name later body
            (address id))], s)
  /-- They are done. -/
  | last {done : List (Text × Entry)} :
      (∀ binding ∈ rest, binding.2.isLiteral = true) →
      Underway tree reading s id done ((closures id rest).reverse ++ values) [] body env →
      Defines tree reading s id body env values rest [.evaluate body (.scope done env)]
        ([.evaluate body (address id)], s.fill id ((closures id rest).reverse ++ values).reverse)

/-- A function literal in front is closed over the block's scope. -/
theorem Defines.literal {span : Span} {parameter : Text} {literal : Expr} {requests : List Request}
    {defined : List Request × ScopeStore}
    (h : Defines tree reading s id body env
      ((name, .function (.closure parameter literal (address id))) :: values) rest requests defined) :
    Defines tree reading s id body env values ((name, .function span parameter literal) :: rest)
      requests defined := by
  have hclosures : ∀ literals : List (Text × Expr),
      (closures id ((name, .function span parameter literal) :: literals)).reverse ++ values =
        (closures id literals).reverse ++
          (name, .function (.closure parameter literal (address id))) :: values := by
    intro literals
    rw [closures, List.reverse_cons, List.append_assoc, List.singleton_append]
  cases h with
  | @next done literals later next value hrest hliterals hvalue hunderway =>
      rw [← hclosures] at hunderway ⊢
      refine .next ?_ ?_ hvalue hunderway
      · rw [hrest, List.cons_append]
      · exact List.forall_mem_cons.2 ⟨rfl, hliterals⟩
  | last hliterals hunderway =>
      rw [← hclosures] at hunderway ⊢
      exact .last (List.forall_mem_cons.2 ⟨rfl, hliterals⟩) hunderway

theorem Underway.contains {value : Expr} {name : Text}
    (h : Underway tree reading s id done values ((name, value) :: rest) body env) :
    tree.Contains value := by
  obtain ⟨span, front, hblock, -⟩ := h.block
  have hmem : (name, value) ∈ front ++ (name, value) :: rest :=
    List.mem_append_right front List.mem_cons_self
  exact hblock.child (List.mem_append_left _ (List.mem_map.2 ⟨_, hmem, rfl⟩))

/-- The scope around a block's scope was made before and is read. -/
theorem Underway.outside_scope (h : Underway tree reading s id done values rest body env)
    (hscope : s.scopes[id]? = some ⟨[], some parent⟩) :
    parent < id ∧ reading parent = some env := by
  obtain ⟨around, hlt, houter, hread⟩ := h.outside
  rw [ScopeStore.outer_of_scope hscope] at houter
  cases houter
  exact ⟨hlt, hread⟩

theorem Underway.contains_body (h : Underway tree reading s id done values rest body env) :
    tree.Contains body := by
  obtain ⟨span, front, hblock, -⟩ := h.block
  exact hblock.child (List.mem_append_right _ (List.mem_singleton_self body))

theorem Underway.defines (h : Underway tree reading s id done values rest body env) :
    Defines tree reading s id body env values rest (RollScript.defineNext done body env rest)
      (defineNext s id body (entriesOf values) rest) := by
  induction rest generalizing done values with
  | nil =>
      rw [defineNext, values_entriesOf]
      exact .last (List.forall_mem_nil _) h
  | cons binding rest ih =>
      obtain ⟨name, value⟩ := binding
      by_cases hvalue : value.isLiteral = true
      · cases value with
        | function span parameter literal =>
            refine (ih ⟨h.outside, .cons (.literal ?_) h.held, h.block.literal⟩).literal
            exact h.contains.child (List.mem_singleton_self literal)
        | _ => cases hvalue
      · have hvalue : value.isLiteral = false := by simpa using hvalue
        rw [RollScript.defineNext_of_not_literal hvalue, defineNext_of_not_literal hvalue]
        exact .next (List.nil_append _).symm (List.forall_mem_nil _) hvalue h

/-- The scope of a block is made. Nothing but the block refers to it, and it is not read. -/
theorem Mirrors.make (h : Mirrors tree reading m m') (parent : Nat) :
    Mirrors tree reading m
      { m' with world := (m'.world.1, (m'.world.2.create (some parent) []).2) } := by
  have hold : ∀ other < m'.world.2.scopes.length,
      (m'.world.2.create (some parent) []).2.scopes[other]? = m'.world.2.scopes[other]? := by
    intro other hother
    exact List.getElem?_append_left hother
  refine h.move (extends_refl reading) ?_ (h.models.same ?_) ?_
  · intro other around haround
    rw [ScopeStore.outer, hold other (ScopeStore.lt_of_outer haround)]
    exact haround
  · intro other around hother
    exact hold other (h.models.lt_length hother)
  · intro other hother
    obtain ⟨hlt, hnone⟩ := h.unread other hother
    refine ⟨?_, hnone⟩
    show other < (m'.world.2.scopes ++ [(⟨[], some parent⟩ : Scope)]).length
    rw [List.length_append]
    exact Nat.lt_add_right _ hlt

/-- When its last value is there, the scope of a block is filled, and read from then on. -/
theorem Mirrors.fill (h : Mirrors tree reading m m')
    (hunderway : Underway tree reading m'.world.2 id done values [] body env)
    (hempty : m'.world.2.scopes[id]? = some ⟨[], some parent⟩)
    (hclosed : id ∉ openScopes m'.frames) (hunread : reading id = none) :
    Mirrors tree (Function.update reading id (some (.scope done env))) m
      { m' with world := (m'.world.1, m'.world.2.fill id values.reverse) } := by
  obtain ⟨hbefore, hparent⟩ := hunderway.outside_scope hempty
  have hscopes := ScopeStore.fill_empty hempty values
  have hlt := (List.getElem?_eq_some_iff.1 hempty).1
  have hfilled : (m'.world.2.fill id values.reverse).scopes[id]? = some ⟨values, some parent⟩ := by
    rw [hscopes, List.getElem?_set_self hlt]
  refine h.settle hunread hclosed ?_ ?_ ?_ hfilled (.inside hunderway.held hbefore hparent)
  · rw [hscopes, List.length_set]
  · intro other hne _
    rw [hscopes, List.getElem?_set_ne hne.symm]
  · intro around haround
    rw [ScopeStore.outer_of_scope hfilled, ← haround, ScopeStore.outer_of_scope hempty]

/-- The definitions of a block go on alike in machines that are in step. -/
theorem define_turned {before : Machine (ω × ScopeStore)} (world : World ω)
    (patience budget room : Nat) (h : Mirrors tree reading m m')
    (harrives : Arrives tree before body id parent values rest m'.work m'.frames m'.world.2.scopes)
    (hunderway : Underway tree reading m'.world.2 id done values rest body env)
    (hempty : m'.world.2.scopes[id]? = some ⟨[], some parent⟩)
    (hclosed : id ∉ openScopes m'.frames) (hunread : reading id = none) :
    Turned tree before
      (m.proceed world patience budget (RollScript.defineWithin room done body env rest, m.world))
      (proceed world patience budget m'
        (defineWithin room id body (entriesOf values) rest m'.world)) := by
  unfold RollScript.defineWithin defineWithin
  split
  · exact .mk _ h fun hrunning => by cases hrunning
  · have hdefines := hunderway.defines
    revert hdefines
    generalize RollScript.defineNext done body env rest = requests
    generalize defineNext m'.world.2 id body (entriesOf values) rest = defined
    intro hdefines
    cases hdefines with
    | @next done literals later name value hrest hliterals hvalue hlater =>
        obtain ⟨-, hparent⟩ := hunderway.outside_scope hempty
        rw [ScopeStore.outer_of_scope hempty, Option.getD_some]
        simp only [Machine.proceed, proceed]
        cases patience with
        | zero =>
            simp only [Machine.perform, perform]
            exact .mk _ h fun hrunning => by cases hrunning
        | succ patience =>
            simp only [Machine.perform, perform]
            have hframe : Frame.Alike (ties tree reading m'.world.2)
                (.definition done name later body env)
                (.definition (entriesOf ((closures id literals).reverse ++ values)) name later body
                  (address id)) :=
              .definition hvalue ⟨id, _, rfl, rfl, hlater⟩
            have hpushed := h.pushFrame hframe fun opened hopened => by
              cases hopened
              rw [number_address]
              exact ⟨(List.getElem?_eq_some_iff.1 hempty).1, hunread⟩
            refine .mk _ (hpushed.pushWork ⟨hlater.contains, _, rfl, hparent⟩) fun _ => ?_
            rw [hrest] at harrives
            exact .waits harrives hliterals hvalue rfl rfl rfl
    | @last done hliterals hdone =>
        have hfilled := h.fill hdone hempty hclosed hunread
        simp only [Machine.proceed, proceed]
        cases patience with
        | zero =>
            simp only [Machine.perform, perform]
            exact .mk _ hfilled fun hrunning => by cases hrunning
        | succ patience =>
            simp only [Machine.perform, perform]
            have hscene : (still tree (Function.update reading id (some (.scope done env)))).scene body
                (.scope done env) (address id) :=
              ⟨hdone.contains_body, id, rfl, Function.update_self ..⟩
            refine .mk _ (hfilled.pushWork hscene) fun _ => ?_
            exact .fills harrives hliterals rfl rfl (ScopeStore.fill_empty hempty _)

end Blocks

/-! ## Steps and runs -/

theorem Follows.turned {before : Machine (ω × ScopeStore)} {turn : Status × Machine ω}
    {turn' : Status × Machine (ω × ScopeStore)} (h : Follows tree before turn turn') :
    Turned tree before turn turn' := by
  obtain ⟨status, hmirrors, hwaiting, hscopes, hcalls⟩ := h
  exact .mk status hmirrors fun _ => .elsewhere hwaiting hscopes hcalls

theorem step_deliver (world : World ω) (config : Config) (patience : Nat) (work : List (Expr × Env))
    (frame : Frame) (blame : Expr) (frames : List (Frame × Expr)) (v : Value) (before : Expr)
    (results : List Value) (state : ω × ScopeStore) (hframe : frame ≠ .finish) :
    step world config patience ⟨work, (frame, blame) :: frames, some v, before, results, state⟩ =
      proceed world patience world.room ⟨work, frames, none, blame, results, state⟩
        (frameRequests world config frame v state) := by
  cases frame with
  | finish => exact absurd rfl hframe
  | _ => rfl

/-- An expression is evaluated alike in an environment and in the scope that is read as it. -/
theorem expr_turned (world : World ω) (patience : Nat) {expr before : Expr}
    {work : List (Expr × Env)} {work' : List (Expr × Env)} {frames frames' : List (Frame × Expr)}
    {results results' : List Value} {t : ω} {t' : ω × ScopeStore}
    (h : Mirrors tree reading ⟨work, frames, none, expr, results, t⟩
      ⟨work', frames', none, expr, results', t'⟩)
    (hexpr : tree.Contains expr) (hid : reading id = some env) :
    Turned tree ⟨(expr, address id) :: work', frames', none, before, results', t'⟩
      (Machine.proceed world patience world.room ⟨work, frames, none, expr, results, t⟩
        (expr.requests world.room env, t))
      (proceed world patience world.room ⟨work', frames', none, expr, results', t'⟩
        (exprRequests world.room expr (address id) t')) := by
  obtain rfl : t = t'.1 := h.alike.world
  -- an expression other than a block asks for corresponding things
  have hanswers : ∀ {answer answer' : Except Stop (List Request)},
      AnswersAlike (RequestsAlike (still tree reading)) answer answer' →
      Turned tree ⟨(expr, address id) :: work', frames', none, before, results', t'⟩
        (Machine.proceed world patience world.room ⟨work, frames, none, expr, results, t'.1⟩
          (answer, t'.1))
        (proceed world patience world.room ⟨work', frames', none, expr, results', t'⟩
          (answer', t')) := by
    intro answer answer' hanswers
    have hfollows := proceed_follows world patience world.room
      (answers_beside h (.mk hanswers (Eq.refl t'.1)))
    exact Follows.turned (hfollows.of_pushed rfl rfl)
  have hscene : (still tree reading).scene expr env (address id) := ⟨hexpr, id, rfl, hid⟩
  cases expr with
  | number | string | unit | array | apply | choice =>
      exact hanswers (still_parts.requests world.room rfl hscene)
  | name span x =>
      have hfound := h.models.lookup hid x
      simp only [Expr.requests, exprRequests, number_address]
      revert hfound
      generalize env.lookup x = found
      generalize t'.2.lookup id x = found'
      intro hfound
      cases hfound with
      | none => exact hanswers (.error _)
      | some hv => exact hanswers (answers_one (.produce hv))
  | function span parameter body =>
      refine hanswers (answers_one (.produce (.function (.closure ?_ hid))))
      exact hexpr.child (List.mem_singleton_self body)
  | block span bindings body =>
      have hempty :
          (t'.2.create (some id) []).2.scopes[t'.2.scopes.length]? = some ⟨[], some id⟩ :=
        List.getElem?_concat_length
      have hblock : OfBlock tree t'.2.scopes.length [] bindings body := ⟨span, [], hexpr, .nil⟩
      have harrives : Arrives tree (⟨(.block span bindings body, address id) :: work', frames', none,
          before, results', t'⟩ : Machine (ω × ScopeStore)) body t'.2.scopes.length id [] bindings
          work' frames' (t'.2.scopes ++ [⟨[], some id⟩]) :=
        .block rfl rfl hblock
      simp only [exprRequests, number_address]
      refine define_turned world patience world.room world.room (h.make id) harrives
        ⟨⟨id, ?_, ScopeStore.outer_of_scope hempty, hid⟩, .nil, hblock⟩ hempty h.fresh.2 h.fresh.1
      exact h.models.lt_length hid

theorem frameRequests_of_not {frame : Frame} (h : frame.isDefinition = false) (world : World ω)
    (config : Config) (v : Value) (t : ω × ScopeStore) :
    frameRequests world config frame v t = beside t.2 (frame.requests world config v t.1) := by
  cases frame with
  | definition => cases h
  | _ => rfl

/-- A value is taken alike by corresponding frames. -/
theorem frame_turned (world : World ω) (config : Config) (patience : Nat) {frame frame' : Frame}
    {blame before : Expr} {work work' : List (Expr × Env)} {frames frames' : List (Frame × Expr)}
    {results results' : List Value} {t : ω} {t' : ω × ScopeStore} {v w : Value}
    (h : Mirrors tree reading ⟨work, frames, none, blame, results, t⟩
      ⟨work', frames', none, blame, results', t'⟩)
    (hframe : Frame.Alike (ties tree reading t'.2) frame frame')
    (hv : Value.Alike (Reads tree reading) v w)
    (hunread : ∀ id ∈ openScopes ((frame', blame) :: frames'), reading id = none)
    (hm : WellOpen (⟨work', (frame', blame) :: frames', some w, before, results', t'⟩ :
      Machine (ω × ScopeStore))) :
    Turned tree ⟨work', (frame', blame) :: frames', some w, before, results', t'⟩
      (Machine.proceed world patience world.room ⟨work, frames, none, blame, results, t⟩
        (frame.requests world config v t))
      (proceed world patience world.room ⟨work', frames', none, blame, results', t'⟩
        (frameRequests world config frame' w t')) := by
  obtain rfl : t = t'.1 := h.alike.world
  by_cases hdefinition : frame.isDefinition = true
  · cases hframe with
    | @definition done _ name value rest body env _ hvalue hblock =>
        obtain ⟨id, values, rfl, rfl, hunderway⟩ := hblock
        obtain ⟨hdistinct, hempty⟩ := hm
        simp only [openScopes_definition] at hdistinct hempty hunread
        obtain ⟨parent, hscope⟩ := hempty id List.mem_cons_self
        have harrives : Arrives tree (⟨work', (.definition (entriesOf values) name rest body
            (address id), blame) :: frames', some w, before, results', t'⟩ : Machine (ω × ScopeStore))
            body id parent ((name, w) :: values) rest work' frames' t'.2.scopes :=
          .value rfl rfl hscope hvalue hunderway.block
        simp only [Frame.requests, frameRequests, number_address]
        exact define_turned world patience world.room world.room h harrives
          ⟨hunderway.outside, .cons (.value hv) hunderway.held, hunderway.block.value hvalue w⟩ hscope
          (List.nodup_cons.1 hdistinct).1 (hunread id List.mem_cons_self)
    | _ => cases hdefinition
  · have hstill : Frame.Alike (still tree reading) frame frame' :=
      hframe.imp (readBy_le (extends_refl reading)) fun hthere => absurd hthere hdefinition
    have hanswers : ResultsAlike (RequestsAlike (still tree reading)) Eq
        (frame.requests world config v t'.1) (frame'.requests world config w t'.1) :=
      hstill.requests (by simpa using hdefinition) (fun _ => ⟨rfl, rfl⟩) hv rfl
    have hnot := (not_definition hstill).1
    have hfollows := proceed_follows world patience world.room (answers_beside h hanswers)
    rw [frameRequests_of_not hnot]
    exact Follows.turned (hfollows.of_pushed (waiting_cons_of_not hnot).symm rfl)

/-- Machines in step take corresponding steps. -/
theorem step_turned (world : World ω) (config : Config) (patience : Nat)
    (h : Mirrors tree reading m m') (hm : WellOpen m') :
    Turned tree m' (m.step world config patience) (step world config patience m') := by
  obtain ⟨work, frames, pending, blame, results, t⟩ := m
  obtain ⟨work', frames', pending', blame', results', t'⟩ := m'
  obtain ⟨⟨hwork, hframes, hpending, hblame, hresults, ht⟩, hmodels, hunread⟩ := h
  obtain rfl : blame = blame' := hblame
  obtain rfl : t = t'.1 := ht
  cases hpending with
  | some hv =>
      cases hframes with
      | nil =>
          exact .mk _ ⟨⟨hwork, .nil, .some hv, rfl, hresults, rfl⟩, hmodels, hunread⟩ fun hrunning => by cases hrunning
      | @cons entry entry' frames frames' hentry hframes =>
          obtain ⟨frame, before⟩ := entry
          obtain ⟨frame', before'⟩ := entry'
          obtain ⟨hframe, rfl⟩ := hentry
          by_cases hfinish : frame = .finish
          · subst hfinish
            cases hframe
            refine .mk _ ⟨⟨hwork, hframes, .none, rfl, ?_, rfl⟩, hmodels, hunread⟩ fun _ => ?_
            · exact List.rel_append hresults (.cons hv .nil)
            · exact .elsewhere rfl (List.append_nil _).symm (List.forall_mem_nil _)
          · have hfinish' : frame' ≠ .finish := by
              rintro rfl
              cases hframe
              exact hfinish rfl
            rw [Machine.step_deliver _ _ _ _ _ _ _ _ _ _ _ hfinish,
              step_deliver _ _ _ _ _ _ _ _ _ _ _ hfinish']
            refine frame_turned world config patience ⟨⟨hwork, hframes, .none, rfl, hresults, rfl⟩,
              hmodels, ?_⟩ hframe hv (fun id hid => (hunread id hid).2) hm
            exact fun id hid => hunread id (openScopes_cons _ hid)
  | none =>
      cases hwork with
      | nil =>
          exact .mk _ ⟨⟨.nil, hframes, .none, rfl, hresults, rfl⟩, hmodels, hunread⟩ fun hrunning => by cases hrunning
      | @cons item item' work work' hitem hwork =>
          obtain ⟨expr, env⟩ := item
          obtain ⟨expr', env'⟩ := item'
          obtain ⟨rfl, hexpr, id, rfl, hid⟩ := hitem
          rw [Machine.step_start]
          exact expr_turned world patience
            ⟨⟨hwork, hframes, .none, rfl, hresults, rfl⟩, hmodels, hunread⟩ hexpr hid

variable {world : World ω} {config : Config}

/-- A turn of the machine is one of the machine with scopes. -/
theorem Mirrors.turns (h : Mirrors tree reading m m') (hm : WellOpen m')
    (hturn : Machine.Turns world config m m₁) :
    ∃ reading' m₁', Turns world config m' m₁' ∧ Mirrors tree reading' m₁ m₁' ∧
      Course tree m' m₁' := by
  obtain ⟨patience, hstep⟩ := hturn
  have hturned := step_turned world config patience h hm
  rw [hstep] at hturned
  generalize hstep' : step world config patience m' = turn at hturned
  obtain ⟨_, hmirrors, hcourse⟩ := hturned
  exact ⟨_, _, ⟨patience, hstep'⟩, hmirrors, hcourse rfl⟩

/-- A turn of the machine with scopes is one of the machine. -/
theorem Mirrors.turned (h : Mirrors tree reading m m') (hm : WellOpen m')
    (hturn : Turns world config m' m₁') :
    ∃ reading' m₁, Machine.Turns world config m m₁ ∧ Mirrors tree reading' m₁ m₁' ∧
      Course tree m' m₁' := by
  obtain ⟨patience, hstep⟩ := hturn
  have hturned := step_turned world config patience h hm
  rw [hstep] at hturned
  generalize hstep' : m.step world config patience = turn at hturned
  obtain ⟨_, hmirrors, hcourse⟩ := hturned
  exact ⟨_, _, ⟨patience, hstep'⟩, hmirrors, hcourse rfl⟩

/-- Machines in step end alike and leave the same state of the world. -/
theorem run_alike (fuel : Nat) (h : Mirrors tree reading m m') (hm : WellOpen m') :
    ∃ reading' s, Outcome.Alike (ties tree reading' s) (m.run world config fuel).1
        (run world config fuel m').1 ∧
      (m.run world config fuel).2.world = (run world config fuel m').2.world.1 := by
  induction fuel generalizing reading m m' with
  | zero => exact ⟨reading, m'.world.2, .unfinished, h.alike.world⟩
  | succ fuel ih =>
      have hturned := step_turned world config fuel h hm
      simp only [Machine.run, run]
      revert hturned
      generalize m.step world config fuel = turn
      generalize step world config fuel m' = turn'
      rintro ⟨status, hmirrors, hcourse⟩
      cases status with
      | running => exact ih hmirrors ((hcourse rfl).wellOpen hm)
      | «over» => exact ⟨_, _, Machine.outcome_alike hmirrors.alike, hmirrors.alike.world⟩
      | stopped stop => exact ⟨_, _, Machine.stopped_alike hmirrors.alike stop, hmirrors.alike.world⟩

/-! ## Whole programs -/

/-- A program starts in step. -/
theorem start_mirrors (tree : Expr) (t : ω) :
    Mirrors tree (Function.update (fun _ => none) 0 (some (rootEnvironment .standard [])))
      (Machine.start tree (rootEnvironment .standard []) t) (start tree t) where
  alike := Machine.start_alike ⟨.refl, 0, rfl, Function.update_self ..⟩ rfl
  models := models_standard tree
  unread := fun _ hid => absurd hid List.not_mem_nil

theorem start_wellOpen (tree : Expr) (t : ω) : WellOpen (start tree t) where
  distinct := List.nodup_nil
  empty := fun _ hid => absurd hid List.not_mem_nil

/-- Whatever the machine comes to, the machine with scopes comes to in step with it. -/
theorem reaches_mirrors {t : ω}
    (h : Machine.Reaches world config (Machine.start tree (rootEnvironment .standard []) t) m) :
    ∃ reading m', Reaches world config (start tree t) m' ∧ Mirrors tree reading m m' ∧
      WellOpen m' := by
  induction h with
  | refl => exact ⟨_, _, .refl, start_mirrors tree t, start_wellOpen tree t⟩
  | tail _ hturn ih =>
      obtain ⟨reading, m', hreaches, hmirrors, hopen⟩ := ih
      obtain ⟨reading', m₁', hturn', hmirrors', hcourse⟩ := hmirrors.turns hopen hturn
      exact ⟨reading', m₁', hreaches.tail hturn', hmirrors', hcourse.wellOpen hopen⟩

/-- Whatever the machine with scopes comes to, the machine comes to in step with it. -/
theorem reaches_mirrored {t : ω} (h : Reaches world config (start tree t) m') :
    ∃ reading m, Machine.Reaches world config
        (Machine.start tree (rootEnvironment .standard []) t) m ∧
      Mirrors tree reading m m' ∧ WellOpen m' := by
  induction h with
  | refl => exact ⟨_, _, .refl, start_mirrors tree t, start_wellOpen tree t⟩
  | tail _ hturn ih =>
      obtain ⟨reading, m, hreaches, hmirrors, hopen⟩ := ih
      obtain ⟨reading', m₁, hturn', hmirrors', hcourse⟩ := hmirrors.turned hopen hturn
      exact ⟨reading', m₁, hreaches.tail hturn', hmirrors', hcourse.wellOpen hopen⟩

end Scoped

end RollScript

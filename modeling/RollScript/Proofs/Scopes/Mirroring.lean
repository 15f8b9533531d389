import RollScript.Proofs.Evaluation.Keeping
import RollScript.Proofs.Scopes.Course
import RollScript.Proofs.Scopes.Reading

/-!
# Machines tied together by a reading

A machine and a machine with changing scopes are in step (`Mirrors`) if a reading ties them together:
it says, for every scope whose names are all defined, which environment it stands for. A scope whose
definitions are under way is not read, and nothing but the frame that waits for its next value refers
to it. Read `perform_follows` first: the rules that leave blocks alone keep machines in step, and make
no scopes but those of calls.
-/

namespace RollScript

namespace Scoped

variable {ω : Type} {tree : Expr} {reading reading' : Nat → Option Env} {s s' : ScopeStore}
  {id : Nat} {env : Env}

/-! ## What ties the machines together -/

/-- The definitions of a block under way: those done, the latest first, with their values, and those to
come. -/
structure Underway (tree : Expr) (reading : Nat → Option Env) (s : ScopeStore) (id : Nat)
    (done : List (Text × Entry)) (values : List (Text × Value)) (rest : List (Text × Expr))
    (body : Expr) (env : Env) : Prop where
  outside : ∃ parent < id, s.outer id = some parent ∧ reading parent = some env
  held : List.Forall₂ (Held tree reading id) done values
  block : OfBlock tree id values rest body

/-- Ties of functions and environments by a reading, with given ties of blocks. -/
def readBy (tree : Expr) (reading : Nat → Option Env)
    (block : List (Text × Entry) → List (Text × Entry) → List (Text × Expr) → Expr → Env → Env →
      Prop) : Ties where
  function := Reads tree reading
  scene expr env env' := tree.Contains expr ∧ ∃ id, env' = address id ∧ reading id = some env
  block := block
  limits := True

/-- Ties by a reading where no definition is under way. -/
abbrev still (tree : Expr) (reading : Nat → Option Env) : Ties :=
  readBy tree reading fun _ _ _ _ _ _ => False

/-- Ties by a reading, with the definitions that are under way in the scopes of a store. -/
abbrev ties (tree : Expr) (reading : Nat → Option Env) (s : ScopeStore) : Ties :=
  readBy tree reading fun done done' rest body env env' => ∃ id values, done' = entriesOf values ∧
    env' = address id ∧ Underway tree reading s id done values rest body env

theorem readBy_le (hle : Extends reading reading')
    {block block' : List (Text × Entry) → List (Text × Entry) → List (Text × Expr) → Expr → Env →
      Env → Prop} :
    (readBy tree reading block).Le (readBy tree reading' block') where
  function := Reads.mono hle
  value := alike_mono hle
  scene := fun ⟨hexpr, id, hid, hread⟩ => ⟨hexpr, id, hid, hle _ _ hread⟩
  limits := fun h => h

theorem Underway.mono (hle : Extends reading reading')
    (houter : ∀ id parent, s.outer id = some parent → s'.outer id = some parent)
    {done : List (Text × Entry)} {values : List (Text × Value)} {rest : List (Text × Expr)}
    {body : Expr} (h : Underway tree reading s id done values rest body env) :
    Underway tree reading' s' id done values rest body env := by
  obtain ⟨⟨parent, hlt, hparent, hread⟩, hheld, hblock⟩ := h
  refine ⟨⟨parent, hlt, houter _ _ hparent, hle _ _ hread⟩, ?_, hblock⟩
  exact hheld.imp fun _ _ => Held.mono hle

/-- The expressions inside others are evaluated in the same scope. -/
theorem still_parts : (still tree reading).Parts where
  array := by
    rintro span elements env env' ⟨hexpr, hid⟩ e he
    exact ⟨hexpr.child he, hid⟩
  apply := by
    rintro span callee operand env env' ⟨hexpr, hid⟩
    exact ⟨⟨hexpr.child (by simp [Expr.children]), hid⟩,
      ⟨hexpr.child (by simp [Expr.children]), hid⟩⟩
  choice := by
    rintro span condition whenTrue whenFalse env env' ⟨hexpr, hid⟩
    exact ⟨⟨hexpr.child (by simp [Expr.children]), hid⟩,
      ⟨hexpr.child (by simp [Expr.children]), hid⟩, ⟨hexpr.child (by simp [Expr.children]), hid⟩⟩

/-- Primitives do not look at scopes. -/
theorem still_primitives (world : World ω) : (still tree reading).Primitives Eq world world where
  inversion := by
    intro p bound g hf
    cases hf with
    | primitive _ hbound => exact ⟨_, rfl, hbound⟩
  more := by
    intro p bound bound' v w guard hf hv _ _ _
    cases hf with
    | primitive hp hbound => exact .primitive hp (List.rel_append hbound (.cons hv .nil))
  reroll _ _ := trivial
  draws _ _ := drawsAlike_refl world.draw
  host := by
    intro p bound g id hf hhost
    cases hf with
    | primitive hp _ => exact absurd hhost (hp id)

/-- A machine and the machine with scopes that is in step with it. -/
structure Mirrors (tree : Expr) (reading : Nat → Option Env) (m : Machine ω)
    (m' : Machine (ω × ScopeStore)) : Prop where
  alike : Machine.Alike (ties tree reading m'.world.2) (fun s s' => s = s'.1) m m'
  models : Models tree reading m'.world.2
  unread : ∀ id ∈ openScopes m'.frames, id < m'.world.2.scopes.length ∧ reading id = none

variable {m m₁ : Machine ω} {m' m₁' : Machine (ω × ScopeStore)}

namespace Mirrors

/-- The machines stay in step when the reading and the store grow. -/
theorem move (h : Mirrors tree reading m m') (hle : Extends reading reading')
    (houter : ∀ other parent, m'.world.2.outer other = some parent → s.outer other = some parent)
    (hmodels : Models tree reading' s)
    (hunread : ∀ id ∈ openScopes m'.frames, id < s.scopes.length ∧ reading' id = none) :
    Mirrors tree reading' m { m' with world := (m'.world.1, s) } := by
  have halike : Machine.Alike (ties tree reading' s) (fun s s' => s = s'.1) m m' := by
    refine h.alike.imp (readBy_le hle) ?_
    intro done done' rest body around around' hblock
    obtain ⟨id, values, hdone, haround, hunderway⟩ := hblock
    exact ⟨id, values, hdone, haround, hunderway.mono hle houter⟩
  exact ⟨{ halike with world := h.alike.world }, hmodels, hunread⟩

theorem inState (h : Mirrors tree reading m m') (t : ω) :
    Mirrors tree reading { m with world := t } { m' with world := (t, m'.world.2) } :=
  ⟨{ h.alike with world := rfl }, h.models, h.unread⟩

theorem deliver (h : Mirrors tree reading m m') {v w : Value}
    (hv : Value.Alike (Reads tree reading) v w) :
    Mirrors tree reading { m with pending := some v } { m' with pending := some w } :=
  ⟨{ h.alike with pending := .some hv }, h.models, h.unread⟩

theorem pushWork (h : Mirrors tree reading m m') {expr : Expr} {env' : Env}
    (hscene : (still tree reading).scene expr env env') :
    Mirrors tree reading (m.pushWork expr env) (m'.pushWork expr env') :=
  ⟨h.alike.pushWork hscene, h.models, h.unread⟩

theorem pushFrame (h : Mirrors tree reading m m') {frame frame' : Frame}
    (hframe : Frame.Alike (ties tree reading m'.world.2) frame frame')
    (hunread : ∀ id ∈ scopeOf? frame', id < m'.world.2.scopes.length ∧ reading id = none) :
    Mirrors tree reading (m.pushFrame frame) (m'.pushFrame frame') := by
  refine ⟨h.alike.pushFrame hframe, h.models, fun id hid => ?_⟩
  simp only [openScopes, waiting, Machine.pushFrame, List.filter_cons] at hid
  split at hid
  · rw [List.filterMap_cons] at hid
    cases hscope : scopeOf? frame' with
    | none =>
        rw [hscope] at hid
        exact h.unread id hid
    | some opened =>
        rw [hscope] at hid
        rcases List.mem_cons.1 hid with rfl | hid
        · exact hunread id hscope
        · exact h.unread id hid
  · exact h.unread id hid

/-- A scope that has not been made yet is not read, and no definition of it is under way. -/
theorem fresh (h : Mirrors tree reading m m') :
    reading m'.world.2.scopes.length = none ∧ m'.world.2.scopes.length ∉ openScopes m'.frames := by
  constructor
  · by_contra hread
    obtain ⟨around, hread⟩ := Option.ne_none_iff_exists'.1 hread
    exact absurd (h.models.lt_length hread) (lt_irrefl _)
  · intro hopen
    exact absurd (h.unread _ hopen).1 (lt_irrefl _)

/-- One more scope is read, and nothing changes but this scope. -/
theorem settle (h : Mirrors tree reading m m') (hfresh : reading id = none)
    (hclosed : id ∉ openScopes m'.frames) (hlength : m'.world.2.scopes.length ≤ s.scopes.length)
    (hsame : ∀ other, other ≠ id → other < m'.world.2.scopes.length →
      s.scopes[other]? = m'.world.2.scopes[other]?)
    (houter : ∀ parent, m'.world.2.outer id = some parent → s.outer id = some parent)
    {scope : Scope} (hscope : s.scopes[id]? = some scope)
    (hreads : ReadsScope tree reading id scope env) :
    Mirrors tree (Function.update reading id (some env)) m { m' with world := (m'.world.1, s) } := by
  -- no scope that is read already changes, and none that is open is the new one
  refine h.move (extends_update hfresh env) ?_ (h.models.settle hfresh ?_ hscope hreads) ?_
  · intro other parent hparent
    by_cases heq : other = id
    · subst heq
      exact houter parent hparent
    · rw [ScopeStore.outer, hsame other heq (ScopeStore.lt_of_outer hparent)]
      exact hparent
  · intro other around hother
    refine hsame other ?_ (h.models.lt_length hother)
    rintro rfl
    rw [hfresh] at hother
    cases hother
  · intro other hother
    have hne : other ≠ id := by
      rintro rfl
      exact hclosed hother
    obtain ⟨hlt, hunread⟩ := h.unread other hother
    exact ⟨hlt.trans_le hlength, by rw [Function.update_of_ne hne, hunread]⟩

end Mirrors

/-! ## Rules that leave blocks alone -/

/-- Two rules ask for corresponding things, and no scopes are made but those of calls. -/
inductive Answers (tree : Expr) (reading : Nat → Option Env) (m : Machine ω)
    (m' : Machine (ω × ScopeStore)) :
    Except Stop (List Request) × ω → Except Stop (List Request) × (ω × ScopeStore) → Prop where
  | mk {reading' : Nat → Option Env} {answer answer' : Except Stop (List Request)} {t : ω}
      {s : ScopeStore} {calls : List Scope} :
      AnswersAlike (RequestsAlike (still tree reading')) answer answer' →
      Extends reading reading' →
      Mirrors tree reading' { m with world := t } { m' with world := (t, s) } →
      s.scopes = m'.world.2.scopes ++ calls → (∀ scope ∈ calls, scope.IsCall) →
      Answers tree reading m m' (answer, t) (answer', (t, s))

/-- Two machines go the same way and are in step, and no scopes are made but those of calls. -/
inductive Follows (tree : Expr) (before : Machine (ω × ScopeStore)) :
    Status × Machine ω → Status × Machine (ω × ScopeStore) → Prop where
  | mk {reading : Nat → Option Env} {m : Machine ω} {m' : Machine (ω × ScopeStore)}
      {calls : List Scope} (status : Status) :
      Mirrors tree reading m m' → waiting m'.frames = waiting before.frames →
      m'.world.2.scopes = before.world.2.scopes ++ calls → (∀ scope ∈ calls, scope.IsCall) →
      Follows tree before (status, m) (status, m')

theorem Follows.of_same {before before' : Machine (ω × ScopeStore)} {calls : List Scope}
    {turn : Status × Machine ω} {turn' : Status × Machine (ω × ScopeStore)}
    (h : Follows tree before' turn turn') (hwaiting : waiting before'.frames = waiting before.frames)
    (hscopes : before'.world.2.scopes = before.world.2.scopes ++ calls)
    (hcalls : ∀ scope ∈ calls, scope.IsCall) : Follows tree before turn turn' := by
  obtain ⟨status, hmirrors, hframes, hlater, hothers⟩ := h
  refine .mk status hmirrors (hframes.trans hwaiting) (by rw [hlater, hscopes, List.append_assoc]) ?_
  exact List.forall_mem_append.2 ⟨hcalls, hothers⟩

theorem Follows.of_pushed {before before' : Machine (ω × ScopeStore)} {turn : Status × Machine ω}
    {turn' : Status × Machine (ω × ScopeStore)} (h : Follows tree before' turn turn')
    (hwaiting : waiting before'.frames = waiting before.frames)
    (hworld : before'.world = before.world) : Follows tree before turn turn' := by
  exact h.of_same hwaiting (by rw [hworld, List.append_nil]) (List.forall_mem_nil _)

/-- A rule that does not touch scopes. -/
theorem answers_beside (h : Mirrors tree reading m m')
    {returned returned' : Except Stop (List Request) × ω}
    (hreturned : ResultsAlike (RequestsAlike (still tree reading)) Eq returned returned') :
    Answers tree reading m m' returned (beside m'.world.2 returned') := by
  obtain ⟨hanswers, hstate⟩ := hreturned
  subst hstate
  exact .mk hanswers (extends_refl reading) (h.inState _) (List.append_nil _).symm
    (List.forall_mem_nil _)

/-- A call of a closure makes a scope inside the closure's, which is read at once. -/
theorem answers_closure (h : Mirrors tree reading m m') {parameter : Text} {body : Expr}
    (hbody : tree.Contains body) (hid : reading id = some env) {v w : Value}
    (hv : Value.Alike (Reads tree reading) v w) (world : World ω) (patience : Nat) :
    Answers tree reading m m'
      ((Function.closure parameter body env).respond world patience v m.world)
      (respond world patience (.closure parameter body (address id)) w m'.world) := by
  obtain ⟨hfresh, hclosed⟩ := h.fresh
  have hscopes : (m'.world.2.create (some id) [(parameter, w)]).2.scopes =
      m'.world.2.scopes ++ [⟨[(parameter, w)], some id⟩] := rfl
  have hreads : ReadsScope tree reading m'.world.2.scopes.length ⟨[(parameter, w)], some id⟩
      (env.bind parameter v) :=
    .inside (.cons (.value hv) .nil) (h.models.lt_length hid) hid
  have hsettled := h.settle (s := (m'.world.2.create (some id) [(parameter, w)]).2)
    hfresh hclosed (by rw [hscopes, List.length_append]; omega)
    (fun other _ hlt => by rw [hscopes]; exact List.getElem?_append_left hlt)
    (fun parent hparent => absurd (ScopeStore.lt_of_outer hparent) (lt_irrefl _))
    (by rw [hscopes]; exact List.getElem?_concat_length) hreads
  simp only [Function.respond, respond, number_address, h.alike.world]
  refine .mk (answers_one (.evaluate ⟨hbody, _, rfl, Function.update_self ..⟩))
    (extends_update hfresh _) (hsettled.inState m'.world.1) hscopes fun scope hscope => ?_
  rw [List.mem_singleton.1 hscope]
  exact ⟨_, _, _, rfl⟩

theorem Reads.activations_eq {f g : Function} (h : Reads tree reading f g) :
    f.activations = g.activations := by
  cases h with
  | closure => rfl
  | primitive _ hbound => simp only [Function.activations, hbound.length_eq]

/-- Corresponding functions do corresponding things. -/
theorem callWithin_answers (h : Mirrors tree reading m m') (world : World ω) (patience budget : Nat)
    {f g : Function} (hf : Reads tree reading f g) {v w : Value}
    (hv : Value.Alike (Reads tree reading) v w) :
    Answers tree reading m m' (Machine.callWithin world patience budget f v m.world)
      (callWithin world patience budget g w m'.world) := by
  simp only [Machine.callWithin, callWithin, hf.activations_eq]
  split
  · rw [h.alike.world]
    exact answers_beside h (.mk (.error _) rfl)
  · have hreads := hf
    cases hf with
    | closure hbody hid => exact answers_closure h hbody hid hv world patience
    | primitive _ _ =>
        exact answers_beside h ((still_primitives world).respond hreads patience hv h.alike.world)

/-- A frame that corresponds to another where no definition is under way waits for none. -/
theorem not_definition {frame frame' : Frame} (h : Frame.Alike (still tree reading) frame frame') :
    frame'.isDefinition = false ∧ scopeOf? frame' = none := by
  cases h with
  | definition _ hblock => exact hblock.elim
  | _ => exact ⟨rfl, rfl⟩

theorem Mirrors.pushStill (h : Mirrors tree reading m m') {frame frame' : Frame}
    (hframe : Frame.Alike (still tree reading) frame frame') :
    Mirrors tree reading (m.pushFrame frame) (m'.pushFrame frame') := by
  refine h.pushFrame (hframe.imp (readBy_le (extends_refl reading)) ?_) ?_
  · intro _ done done' rest body around around' hblock
    exact hblock.elim
  · intro id hid
    rw [(not_definition hframe).2] at hid
    cases hid

/-- Machines in step fulfil corresponding requests alike. -/
theorem perform_follows (world : World ω) (patience budget : Nat) {requests requests' : List Request}
    (hrequests : RequestsAlike (still tree reading) requests requests')
    (h : Mirrors tree reading m m') :
    Follows tree m' (Machine.perform world patience budget requests m)
      (perform world patience budget requests' m') := by
  have hnothing : ∀ {status : Status} {reading : Nat → Option Env} {m : Machine ω}
      {m' : Machine (ω × ScopeStore)}, Mirrors tree reading m m' →
      Follows tree m' (status, m) (status, m') := by
    intro status reading m m' h
    exact .mk status h rfl (List.append_nil _).symm (List.forall_mem_nil _)
  -- the reading grows with every call, so the requests that are left are tied anew
  induction patience generalizing budget requests requests' reading m m' with
  | zero =>
      cases hrequests with
      | nil =>
          simp only [Machine.perform, perform]
          exact hnothing h
      | cons =>
          simp only [Machine.perform, perform]
          exact hnothing h
  | succ patience ih =>
      cases hrequests with
      | nil =>
          simp only [Machine.perform, perform]
          exact hnothing h
      | @cons request request' rest rest' hrequest hrest =>
          -- what a function asks for comes before the requests that are left
          have hcall : ∀ {f g : Function} {v w : Value} {m : Machine ω}
              {m' : Machine (ω × ScopeStore)}, Mirrors tree reading m m' →
              Reads tree reading f g → Value.Alike (Reads tree reading) v w →
              Follows tree m' (m.afterCall world patience budget f v rest)
                (afterCall world patience budget g w rest' m') := by
            intro f g v w m m' h hf hv
            have hanswer := callWithin_answers h world patience budget hf hv
            rw [Machine.afterCall, afterCall, hf.activations_eq]
            revert hanswer
            generalize Machine.callWithin world patience budget f v m.world = answer
            generalize callWithin world patience budget g w m'.world = answer'
            rintro ⟨hanswers, hle, hmirrors, hscopes, hcalls⟩
            cases hanswers with
            | error stop => exact .mk _ hmirrors rfl hscopes hcalls
            | ok hasked =>
                have hothers := hrest.imp fun _ _ hrequest =>
                  hrequest.imp (readBy_le hle) fun _ _ _ _ _ _ hblock => hblock
                exact (ih _ (List.rel_append hasked hothers) hmirrors).of_same rfl hscopes hcalls
          cases hrequest with
          | @produce v w hv =>
              simp only [Machine.perform, perform]
              have hpending := h.alike.pending
              revert hpending
              generalize hp : m.pending = pending
              generalize hp' : m'.pending = pending'
              intro hpending
              cases hpending with
              | some => exact hnothing h
              | none =>
                  exact (ih budget hrest (h.deliver hv)).of_pushed rfl rfl
          | evaluate hscene =>
              simp only [Machine.perform, perform]
              exact (ih budget hrest (h.pushWork hscene)).of_pushed rfl rfl
          | push hscene hframe =>
              simp only [Machine.perform, perform]
              have hpushed := (h.pushStill hframe).pushWork hscene
              exact (ih budget hrest hpushed).of_pushed
                (waiting_cons_of_not (not_definition hframe).1) rfl
          | invoke hf hv =>
              simp only [Machine.perform, perform]
              exact hcall h hf hv
          | call hf hv hframe =>
              simp only [Machine.perform, perform]
              exact (hcall (h.pushStill hframe) hf hv).of_pushed
                (waiting_cons_of_not (not_definition hframe).1) rfl

theorem proceed_follows (world : World ω) (patience budget : Nat)
    {returned : Except Stop (List Request) × ω}
    {returned' : Except Stop (List Request) × (ω × ScopeStore)}
    (h : Answers tree reading m m' returned returned') :
    Follows tree m' (m.proceed world patience budget returned)
      (proceed world patience budget m' returned') := by
  obtain ⟨hanswers, -, hmirrors, hscopes, hcalls⟩ := h
  cases hanswers with
  | error stop => exact .mk _ hmirrors rfl hscopes hcalls
  | ok hasked =>
      exact (perform_follows world patience budget hasked hmirrors).of_same rfl hscopes hcalls

end Scoped

end RollScript

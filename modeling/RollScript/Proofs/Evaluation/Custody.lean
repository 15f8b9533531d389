import RollScript.Proofs.Evaluation.Fulfilment
import RollScript.Proofs.Evaluation.Keeping

/-!
# What machines hold and call

`Machine.Holds` says which values, functions and environments are within reach of a machine, and
`Machine.calls` lists the calls that it makes in one turn. Read `Ties.Guards` and `reaches_safe`: if a
machine is started with what some ties tie to itself, and the functions of the host hand on nothing else,
then the machine never holds anything else, and it calls nothing else (`step_safe`). `Ties.Covers.holds`
draws the conclusion for all that is within reach. Functions of the host may ask for as much as they like
here, and may wait for what they have asked for.
-/

namespace RollScript

variable {ω : Type}

/-! ## Within reach -/

/-- The scopes of an environment, the innermost first, each with those around it. -/
def Env.scopes : Env → List Env
  | .empty => []
  | .scope entries parent => .scope entries parent :: parent.scopes

/-- What a machine can hold. -/
inductive Held where
  | value (v : Value)
  | function (f : Function)
  | env (env : Env)

/-- What is found directly in something held: the items of an array, the arguments of a primitive, the
environment of a closure, and the values of the scopes of an environment. -/
inductive Held.Part : Held → Held → Prop where
  | item {items : List Value} {v : Value} : v ∈ items → Part (.value (.array items)) (.value v)
  | function {f : Function} : Part (.value (.function f)) (.function f)
  | argument {p : Primitive} {bound : List Value} {v : Value} : v ∈ bound →
      Part (.function (.primitive p bound)) (.value v)
  | scope {parameter : Text} {body : Expr} {env : Env} :
      Part (.function (.closure parameter body env)) (.env env)
  | entry {env parent : Env} {entries : List (Text × Entry)} {x : Text} {v : Value} :
      .scope entries parent ∈ env.scopes → (x, .value v) ∈ entries → Part (.env env) (.value v)

/-- What a frame keeps. The frame of a definition keeps the scope of its block too, as far as it is
complete, since the functions that the block defines live in it. -/
def Frame.held : Frame → List Held
  | .finish => []
  | .callee _ env => [.env env]
  | .argument f => [.function f]
  | .element done _ env => .env env :: done.map .value
  | .repetition done _ _ env => .env env :: done.map .value
  | .index items => items.map .value
  | .definition done _ _ _ env => [.env env, .env (.scope done env)]
  | .branch _ _ env => [.env env]
  | .mapped f done rest => .function f :: (done ++ rest).map .value
  | .combining f item rest => .function f :: (item :: rest).map .value
  | .combined f rest => .function f :: rest.map .value
  | .selected items => items.map .value
  | .rolled roll accept _ => [.function roll, .function accept]
  | .judged roll accept _ result => [.function roll, .function accept, .value result]
  | .exploded roll again done _ => .function roll :: .function again :: done.map .value
  | .repeated roll again done _ => .function roll :: .function again :: done.map .value
  | .host _ saved => saved.map .value

namespace Machine

/-- What a machine keeps: the environments of its work, what its frames keep, and its values. -/
def held (m : Machine ω) : List Held :=
  m.work.map (fun item => .env item.2) ++ m.frames.flatMap (fun entry => entry.1.held) ++
    (m.pending.toList ++ m.results).map .value

/-- Something is within reach of a machine. -/
def Holds (m : Machine ω) (held : Held) : Prop :=
  ∃ kept ∈ m.held, Relation.ReflTransGen Held.Part kept held

end Machine

/-! ## Safety -/

/-- A frame all of whose parts some ties tie to themselves. -/
inductive Frame.Safe (T : Ties) : Frame → Prop where
  | rule {frame : Frame} : Frame.Alike T frame frame → Safe T frame
  | host {id : Nat} {saved : List Value} : (∀ v ∈ saved, Value.Alike T.function v v) →
      Safe T (.host id saved)

/-- A request all of whose parts some ties tie to themselves. -/
inductive Request.Safe (T : Ties) : Request → Prop where
  | produce {v : Value} : Value.Alike T.function v v → Safe T (.produce v)
  | evaluate {expr : Expr} {env : Env} : T.scene expr env env → Safe T (.evaluate expr env)
  | push {expr : Expr} {env : Env} {frame : Frame} : T.scene expr env env → frame.Safe T →
      Safe T (.push expr env frame)
  | invoke {f : Function} {v : Value} : T.function f f → Value.Alike T.function v v →
      Safe T (.invoke f v)
  | call {f : Function} {v : Value} {frame : Frame} : T.function f f → Value.Alike T.function v v →
      frame.Safe T → Safe T (.call f v frame)

/-- What a rule has returned asks for safe things only, and the state of the world is as it should be. -/
def SafeReturn (T : Ties) (S : ω → Prop) (returned : Except Stop (List Request) × ω) : Prop :=
  S returned.2 ∧ ∀ requests, returned.1 = .ok requests → ∀ request ∈ requests, request.Safe T

/-- A machine all of whose parts some ties tie to themselves, in a world whose state is as it should
be. -/
structure Machine.Safe (T : Ties) (S : ω → Prop) (m : Machine ω) : Prop where
  work : ∀ item ∈ m.work, T.scene item.1 item.2 item.2
  frames : ∀ entry ∈ m.frames, entry.1.Safe T
  pending : ∀ v ∈ m.pending, Value.Alike T.function v v
  results : ∀ v ∈ m.results, Value.Alike T.function v v
  world : S m.world

/-- What is needed of ties for a machine to keep to what they tie to itself: what rules need, and that
functions of the host that are given such things hand on such things. -/
structure Ties.Guards (T : Ties) (S : ω → Prop) (world : World ω) : Prop
    extends T.Scopes, T.Primitives (fun s t => s = t ∧ S s) world.alone world.alone where
  limited : T.limits
  calls {id : Nat} {args : List Value} {s : ω} : (∀ v ∈ args, Value.Alike T.function v v) → S s →
    SafeReturn T S (world.call id args s)
  resumes {id : Nat} {saved : List Value} {v : Value} {s : ω} :
    (∀ v ∈ saved, Value.Alike T.function v v) → Value.Alike T.function v v → S s →
    SafeReturn T S (world.resume id saved v s)

variable {T : Ties} {S : ω → Prop} {world : World ω} {config : Config}

theorem Request.Alike.safe {request : Request} (h : Request.Alike T request request) :
    request.Safe T := by
  cases h with
  | produce hv => exact .produce hv
  | evaluate hscene => exact .evaluate hscene
  | push hscene hframe => exact .push hscene (.rule hframe)
  | invoke hf hv => exact .invoke hf hv
  | call hf hv hframe => exact .call hf hv (.rule hframe)

theorem safe_of_requestsAlike {requests : List Request} (h : RequestsAlike T requests requests) :
    ∀ request ∈ requests, request.Safe T :=
  fun request hrequest => (List.forall₂_same.1 h request hrequest).safe

/-- What a rule returns that ties tie to itself is safe. -/
theorem SafeReturn.of_alike {returned : Except Stop (List Request) × ω}
    (h : ResultsAlike (RequestsAlike T) (fun s t => s = t ∧ S s) returned returned) :
    SafeReturn T S returned := by
  obtain ⟨answer, t⟩ := returned
  obtain ⟨hanswer, -, hstate⟩ := h
  refine ⟨hstate, ?_⟩
  rintro requests rfl
  cases hanswer with
  | ok hrequests => exact safe_of_requestsAlike hrequests

namespace Machine.Safe

variable {m : Machine ω}

theorem pushFrame (h : m.Safe T S) {frame : Frame} (hframe : frame.Safe T) :
    (m.pushFrame frame).Safe T S :=
  { h with frames := List.forall_mem_cons.2 ⟨hframe, h.frames⟩ }

theorem pushWork (h : m.Safe T S) {expr : Expr} {env : Env} (hscene : T.scene expr env env) :
    (m.pushWork expr env).Safe T S :=
  { h with work := List.forall_mem_cons.2 ⟨hscene, h.work⟩ }

theorem in_world (h : m.Safe T S) {t : ω} (ht : S t) : Machine.Safe T S { m with world := t } :=
  { h with world := ht }

end Machine.Safe

theorem start_safe {expr : Expr} {env : Env} {s : ω} (hscene : T.scene expr env env) (hs : S s) :
    (Machine.start expr env s).Safe T S where
  work := by simpa [Machine.start] using hscene
  frames := by simpa [Machine.start] using Frame.Safe.rule .finish
  pending := by simp [Machine.start]
  results := by simp [Machine.start]
  world := hs

/-! ## What safe machines hold -/

/-- What some ties tie to themselves has a property that goes over to whatever is found in it. -/
structure Ties.Covers (T : Ties) (Q : Held → Prop) : Prop where
  value {v : Value} : Value.Alike T.function v v → Q (.value v)
  function {f : Function} : T.function f f → Q (.function f)
  scene {expr : Expr} {env : Env} : T.scene expr env env → Q (.env env)
  block {done : List (Text × Entry)} {rest : List (Text × Expr)} {body : Expr} {env : Env} :
    T.block done done rest body env env → Q (.env env) ∧ Q (.env (.scope done env))
  part {held part : Held} : Q held → held.Part part → Q part

section Covers

variable {Q : Held → Prop} (hQ : T.Covers Q)

include hQ

theorem Ties.Covers.values {items : List Value} (h : List.Forall₂ (Value.Alike T.function) items items) :
    ∀ held ∈ items.map Held.value, Q held := by
  intro held hheld
  obtain ⟨v, hv, rfl⟩ := List.mem_map.1 hheld
  exact hQ.value (List.forall₂_same.1 h v hv)

theorem Ties.Covers.frame {frame : Frame} (h : frame.Safe T) : ∀ held ∈ frame.held, Q held := by
  cases h with
  | host hsaved => exact hQ.values (List.forall₂_same.2 hsaved)
  | rule h =>
      cases h with
      | finish => exact List.forall_mem_nil _
      | callee hscene => exact List.forall_mem_singleton.2 (hQ.scene hscene)
      | argument hf => exact List.forall_mem_singleton.2 (hQ.function hf)
      | element hdone hscene _ => exact List.forall_mem_cons.2 ⟨hQ.scene hscene, hQ.values hdone⟩
      | repetition hdone hscene => exact List.forall_mem_cons.2 ⟨hQ.scene hscene, hQ.values hdone⟩
      | index hitems => exact hQ.values hitems
      | definition _ hblock =>
          obtain ⟨henv, hscope⟩ := hQ.block hblock
          exact List.forall_mem_cons.2 ⟨henv, List.forall_mem_singleton.2 hscope⟩
      | branch htrue _ => exact List.forall_mem_singleton.2 (hQ.scene htrue)
      | mapped hf hdone hrest =>
          exact List.forall_mem_cons.2 ⟨hQ.function hf, hQ.values (List.rel_append hdone hrest)⟩
      | combining hf hitem hrest =>
          exact List.forall_mem_cons.2 ⟨hQ.function hf, hQ.values (.cons hitem hrest)⟩
      | combined hf hrest => exact List.forall_mem_cons.2 ⟨hQ.function hf, hQ.values hrest⟩
      | selected hitems => exact hQ.values hitems
      | rolled _ hroll haccept =>
          exact List.forall_mem_cons.2
            ⟨hQ.function hroll, List.forall_mem_singleton.2 (hQ.function haccept)⟩
      | judged _ hroll haccept hresult =>
          exact List.forall_mem_cons.2 ⟨hQ.function hroll, List.forall_mem_cons.2
            ⟨hQ.function haccept, List.forall_mem_singleton.2 (hQ.value hresult)⟩⟩
      | exploded hroll hagain hdone =>
          exact List.forall_mem_cons.2
            ⟨hQ.function hroll, List.forall_mem_cons.2 ⟨hQ.function hagain, hQ.values hdone⟩⟩
      | repeated hroll hagain hdone =>
          exact List.forall_mem_cons.2
            ⟨hQ.function hroll, List.forall_mem_cons.2 ⟨hQ.function hagain, hQ.values hdone⟩⟩

/-- Whatever is within reach of a safe machine has the property. -/
theorem Ties.Covers.holds {m : Machine ω} (hm : m.Safe T S) {held : Held} (h : m.Holds held) :
    Q held := by
  obtain ⟨kept, hkept, hreaches⟩ := h
  -- what the machine itself keeps has the property, and so have the parts, step by step
  have hstart : Q kept := by
    rcases List.mem_append.1 hkept with hkept | hkept
    · rcases List.mem_append.1 hkept with hkept | hkept
      · obtain ⟨item, hitem, rfl⟩ := List.mem_map.1 hkept
        exact hQ.scene (hm.work item hitem)
      · obtain ⟨entry, hentry, hkept⟩ := List.mem_flatMap.1 hkept
        exact hQ.frame (hm.frames entry hentry) kept hkept
    · obtain ⟨v, hv, rfl⟩ := List.mem_map.1 hkept
      rcases List.mem_append.1 hv with hv | hv
      · exact hQ.value (hm.pending v (Option.mem_toList.1 hv))
      · exact hQ.value (hm.results v hv)
  induction hreaches with
  | refl => exact hstart
  | tail _ hpart ih => exact hQ.part ih hpart

end Covers

/-! ## Rules keep to what is safe -/

/-- A routine that does not belong to the host does not use the host. -/
theorem Routine.perform_alone {routine : Routine} (h : ∀ id, routine ≠ .host id) (patience : Nat)
    (args : List Value) (s : ω) :
    routine.perform world.alone patience args s = routine.perform world patience args s := by
  cases routine with
  | operation | die | combinator => rfl
  | host id => exact absurd rfl (h id)

theorem Function.respond_alone {p : Primitive} {bound : List Value} (h : ∀ id, p.routine ≠ .host id)
    (patience : Nat) (v : Value) (s : ω) :
    (primitive p bound).respond world.alone patience v s =
      (primitive p bound).respond world patience v s := by
  simp only [respond, Routine.perform_alone h]

theorem World.alone_draws
    (h : ∀ {width n : Nat} {s t : ω}, world.draw width s = some (n, t) → S s → S t) :
    DrawsAlike (fun s t => s = t ∧ S s) world.alone.draw world.alone.draw := by
  rintro width s _ ⟨rfl, hs⟩
  cases hdrawn : world.draw width s with
  | none =>
      simp only [World.alone, Surroundings.world, World.hostless, hdrawn]
      exact .none
  | some drawn =>
      simp only [World.alone, Surroundings.world, World.hostless, hdrawn]
      exact .some ⟨rfl, rfl, h hdrawn hs⟩

section Guards

variable (hT : T.Guards S world)

include hT

/-- A primitive of the host that is given a safe argument asks for safe things. -/
theorem Ties.Guards.respond_host {p : Primitive} {bound : List Value} {id : Nat}
    (hhost : p.routine = .host id) (hp : T.function (.primitive p bound) (.primitive p bound))
    (patience : Nat) {v : Value} (hv : Value.Alike T.function v v) {s : ω} (hs : S s) :
    SafeReturn T S ((Function.primitive p bound).respond world patience v s) := by
  obtain ⟨_, heq, hbound⟩ := hT.inversion hp
  cases heq
  simp only [Function.respond]
  cases hguard : p.guards[bound.length]? with
  | none => exact ⟨hs, by simp⟩
  | some guard =>
      dsimp only
      cases hcheck : guard.check v with
      | error stop => exact ⟨hs, by simp⟩
      | ok =>
          dsimp only
          split
          · next hmore =>
              rw [List.length_append, List.length_singleton] at hmore
              have hlater := hT.more hp hv hguard (Guard.refusal?_of_check hcheck) hmore
              refine ⟨hs, ?_⟩
              intro requests hrequests
              cases hrequests
              exact List.forall_mem_singleton.2 (.produce (.function hlater))
          · rw [hhost]
            refine hT.calls ?_ hs
            exact List.forall_mem_append.2
              ⟨List.forall₂_same.1 hbound, List.forall_mem_singleton.2 hv⟩

/-- A safe function with a safe argument asks for safe things. -/
theorem Ties.Guards.respond (patience : Nat) {f : Function} (hf : T.function f f) {v : Value}
    (hv : Value.Alike T.function v v) {s : ω} (hs : S s) :
    SafeReturn T S (f.respond world patience v s) := by
  cases f with
  | closure parameter body env =>
      obtain ⟨_, heq, hbody⟩ := hT.call hf
      cases heq
      exact .of_alike (.mk (answers_one (.evaluate (hbody v v hv))) ⟨rfl, hs⟩)
  | primitive p bound =>
      by_cases hhost : ∃ id, p.routine = .host id
      · obtain ⟨id, hid⟩ := hhost
        exact hT.respond_host hid hf patience hv hs
      · -- a primitive of the language does not notice that there is no host
        have hown : ∀ id, p.routine ≠ .host id := fun id hid => hhost ⟨id, hid⟩
        rw [← Function.respond_alone hown]
        exact .of_alike (hT.toPrimitives.respond hf patience hv ⟨rfl, hs⟩)

theorem Ties.Guards.callWithin (patience room : Nat) {f : Function} (hf : T.function f f) {v : Value}
    (hv : Value.Alike T.function v v) {s : ω} (hs : S s) :
    SafeReturn T S (Machine.callWithin world patience room f v s) := by
  unfold Machine.callWithin
  split
  · exact ⟨hs, by simp⟩
  · exact hT.respond patience hf hv hs

/-- A safe frame with a safe value asks for safe things. -/
theorem Ties.Guards.frame {frame : Frame} (h : frame.Safe T) {v : Value}
    (hv : Value.Alike T.function v v) {s : ω} (hs : S s) :
    SafeReturn T S (frame.requests world config v s) := by
  cases h with
  | host hsaved => exact hT.resumes hsaved hv hs
  | rule h =>
      by_cases hframe : frame.isDefinition = true
      · cases h with
        | definition hvalue hblock =>
            exact .of_alike (.mk (hT.toScopes.defineWithin _ (hT.value hblock hvalue hv)) ⟨rfl, hs⟩)
        | _ => cases hframe
      · rw [Bool.not_eq_true] at hframe
        exact .of_alike (h.requests hframe (fun _ => ⟨rfl, rfl⟩) hv ⟨rfl, hs⟩)

/-- An expression in a safe environment asks for safe things. -/
theorem Ties.Guards.expr {expr : Expr} {env : Env} (h : T.scene expr env env) (room : Nat) {s : ω}
    (hs : S s) : SafeReturn T S (expr.requests room env, s) :=
  .of_alike (.mk (hT.toScopes.requests room h) ⟨rfl, hs⟩)

/-! ## Machines keep to what is safe -/

namespace Machine

/-- The calls and the machine that come of safe requests are safe. -/
theorem Fulfils.safe {room : Nat} {requests : List Request} {m final : Machine ω}
    {calls : List (Function × Value)} {status : Status}
    (h : Fulfils world room requests m calls status final)
    (hrequests : ∀ request ∈ requests, request.Safe T) (hm : m.Safe T S) :
    (∀ call ∈ calls, T.function call.1 call.1 ∧ Value.Alike T.function call.2 call.2) ∧
      final.Safe T S := by
  induction h with
  | done | unfinished | twice => exact ⟨by simp, hm⟩
  | produce _ _ ih =>
      obtain ⟨hrequest, hrest⟩ := List.forall_mem_cons.1 hrequests
      cases hrequest with
      | produce hv => exact ih hrest { hm with pending := by simpa using hv }
  | evaluate _ ih =>
      obtain ⟨hrequest, hrest⟩ := List.forall_mem_cons.1 hrequests
      cases hrequest with
      | evaluate hscene => exact ih hrest (hm.pushWork hscene)
  | push _ ih =>
      obtain ⟨hrequest, hrest⟩ := List.forall_mem_cons.1 hrequests
      cases hrequest with
      | push hscene hframe => exact ih hrest ((hm.pushFrame hframe).pushWork hscene)
  | call _ ih =>
      obtain ⟨hrequest, hrest⟩ := List.forall_mem_cons.1 hrequests
      cases hrequest with
      | call hf hv hframe =>
          exact ih (List.forall_mem_cons.2 ⟨.invoke hf hv, hrest⟩) (hm.pushFrame hframe)
  | @refused room patience f v rest m stop t hcall =>
      obtain ⟨hrequest, -⟩ := List.forall_mem_cons.1 hrequests
      cases hrequest with
      | invoke hf hv =>
          have hreturn := hT.callWithin patience room hf hv hm.world
          rw [hcall] at hreturn
          exact ⟨List.forall_mem_singleton.2 ⟨hf, hv⟩, hm.in_world hreturn.1⟩
  -- what a function asks for comes before the requests that are left
  | @invoke room patience f v asked rest m final calls status t hcall _ ih =>
      obtain ⟨hrequest, hrest⟩ := List.forall_mem_cons.1 hrequests
      cases hrequest with
      | invoke hf hv =>
          have hreturn := hT.callWithin patience room hf hv hm.world
          rw [hcall] at hreturn
          obtain ⟨hcalls, hafter⟩ :=
            ih (List.forall_mem_append.2 ⟨hreturn.2 asked rfl, hrest⟩) (hm.in_world hreturn.1)
          exact ⟨List.forall_mem_cons.2 ⟨⟨hf, hv⟩, hcalls⟩, hafter⟩

theorem GoesOn.safe {returned : Except Stop (List Request) × ω} {m final : Machine ω}
    {calls : List (Function × Value)} {status : Status} (h : GoesOn world m returned calls status final)
    (hreturned : SafeReturn T S returned) (hm : m.Safe T S) :
    (∀ call ∈ calls, T.function call.1 call.1 ∧ Value.Alike T.function call.2 call.2) ∧
      final.Safe T S := by
  obtain ⟨ht, hrequests⟩ := hreturned
  cases h with
  | stopped stop t => exact ⟨by simp, hm.in_world ht⟩
  | fulfilled hfulfils => exact hfulfils.safe hT (hrequests _ rfl) (hm.in_world ht)

/-- A machine that holds safe things only calls such things in a step, and holds nothing else after it. -/
theorem Steps.safe {m final : Machine ω} {calls : List (Function × Value)} {status : Status}
    (h : Steps world config m calls status final) (hm : m.Safe T S) :
    (∀ call ∈ calls, T.function call.1 call.1 ∧ Value.Alike T.function call.2 call.2) ∧
      final.Safe T S := by
  cases h with
  | idle | unbalanced => exact ⟨by simp, hm⟩
  | finish work blame frames v before results s =>
      refine ⟨by simp, ?_⟩
      exact
        { work := hm.work
          frames := (List.forall_mem_cons.1 hm.frames).2
          pending := by simp
          results :=
            List.forall_mem_append.2 ⟨hm.results, List.forall_mem_singleton.2 (hm.pending v rfl)⟩
          world := hm.world }
  | deliver _ hrequests hgoes =>
      obtain ⟨hframe, hframes⟩ := List.forall_mem_cons.1 hm.frames
      refine hgoes.safe hT (hrequests ▸ hT.frame hframe (hm.pending _ rfl) hm.world) ?_
      exact
        { work := hm.work, frames := hframes, pending := by simp, results := hm.results,
          world := hm.world }
  | start hrequests hgoes =>
      obtain ⟨hitem, hwork⟩ := List.forall_mem_cons.1 hm.work
      refine hgoes.safe hT (hrequests ▸ hT.expr hitem _ hm.world) ?_
      exact
        { work := hwork, frames := hm.frames, pending := by simp, results := hm.results,
          world := hm.world }

theorem step_safe (patience : Nat) {m : Machine ω} (hm : m.Safe T S) :
    (∀ call ∈ m.calls world config patience,
        T.function call.1 call.1 ∧ Value.Alike T.function call.2 call.2) ∧
      (m.step world config patience).2.Safe T S :=
  (steps_step world config patience m).safe hT hm

/-- What a machine reaches holds safe things only, if the machine does. -/
theorem reaches_safe {m m' : Machine ω} (hreaches : Reaches world config m m') (hm : m.Safe T S) :
    m'.Safe T S := by
  refine hreaches.preserves ?_ hm
  rintro m m' h ⟨patience, hstep⟩
  have hafter : (m.step world config patience).2.Safe T S := (step_safe hT patience h).2
  rwa [hstep] at hafter

end Machine

end Guards

/-! ## Traits -/

variable {K : Trait}

/-- Something held has a trait. -/
def Held.Has (K : Trait) : Held → Prop
  | .value v => v.Has K
  | .function f => f.Has K
  | .env scope => scope.Has K

theorem Env.Has.entry {entries : List (Text × Entry)} {parent : Env} {x : Text} {v : Value}
    (hentry : (x, .value v) ∈ entries) :
    ∀ {env : Env}, env.Has K → .scope entries parent ∈ env.scopes → v.Has K
  | .empty, _, hscope => absurd hscope List.not_mem_nil
  | .scope _ around, .scope hentries hparent, hscope => by
      rcases List.mem_cons.1 hscope with hsame | hscope
      · cases hsame
        cases hentries _ hentry with
        | value hvalue => exact hvalue
      · exact entry hentry hparent hscope

theorem Held.Has.part {held part : Held} (h : held.Has K) (hpart : held.Part part) : part.Has K := by
  cases hpart with
  | item hv =>
      cases h with
      | array hitems => exact hitems _ hv
  | function =>
      cases h with
      | function hf => exact hf
  | argument hv =>
      cases h with
      | primitive _ hbound => exact hbound _ hv
  | scope =>
      cases h with
      | closure _ henv => exact henv
  | entry hscope hentry => exact Env.Has.entry hentry h hscope

theorem Trait.ties_covers (K : Trait) : K.ties.Covers (Held.Has K) where
  value hv := hv.has.2
  function hf := hf.2
  scene hscene := hscene.2.2
  block := by
    rintro done rest body env ⟨-, -, hdone, -, -, henv⟩
    exact ⟨henv, .scope hdone henv⟩
  part hheld hpart := hheld.part hpart

/-- The functions of the host that are given values with a trait ask for things with the trait only, as
long as the state of the world is as it should be. -/
structure World.Upholds (world : World ω) (K : Trait) (S : ω → Prop) : Prop where
  draw {width n : Nat} {s t : ω} : world.draw width s = some (n, t) → S s → S t
  call {id : Nat} {args : List Value} {s : ω} : (∀ v ∈ args, v.Has K) → S s →
    SafeReturn K.ties S (world.call id args s)
  resume {id : Nat} {saved : List Value} {v : Value} {s : ω} : (∀ w ∈ saved, w.Has K) → v.Has K →
    S s → SafeReturn K.ties S (world.resume id saved v s)

/-- A machine keeps to a trait that goes over from an expression to its parts and stays when a primitive
receives an argument that its guard lets pass, if the functions of the host do. -/
theorem World.Upholds.guards (h : world.Upholds K S)
    (hpart : ∀ {expr child : Expr}, K.code expr → child ∈ expr.children → K.code child)
    (hmore : ∀ {p : Primitive} {bound : List Value} {v : Value} {guard : Guard},
      K.primitive p bound → p.guards[bound.length]? = some guard → guard.refusal? v = none →
      bound.length + 1 < p.arity → K.primitive p (bound ++ [v])) : K.ties.Guards S world where
  toScopes := K.scopes hpart
  inversion := Trait.ties_inversion
  more hp hv hguard hpass hroom :=
    Trait.ties_more hp hv fun hbound => hmore hbound hguard hpass hroom
  reroll _ _ := trivial
  draws _ _ := World.alone_draws h.draw
  host := by
    rintro p bound _ id - - args args' s _ - ⟨rfl, hs⟩
    exact .mk (.error _) ⟨rfl, hs⟩
  limited := trivial
  calls hargs hs := h.call (fun v hv => (hargs v hv).has.2) hs
  resumes hsaved hv hs := h.resume (fun w hw => (hsaved w hw).has.2) hv.has.2 hs

/-! ## A host that calls -/

/-- A world with one function of the host, which calls its first argument with the second one and hands
on what this returns. -/
def World.applying : World Unit where
  draw _ _ := none
  call id args s :=
    match args with
    | [.function f, v] => (.ok [.call f v (.host id [])], s)
    | _ => (.error (.aborted .misapplied), s)
  resume _ _ v s := (.ok [.produce v], s)
  room := 100

end RollScript

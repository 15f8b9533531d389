import RollScript.Proofs.Evaluation.Discipline
import RollScript.Proofs.Evaluation.Likeness

/-!
# Machines that run alike

Two machines that are tied together (`Ties.Sound`) take corresponding steps and end alike. Read
`run_alike` first. The worlds may differ, as long as corresponding primitives draw and call the host
alike in related states. A property of everything that a machine can get hold of is the case of one
machine that is tied to itself: `reaches_alike` then says that the property is kept.
-/

namespace RollScript

variable {ω ω' : Type}

/-- What is needed of ties for the machines of two worlds to run alike. -/
structure Ties.Sound (T : Ties) (S : ω → ω' → Prop) (world : World ω) (world' : World ω')
    (config config' : Config) : Prop extends T.Scopes, T.Primitives S world world' where
  room : world.room = world'.room
  limited : T.limits →
    config.maxRerolls = config'.maxRerolls ∧ config.whenExhausted = config'.whenExhausted

/-- Corresponding machines: they evaluate the same expressions and blame the same ones, for
corresponding frames. -/
structure Machine.Alike (T : Ties) (S : ω → ω' → Prop) (m : Machine ω) (m' : Machine ω') :
    Prop where
  work : List.Forall₂ (fun item item' => item.1 = item'.1 ∧ T.scene item.1 item.2 item'.2)
    m.work m'.work
  frames : List.Forall₂ (fun entry entry' => Frame.Alike T entry.1 entry'.1 ∧ entry.2 = entry'.2)
    m.frames m'.frames
  pending : Option.Rel (Value.Alike T.function) m.pending m'.pending
  blame : m.blame = m'.blame
  results : List.Forall₂ (Value.Alike T.function) m.results m'.results
  world : S m.world m'.world

/-- Corresponding outcomes. -/
inductive Outcome.Alike (T : Ties) : Outcome → Outcome → Prop where
  | value {v w : Value} : Value.Alike T.function v w → Alike T (.value v) (.value w)
  | failed (cause : Cause) (blame : Expr) : Alike T (.failed cause blame) (.failed cause blame)
  | aborted (abort : Abort) : Alike T (.aborted abort) (.aborted abort)
  | unfinished : Alike T .unfinished .unfinished

theorem Outcome.Alike.imp {T T' : Ties} (hle : T.Le T') {o o' : Outcome} (h : Outcome.Alike T o o') :
    Outcome.Alike T' o o' := by
  cases h with
  | value hv => exact .value (hle.value hv)
  | failed cause blame => exact .failed cause blame
  | aborted abort => exact .aborted abort
  | unfinished => exact .unfinished

namespace Machine

variable {T : Ties} {S : ω → ω' → Prop} {world : World ω} {world' : World ω'}
  {config config' : Config} {m : Machine ω} {m' : Machine ω'}

/-- Two steps went the same way and left corresponding machines. -/
inductive TurnsAlike (T : Ties) (S : ω → ω' → Prop) :
    Status × Machine ω → Status × Machine ω' → Prop where
  | mk {m : Machine ω} {m' : Machine ω'} (status : Status) :
      Machine.Alike T S m m' → TurnsAlike T S (status, m) (status, m')

theorem Alike.in_world (h : Alike T S m m') {s : ω} {s' : ω'} (hs : S s s') :
    Alike T S { m with world := s } { m' with world := s' } :=
  { h with world := hs }

theorem Alike.pushFrame (h : Alike T S m m') {frame frame' : Frame}
    (hframe : Frame.Alike T frame frame') : Alike T S (m.pushFrame frame) (m'.pushFrame frame') :=
  { h with frames := .cons ⟨hframe, h.blame⟩ h.frames }

theorem Alike.pushWork (h : Alike T S m m') {expr : Expr} {env env' : Env}
    (hscene : T.scene expr env env') : Alike T S (m.pushWork expr env) (m'.pushWork expr env') :=
  { h with work := .cons ⟨rfl, hscene⟩ h.work }

/-- Machines go on to correspond if the blocks do whose definitions are under way. -/
theorem Alike.imp {T' : Ties} (hle : T.Le T')
    (hblock : ∀ done done' rest body env env',
      T.block done done' rest body env env' → T'.block done done' rest body env env')
    (h : Alike T S m m') : Alike T' S m m' where
  work := h.work.imp fun _ _ hitem => ⟨hitem.1, hle.scene hitem.2⟩
  frames := h.frames.imp fun _ _ hentry => ⟨hentry.1.imp hle fun _ => hblock, hentry.2⟩
  pending := by
    have hpending := h.pending
    revert hpending
    generalize m.pending = pending
    generalize m'.pending = pending'
    intro hpending
    cases hpending with
    | none => exact .none
    | some hv => exact .some (hle.value hv)
  blame := h.blame
  results := hle.values h.results
  world := h.world

theorem start_alike {expr : Expr} {env env' : Env} {s : ω} {s' : ω'}
    (hscene : T.scene expr env env') (hs : S s s') :
    Alike T S (start expr env s) (start expr env' s') where
  work := .cons ⟨rfl, hscene⟩ .nil
  frames := .cons ⟨.finish, rfl⟩ .nil
  pending := .none
  blame := rfl
  results := .nil
  world := hs

theorem activations_alike (hT : T.Sound S world world' config config') {f g : Function}
    (h : T.function f g) : f.activations = g.activations := by
  cases f with
  | closure parameter body env =>
      obtain ⟨env', rfl, -⟩ := hT.call h
      rfl
  | primitive p bound =>
      obtain ⟨bound', rfl, hbound⟩ := hT.inversion h
      simp only [Function.activations, hbound.length_eq]

/-- Corresponding functions do corresponding things. -/
theorem respond_alike (hT : T.Sound S world world' config config') (patience : Nat)
    {f g : Function} (h : T.function f g) {v w : Value} (hv : Value.Alike T.function v w) {s : ω}
    {s' : ω'} (hs : S s s') :
    ResultsAlike (RequestsAlike T) S (f.respond world patience v s)
      (g.respond world' patience w s') := by
  cases f with
  | closure parameter body env =>
      obtain ⟨env', rfl, hbody⟩ := hT.call h
      exact .mk (answers_one (.evaluate (hbody v w hv))) hs
  | primitive p bound =>
      obtain ⟨bound', rfl, -⟩ := hT.inversion h
      exact hT.toPrimitives.respond h patience hv hs

theorem callWithin_alike (hT : T.Sound S world world' config config') (patience budget : Nat)
    {f g : Function} (h : T.function f g) {v w : Value} (hv : Value.Alike T.function v w) {s : ω}
    {s' : ω'} (hs : S s s') :
    ResultsAlike (RequestsAlike T) S (callWithin world patience budget f v s)
      (callWithin world' patience budget g w s') := by
  simp only [callWithin, activations_alike hT h]
  split
  · exact .mk (.error _) hs
  · exact respond_alike hT patience h hv hs

/-- Machines fulfil corresponding requests alike. -/
theorem perform_alike (hT : T.Sound S world world' config config') (patience budget : Nat)
    {requests requests' : List Request} (hrequests : RequestsAlike T requests requests')
    (h : Alike T S m m') :
    TurnsAlike T S (perform world patience budget requests m)
      (perform world' patience budget requests' m') := by
  induction patience generalizing budget requests requests' m m' with
  | zero =>
      cases hrequests with
      | nil =>
          simp only [perform]
          exact .mk _ h
      | cons =>
          simp only [perform]
          exact .mk _ h
  | succ patience ih =>
      cases hrequests with
      | nil =>
          simp only [perform]
          exact .mk _ h
      | @cons request request' rest rest' hrequest hrest =>
          -- what a function asks for comes before the requests that are left
          have hcall : ∀ {f g : Function} {v w : Value} {m : Machine ω} {m' : Machine ω'},
              T.function f g → Value.Alike T.function v w → Alike T S m m' →
              TurnsAlike T S (m.afterCall world patience budget f v rest)
                (m'.afterCall world' patience budget g w rest') := by
            intro f g v w m m' hf hv h
            have hanswer := callWithin_alike hT patience budget hf hv h.world
            rw [afterCall, afterCall, activations_alike hT hf]
            revert hanswer
            generalize callWithin world patience budget f v m.world = answer
            generalize callWithin world' patience budget g w m'.world = answer'
            rintro ⟨hanswers, hstate⟩
            cases hanswers with
            | error stop => exact .mk _ (h.in_world hstate)
            | ok hasked => exact ih _ (List.rel_append hasked hrest) (h.in_world hstate)
          cases hrequest with
          | @produce v w hv =>
              simp only [perform]
              have hpending := h.pending
              revert hpending
              generalize hp : m.pending = pending
              generalize hp' : m'.pending = pending'
              intro hpending
              cases hpending with
              | some => exact .mk _ h
              | none => exact ih budget hrest { h with pending := .some hv }
          | evaluate hscene =>
              simp only [perform]
              exact ih budget hrest (h.pushWork hscene)
          | push hscene hframe =>
              simp only [perform]
              exact ih budget hrest ((h.pushFrame hframe).pushWork hscene)
          | invoke hf hv =>
              simp only [perform]
              exact hcall hf hv h
          | call hf hv hframe =>
              simp only [perform]
              exact hcall hf hv (h.pushFrame hframe)

theorem proceed_alike (hT : T.Sound S world world' config config') (patience budget : Nat)
    {returned : Except Stop (List Request) × ω} {returned' : Except Stop (List Request) × ω'}
    (hreturned : ResultsAlike (RequestsAlike T) S returned returned') (h : Alike T S m m') :
    TurnsAlike T S (m.proceed world patience budget returned)
      (m'.proceed world' patience budget returned') := by
  obtain ⟨hanswers, hstate⟩ := hreturned
  cases hanswers with
  | error stop => exact .mk _ (h.in_world hstate)
  | ok hasked => exact perform_alike hT patience budget hasked (h.in_world hstate)

/-- Corresponding frames ask for corresponding things. -/
theorem frame_alike (hT : T.Sound S world world' config config') {frame frame' : Frame}
    (h : Frame.Alike T frame frame') {v w : Value} (hv : Value.Alike T.function v w) {s : ω}
    {s' : ω'} (hs : S s s') :
    ResultsAlike (RequestsAlike T) S (frame.requests world config v s)
      (frame'.requests world' config' w s') := by
  by_cases hframe : frame.isDefinition = true
  · cases h with
    | definition hvalue hblock =>
        simp only [Frame.requests, hT.room]
        exact .mk (hT.defineWithin _ (hT.value hblock hvalue hv)) hs
    | _ => cases hframe
  · exact h.requests (by simpa using hframe) hT.limited hv hs

/-- Corresponding machines take corresponding steps. -/
theorem step_alike (hT : T.Sound S world world' config config') (patience : Nat)
    (h : Alike T S m m') :
    TurnsAlike T S (m.step world config patience) (m'.step world' config' patience) := by
  obtain ⟨work, frames, pending, blame, results, s⟩ := m
  obtain ⟨work', frames', pending', blame', results', s'⟩ := m'
  obtain ⟨hwork, hframes, hpending, hblame, hresults, hs⟩ := h
  obtain rfl : blame = blame' := hblame
  cases hpending with
  | some hv =>
      cases hframes with
      | nil => exact .mk _ ⟨hwork, .nil, .some hv, rfl, hresults, hs⟩
      | @cons entry entry' frames frames' hentry hframes =>
          obtain ⟨frame, before⟩ := entry
          obtain ⟨frame', before'⟩ := entry'
          obtain ⟨hframe, rfl⟩ := hentry
          by_cases hfinish : frame = .finish
          · subst hfinish
            cases hframe
            refine .mk _ ⟨hwork, hframes, .none, rfl, ?_, hs⟩
            exact List.rel_append hresults (.cons hv .nil)
          · have hfinish' : frame' ≠ .finish := by
              rintro rfl
              cases hframe
              exact hfinish rfl
            rw [step_deliver _ _ _ _ _ _ _ _ _ _ _ hfinish,
              step_deliver _ _ _ _ _ _ _ _ _ _ _ hfinish', ← hT.room]
            exact proceed_alike hT patience _ (frame_alike hT hframe hv hs)
              ⟨hwork, hframes, .none, rfl, hresults, hs⟩
  | none =>
      cases hwork with
      | nil => exact .mk _ ⟨.nil, hframes, .none, rfl, hresults, hs⟩
      | @cons item item' work work' hitem hwork =>
          obtain ⟨expr, env⟩ := item
          obtain ⟨expr', env'⟩ := item'
          obtain ⟨rfl, hscene⟩ := hitem
          rw [step_start, step_start, ← hT.room]
          exact proceed_alike hT patience _ (.mk (hT.requests _ hscene) hs)
            ⟨hwork, hframes, .none, rfl, hresults, hs⟩

theorem outcome_alike (h : Alike T S m m') : Outcome.Alike T m.outcome m'.outcome := by
  obtain ⟨work, frames, pending, blame, results, s⟩ := m
  obtain ⟨work', frames', pending', blame', results', s'⟩ := m'
  obtain ⟨-, hframes, -, -, hresults, -⟩ := h
  cases hframes with
  | cons => exact .aborted _
  | nil =>
      cases hresults with
      | nil => exact .aborted _
      | cons hv hrest =>
          cases hrest with
          | nil => exact .value hv
          | cons => exact .aborted _

theorem stopped_alike (h : Alike T S m m') (stop : Stop) :
    Outcome.Alike T (m.stopped stop) (m'.stopped stop) := by
  cases stop with
  | failed cause =>
      rw [stopped, stopped, h.blame]
      exact .failed cause _
  | aborted abort => exact .aborted abort
  | unfinished => exact .unfinished

/-- Corresponding machines end alike and leave related states. -/
theorem run_alike (hT : T.Sound S world world' config config') (fuel : Nat) (h : Alike T S m m') :
    Outcome.Alike T (m.run world config fuel).1 (m'.run world' config' fuel).1 ∧
      Alike T S (m.run world config fuel).2 (m'.run world' config' fuel).2 := by
  induction fuel generalizing m m' with
  | zero => exact ⟨.unfinished, h⟩
  | succ fuel ih =>
      have hstep := step_alike hT fuel h
      simp only [run]
      revert hstep
      generalize m.step world config fuel = turned
      generalize m'.step world' config' fuel = turned'
      rintro ⟨status, hafter⟩
      cases status with
      | running => exact ih hafter
      | «over» => exact ⟨outcome_alike hafter, hafter⟩
      | stopped stop => exact ⟨stopped_alike hafter stop, hafter⟩

end Machine

/-- Corresponding evaluations end alike and leave related states. -/
theorem evaluateWithin_alike {T : Ties} {S : ω → ω' → Prop} {world : World ω} {world' : World ω'}
    {config config' : Config} (hT : T.Sound S world world' config config') (fuel : Nat) {expr : Expr}
    {env env' : Env} {s : ω} {s' : ω'} (hscene : T.scene expr env env') (hs : S s s') :
    Outcome.Alike T (evaluateWithin fuel world config env expr s).1
        (evaluateWithin fuel world' config' env' expr s').1 ∧
      S (evaluateWithin fuel world config env expr s).2
        (evaluateWithin fuel world' config' env' expr s').2 := by
  obtain ⟨houtcome, hfinal⟩ := Machine.run_alike hT fuel (Machine.start_alike hscene hs)
  exact ⟨houtcome, hfinal.world⟩

namespace Machine

variable {T : Ties} {S : ω → ω → Prop} {world : World ω} {config : Config} {m m' : Machine ω}

/-- A machine that is tied to itself stays so in every state that it reaches. -/
theorem reaches_alike (hT : T.Sound S world world config config)
    (hreaches : Reaches world config m m') (h : Alike T S m m) : Alike T S m' m' := by
  refine Reaches.preserves (P := fun m => Alike T S m m) ?_ h hreaches
  rintro m m' h ⟨patience, hstep⟩
  have hturns := step_alike hT patience h
  rw [hstep] at hturns
  cases hturns with
  | mk status h => exact h

end Machine

end RollScript

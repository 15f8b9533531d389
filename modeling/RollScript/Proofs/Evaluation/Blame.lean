import RollScript.Proofs.Evaluation.Fulfilment
import RollScript.Proofs.Evaluation.Keeping
import RollScript.Proofs.Grammar.Spans

/-!
# Blame

An evaluation that fails blames a node of the program, and the right one: the name that has no value,
or the application in which a value could not be used. Read `blame_is_precise` first. Every frame is
kept with the expression under whose evaluation it was pushed, and a frame that computes with its
value is pushed for an application only (`Blames`): a rule for another expression, or a frame of one,
calls no function and lets no such frame wait.
-/

namespace RollScript

variable {ω : Type}

/-- Whether an expression is an application. -/
def Expr.isApply : Expr → Bool
  | .apply .. => true
  | _ => false

/-- An error of the language fits the expression that is blamed for it: a name without a value is that
very name, and a value that could not be used was used in an application. -/
def Cause.Fits : Cause → Expr → Prop
  | .unbound x, node => ∃ span, node = .name span x
  | .mismatch .., node => ∃ span callee argument, node = .apply span callee argument
  | .domain .., node => ∃ span callee argument, node = .apply span callee argument

/-- Whether a request neither calls a function nor lets a frame wait that computes with its value. -/
def Request.isPlain : Request → Bool
  | .produce _ => true
  | .evaluate .. => true
  | .push _ _ frame => !frame.isComputing
  | .invoke .. => false
  | .call .. => false

/-- Only an application asks for things that are not plain. -/
def Fair (blame : Expr) (requests : List Request) : Prop :=
  blame.isApply = true ∨ ∀ request ∈ requests, request.isPlain = true

/-- Waiting frames are blamed on nodes of a tree, and those that compute with their values on
applications. -/
def Blames (tree : Expr) (frames : List (Frame × Expr)) : Prop :=
  ∀ entry ∈ frames, tree.Contains entry.2 ∧ (entry.1.isComputing = true → entry.2.isApply = true)

/-! ## Plain rules -/

section Rules

variable {request : Request}

theorem elementNext_plain (done : List Value) (env : Env) (exprs : List Expr)
    (h : request ∈ elementNext done env exprs) : request.isPlain = true := by
  cases exprs with
  | nil =>
      rw [List.mem_singleton.1 h]
      rfl
  | cons e rest =>
      rw [List.mem_singleton.1 h]
      rfl

theorem defineWithin_plain {room : Nat} {done : List (Text × Entry)} {body : Expr} {env : Env}
    {rest : List (Text × Expr)} {requests : List Request}
    (hdefine : defineWithin room done body env rest = .ok requests) (h : request ∈ requests) :
    request.isPlain = true := by
  unfold defineWithin at hdefine
  split at hdefine
  · cases hdefine
  · cases hdefine
    rcases Machine.defineNext_cases done body env rest with ⟨entries, hnext⟩ |
      ⟨done', name, value, rest', hnext⟩
    · rw [hnext] at h
      rw [List.mem_singleton.1 h]
      rfl
    · rw [hnext] at h
      rw [List.mem_singleton.1 h]
      rfl

theorem Expr.requests_fair {room : Nat} {expr : Expr} {env : Env} {requests : List Request}
    (h : expr.requests room env = .ok requests) : Fair expr requests := by
  cases expr with
  | apply => exact .inl rfl
  | number | string | unit | function | choice =>
      cases h
      exact .inr (by simp [Request.isPlain, Frame.isComputing])
  | name span x =>
      simp only [Expr.requests] at h
      split at h
      · cases h
        exact .inr (by simp [Request.isPlain])
      · cases h
  | array span elements =>
      cases h
      exact .inr fun request hrequest => elementNext_plain [] env elements hrequest
  | block span bindings body => exact .inr fun request hrequest => defineWithin_plain h hrequest

theorem Frame.requests_plain {world : World ω} {config : Config} {frame : Frame} {v : Value}
    {s t : ω} {requests : List Request} (hframe : frame.isComputing = false)
    (hhost : ∀ id saved, frame ≠ .host id saved)
    (h : frame.requests world config v s = (.ok requests, t)) (hrequest : request ∈ requests) :
    request.isPlain = true := by
  cases frame with
  | finish =>
      cases h
      exact absurd hrequest List.not_mem_nil
  | element done rest env =>
      cases h
      exact elementNext_plain (v :: done) env rest hrequest
  | definition done name rest body env => exact defineWithin_plain (Prod.mk.inj h).1 hrequest
  | branch whenTrue whenFalse env =>
      cases h
      rw [List.mem_singleton.1 hrequest]
      rfl
  | host id saved => exact absurd rfl (hhost id saved)
  | callee | argument | repetition | index | mapped | combining | combined | selected | rolled
  | judged | exploded | repeated => cases hframe

end Rules

/-! ## A turn of the machine -/

theorem Blames.push {tree blame : Expr} {frames : List (Frame × Expr)} (h : Blames tree frames)
    (hnode : tree.Contains blame) {frame : Frame}
    (hframe : frame.isComputing = true → blame.isApply = true) :
    Blames tree ((frame, blame) :: frames) :=
  List.forall_mem_cons.2 ⟨⟨hnode, hframe⟩, h⟩

theorem Fair.tail {blame : Expr} {request : Request} {rest : List Request}
    (h : Fair blame (request :: rest)) : Fair blame rest :=
  h.imp_right fun hplain other hother => hplain other (List.mem_cons_of_mem request hother)

theorem Fair.head {blame : Expr} {request : Request} {rest : List Request}
    (h : Fair blame (request :: rest)) (hrequest : request.isPlain = false) :
    blame.isApply = true := by
  rcases h with happly | hplain
  · exact happly
  · rw [hplain request List.mem_cons_self] at hrequest
    cases hrequest

namespace Machine

variable {world : World ω} {config : Config} {tree : Expr} {m m' : Machine ω} {status : Status}

theorem callWithin_stop {patience budget : Nat} {f : Function} {v : Value} {s t : ω} {cause : Cause}
    (h : callWithin world patience budget f v s = (.error (.failed cause), t)) :
    CallStop world (.failed cause) := by
  rcases callWithin_error h with ⟨-, hdeep, -⟩ | ⟨-, hrespond⟩
  · cases hdeep
  · exact Function.respond_stop hrespond

/-- Requests are fulfilled under one blame, and only calls for an application fail. -/
theorem Fulfils.blames {budget : Nat} {requests : List Request} {calls : List (Function × Value)}
    (h : Fulfils world budget requests m calls status m') (hnode : tree.Contains m.blame)
    (hfair : Fair m.blame requests) (hframes : Blames tree m.frames) :
    m'.blame = m.blame ∧ Blames tree m'.frames ∧
      ∀ cause, status = .stopped (.failed cause) →
        m.blame.isApply = true ∧ CallStop world (.failed cause) := by
  induction h with
  | done | unfinished | twice => exact ⟨rfl, hframes, fun cause hcause => by cases hcause⟩
  | produce _ _ ih | evaluate _ ih => exact ih hnode hfair.tail hframes
  | push _ ih =>
      refine ih hnode hfair.tail (hframes.push hnode fun hframe => ?_)
      exact hfair.head (by simp [Request.isPlain, hframe])
  | call _ ih =>
      have happly := hfair.head rfl
      exact ih hnode (.inl happly) (hframes.push hnode fun _ => happly)
  | refused rest hcall =>
      refine ⟨rfl, hframes, fun cause hcause => ?_⟩
      cases hcause
      exact ⟨hfair.head rfl, callWithin_stop hcall⟩
  -- a call is made for an application, so whatever it asks for is fair
  | invoke _ _ ih => exact ih hnode (.inl (hfair.head rfl)) hframes

/-- What a call fails with fits the application that it is made for. -/
theorem fits_of_call {node : Expr} {cause : Cause} (hnode : node.isApply = true)
    (h : CallStop world.alone (.failed cause)) :
    cause.Fits node := by
  have happly : ∃ span callee argument, node = .apply span callee argument := by
    cases node with
    | apply span callee argument => exact ⟨span, callee, argument, rfl⟩
    | _ => cases hnode
  cases cause with
  | mismatch | domain => exact happly
  | unbound x =>
      cases h with
      | arguments harguments =>
          rcases harguments with hvalues | hmisapplied
          · cases hvalues
          · cases hmisapplied
      | draw hdraw => cases hdraw
      | host hcall => cases hcall

theorem GoesOn.blames {returned : Except Stop (List Request)} {t : ω} {calls : List (Function × Value)}
    (h : GoesOn world.alone m (returned, t) calls status m') (hnode : tree.Contains m.blame)
    (hframes : Blames tree m.frames)
    (hfair : ∀ requests, returned = .ok requests → Fair m.blame requests)
    (hstop : ∀ cause, returned = .error (.failed cause) → cause.Fits m.blame) :
    Blames tree m'.frames ∧ ∀ cause, status = .stopped (.failed cause) →
      tree.Contains m'.blame ∧ cause.Fits m'.blame := by
  cases h with
  | stopped stop =>
      refine ⟨hframes, fun cause hcause => ⟨hnode, ?_⟩⟩
      cases hcause
      exact hstop cause rfl
  | fulfilled hfulfils =>
      obtain ⟨hblame, hafter, hfails⟩ := hfulfils.blames hnode (hfair _ rfl) hframes
      refine ⟨hafter, fun cause hcause => ?_⟩
      obtain ⟨happly, hcall⟩ := hfails cause hcause
      rw [hblame]
      exact ⟨hnode, fits_of_call happly hcall⟩

/-- What a step fails with fits the expression that is blamed for it. -/
theorem Steps.blames {calls : List (Function × Value)}
    (h : Steps world.alone config m calls status m')
    (hwork : ∀ item ∈ m.work, tree.Contains item.1)
    (hhost : ∀ entry ∈ m.frames, ∀ id saved, entry.1 ≠ .host id saved)
    (hframes : Blames tree m.frames) :
    Blames tree m'.frames ∧ ∀ cause, status = .stopped (.failed cause) →
      tree.Contains m'.blame ∧ cause.Fits m'.blame := by
  cases h with
  | idle | unbalanced => exact ⟨hframes, fun cause hcause => by cases hcause⟩
  | finish => exact ⟨(List.forall_mem_cons.1 hframes).2, fun cause hcause => by cases hcause⟩
  | @deliver _ frame blame _ _ _ _ _ returned _ _ _ _ hreturned hgoes =>
      obtain ⟨⟨hnode, hcomputes⟩, hrest⟩ := List.forall_mem_cons.1 hframes
      have hhost := hhost (frame, blame) List.mem_cons_self
      obtain ⟨returned, t⟩ := returned
      refine hgoes.blames hnode hrest ?_ ?_
      · rintro requests rfl
        by_cases hcomputing : frame.isComputing = true
        · exact .inl (hcomputes hcomputing)
        · exact .inr fun request hrequest =>
            Frame.requests_plain (by simpa using hcomputing) hhost hreturned hrequest
      · rintro cause rfl
        rcases Frame.requests_stop hhost hreturned with ⟨hcomputing, hvalues⟩ | hdeep
        · have hcall : CallStop world.alone (.failed cause) := .values hvalues
          exact fits_of_call (hcomputes hcomputing) hcall
        · cases hdeep
  | @start expr env work _ _ _ _ returned _ _ _ hreturned hgoes =>
      have hnode : tree.Contains expr := hwork (expr, env) List.mem_cons_self
      refine hgoes.blames hnode hframes ?_ ?_
      · rintro requests rfl
        exact Expr.requests_fair hreturned
      · rintro cause rfl
        rcases Expr.requests_stop hreturned with ⟨span, x, rfl, hstop⟩ | hdeep
        · cases hstop
          exact ⟨span, rfl⟩
        · cases hdeep

end Machine

/-! ## Whole programs -/

theorem Machine.Reaches.blames {world : World ω} {config : Config} {tree : Expr} {s : ω}
    {m : Machine ω} (h : Reaches world.alone config (start tree (rootEnvironment .standard []) s) m) :
    Blames tree m.frames := by
  induction h with
  | refl =>
      intro entry hentry
      rw [List.mem_singleton.1 hentry]
      exact ⟨.refl, fun hfinish => by cases hfinish⟩
  | tail hreaches hturn ih =>
      obtain ⟨patience, hstep⟩ := hturn
      have halike := standard (fun _ _ => Expr.Contains.child) .refl hreaches
      exact ((steps_of_step hstep).blames halike.code halike.not_host ih).1

open Machine

/-- The evaluation of a program without values from the host blames a node of the program that the error
fits. -/
theorem evaluateWithin_blames (world : World ω) (config : Config) (fuel : Nat) {tree : Expr} {s t : ω}
    {cause : Cause} {node : Expr}
    (h : evaluateWithin fuel world config (rootEnvironment .standard []) tree s =
      (.failed cause node, t)) : tree.Contains node ∧ cause.Fits node := by
  obtain ⟨final, hrun⟩ := evaluateWithin_alone (fun _ _ => Expr.Contains.child) .refl h
  obtain ⟨last, hlast, hend⟩ := run_ends hrun
  have halike := Reaches.standard (fun _ _ => Expr.Contains.child) .refl hlast
  rcases hend with ⟨hunfinished, -⟩ | ⟨patience, ⟨-, hover⟩ | ⟨stop, hstop, hstopped⟩⟩
  · cases hunfinished
  · unfold outcome at hover
    split at hover <;> cases hover
  · cases stop with
    | failed other =>
        obtain ⟨rfl, rfl⟩ : cause = other ∧ node = final.blame := by
          simpa [stopped] using hstopped
        exact ((steps_of_step hstop).blames halike.code halike.not_host hlast.blames).2 cause rfl
    | aborted abort => cases hstopped
    | unfinished => cases hstopped

/-- Blame is precise. A program that is run without values from the host and fails is blamed at the
place of a node of its tree: of the very name that has no value, or else of an application. That place
is a part of the source that is not empty. -/
theorem blame_is_precise (world : World ω) (config : Config) (source : Text) (s t : ω) (cause : Cause)
    (span : Span)
    (h : Evaluator.run { world, config } [] source s = (.evaluationError cause span, t)) :
    ∃ tree node, parse source = .ok tree ∧ tree.Contains node ∧ node.span = span ∧
      cause.Fits node ∧ span.start < span.stop ∧ span.stop ≤ source.length := by
  cases hparse : parse source with
  | error error =>
      rw [Evaluator.run_of_error hparse] at h
      cases h
  | ok tree =>
      rw [Evaluator.run_of_parse hparse] at h
      obtain ⟨hresult, -⟩ := Prod.mk.inj h
      generalize hevaluated : evaluateWithin stepLimit world config (rootEnvironment .standard [])
        tree s = evaluated at hresult
      obtain ⟨outcome, state⟩ := evaluated
      obtain ⟨node, rfl, rfl⟩ : ∃ node, outcome = .failed cause node ∧ node.span = span := by
        cases outcome with
        | failed cause node =>
            cases hresult
            exact ⟨node, rfl, rfl⟩
        | value | aborted | unfinished => cases hresult
      obtain ⟨hnode, hfits⟩ := evaluateWithin_blames world config stepLimit hevaluated
      obtain ⟨-, htext, hstop⟩ := parse_spread hparse node hnode
      exact ⟨tree, node, rfl, hnode, rfl, hfits, htext, hstop⟩

/-- The cause and the place of the error of evaluation that a program ended with. -/
def Result.fault? : Result → Option (Cause × Span)
  | .evaluationError cause span => some (cause, span)
  | _ => none

theorem Result.eq_of_fault? {result : Result} {cause : Cause} {span : Span}
    (h : result.fault? = some (cause, span)) : result = .evaluationError cause span := by
  cases result with
  | evaluationError =>
      cases h
      rfl
  | _ => cases h

/-- A world without random bits and without functions of the host. -/
def World.bare : World Unit where
  draw _ _ := none
  call _ _ s := (.error (.aborted .misapplied), s)
  resume _ _ _ s := (.error (.aborted .misapplied), s)
  room := 100

/-- A function that divides by the second element of an array it is mapped over. -/
def divides : Text :=
  .ofString "let f @n 10 / n in map [1. 0], f"

theorem divides_blamed :
    Evaluator.run { world := .bare } [] divides () =
        (.evaluationError (.domain .divisionByZero) ⟨9, 15⟩, ()) ∧
      ∃ tree node, parse divides = .ok tree ∧ tree.Contains node ∧ node.span = ⟨9, 15⟩ ∧
        Cause.Fits (.domain .divisionByZero) node ∧ 9 < 15 ∧ 15 ≤ divides.length := by
  have hfault : (Evaluator.run { world := .bare } [] divides ()).1.fault? =
      some (.domain .divisionByZero, ⟨9, 15⟩) := by decide +kernel
  have hrun : Evaluator.run { world := .bare } [] divides () =
      (.evaluationError (.domain .divisionByZero) ⟨9, 15⟩, ()) :=
    Prod.ext (Result.eq_of_fault? hfault) (Subsingleton.elim _ _)
  exact ⟨hrun, blame_is_precise .bare .standard divides () () _ _ hrun⟩

end RollScript

import RollScript.Proofs.Evaluation.Following
import RollScript.Proofs.Values.Likeness

/-!
# Rules that answer alike

Two evaluations of the same expressions are tied together by `Ties`: which functions correspond to
each other, which environments do for an expression that is evaluated in them, and which unfinished
blocks. Frames and requests correspond if their parts do. The lemmas say, for each rule of the
machine, that corresponding parts ask for corresponding things. What a rule needs of the ties is
stated in three structures: `Ties.Parts` for expressions inside others, `Ties.Primitives` for
primitives, and `Ties.Scopes` for names, closures and blocks.
-/

namespace RollScript

/-- What ties two evaluations together. -/
structure Ties where
  /-- Corresponding functions. -/
  function : Function → Function → Prop
  /-- An expression with corresponding environments for it. -/
  scene : Expr → Env → Env → Prop
  /-- Corresponding blocks whose definitions are under way: the definitions done, those to come, the
  body, and the environments that the blocks keep. -/
  block : List (Text × Entry) → List (Text × Entry) → List (Text × Expr) → Expr → Env → Env → Prop
  /-- That rolls are limited alike. -/
  limits : Prop

variable {T : Ties}

open Value (Alike)

/-- Corresponding frames. A frame of the host corresponds to none. -/
inductive Frame.Alike (T : Ties) : Frame → Frame → Prop where
  | finish : Alike T .finish .finish
  | callee {operand : Expr} {env env' : Env} :
      T.scene operand env env' → Alike T (.callee operand env) (.callee operand env')
  | argument {f g : Function} : T.function f g → Alike T (.argument f) (.argument g)
  | element {done done' : List Value} {e : Expr} {rest : List Expr} {env env' : Env} :
      List.Forall₂ (Value.Alike T.function) done done' → T.scene e env env' →
      (∀ e ∈ rest, T.scene e env env') → Alike T (.element done rest env) (.element done' rest env')
  | repetition {done done' : List Value} {left : Nat} {expr : Expr} {env env' : Env} :
      List.Forall₂ (Value.Alike T.function) done done' → T.scene expr env env' →
      Alike T (.repetition done left expr env) (.repetition done' left expr env')
  | index {items items' : List Value} :
      List.Forall₂ (Value.Alike T.function) items items' → Alike T (.index items) (.index items')
  | definition {done done' : List (Text × Entry)} {name : Text} {value : Expr}
      {rest : List (Text × Expr)} {body : Expr} {env env' : Env} :
      value.isLiteral = false → T.block done done' ((name, value) :: rest) body env env' →
      Alike T (.definition done name rest body env) (.definition done' name rest body env')
  | branch {whenTrue whenFalse : Expr} {env env' : Env} :
      T.scene whenTrue env env' → T.scene whenFalse env env' →
      Alike T (.branch whenTrue whenFalse env) (.branch whenTrue whenFalse env')
  | mapped {f g : Function} {done done' rest rest' : List Value} :
      T.function f g → List.Forall₂ (Value.Alike T.function) done done' →
      List.Forall₂ (Value.Alike T.function) rest rest' →
      Alike T (.mapped f done rest) (.mapped g done' rest')
  | combining {f g : Function} {item item' : Value} {rest rest' : List Value} :
      T.function f g → Value.Alike T.function item item' →
      List.Forall₂ (Value.Alike T.function) rest rest' →
      Alike T (.combining f item rest) (.combining g item' rest')
  | combined {f g : Function} {rest rest' : List Value} :
      T.function f g → List.Forall₂ (Value.Alike T.function) rest rest' →
      Alike T (.combined f rest) (.combined g rest')
  | selected {items items' : List Value} :
      List.Forall₂ (Value.Alike T.function) items items' →
      Alike T (.selected items) (.selected items')
  | rolled {roll roll' accept accept' : Function} {attempts : Nat} :
      T.limits → T.function roll roll' → T.function accept accept' →
      Alike T (.rolled roll accept attempts) (.rolled roll' accept' attempts)
  | judged {roll roll' accept accept' : Function} {attempts : Nat} {result result' : Value} :
      T.limits → T.function roll roll' → T.function accept accept' →
      Value.Alike T.function result result' →
      Alike T (.judged roll accept attempts result) (.judged roll' accept' attempts result')
  | exploded {roll roll' again again' : Function} {done done' : List Value} {left : Nat} :
      T.function roll roll' → T.function again again' →
      List.Forall₂ (Value.Alike T.function) done done' →
      Alike T (.exploded roll again done left) (.exploded roll' again' done' left)
  | repeated {roll roll' again again' : Function} {done done' : List Value} {left : Nat} :
      T.function roll roll' → T.function again again' →
      List.Forall₂ (Value.Alike T.function) done done' →
      Alike T (.repeated roll again done left) (.repeated roll' again' done' left)

/-- Whether a frame waits for the value of a definition. -/
def Frame.isDefinition : Frame → Bool
  | .definition .. => true
  | _ => false

/-- Corresponding requests. -/
inductive Request.Alike (T : Ties) : Request → Request → Prop where
  | produce {v w : Value} : Value.Alike T.function v w → Alike T (.produce v) (.produce w)
  | evaluate {expr : Expr} {env env' : Env} :
      T.scene expr env env' → Alike T (.evaluate expr env) (.evaluate expr env')
  | push {expr : Expr} {env env' : Env} {frame frame' : Frame} :
      T.scene expr env env' → Frame.Alike T frame frame' →
      Alike T (.push expr env frame) (.push expr env' frame')
  | invoke {f g : Function} {v w : Value} :
      T.function f g → Value.Alike T.function v w → Alike T (.invoke f v) (.invoke g w)
  | call {f g : Function} {v w : Value} {frame frame' : Frame} :
      T.function f g → Value.Alike T.function v w → Frame.Alike T frame frame' →
      Alike T (.call f v frame) (.call g w frame')

/-- Two rules ask for corresponding things in order. -/
abbrev RequestsAlike (T : Ties) : List Request → List Request → Prop :=
  List.Forall₂ (Request.Alike T)

theorem requests_one {request request' : Request} (h : Request.Alike T request request') :
    RequestsAlike T [request] [request'] :=
  .cons h .nil

theorem answers_one {request request' : Request} (h : Request.Alike T request request') :
    AnswersAlike (RequestsAlike T) (.ok [request]) (.ok [request']) :=
  .ok (requests_one h)

theorem answers_produce {computed computed' : Except Stop Value}
    (h : AnswersAlike (Alike T.function) computed computed') :
    AnswersAlike (RequestsAlike T) (computed.map fun v => [.produce v])
      (computed'.map fun v => [.produce v]) :=
  h.map fun _ _ hv => requests_one (.produce hv)

/-! ## Ties that tie more together -/

/-- Everything that two ties have in common but for blocks goes over from the first to the second. -/
structure Ties.Le (T T' : Ties) : Prop where
  function {f g : Function} : T.function f g → T'.function f g
  value {v w : Value} : Alike T.function v w → Alike T'.function v w
  scene {expr : Expr} {env env' : Env} : T.scene expr env env' → T'.scene expr env env'
  limits : T.limits → T'.limits

section Le

variable {T' : Ties} (hle : T.Le T')

include hle

theorem Ties.Le.values {vs ws : List Value} (h : List.Forall₂ (Alike T.function) vs ws) :
    List.Forall₂ (Alike T'.function) vs ws :=
  h.imp fun _ _ => hle.value

/-- Frames go on to correspond, those of definitions if their blocks do. -/
theorem Frame.Alike.imp {frame frame' : Frame}
    (hblock : frame.isDefinition = true → ∀ done done' rest body env env',
      T.block done done' rest body env env' → T'.block done done' rest body env env')
    (h : Frame.Alike T frame frame') : Frame.Alike T' frame frame' := by
  cases h with
  | finish => exact .finish
  | callee hscene => exact .callee (hle.scene hscene)
  | argument hf => exact .argument (hle.function hf)
  | element hdone hscene hrest =>
      exact .element (hle.values hdone) (hle.scene hscene) fun e he => hle.scene (hrest e he)
  | repetition hdone hscene => exact .repetition (hle.values hdone) (hle.scene hscene)
  | index hitems => exact .index (hle.values hitems)
  | definition hvalue hrest => exact .definition hvalue (hblock rfl _ _ _ _ _ _ hrest)
  | branch htrue hfalse => exact .branch (hle.scene htrue) (hle.scene hfalse)
  | mapped hf hdone hrest => exact .mapped (hle.function hf) (hle.values hdone) (hle.values hrest)
  | combining hf hitem hrest =>
      exact .combining (hle.function hf) (hle.value hitem) (hle.values hrest)
  | combined hf hrest => exact .combined (hle.function hf) (hle.values hrest)
  | selected hitems => exact .selected (hle.values hitems)
  | rolled hlimits hroll haccept =>
      exact .rolled (hle.limits hlimits) (hle.function hroll) (hle.function haccept)
  | judged hlimits hroll haccept hresult =>
      exact .judged (hle.limits hlimits) (hle.function hroll) (hle.function haccept)
        (hle.value hresult)
  | exploded hroll hagain hdone =>
      exact .exploded (hle.function hroll) (hle.function hagain) (hle.values hdone)
  | repeated hroll hagain hdone =>
      exact .repeated (hle.function hroll) (hle.function hagain) (hle.values hdone)

theorem Request.Alike.imp
    (hblock : ∀ done done' rest body env env',
      T.block done done' rest body env env' → T'.block done done' rest body env env')
    {request request' : Request} (h : Request.Alike T request request') :
    Request.Alike T' request request' := by
  cases h with
  | produce hv => exact .produce (hle.value hv)
  | evaluate hscene => exact .evaluate (hle.scene hscene)
  | push hscene hframe => exact .push (hle.scene hscene) (hframe.imp hle fun _ => hblock)
  | invoke hf hv => exact .invoke (hle.function hf) (hle.value hv)
  | call hf hv hframe =>
      exact .call (hle.function hf) (hle.value hv) (hframe.imp hle fun _ => hblock)

end Le

/-! ## Array literals, repetitions and applications -/

section Rules

variable {done done' items items' : List Value} {v w : Value} {env env' : Env}

theorem alike_reverse (h : List.Forall₂ (Alike T.function) done done') :
    Alike T.function (.array done.reverse) (.array done'.reverse) :=
  .array (List.rel_reverse h)

theorem elementNext_alike (hdone : List.Forall₂ (Alike T.function) done done') {exprs : List Expr}
    (hexprs : ∀ e ∈ exprs, T.scene e env env') :
    RequestsAlike T (elementNext done env exprs) (elementNext done' env' exprs) := by
  cases exprs with
  | nil => exact requests_one (.produce (alike_reverse hdone))
  | cons e rest =>
      have he := hexprs e List.mem_cons_self
      refine requests_one (.push he (.element hdone he ?_))
      exact fun other hother => hexprs other (List.mem_cons_of_mem e hother)

theorem repeatNext_alike (hdone : List.Forall₂ (Alike T.function) done done') {expr : Expr}
    (hexpr : T.scene expr env env') (left : Nat) :
    RequestsAlike T (repeatNext done expr env left) (repeatNext done' expr env' left) := by
  cases left with
  | zero => exact requests_one (.produce (alike_reverse hdone))
  | succ left => exact requests_one (.push hexpr (.repetition hdone hexpr))

theorem applyTo_alike {operand : Expr} (hoperand : T.scene operand env env')
    (hv : Alike T.function v w) :
    AnswersAlike (RequestsAlike T) (applyTo operand env v) (applyTo operand env' w) := by
  cases hv with
  | number x =>
      simp only [applyTo]
      cases Number.repetitions x with
      | error stop => exact .error stop
      | ok count => exact .ok (repeatNext_alike .nil hoperand count)
  | string | unit => exact .error _
  | array hitems => exact answers_one (.push hoperand (.index hitems))
  | function hf => exact answers_one (.push hoperand (.argument hf))

theorem elementAt_alike (hitems : List.Forall₂ (Alike T.function) items items')
    (hv : Alike T.function v w) :
    AnswersAlike (RequestsAlike T) (elementAt items v) (elementAt items' w) := by
  have hget : ∀ i : Nat, Option.Rel (Alike T.function) items[i]? items'[i]? := by
    induction hitems with
    | nil => exact fun i => .none
    | cons hfirst _ ih =>
        intro i
        cases i with
        | zero => exact .some hfirst
        | succ i => exact ih i
  cases hv with
  | number x =>
      simp only [elementAt, hitems.length_eq]
      cases Number.rounded x with
      | error stop => exact .error stop
      | ok i =>
          simp only [bind, Except.bind]
          split
          · exact .error _
          · have hi := hget i.toNat
            revert hi
            generalize items[i.toNat]? = found
            generalize items'[i.toNat]? = found'
            intro hi
            cases hi with
            | none => exact .error _
            | some hitem => exact answers_one (.produce hitem)
  | string | unit => exact .error _
  | array hothers => exact answers_mismatch (.array hothers) .number
  | function hf => exact answers_mismatch (.function hf) .number

end Rules

/-! ## Combinators -/

namespace Combinator

variable {f g roll roll' accept accept' again again' : Function}
  {done done' items items' rest rest' : List Value} {v w item item' : Value}

theorem mapNext_alike (hf : T.function f g) (hdone : List.Forall₂ (Alike T.function) done done')
    (hitems : List.Forall₂ (Alike T.function) items items') :
    RequestsAlike T (mapNext f done items) (mapNext g done' items') := by
  cases hitems with
  | nil => exact requests_one (.produce (alike_reverse hdone))
  | cons hv hrest => exact requests_one (.call hf hv (.mapped hf hdone hrest))

theorem reduceNext_alike (hf : T.function f g) (hv : Alike T.function v w)
    (hitems : List.Forall₂ (Alike T.function) items items') :
    RequestsAlike T (reduceNext f v items) (reduceNext g w items') := by
  cases hitems with
  | nil => exact requests_one (.produce hv)
  | cons hitem hrest => exact requests_one (.call hf hv (.combining hf hitem hrest))

theorem reduceItem_alike (hf : T.function f g) (hitem : Alike T.function item item')
    (hrest : List.Forall₂ (Alike T.function) rest rest') (hv : Alike T.function v w) :
    AnswersAlike (RequestsAlike T) (reduceItem f item rest v) (reduceItem g item' rest' w) := by
  cases hv with
  | function hpartial => exact answers_one (.call hpartial hitem (.combined hf hrest))
  | number | string | unit => exact .error _
  | array hothers => exact answers_mismatch (.array hothers) .function

theorem dropSelected_alike (hitems : List.Forall₂ (Alike T.function) items items')
    (hv : Alike T.function v w) :
    AnswersAlike (RequestsAlike T) (dropSelected items v) (dropSelected items' w) := by
  cases hv with
  | array hselected =>
      exact answers_one (.produce (.array (Tally.remove_alike hselected hitems)))
  | number | string | unit => exact .error _
  | function hf => exact answers_mismatch (.function hf) .array

theorem rollAgain_alike (hlimits : T.limits) (hroll : T.function roll roll')
    (haccept : T.function accept accept') (attempts : Nat) :
    RequestsAlike T (rollAgain roll accept attempts) (rollAgain roll' accept' attempts) :=
  requests_one (.call hroll .unit (.rolled hlimits hroll haccept))

theorem decideReroll_alike {config config' : Config} (hlimits : T.limits)
    (hsame : config.maxRerolls = config'.maxRerolls ∧ config.whenExhausted = config'.whenExhausted)
    (hroll : T.function roll roll') (haccept : T.function accept accept') (attempts : Nat)
    {result result' : Value} (hresult : Alike T.function result result')
    (hv : Alike T.function v w) :
    AnswersAlike (RequestsAlike T) (decideReroll config roll accept attempts result v)
      (decideReroll config' roll' accept' attempts result' w) := by
  simp only [decideReroll, hv.truthy_eq, hsame.1, hsame.2]
  split
  · exact answers_one (.produce hresult)
  · split
    · split
      · exact answers_one (.produce hresult)
      · exact .error _
    · exact .ok (rollAgain_alike hlimits hroll haccept (attempts + 1))

theorem nextBase_alike (hroll : T.function roll roll') (hagain : T.function again again')
    (hdone : List.Forall₂ (Alike T.function) done done') (left : Nat) :
    RequestsAlike T (nextBase roll again done left) (nextBase roll' again' done' left) := by
  cases left with
  | zero => exact requests_one (.produce (alike_reverse hdone))
  | succ left => exact requests_one (.call hroll .unit (.exploded hroll hagain hdone))

theorem decideExplode_alike (hroll : T.function roll roll') (hagain : T.function again again')
    (hdone : List.Forall₂ (Alike T.function) done done') (left : Nat)
    (hv : Alike T.function v w) :
    RequestsAlike T (decideExplode roll again done left v) (decideExplode roll' again' done' left w) := by
  simp only [decideExplode, hv.truthy_eq]
  split
  · exact requests_one (.call hroll .unit (.exploded hroll hagain hdone))
  · exact nextBase_alike hroll hagain hdone left

/-- Arguments that correspond to unfit ones are unfit themselves. -/
theorem start_unfit {F : Function → Function → Prop} {c : Combinator} {args args' : List Value}
    (h : List.Forall₂ (Alike F) args args') (hunfit : c.accepts args = false) :
    c.start args' = .error (.aborted .misapplied) := by
  fun_cases Combinator.start c args' with
  | case1 others g =>
      obtain _ | ⟨harray, _ | ⟨hfunction, ⟨⟩⟩⟩ := h
      obtain ⟨items, rfl⟩ := harray.array_right
      obtain ⟨f, rfl⟩ := hfunction.function_right
      cases hunfit
  | case2 others g initial =>
      obtain _ | ⟨harray, _ | ⟨hfunction, _ | ⟨-, ⟨⟩⟩⟩⟩ := h
      obtain ⟨items, rfl⟩ := harray.array_right
      obtain ⟨f, rfl⟩ := hfunction.function_right
      cases hunfit
  | case3 g others =>
      obtain _ | ⟨hfunction, _ | ⟨harray, ⟨⟩⟩⟩ := h
      obtain ⟨f, rfl⟩ := hfunction.function_right
      obtain ⟨items, rfl⟩ := harray.array_right
      cases hunfit
  | case4 roll accept =>
      obtain _ | ⟨hfirst, _ | ⟨hsecond, ⟨⟩⟩⟩ := h
      obtain ⟨roll, rfl⟩ := hfirst.function_right
      obtain ⟨accept, rfl⟩ := hsecond.function_right
      cases hunfit
  | case5 x roll again =>
      obtain _ | ⟨hnumber, _ | ⟨hfirst, _ | ⟨hsecond, ⟨⟩⟩⟩⟩ := h
      cases hnumber
      obtain ⟨roll, rfl⟩ := hfirst.function_right
      obtain ⟨again, rfl⟩ := hsecond.function_right
      cases hunfit
  | case6 => rfl

theorem start_alike {c : Combinator} (hreroll : c = .reroll → T.limits) {args args' : List Value}
    (h : List.Forall₂ (Alike T.function) args args') :
    AnswersAlike (RequestsAlike T) (c.start args) (c.start args') := by
  cases haccepts : c.accepts args with
  | false =>
      rw [start_of_not_accepts haccepts, start_unfit h haccepts]
      exact .error _
  | true =>
      fun_cases Combinator.accepts c args with
      | case1 items f =>
          obtain _ | ⟨harray, _ | ⟨hfunction, ⟨⟩⟩⟩ := h
          obtain ⟨others, rfl, hitems⟩ := harray.array_left
          obtain ⟨g, rfl, hf⟩ := hfunction.function_left
          exact .ok (mapNext_alike hf .nil hitems)
      | case2 items f initial =>
          obtain _ | ⟨harray, _ | ⟨hfunction, _ | ⟨hinitial, ⟨⟩⟩⟩⟩ := h
          obtain ⟨others, rfl, hitems⟩ := harray.array_left
          obtain ⟨g, rfl, hf⟩ := hfunction.function_left
          exact .ok (reduceNext_alike hf hinitial hitems)
      | case3 f items =>
          obtain _ | ⟨hfunction, _ | ⟨harray, ⟨⟩⟩⟩ := h
          obtain ⟨g, rfl, hf⟩ := hfunction.function_left
          obtain ⟨others, rfl, hitems⟩ := harray.array_left
          exact answers_one (.call hf (.array hitems) (.selected hitems))
      | case4 roll accept =>
          obtain _ | ⟨hfirst, _ | ⟨hsecond, ⟨⟩⟩⟩ := h
          obtain ⟨roll', rfl, hroll⟩ := hfirst.function_left
          obtain ⟨accept', rfl, haccept⟩ := hsecond.function_left
          exact .ok (rollAgain_alike (hreroll rfl) hroll haccept 1)
      | case5 x roll again =>
          obtain _ | ⟨hnumber, _ | ⟨hfirst, _ | ⟨hsecond, ⟨⟩⟩⟩⟩ := h
          cases hnumber
          obtain ⟨roll', rfl, hroll⟩ := hfirst.function_left
          obtain ⟨again', rfl, hagain⟩ := hsecond.function_left
          simp only [start]
          cases Number.repetitions x with
          | error stop => exact .error stop
          | ok count => exact .ok (nextBase_alike hroll hagain .nil count)
      | case6 => simp_all [accepts]

end Combinator

/-! ## Calls -/

variable {ω ω' : Type} {S : ω → ω' → Prop} {world : World ω} {world' : World ω'}

/-- What primitives need of the ties: a primitive corresponds to itself with corresponding arguments,
and goes on to do so with one more; and where one can be reached that draws, limits rolls or belongs
to the host, both sides do this alike. -/
structure Ties.Primitives (T : Ties) (S : ω → ω' → Prop) (world : World ω) (world' : World ω') :
    Prop where
  inversion {p : Primitive} {bound : List Value} {g : Function} :
    T.function (.primitive p bound) g →
    ∃ bound', g = .primitive p bound' ∧ List.Forall₂ (Alike T.function) bound bound'
  more {p : Primitive} {bound bound' : List Value} {v w : Value} {guard : Guard} :
    T.function (.primitive p bound) (.primitive p bound') → Alike T.function v w →
    p.guards[bound.length]? = some guard → guard.refusal? v = none → bound.length + 1 < p.arity →
    T.function (.primitive p (bound ++ [v])) (.primitive p (bound' ++ [w]))
  reroll {p : Primitive} {bound : List Value} {g : Function} :
    T.function (.primitive p bound) g → p.routine = .combinator .reroll → T.limits
  draws {p : Primitive} {bound : List Value} {g : Function} {die : Die} :
    T.function (.primitive p bound) g → p.routine = .die die →
    DrawsAlike S world.draw world'.draw
  host {p : Primitive} {bound : List Value} {g : Function} {id : Nat} :
    T.function (.primitive p bound) g → p.routine = .host id →
    ∀ args args' s s', List.Forall₂ (Alike T.function) args args' → S s s' →
      ResultsAlike (RequestsAlike T) S (world.call id args s) (world'.call id args' s')

theorem Ties.Primitives.perform {T : Ties} (hT : T.Primitives S world world') {p : Primitive}
    {bound : List Value} {g : Function} (hp : T.function (.primitive p bound) g) (patience : Nat)
    {args args' : List Value} (hargs : List.Forall₂ (Alike T.function) args args') {s : ω} {s' : ω'}
    (hs : S s s') :
    ResultsAlike (RequestsAlike T) S (p.routine.perform world patience args s)
      (p.routine.perform world' patience args' s') := by
  cases hroutine : p.routine with
  | operation op => exact .mk (answers_produce (op.apply_alike hargs)) hs
  | die die =>
      have hrolled := die.roll_alike (hT.draws hp hroutine) patience hargs hs
      simp only [Routine.perform]
      revert hrolled
      generalize die.roll world.draw patience args s = rolled
      generalize die.roll world'.draw patience args' s' = rolled'
      rintro ⟨hanswers, hstate⟩
      cases hanswers with
      | ok hv => exact .mk (answers_one (.produce hv)) hstate
      | error stop => exact .mk (.error stop) hstate
  | combinator c =>
      refine .mk (Combinator.start_alike (fun hc => ?_) hargs) hs
      exact hT.reroll hp (by rw [hroutine, hc])
  | host id => exact hT.host hp hroutine args args' s s' hargs hs

/-- Corresponding primitives do corresponding things with corresponding arguments. -/
theorem Ties.Primitives.respond {T : Ties} (hT : T.Primitives S world world') {p : Primitive}
    {bound bound' : List Value} (hp : T.function (.primitive p bound) (.primitive p bound'))
    (patience : Nat) {v w : Value} (hv : Alike T.function v w) {s : ω} {s' : ω'} (hs : S s s') :
    ResultsAlike (RequestsAlike T) S
      ((Function.primitive p bound).respond world patience v s)
      ((Function.primitive p bound').respond world' patience w s') := by
  obtain ⟨_, heq, hbound⟩ := hT.inversion hp
  cases heq
  simp only [Function.respond, ← hbound.length_eq]
  cases hguard : p.guards[bound.length]? with
  | none => exact .mk (.error _) hs
  | some guard =>
      simp only [← guard.check_eq hv]
      cases hcheck : guard.check v with
      | error stop => exact .mk (.error stop) hs
      | ok =>
          simp only [List.length_append, List.length_singleton, ← hbound.length_eq]
          split
          · next hmore =>
              have hpass : guard.refusal? v = none := Guard.refusal?_of_check hcheck
              exact .mk (answers_one (.produce (.function (hT.more hp hv hguard hpass hmore)))) hs
          · exact hT.perform hp patience (List.rel_append hbound (.cons hv .nil)) hs

/-! ## Frames and expressions -/

/-- Corresponding frames, other than those of definitions, ask for corresponding things. -/
theorem Frame.Alike.requests {frame frame' : Frame} (h : Frame.Alike T frame frame')
    (hframe : frame.isDefinition = false) {config config' : Config}
    (hlimits : T.limits →
      config.maxRerolls = config'.maxRerolls ∧ config.whenExhausted = config'.whenExhausted)
    {v w : Value} (hv : Value.Alike T.function v w) {s : ω} {s' : ω'} (hs : S s s') :
    ResultsAlike (RequestsAlike T) S (frame.requests world config v s)
      (frame'.requests world' config' w s') := by
  cases h with
  | finish => exact .mk (.ok .nil) hs
  | callee hscene => exact .mk (applyTo_alike hscene hv) hs
  | argument hf => exact .mk (answers_one (.invoke hf hv)) hs
  | element hdone _ hrest => exact .mk (.ok (elementNext_alike (.cons hv hdone) hrest)) hs
  | repetition hdone hexpr => exact .mk (.ok (repeatNext_alike (.cons hv hdone) hexpr _)) hs
  | index hitems => exact .mk (elementAt_alike hitems hv) hs
  | definition => cases hframe
  | branch htrue hfalse =>
      simp only [Frame.requests, hv.truthy_eq]
      refine .mk (answers_one (.evaluate ?_)) hs
      split
      · exact htrue
      · exact hfalse
  | mapped hf hdone hrest =>
      exact .mk (.ok (Combinator.mapNext_alike hf (.cons hv hdone) hrest)) hs
  | combining hf hitem hrest => exact .mk (Combinator.reduceItem_alike hf hitem hrest hv) hs
  | combined hf hrest => exact .mk (.ok (Combinator.reduceNext_alike hf hv hrest)) hs
  | selected hitems => exact .mk (Combinator.dropSelected_alike hitems hv) hs
  | rolled hlimited hroll haccept =>
      exact .mk (answers_one (.call haccept hv (.judged hlimited hroll haccept hv))) hs
  | judged hlimited hroll haccept hresult =>
      exact .mk (Combinator.decideReroll_alike hlimited (hlimits hlimited) hroll haccept _ hresult
        hv) hs
  | exploded hroll hagain hdone =>
      exact .mk (answers_one (.call hagain hv (.repeated hroll hagain (.cons hv hdone)))) hs
  | repeated hroll hagain hdone =>
      exact .mk (.ok (Combinator.decideExplode_alike hroll hagain hdone _ hv)) hs

/-- What expressions inside others need of the ties. -/
structure Ties.Parts (T : Ties) : Prop where
  array {span : Span} {elements : List Expr} {env env' : Env} :
    T.scene (.array span elements) env env' → ∀ e ∈ elements, T.scene e env env'
  apply {span : Span} {callee operand : Expr} {env env' : Env} :
    T.scene (.apply span callee operand) env env' →
    T.scene callee env env' ∧ T.scene operand env env'
  choice {span : Span} {condition whenTrue whenFalse : Expr} {env env' : Env} :
    T.scene (.choice span condition whenTrue whenFalse) env env' →
    T.scene condition env env' ∧ T.scene whenTrue env env' ∧ T.scene whenFalse env env'

/-- Whether the rule of an expression does not depend on what the environment holds. -/
def Expr.isPlain : Expr → Bool
  | .name .. => false
  | .function .. => false
  | .block .. => false
  | _ => true

/-- An expression whose rule does not look at the environment asks for corresponding things in
corresponding environments. -/
theorem Ties.Parts.requests {T : Ties} (hT : T.Parts) {expr : Expr} {env env' : Env} (room : Nat)
    (hplain : expr.isPlain = true) (h : T.scene expr env env') :
    AnswersAlike (RequestsAlike T) (expr.requests room env) (expr.requests room env') := by
  cases expr with
  | number span x => exact answers_one (.produce (.number x))
  | string span s => exact answers_one (.produce (.string s))
  | unit span => exact answers_one (.produce .unit)
  | array span elements => exact .ok (elementNext_alike .nil (hT.array h))
  | apply span callee operand =>
      obtain ⟨hcallee, hoperand⟩ := hT.apply h
      exact answers_one (.push hcallee (.callee hoperand))
  | choice span condition whenTrue whenFalse =>
      obtain ⟨hcondition, htrue, hfalse⟩ := hT.choice h
      exact answers_one (.push hcondition (.branch htrue hfalse))
  | name | function | block => cases hplain

/-- What names, closures and blocks need of the ties. -/
structure Ties.Scopes (T : Ties) : Prop extends T.Parts where
  name {span : Span} {x : Text} {env env' : Env} :
    T.scene (.name span x) env env' → Option.Rel (Alike T.function) (env.lookup x) (env'.lookup x)
  function {span : Span} {parameter : Text} {body : Expr} {env env' : Env} :
    T.scene (.function span parameter body) env env' →
    T.function (.closure parameter body env) (.closure parameter body env')
  call {parameter : Text} {body : Expr} {env : Env} {g : Function} :
    T.function (.closure parameter body env) g →
    ∃ env', g = .closure parameter body env' ∧
      ∀ v w, Alike T.function v w → T.scene body (env.bind parameter v) (env'.bind parameter w)
  block {span : Span} {bindings : List (Text × Expr)} {body : Expr} {env env' : Env} :
    T.scene (.block span bindings body) env env' → T.block [] [] bindings body env env'
  literal {done done' : List (Text × Entry)} {name parameter : Text} {span : Span}
    {literal : Expr} {rest : List (Text × Expr)} {body : Expr} {env env' : Env} :
    T.block done done' ((name, .function span parameter literal) :: rest) body env env' →
    T.block ((name, .literal parameter literal) :: done) ((name, .literal parameter literal) :: done')
      rest body env env'
  next {done done' : List (Text × Entry)} {name : Text} {value : Expr}
    {rest : List (Text × Expr)} {body : Expr} {env env' : Env} :
    T.block done done' ((name, value) :: rest) body env env' → value.isLiteral = false →
    T.scene value env env'
  value {done done' : List (Text × Entry)} {name : Text} {value : Expr} {v w : Value}
    {rest : List (Text × Expr)} {body : Expr} {env env' : Env} :
    T.block done done' ((name, value) :: rest) body env env' → value.isLiteral = false →
    Alike T.function v w →
    T.block ((name, .value v) :: done) ((name, .value w) :: done') rest body env env'
  body {done done' : List (Text × Entry)} {body : Expr} {env env' : Env} :
    T.block done done' [] body env env' → T.scene body (.scope done env) (.scope done' env')

namespace Ties.Scopes

variable {T : Ties} {done done' : List (Text × Entry)} {body expr : Expr} {env env' : Env}
  {rest : List (Text × Expr)}

theorem defineNext (hT : T.Scopes) (h : T.block done done' rest body env env') :
    RequestsAlike T (defineNext done body env rest) (defineNext done' body env' rest) := by
  induction rest generalizing done done' with
  | nil => exact requests_one (.evaluate (hT.body h))
  | cons binding rest ih =>
      obtain ⟨name, value⟩ := binding
      by_cases hvalue : value.isLiteral = true
      · cases value with
        | function span parameter literal => exact ih (hT.literal h)
        | _ => simp [Expr.isLiteral] at hvalue
      · have hvalue : value.isLiteral = false := by simpa using hvalue
        rw [defineNext_of_not_literal hvalue, defineNext_of_not_literal hvalue]
        exact requests_one (.push (hT.next h hvalue) (.definition hvalue h))

theorem defineWithin (hT : T.Scopes) (room : Nat) (h : T.block done done' rest body env env') :
    AnswersAlike (RequestsAlike T) (defineWithin room done body env rest)
      (defineWithin room done' body env' rest) := by
  unfold RollScript.defineWithin
  split
  · exact .error _
  · exact .ok (hT.defineNext h)

/-- An expression asks for corresponding things in corresponding environments. -/
theorem requests (hT : T.Scopes) (room : Nat) (h : T.scene expr env env') :
    AnswersAlike (RequestsAlike T) (expr.requests room env) (expr.requests room env') := by
  cases expr with
  | number | string | unit | array | apply | choice => exact hT.toParts.requests room rfl h
  | name span x =>
      have hvalue := hT.name h
      simp only [Expr.requests]
      revert hvalue
      generalize env.lookup x = found
      generalize env'.lookup x = found'
      intro hvalue
      cases hvalue with
      | none => exact .error _
      | some hv => exact answers_one (.produce hv)
  | function span parameter body => exact answers_one (.produce (.function (hT.function h)))
  | block span bindings body => exact hT.defineWithin room (hT.block h)

end Ties.Scopes

end RollScript

import RollScript.Proofs.Evaluation.Following

/-!
# The rules account for the machine

Read `run_sound` first: when a machine ends with a value or a failure other than a lack of room, the
rules of direct evaluation give that answer to what the machine was at work on. Each waiting frame
stands for a part of a rule, which `Frame.Takes` states, and what a rule of the machine asks for has
an answer too, which `Asks` states. One lemma for each function of the machine says that its requests
ask for no more than the rules give; the run then goes back step by step from its end.
-/

namespace RollScript

variable {ω : Type} {around : Surroundings ω} {config : Config}

/-- One computation after another: the first fails, or its result is handed to the second. -/
def Then {α β : Type} (first : ω → Except Failure α → ω → Prop)
    (second : α → ω → Except Failure β → ω → Prop) (s : ω) (a : Except Failure β) (t : ω) : Prop :=
  (∃ x, first s (.error x) t ∧ a = .error x) ∨ ∃ v u, first s (.ok v) u ∧ second v u a t

namespace Then

variable {α β γ : Type} {first other : ω → Except Failure α → ω → Prop}
  {second : α → ω → Except Failure β → ω → Prop} {third : β → ω → Except Failure γ → ω → Prop}
  {s s' t : ω} {a : Except Failure β} {c : Except Failure γ}

theorem imp (h : Then first second s a t) (himp : ∀ b u, first s b u → other s' b u) :
    Then other second s' a t := by
  rcases h with ⟨x, h, rfl⟩ | ⟨v, u, h, hnext⟩
  · exact .inl ⟨x, himp _ _ h, rfl⟩
  · exact .inr ⟨v, u, himp _ _ h, hnext⟩

theorem then_imp {other : α → ω → Except Failure β → ω → Prop} (h : Then first second s a t)
    (himp : ∀ v u, second v u a t → other v u a t) : Then first other s a t := by
  rcases h with ⟨x, h, rfl⟩ | ⟨v, u, h, hnext⟩
  · exact .inl ⟨x, h, rfl⟩
  · exact .inr ⟨v, u, h, himp v u hnext⟩

theorem assoc (h : Then first (fun v => Then (second v) third) s c t) :
    Then (Then first second) third s c t := by
  rcases h with ⟨x, h, rfl⟩ | ⟨v, u, h, ⟨x, hx, rfl⟩ | ⟨w, u', hw, hnext⟩⟩
  · exact .inl ⟨x, .inl ⟨x, h, rfl⟩, rfl⟩
  · exact .inl ⟨x, .inr ⟨v, u, h, hx⟩, rfl⟩
  · exact .inr ⟨w, u', .inr ⟨v, u, h, hw⟩, hnext⟩

end Then

/-- The values of a computation after those done already, as an array. -/
def Gathers (done : List Value) (rest : ω → Except Failure (List Value) → ω → Prop) (s : ω)
    (a : Except Failure Value) (t : ω) : Prop :=
  ∃ b, rest s b t ∧ a = b.map fun vs => .array (done.reverse ++ vs)

/-- Whether a frame stands for a part of a rule. -/
def Frame.isPart : Frame → Bool
  | .finish => false
  | .host .. => false
  | _ => true

/-- The answer that the rules give to a waiting frame with its value. Neither the end of the whole
evaluation nor a function of the host is a part of a rule. -/
def Frame.Takes (around : Surroundings ω) (config : Config) (blame : Expr) :
    Frame → Value → ω → Except Failure Value → ω → Prop
  | .finish, _ => fun _ _ _ => False
  | .callee operand env, v => Applies around config env blame operand v
  | .argument f, v => Calls around config blame f v
  | .element done rest env, v => Gathers (v :: done) (EvaluatesEach around config env rest)
  | .repetition done left expr env, v =>
    Gathers (v :: done) (EvaluatesEach around config env (List.replicate left expr))
  | .index items, v => fun s a t => answer? blame (itemAt items v) = some a ∧ t = s
  | .definition done name rest body env, v =>
    Then (Defines around config env rest) fun entries =>
      Evaluates around config (.scope (entries.reverse ++ (name, .value v) :: done) env) body
  | .branch whenTrue whenFalse env, v =>
    Evaluates around config env (if v.truthy then whenTrue else whenFalse)
  | .mapped f done rest, v => Gathers (v :: done) (Maps around config blame f rest)
  | .combining f item rest, v => Combines around config blame f item rest v
  | .combined f rest, v => Folds around config blame f v rest
  | .selected items, v => fun s a t => answer? blame (itemsWithout items v) = some a ∧ t = s
  | .rolled roll accept attempts, v =>
    Then (Calls around config blame accept v) fun verdict =>
      Judges around config blame roll accept attempts v verdict
  | .judged roll accept attempts result, v =>
    Judges around config blame roll accept attempts result v
  | .exploded roll again done left, v =>
    Then (Calls around config blame again v) fun verdict =>
      Gathers (v :: done)
        (Explodes around config blame roll again (if verdict.truthy then left + 1 else left))
  | .repeated roll again done left, v =>
    Gathers done (Explodes around config blame roll again (if v.truthy then left + 1 else left))
  | .host _ _, _ => fun _ _ _ => False

/-- The answer that the rules give to what a rule of the machine has returned: the one request it
makes, or a failure that is not for lack of room. -/
def Asks (around : Surroundings ω) (config : Config) (blame : Expr) :
    Except Stop (List Request) → ω → Except Failure Value → ω → Prop
  | .ok [.produce v] => fun s a t => a = .ok v ∧ t = s
  | .ok [.evaluate expr env] => Evaluates around config env expr
  | .ok [.push expr env frame] =>
    Then (Evaluates around config env expr) (frame.Takes around config blame)
  | .ok [.invoke f v] => Calls around config blame f v
  | .ok [.call f v frame] => Then (Calls around config blame f v) (frame.Takes around config blame)
  | .ok _ => fun _ _ _ => False
  | .error stop => fun s a t =>
    ∃ x, stop.failure? blame = some x ∧ x ≠ .aborted .tooDeep ∧ a = .error x ∧ t = s

/-- Whether a request pushes no other frames than parts of rules. -/
def Request.isProper : Request → Bool
  | .push _ _ frame => frame.isPart
  | .call _ _ frame => frame.isPart
  | _ => true

/-- A rule of the machine has returned one proper request, if it has not failed. -/
def Single (returned : Except Stop (List Request)) : Prop :=
  ∀ requests, returned = .ok requests → ∃ request, requests = [request] ∧ request.isProper = true

/-- What a rule of the machine has returned is one request at most, and the answer that it asks for
is one that `P` gives. -/
def Accounts (around : Surroundings ω) (config : Config) (blame : Expr)
    (returned : Except Stop (List Request)) (s : ω) (P : Except Failure Value → ω → Prop) : Prop :=
  Single returned ∧ ∀ a t, Asks around config blame returned s a t → P a t

section Accounts

variable {blame : Expr} {s : ω}

theorem accounts_ok {request : Request} {P : Except Failure Value → ω → Prop}
    (hproper : request.isProper = true)
    (h : ∀ a t, Asks around config blame (.ok [request]) s a t → P a t) :
    Accounts around config blame (.ok [request]) s P := by
  refine ⟨fun requests hrequests => ?_, h⟩
  cases hrequests
  exact ⟨request, rfl, hproper⟩

theorem accounts_error {stop : Stop} {P : Except Failure Value → ω → Prop}
    (h : ∀ x, stop.failure? blame = some x → x ≠ .aborted .tooDeep → P (.error x) s) :
    Accounts around config blame (.error stop) s P := by
  refine ⟨fun requests hrequests => (by cases hrequests), ?_⟩
  rintro a t ⟨x, hx, hdeep, rfl, rfl⟩
  exact h x hx hdeep

theorem Accounts.imp {returned : Except Stop (List Request)}
    {P Q : Except Failure Value → ω → Prop} (h : Accounts around config blame returned s P)
    (hPQ : ∀ a t, P a t → Q a t) : Accounts around config blame returned s Q :=
  ⟨h.1, fun a t ha => hPQ a t (h.2 a t ha)⟩

/-- A computation outside the machine is accounted for by its own answer. -/
theorem computed_accounts (computed : Except Stop Value) :
    Accounts around config blame (computed.map fun v => [.produce v]) s
      (fun a t => answer? blame computed = some a ∧ t = s) := by
  cases computed with
  | ok v =>
      refine accounts_ok rfl ?_
      rintro a t ⟨rfl, rfl⟩
      exact ⟨rfl, rfl⟩
  | error stop =>
      refine accounts_error fun x hx _ => ⟨?_, rfl⟩
      simp only [answer?, hx, Option.map_some]

/-! ## Array literals, repetitions and definitions -/

theorem gathers_nil {done : List Value} {rest : ω → Except Failure (List Value) → ω → Prop}
    (h : rest s (.ok []) s) : Gathers done rest s (.ok (.array done.reverse)) s :=
  ⟨.ok [], h, by simp [Except.map]⟩

/-- Values are gathered one by one. -/
theorem gathers_cons {done : List Value} {a : Except Failure Value} {t : ω}
    {first : ω → Except Failure Value → ω → Prop}
    {later rest : ω → Except Failure (List Value) → ω → Prop}
    (h : Then first (fun v => Gathers (v :: done) later) s a t)
    (hfails : ∀ x u, first s (.error x) u → rest s (.error x) u)
    (hcons : ∀ v u b w, first s (.ok v) u → later u b w → rest s (b.map (v :: ·)) w) :
    Gathers done rest s a t := by
  rcases h with ⟨x, h, rfl⟩ | ⟨v, u, h, b, hb, rfl⟩
  · exact ⟨.error x, hfails x t h, rfl⟩
  · refine ⟨b.map (v :: ·), hcons v u b t h hb, ?_⟩
    cases b <;> simp [Except.map]

theorem elementNext_accounts (done : List Value) (env : Env) (exprs : List Expr) :
    Accounts around config blame (.ok (elementNext done env exprs)) s
      (Gathers done (EvaluatesEach around config env exprs) s) := by
  cases exprs with
  | nil =>
      refine accounts_ok rfl ?_
      rintro a t ⟨rfl, rfl⟩
      exact gathers_nil (.nil env t)
  | cons expr rest =>
      refine accounts_ok rfl fun a t h => gathers_cons h ?_ ?_
      · exact fun x u h => .head_fails env expr rest s x u h
      · exact fun v u b w h hb => .cons env expr rest s v u b w h hb

theorem repeatNext_accounts (done : List Value) (expr : Expr) (env : Env) (count : Nat) :
    Accounts around config blame (.ok (repeatNext done expr env count)) s
      (Gathers done (EvaluatesEach around config env (List.replicate count expr)) s) := by
  cases count with
  | zero =>
      refine accounts_ok rfl ?_
      rintro a t ⟨rfl, rfl⟩
      exact gathers_nil (.nil env t)
  | succ left =>
      refine accounts_ok rfl fun a t h => gathers_cons h ?_ ?_
      · exact fun x u h => .head_fails env expr _ s x u h
      · exact fun v u b w h hb => .cons env expr _ s v u b w h hb

/-- Definitions are accounted for by the entries of the scope and then the body in it. -/
theorem defineNext_accounts (done : List (Text × Entry)) (body : Expr) (env : Env)
    (bindings : List (Text × Expr)) :
    Accounts around config blame (.ok (defineNext done body env bindings)) s
      (Then (Defines around config env bindings) (fun entries =>
        Evaluates around config (.scope (entries.reverse ++ done) env) body) s) := by
  induction bindings generalizing done with
  | nil => exact accounts_ok rfl fun a t h => .inr ⟨[], s, .nil env s, h⟩
  | cons binding rest ih =>
      obtain ⟨name, expr⟩ := binding
      by_cases hexpr : expr.isLiteral = true
      · cases expr with
        | function span parameter literal =>
            refine (ih ((name, .literal parameter literal) :: done)).imp ?_
            rintro a t (⟨x, h, rfl⟩ | ⟨entries, u, h, hbody⟩)
            · exact .inl ⟨x, .literal env name span parameter literal rest s _ t h, rfl⟩
            · refine .inr ⟨_, u, .literal env name span parameter literal rest s _ u h, ?_⟩
              simpa using hbody
        | _ => simp [Expr.isLiteral] at hexpr
      · rw [defineNext_of_not_literal (by simpa using hexpr)]
        refine accounts_ok rfl ?_
        rintro a t (⟨x, h, rfl⟩ | ⟨v, u, h, ⟨x, hrest, rfl⟩ | ⟨entries, u', hrest, hbody⟩⟩)
        · exact .inl ⟨x, .value_fails env name expr rest s x t (by simpa using hexpr) h, rfl⟩
        · exact .inl ⟨x, .value env name expr rest s v u _ t (by simpa using hexpr) h hrest, rfl⟩
        · refine .inr ⟨_, u', .value env name expr rest s v u _ u' (by simpa using hexpr) h hrest, ?_⟩
          simpa using hbody

theorem defineWithin_accounts (room : Nat) (done : List (Text × Entry)) (body : Expr) (env : Env)
    (bindings : List (Text × Expr)) :
    Accounts around config blame (defineWithin room done body env bindings) s
      (Then (Defines around config env bindings) (fun entries =>
        Evaluates around config (.scope (entries.reverse ++ done) env) body) s) := by
  unfold defineWithin
  split
  · refine accounts_error fun x hx hdeep => absurd ?_ hdeep
    cases hx
    rfl
  · exact defineNext_accounts done body env bindings

/-! ## Combinators -/

theorem mapNext_accounts (f : Function) (done items : List Value) :
    Accounts around config blame (.ok (Combinator.mapNext f done items)) s
      (Gathers done (Maps around config blame f items) s) := by
  cases items with
  | nil =>
      refine accounts_ok rfl ?_
      rintro a t ⟨rfl, rfl⟩
      exact gathers_nil (.nil blame f t)
  | cons v rest =>
      refine accounts_ok rfl fun a t h => gathers_cons h ?_ ?_
      · exact fun x u h => .head_fails blame f v rest s x u h
      · exact fun w u b u' h hb => .cons blame f v rest s w u b u' h hb

theorem reduceNext_accounts (f : Function) (acc : Value) (items : List Value) :
    Accounts around config blame (.ok (Combinator.reduceNext f acc items)) s
      (Folds around config blame f acc items s) := by
  cases items with
  | nil =>
      refine accounts_ok rfl ?_
      rintro a t ⟨rfl, rfl⟩
      exact .nil blame f acc t
  | cons item rest =>
      refine accounts_ok rfl ?_
      rintro a t (⟨x, h, rfl⟩ | ⟨v, u, h, hv⟩)
      · exact .function_fails blame f acc item rest s x t h
      · exact .cons blame f acc item rest s v u a t h hv

theorem reduceItem_accounts (f : Function) (item : Value) (rest : List Value) (v : Value) :
    Accounts around config blame (Combinator.reduceItem f item rest v) s
      (Combines around config blame f item rest v s) := by
  rw [Combinator.reduceItem_eq]
  cases hv : asFunction v with
  | error stop =>
      refine accounts_error fun x hx _ => .no_function blame f item rest v s x ?_
      simp only [hv, answer?, hx, Option.map_some]
  | ok g =>
      obtain rfl : v = .function g := by
        cases v <;> simp [asFunction] at hv
        rw [hv]
      refine accounts_ok rfl ?_
      rintro a t (⟨x, h, rfl⟩ | ⟨acc, u, h, hacc⟩)
      · exact .item_fails blame f item rest g s x t h
      · exact .item blame f item rest g s acc u a t h hacc

theorem rollAgain_accounts (roll accept : Function) (attempts : Nat) :
    Accounts around config blame (.ok (Combinator.rollAgain roll accept attempts)) s
      (Rerolls around config blame roll accept attempts s) := by
  refine accounts_ok rfl ?_
  rintro a t (⟨x, h, rfl⟩ | ⟨v, u, h, ⟨x, hv, rfl⟩ | ⟨verdict, u', hv, hverdict⟩⟩)
  · exact .roll_fails blame roll accept attempts s x t h
  · exact .verdict_fails blame roll accept attempts s v u x t h hv
  · exact .verdict blame roll accept attempts s v u verdict u' a t h hv hverdict

theorem decideReroll_accounts (roll accept : Function) (attempts : Nat) (result verdict : Value) :
    Accounts around config blame
      (Combinator.decideReroll config roll accept attempts result verdict) s
      (Judges around config blame roll accept attempts result verdict s) := by
  unfold Combinator.decideReroll
  split
  · next hverdict =>
      refine accounts_ok rfl ?_
      rintro a t ⟨rfl, rfl⟩
      exact .accepted blame roll accept attempts result verdict t hverdict
  · next hverdict =>
      have hverdict : verdict.truthy = false := by simpa using hverdict
      split
      · next hattempts =>
          split
          · next hconfig =>
              refine accounts_ok rfl ?_
              rintro a t ⟨rfl, rfl⟩
              exact .last blame roll accept attempts result verdict t hverdict hattempts hconfig
          · next hconfig =>
              refine accounts_error fun x hx _ => ?_
              cases hx
              exact .exhausted blame roll accept attempts result verdict s hverdict hattempts hconfig
      · next hattempts =>
          refine (rollAgain_accounts roll accept (attempts + 1)).imp fun a t h => ?_
          exact .again blame roll accept attempts result verdict s a t hverdict (by omega) h

theorem nextBase_accounts (roll again : Function) (done : List Value) (left : Nat) :
    Accounts around config blame (.ok (Combinator.nextBase roll again done left)) s
      (Gathers done (Explodes around config blame roll again left) s) := by
  cases left with
  | zero =>
      refine accounts_ok rfl ?_
      rintro a t ⟨rfl, rfl⟩
      exact gathers_nil (.done blame roll again t)
  | succ left =>
      refine accounts_ok rfl ?_
      rintro a t (⟨x, h, rfl⟩ | ⟨v, u, h, ⟨x, hv, rfl⟩ | ⟨verdict, u', hv, b, hb, rfl⟩⟩)
      · exact ⟨.error x, .roll_fails blame roll again left s x t h, rfl⟩
      · exact ⟨.error x, .verdict_fails blame roll again left s v u x t h hv, rfl⟩
      · refine ⟨b.map (v :: ·), .verdict blame roll again left s v u verdict u' b t h hv hb, ?_⟩
        cases b <;> simp [Except.map]

/-! ## Calls, frames and expressions -/

variable {resume : Nat → List Value → Value → ω → Except Stop (List Request) × ω} {room : Nat}

theorem start_accounts (c : Combinator) (args : List Value) :
    Accounts around config blame (c.start args) s
      (Performs around config blame (.combinator c) args s) := by
  by_cases hargs : c.accepts args = false
  · rw [Combinator.start_of_not_accepts hargs]
    refine accounts_error fun x hx _ => ?_
    cases hx
    exact .misapplied blame c args s hargs
  · revert hargs
    fun_cases Combinator.start c args with
    | case1 items f =>
        intro _
        refine (mapNext_accounts f [] items).imp ?_
        rintro a t ⟨b, hb, rfl⟩
        exact .map blame items f s b t hb
    | case2 items f initial =>
        intro _
        exact (reduceNext_accounts f initial items).imp fun a t h =>
          .reduce blame items f initial s a t h
    | case3 f items =>
        intro _
        refine accounts_ok rfl ?_
        rintro a t (⟨x, h, rfl⟩ | ⟨v, u, h, hv, rfl⟩)
        · exact .selector_fails blame f items s x t h
        · exact .drop blame f items s v t a h hv
    | case4 roll accept =>
        intro _
        exact (rollAgain_accounts roll accept 1).imp fun a t h => .reroll blame roll accept s a t h
    | case5 x roll again =>
        intro _
        cases hcount : Number.repetitions x with
        | error stop =>
            refine accounts_error fun y hy _ => .uncountable blame x roll again s y ?_
            simp only [hcount, answer?, hy, Option.map_some]
        | ok count =>
            refine (nextBase_accounts roll again [] count).imp ?_
            rintro a t ⟨b, hb, rfl⟩
            exact .explode blame x roll again count s b t hcount hb
    | case6 =>
        intro hargs
        refine absurd ?_ hargs
        cases c <;> simp_all [Combinator.accepts]

theorem perform_accounts (patience : Nat) (routine : Routine) (args : List Value)
    {returned : Except Stop (List Request)} {t : ω}
    (h : routine.perform (around.world resume room) patience args s = (returned, t)) :
    Accounts around config blame returned t (Performs around config blame routine args s) := by
  cases routine with
  | operation op =>
      obtain ⟨rfl, rfl⟩ := Prod.mk.inj h
      refine (computed_accounts (op.apply args)).imp ?_
      rintro a t ⟨ha, rfl⟩
      exact .operation blame op args t a ha
  | die die =>
      simp only [Routine.perform, Surroundings.world] at h
      cases hroll : die.roll around.draw patience args s with
      | mk thrown after =>
          have hreturned : returned = thrown.map (fun v => [.produce v]) ∧ t = after := by
            rw [hroll] at h
            cases thrown <;> exact ⟨(Prod.mk.inj h).1.symm, (Prod.mk.inj h).2.symm⟩
          obtain ⟨rfl, rfl⟩ := hreturned
          refine (computed_accounts thrown).imp ?_
          rintro a u ⟨ha, rfl⟩
          exact .die blame die args patience s thrown a u hroll ha
  | combinator c =>
      obtain ⟨rfl, rfl⟩ := Prod.mk.inj h
      exact start_accounts c args
  | host id =>
      obtain ⟨rfl, rfl⟩ := Prod.mk.inj h
      refine (computed_accounts (around.host id args s).1).imp ?_
      rintro a t ⟨ha, rfl⟩
      exact .host blame id args s _ a _ rfl ha

/-- What a function asks for when it is called is accounted for by the call. -/
theorem respond_accounts (patience : Nat) (f : Function) (v : Value)
    {returned : Except Stop (List Request)} {t : ω}
    (h : f.respond (around.world resume room) patience v s = (returned, t)) :
    Accounts around config blame returned t (Calls around config blame f v s) := by
  cases f with
  | closure parameter body env =>
      obtain ⟨rfl, rfl⟩ := Prod.mk.inj h
      exact accounts_ok rfl fun a t h => .closure blame parameter body env v s a t h
  | primitive p bound =>
      cases hguard : p.guards[bound.length]? with
      | none =>
          rw [Function.respond_overfull patience hguard] at h
          obtain ⟨rfl, rfl⟩ := Prod.mk.inj h
          refine accounts_error fun x hx _ => ?_
          cases hx
          exact .overfull blame p bound v s hguard
      | some guard =>
          cases hrefusal : guard.refusal? v with
          | some expected =>
              rw [Function.respond_refused patience hguard hrefusal] at h
              obtain ⟨rfl, rfl⟩ := Prod.mk.inj h
              refine accounts_error fun x hx _ => ?_
              cases hx
              exact .refused blame p bound v s guard expected hguard hrefusal
          | none =>
              by_cases hmore : bound.length + 1 < p.arity
              · rw [Function.respond_more patience hguard hrefusal hmore] at h
                obtain ⟨rfl, rfl⟩ := Prod.mk.inj h
                refine accounts_ok rfl ?_
                rintro a t ⟨rfl, rfl⟩
                exact .more blame p bound v t guard hguard hrefusal hmore
              · rw [Function.respond_full patience hguard hrefusal (by omega)] at h
                exact (perform_accounts patience p.routine (bound ++ [v]) h).imp fun a t h =>
                  .full blame p bound v s guard a t hguard hrefusal (by omega) h

theorem applyTo_accounts (argument : Expr) (env : Env) (v : Value) :
    Accounts around config blame (applyTo argument env v) s
      (Applies around config env blame argument v s) := by
  cases v with
  | number x =>
      simp only [applyTo]
      cases hcount : Number.repetitions x with
      | error stop =>
          refine accounts_error fun y hy _ => .uncountable env blame argument x s y ?_
          simp only [hcount, answer?, hy, Option.map_some]
      | ok count =>
          refine (repeatNext_accounts [] argument env count).imp ?_
          rintro a t ⟨b, hb, rfl⟩
          exact .repetition env blame argument x count s b t hcount hb
  | string text =>
      refine accounts_error fun x hx _ => ?_
      cases hx
      exact .string env blame argument text s
  | unit =>
      refine accounts_error fun x hx _ => ?_
      cases hx
      exact .unit env blame argument s
  | array items =>
      refine accounts_ok rfl ?_
      rintro a t (⟨x, h, rfl⟩ | ⟨v, u, h, hv, rfl⟩)
      · exact .index_fails env blame argument items s x t h
      · exact .index env blame argument items s v t a h hv
  | function f =>
      refine accounts_ok rfl ?_
      rintro a t (⟨x, h, rfl⟩ | ⟨v, u, h, hv⟩)
      · exact .argument_fails env blame argument f s x t h
      · exact .call env blame argument f s v u a t h hv

/-- What a frame asks for when its value comes is accounted for by the rule it is a part of. -/
theorem frame_accounts (frame : Frame) (hframe : frame.isPart = true) (v : Value)
    {returned : Except Stop (List Request)} {t : ω}
    (h : frame.requests (around.world resume room) config v s = (returned, t)) :
    Accounts around config blame returned t (frame.Takes around config blame v s) := by
  cases frame with
  | finish | host => cases hframe
  | callee argument env =>
      obtain ⟨rfl, rfl⟩ := Prod.mk.inj h
      exact applyTo_accounts argument env v
  | argument f =>
      obtain ⟨rfl, rfl⟩ := Prod.mk.inj h
      exact accounts_ok rfl fun a t h => h
  | element done rest env =>
      obtain ⟨rfl, rfl⟩ := Prod.mk.inj h
      exact elementNext_accounts (v :: done) env rest
  | repetition done left expr env =>
      obtain ⟨rfl, rfl⟩ := Prod.mk.inj h
      exact repeatNext_accounts (v :: done) expr env left
  | index items =>
      obtain ⟨rfl, rfl⟩ := Prod.mk.inj h
      rw [elementAt_eq]
      exact computed_accounts (itemAt items v)
  | definition done name rest body env =>
      obtain ⟨rfl, rfl⟩ := Prod.mk.inj h
      exact defineWithin_accounts _ ((name, .value v) :: done) body env rest
  | branch whenTrue whenFalse env =>
      obtain ⟨rfl, rfl⟩ := Prod.mk.inj h
      exact accounts_ok rfl fun a t h => h
  | mapped f done rest =>
      obtain ⟨rfl, rfl⟩ := Prod.mk.inj h
      exact mapNext_accounts f (v :: done) rest
  | combining f item rest =>
      obtain ⟨rfl, rfl⟩ := Prod.mk.inj h
      exact reduceItem_accounts f item rest v
  | combined f rest =>
      obtain ⟨rfl, rfl⟩ := Prod.mk.inj h
      exact reduceNext_accounts f v rest
  | selected items =>
      obtain ⟨rfl, rfl⟩ := Prod.mk.inj h
      rw [Combinator.dropSelected_eq]
      exact computed_accounts (itemsWithout items v)
  | rolled roll accept attempts =>
      obtain ⟨rfl, rfl⟩ := Prod.mk.inj h
      exact accounts_ok rfl fun a t h => h
  | judged roll accept attempts result =>
      obtain ⟨rfl, rfl⟩ := Prod.mk.inj h
      exact decideReroll_accounts roll accept attempts result v
  | exploded roll again done left =>
      obtain ⟨rfl, rfl⟩ := Prod.mk.inj h
      exact accounts_ok rfl fun a t h => h
  | repeated roll again done left =>
      obtain ⟨rfl, rfl⟩ := Prod.mk.inj h
      rw [Combinator.decideExplode_eq]
      exact nextBase_accounts roll again done _

/-- What an expression asks for when its evaluation starts is accounted for by its rule. -/
theorem expr_accounts (expr : Expr) (env : Env) :
    Accounts around config expr (expr.requests room env) s
      (Evaluates around config env expr s) := by
  cases expr with
  | number span x =>
      refine accounts_ok rfl ?_
      rintro a t ⟨rfl, rfl⟩
      exact .number env span x t
  | string span text =>
      refine accounts_ok rfl ?_
      rintro a t ⟨rfl, rfl⟩
      exact .string env span text t
  | unit span =>
      refine accounts_ok rfl ?_
      rintro a t ⟨rfl, rfl⟩
      exact .unit env span t
  | name span x =>
      simp only [Expr.requests]
      cases hlookup : env.lookup x with
      | some v =>
          refine accounts_ok rfl ?_
          rintro a t ⟨rfl, rfl⟩
          exact .name env span x v t hlookup
      | none =>
          refine accounts_error fun y hy _ => ?_
          cases hy
          exact .unbound env span x s hlookup
  | array span elements =>
      refine (elementNext_accounts [] env elements).imp ?_
      rintro a t ⟨b, hb, rfl⟩
      exact .array env span elements s b t hb
  | apply span callee argument =>
      refine accounts_ok rfl ?_
      rintro a t (⟨x, h, rfl⟩ | ⟨v, u, h, hv⟩)
      · exact .callee_fails env span callee argument s x t h
      · exact .apply env span callee argument s v u a t h hv
  | function span parameter body =>
      refine accounts_ok rfl ?_
      rintro a t ⟨rfl, rfl⟩
      exact .function env span parameter body t
  | block span bindings body =>
      refine (defineWithin_accounts room [] body env bindings).imp ?_
      rintro a t (⟨x, h, rfl⟩ | ⟨entries, u, h, hbody⟩)
      · exact .binding_fails env span bindings body s x t h
      · rw [List.append_nil] at hbody
        exact .block env span bindings body s entries u a t h hbody
  | choice span condition whenTrue whenFalse =>
      refine accounts_ok rfl ?_
      rintro a t (⟨x, h, rfl⟩ | ⟨v, u, h, hv⟩)
      · exact .condition_fails env span condition whenTrue whenFalse s x t h
      · exact .choice env span condition whenTrue whenFalse s v u a t h hv

end Accounts

/-! ## Runs -/

/-- The answer that the rules give to waiting frames with their value, down to the end of the whole
evaluation. They say nothing of frames that are no parts of rules. -/
def Finishes (around : Surroundings ω) (config : Config) :
    List (Frame × Expr) → Value → ω → Except Failure Value → ω → Prop
  | [(.finish, _)], v => fun s a t => a = .ok v ∧ t = s
  | (frame, blame) :: rest, v => fun s a t =>
    frame.isPart = true →
      Then (frame.Takes around config blame v) (Finishes around config rest) s a t
  | [], _ => fun _ _ _ => True

theorem finishes_cons {frame : Frame} (hframe : frame.isPart = true) {blame : Expr}
    {rest : List (Frame × Expr)} {v : Value} {s t : ω} {a : Except Failure Value}
    (h : Finishes around config ((frame, blame) :: rest) v s a t) :
    Then (frame.Takes around config blame v) (Finishes around config rest) s a t := by
  cases frame with
  | finish => cases hframe
  | _ => exact h hframe

/-- The answer that an outcome gives, unless the machine has run out of room or of steps. -/
def Outcome.answer? : Outcome → Option (Except Failure Value)
  | value v => some (.ok v)
  | failed cause blame => some (.error (.failed cause blame))
  | aborted .tooDeep => none
  | aborted abort => some (.error (.aborted abort))
  | unfinished => none

theorem Machine.stopped_answer {m : Machine ω} {stop : Stop} {a : Except Failure Value}
    (h : (m.stopped stop).answer? = some a) :
    ∃ x, stop.failure? m.blame = some x ∧ x ≠ .aborted .tooDeep ∧ a = .error x := by
  cases stop with
  | failed cause =>
      cases h
      exact ⟨_, rfl, by simp, rfl⟩
  | aborted abort =>
      cases abort <;> cases h <;> exact ⟨_, rfl, by simp, rfl⟩
  | unfinished => cases h

/-- The machine stands between two steps, and the rules give the answers of which `P` holds to what
it is at work on. They say nothing of a machine that has gone astray. -/
inductive Poised (around : Surroundings ω) (config : Config) :
    Machine ω → (Except Failure Value → ω → Prop) → Prop where
  | evaluating (expr env frames blame s) :
      Poised around config ⟨[(expr, env)], frames, none, blame, [], s⟩
        (Then (Evaluates around config env expr) (Finishes around config frames) s)
  | returning (v frames blame s) :
      Poised around config ⟨[], frames, some v, blame, [], s⟩ (Finishes around config frames v s)
  | finished (v blame s) :
      Poised around config ⟨[], [], none, blame, [v], s⟩ (fun a t => a = .ok v ∧ t = s)
  | astray (m) : Poised around config m (fun _ _ => True)

/-- A machine that is where a step has left it ends with no other answers than those of which `Q`
holds, as far as the rules can tell. -/
def Justified (around : Surroundings ω) (config : Config) (Q : Except Failure Value → ω → Prop) :
    Status × Machine ω → Prop
  | (.running, m) => ∃ P, Poised around config m P ∧ ∀ a t, P a t → Q a t
  | (.over, m) => ∀ a, m.outcome.answer? = some a → Q a m.world
  | (.stopped stop, m) => ∀ a, (m.stopped stop).answer? = some a → Q a m.world

theorem justified_running {m : Machine ω} {P Q : Except Failure Value → ω → Prop}
    (h : Poised around config m P) (hPQ : ∀ a t, P a t → Q a t) :
    Justified around config Q (.running, m) :=
  ⟨P, h, hPQ⟩

theorem justified_stopped {m : Machine ω} {stop : Stop} {Q : Except Failure Value → ω → Prop}
    (h : ∀ x, stop.failure? m.blame = some x → x ≠ .aborted .tooDeep → Q (.error x) m.world) :
    Justified around config Q (.stopped stop, m) := by
  intro a ha
  obtain ⟨x, hx, hdeep, rfl⟩ := Machine.stopped_answer ha
  exact h x hx hdeep

theorem justified_true (r : Status × Machine ω) :
    Justified around config (fun _ _ => True) r := by
  obtain ⟨_ | _ | stop, m⟩ := r
  · exact justified_running (.astray m) fun a t h => h
  · exact fun a ha => trivial
  · exact fun a ha => trivial

theorem Justified.imp {P Q : Except Failure Value → ω → Prop} {r : Status × Machine ω}
    (h : Justified around config P r) (hPQ : ∀ a t, P a t → Q a t) :
    Justified around config Q r := by
  obtain ⟨_ | _ | stop, m⟩ := r
  · obtain ⟨R, hpoised, hR⟩ := h
    exact ⟨R, hpoised, fun a t ha => hPQ a t (hR a t ha)⟩
  · exact fun a ha => hPQ a _ (h a ha)
  · exact fun a ha => hPQ a _ (h a ha)

section Runs

variable {resume : Nat → List Value → Value → ω → Except Stop (List Request) × ω} {room : Nat}

/-- A machine goes on with what a rule returned as it fulfils the one request. -/
theorem proceed_justified_of {patience budget : Nat} {returned : Except Stop (List Request)}
    {frames : List (Frame × Expr)} {blame : Expr} {s t : ω}
    {first : ω → Except Failure Value → ω → Prop}
    (hperform : ∀ request : Request, request.isProper = true →
      Justified around config
        (Then (Asks around config blame (.ok [request])) (Finishes around config frames) t)
        ((between frames blame t).perform (around.world resume room) patience budget [request]))
    (haccounts : Accounts around config blame returned t (first s)) :
    Justified around config (Then first (Finishes around config frames) s)
      ((between frames blame t).proceed (around.world resume room) patience budget
        (returned, t)) := by
  obtain ⟨hsingle, haccounts⟩ := haccounts
  cases returned with
  | error stop =>
      refine justified_stopped fun x hx hdeep => ?_
      exact .inl ⟨x, haccounts _ _ ⟨x, hx, hdeep, rfl, rfl⟩, rfl⟩
  | ok requests =>
      obtain ⟨request, rfl, hproper⟩ := hsingle requests rfl
      exact (hperform request hproper).imp fun a u h => h.imp haccounts

/-- A machine that fulfils a request ends with no other answers than the request asks for. -/
theorem perform_justified (patience budget : Nat) (request : Request)
    (hproper : request.isProper = true) (frames : List (Frame × Expr)) (blame : Expr) (s : ω) :
    Justified around config
      (Then (Asks around config blame (.ok [request])) (Finishes around config frames) s)
      ((between frames blame s).perform (around.world resume room) patience budget [request]) := by
  induction patience generalizing budget request frames s with
  | zero =>
      refine justified_stopped fun x hx => ?_
      cases hx
  | succ patience ih =>
      -- A call for a new frame is a call for the frames with the new one on top.
      have hinvoke : ∀ (f : Function) (v : Value) (frames : List (Frame × Expr)),
          Justified around config
            (Then (Calls around config blame f v) (Finishes around config frames) s)
            ((between frames blame s).perform (around.world resume room) (patience + 1) budget
              [.invoke f v]) := by
        intro f v frames
        rw [Machine.perform_invoke]
        split
        · refine justified_stopped fun x hx hdeep => ?_
          cases hx
          exact absurd rfl hdeep
        · cases hrespond : f.respond (around.world resume room) patience v s with
          | mk returned t =>
              have hjustified := proceed_justified_of
                (fun request hproper => ih (budget - f.activations) request hproper frames t)
                (respond_accounts patience f v hrespond)
              rwa [← hrespond] at hjustified
      cases request with
      | produce v =>
          simp only [Machine.perform, between]
          refine justified_running (.returning v frames blame s) fun a t h => ?_
          exact .inr ⟨v, s, ⟨rfl, rfl⟩, h⟩
      | evaluate expr env =>
          simp only [Machine.perform, between]
          exact justified_running (.evaluating expr env frames blame s) fun a t h => h
      | push expr env frame =>
          simp only [Machine.perform, between]
          refine justified_running (.evaluating expr env ((frame, blame) :: frames) blame s) ?_
          exact fun a t h => .assoc (h.then_imp fun v u h => finishes_cons hproper h)
      | invoke f v => exact hinvoke f v frames
      | call f v frame =>
          rw [Machine.perform_call, if_neg (by omega)]
          refine (hinvoke f v ((frame, blame) :: frames)).imp fun a t h => ?_
          exact .assoc (h.then_imp fun v u h => finishes_cons hproper h)

theorem proceed_justified (patience budget : Nat) {returned : Except Stop (List Request)}
    (frames : List (Frame × Expr)) {blame : Expr} {s t : ω}
    {first : ω → Except Failure Value → ω → Prop}
    (haccounts : Accounts around config blame returned t (first s)) :
    Justified around config (Then first (Finishes around config frames) s)
      ((between frames blame t).proceed (around.world resume room) patience budget (returned, t)) :=
  proceed_justified_of
    (fun request hproper => perform_justified patience budget request hproper frames blame t)
    haccounts

/-- A step leaves a machine with no other answers than it had before. -/
theorem step_justified (patience : Nat) {m : Machine ω} {P : Except Failure Value → ω → Prop}
    (hpoised : Poised around config m P) :
    Justified around config P (m.step (around.world resume room) config patience) := by
  cases hpoised with
  | evaluating expr env frames blame s =>
      rw [Machine.step_start]
      exact proceed_justified patience room frames (expr_accounts expr env)
  | returning v frames blame s =>
      fun_cases Finishes around config frames v with
      | case1 before =>
          exact justified_running (.finished v before s) fun a t h => h
      | case2 frame before rest hfinish =>
          by_cases hframe : frame.isPart = true
          · rw [Machine.step_deliver _ _ _ _ _ _ _ _ _ _ _ (by rintro rfl; cases hframe)]
            cases hrequests : frame.requests (around.world resume room) config v s with
            | mk returned t =>
                refine (proceed_justified patience room rest
                  (frame_accounts frame hframe v hrequests)).imp fun a u h => ?_
                exact fun _ => h
          · exact (justified_true _).imp fun a t _ h => absurd h hframe
      | case3 => exact justified_true _
  | finished v blame s =>
      intro a ha
      cases ha
      exact ⟨rfl, rfl⟩
  | astray m => exact justified_true _

/-- A machine ends with no other answers than the rules give to what it is at work on. -/
theorem run_sound (fuel : Nat) {m final : Machine ω} {P : Except Failure Value → ω → Prop}
    {o : Outcome} {a : Except Failure Value} (hpoised : Poised around config m P)
    (h : m.run (around.world resume room) config fuel = (o, final)) (ha : o.answer? = some a) :
    P a final.world := by
  induction fuel generalizing m P with
  | zero =>
      obtain ⟨rfl, rfl⟩ := Prod.mk.inj h
      cases ha
  | succ fuel ih =>
      have hjustified :
          Justified around config P (m.step (around.world resume room) config fuel) :=
        step_justified fuel hpoised
      simp only [Machine.run] at h
      cases hstep : m.step (around.world resume room) config fuel with
      | mk status after =>
          rw [hstep] at h hjustified
          cases status with
          | running =>
              obtain ⟨Q, hafter, hQ⟩ := hjustified
              exact hQ a _ (ih hafter h)
          | «over» =>
              obtain ⟨rfl, rfl⟩ := Prod.mk.inj h
              exact hjustified a ha
          | stopped stop =>
              obtain ⟨rfl, rfl⟩ := Prod.mk.inj h
              exact hjustified a ha

end Runs

end RollScript

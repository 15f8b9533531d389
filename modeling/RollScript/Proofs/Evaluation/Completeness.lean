import RollScript.Proofs.Evaluation.Following

/-!
# The machine follows the rules

Read `evaluates_follows` first: whatever answer an expression evaluates to by the rules, the machine
comes to it. A machine that evaluates the expression for some waiting frames ends as those frames do
with the value, or with the failure. The one exception is a lack of room for nested activations,
which ends the machine, and there is an amount of room with which that does not happen.
-/

namespace RollScript

variable {ω : Type} {around : Surroundings ω} {config : Config}

/-- A routine that is carried out with some room ends with an outcome. -/
def Carries (world : World ω) (config : Config) (budget : Nat) (routine : Routine)
    (args : List Value) (frames : List (Frame × Expr)) (blame : Expr) (s : ω) (o : Outcome)
    (u : ω) : Prop :=
  ∃ patience returned t, routine.perform world patience args s = (returned, t) ∧
    Proceeds world config budget returned frames blame t o u

variable (resume : Nat → List Value → Value → ω → Except Stop (List Request) × ω)

mutual

/-- The machine comes to the answer of an expression. -/
theorem evaluates_follows {env : Env} {expr : Expr} {s t : ω} {a : Except Failure Value}
    (h : Evaluates around config env expr s a t) :
    ∃ need, ∀ room frames,
      Follows (Halts (around.world resume room) config (evaluating expr env frames s)) room need
        (fun v => Halts (around.world resume room) config (returning v frames t)) a t := by
  match h with
  | .number .. | .string .. | .unit .. | .function .. =>
      refine ⟨0, fun room frames => .of_result fun o u hv => ?_⟩
      exact halts_evaluating rfl (proceeds_ok (responds_produce hv))
  | .name env span x v s hx =>
      refine ⟨0, fun room frames => .of_result fun o u hv => ?_⟩
      exact halts_evaluating (by simp only [Expr.requests, hx])
        (proceeds_ok (responds_produce hv))
  | .unbound env span x s hx =>
      refine ⟨0, fun room frames => .of_failure ?_⟩
      have hrequests : Expr.requests (around.world resume room).room (.name span x) env =
          .error (.failed (.unbound x)) := by
        simp only [Expr.requests, hx]
      exact halts_evaluating hrequests (proceeds_error rfl)
  | .array env span elements s a t h =>
      obtain ⟨need, ih⟩ := evaluates_each_follows h
      refine ⟨need, fun room frames => .map ?_⟩
      exact (ih room frames _ []).1.imp fun o u h => halts_evaluating rfl (proceeds_ok h)
  | .callee_fails env span callee argument s x t h =>
      obtain ⟨need, ih⟩ := evaluates_follows h
      refine ⟨need, fun room frames => .fails ((ih room
        ((.callee argument env, .apply span callee argument) :: frames)).imp fun o u h => ?_)⟩
      exact halts_evaluating rfl (proceeds_ok (responds_push h))
  | .apply env span callee argument s v t a u h hv =>
      obtain ⟨need, ih⟩ := evaluates_follows h
      obtain ⟨more, ihv⟩ := applies_follows hv
      refine ⟨max need more, fun room frames => .bind ((ih room ((.callee argument env,
        .apply span callee argument) :: frames)).imp fun o u h => ?_) (Nat.le_refl _)
        (ihv room frames)⟩
      exact halts_evaluating rfl (proceeds_ok (responds_push h))
  | .binding_fails env span bindings body s x t h =>
      obtain ⟨need, ih⟩ := defines_follows h
      refine ⟨need, fun room frames =>
        .fails ((ih room frames (.block span bindings body) [] body).imp fun o u h => ?_)⟩
      exact halts_evaluating rfl h
  | .block env span bindings body s entries t a u h hbody =>
      obtain ⟨need, ih⟩ := defines_follows h
      obtain ⟨more, ihbody⟩ := evaluates_follows hbody
      refine ⟨max need more, fun room frames => ?_⟩
      have hbindings := ih room frames (.block span bindings body) [] body
      simp only [List.append_nil] at hbindings
      exact .bind (hbindings.imp fun o u h => halts_evaluating rfl h) (Nat.le_refl _)
        (ihbody room frames)
  | .condition_fails env span condition whenTrue whenFalse s x t h =>
      obtain ⟨need, ih⟩ := evaluates_follows h
      refine ⟨need, fun room frames => .fails ((ih room ((.branch whenTrue whenFalse env,
        .choice span condition whenTrue whenFalse) :: frames)).imp fun o u h => ?_)⟩
      exact halts_evaluating rfl (proceeds_ok (responds_push h))
  | .choice env span condition whenTrue whenFalse s v t a u h hbranch =>
      obtain ⟨need, ih⟩ := evaluates_follows h
      obtain ⟨more, ihbranch⟩ := evaluates_follows hbranch
      refine ⟨max need more, fun room frames => .bind ((ih room ((.branch whenTrue whenFalse env,
        .choice span condition whenTrue whenFalse) :: frames)).imp fun o u h => ?_) (Nat.le_refl _)
        ((ihbranch room frames).imp fun o u h => ?_)⟩
      · exact halts_evaluating rfl (proceeds_ok (responds_push h))
      · exact halts_deliver (by simp) rfl (proceeds_ok (responds_evaluate h))

/-- The machine comes to the values of expressions in order, for an array literal and, if all of them
are the same, for a repetition. -/
theorem evaluates_each_follows {env : Env} {exprs : List Expr} {s t : ω}
    {a : Except Failure (List Value)} (h : EvaluatesEach around config env exprs s a t) :
    ∃ need, ∀ room frames blame done,
      Follows (Responds (around.world resume room) config room (elementNext done env exprs)
        (between frames blame s)) room need
        (fun vs => Halts (around.world resume room) config
          (returning (.array (done.reverse ++ vs)) frames t)) a t ∧
      ∀ expr count, exprs = List.replicate count expr →
        Follows (Responds (around.world resume room) config room (repeatNext done expr env count)
          (between frames blame s)) room need
          (fun vs => Halts (around.world resume room) config
            (returning (.array (done.reverse ++ vs)) frames t)) a t := by
  match h with
  | .nil env s =>
      refine ⟨0, fun room frames blame done => ⟨.of_result fun o u hv => ?_, ?_⟩⟩
      · rw [List.append_nil] at hv
        exact responds_produce hv
      · intro expr count hcount
        obtain rfl : count = 0 := by simpa using hcount.symm
        refine .of_result fun o u hv => ?_
        rw [List.append_nil] at hv
        exact responds_produce hv
  | .head_fails env expr rest s x t h =>
      obtain ⟨need, ih⟩ := evaluates_follows h
      refine ⟨need, fun room frames blame done => ⟨?_, ?_⟩⟩
      · exact .fails ((ih room ((.element done rest env, blame) :: frames)).imp
          fun o u h => responds_push h)
      · intro same count hcount
        obtain ⟨left, rfl⟩ : ∃ left, count = left + 1 :=
          Nat.exists_eq_succ_of_ne_zero (by rintro rfl; simp at hcount)
        obtain ⟨rfl, -⟩ := List.cons.inj hcount
        exact .fails ((ih room ((.repetition done left expr env, blame) :: frames)).imp
          fun o u h => responds_push h)
  | .cons env expr rest s v t a u h hrest =>
      obtain ⟨need, ih⟩ := evaluates_follows h
      obtain ⟨more, ihrest⟩ := evaluates_each_follows hrest
      refine ⟨max need more, fun room frames blame done => ⟨?_, ?_⟩⟩
      · refine .bind ((ih room ((.element done rest env, blame) :: frames)).imp
          fun o u h => responds_push h) (Nat.le_refl _) (.map ?_)
        have hnext := (ihrest room frames blame (v :: done)).1
        simp only [List.reverse_cons, List.append_assoc, List.singleton_append] at hnext
        exact hnext.imp fun o u h => halts_deliver (by simp) rfl (proceeds_ok h)
      · intro same count hcount
        obtain ⟨left, rfl⟩ : ∃ left, count = left + 1 :=
          Nat.exists_eq_succ_of_ne_zero (by rintro rfl; simp at hcount)
        obtain ⟨rfl, hleft⟩ := List.cons.inj hcount
        refine .bind ((ih room ((.repetition done left expr env, blame) :: frames)).imp
          fun o u h => responds_push h) (Nat.le_refl _) (.map ?_)
        have hnext := (ihrest room frames blame (v :: done)).2 expr left hleft
        simp only [List.reverse_cons, List.append_assoc, List.singleton_append] at hnext
        exact hnext.imp fun o u h => halts_deliver (by simp) rfl (proceeds_ok h)

/-- The machine comes to the entries of a scope and then evaluates the body in it. -/
theorem defines_follows {env : Env} {bindings : List (Text × Expr)} {s t : ω}
    {a : Except Failure (List (Text × Entry))} (h : Defines around config env bindings s a t) :
    ∃ need, ∀ room frames blame done body,
      Follows (Proceeds (around.world resume room) config room
        (defineWithin room done body env bindings) frames blame s) room need
        (fun entries => Halts (around.world resume room) config
          (evaluating body (.scope (entries.reverse ++ done) env) frames t)) a t := by
  match h with
  | .nil env s =>
      refine ⟨0, fun room frames blame done body => .of_result fun o u h => ?_⟩
      exact proceeds_ok (responds_evaluate h)
  | .literal env name span parameter literal rest s a t h =>
      obtain ⟨need, ih⟩ := defines_follows h
      refine ⟨max need (2 * (leadingLiterals rest + 1)), fun room frames blame done body => ?_⟩
      have hnext := ih room frames blame ((name, .literal parameter literal) :: done) body
      refine .of_room (fun hlack => ⟨s, ?_⟩) fun henough => .map ?_
      · rw [defineWithin, leadingLiterals, if_pos hlack]
        exact proceeds_tooDeep
      · simp only [List.reverse_cons, List.append_assoc, List.singleton_append]
        refine hnext.imp fun o u h => ?_
        rw [defineWithin, if_neg (by omega)] at h
        rw [defineWithin, leadingLiterals, if_neg (by omega)]
        exact h
  | .value_fails env name expr rest s x t hexpr h =>
      obtain ⟨need, ih⟩ := evaluates_follows h
      refine ⟨need, fun room frames blame done body => ?_⟩
      rw [defineWithin_of_not_literal hexpr]
      exact .fails ((ih room ((.definition done name rest body env, blame) :: frames)).imp
        fun o u h => proceeds_ok (responds_push h))
  | .value env name expr rest s v t a u hexpr h hrest =>
      obtain ⟨need, ih⟩ := evaluates_follows h
      obtain ⟨more, ihrest⟩ := defines_follows hrest
      refine ⟨max need more, fun room frames blame done body => ?_⟩
      rw [defineWithin_of_not_literal hexpr]
      have hnext := ihrest room frames blame ((name, .value v) :: done) body
      refine .bind ((ih room ((.definition done name rest body env, blame) :: frames)).imp
        fun o u h => proceeds_ok (responds_push h)) (Nat.le_refl _) (.map ?_)
      simp only [List.reverse_cons, List.append_assoc, List.singleton_append]
      exact hnext.imp fun o u h => halts_deliver (by simp) rfl h

/-- The machine comes to the answer of an application whose callee has a value. -/
theorem applies_follows {env : Env} {blame argument : Expr} {callee : Value} {s t : ω}
    {a : Except Failure Value} (h : Applies around config env blame argument callee s a t) :
    ∃ need, ∀ room frames,
      Follows (Halts (around.world resume room) config
        (returning callee ((.callee argument env, blame) :: frames) s)) room need
        (fun v => Halts (around.world resume room) config (returning v frames t)) a t := by
  match h with
  | .argument_fails env blame argument f s x t h =>
      obtain ⟨need, ih⟩ := evaluates_follows h
      refine ⟨need, fun room frames => .fails ((ih room ((.argument f, blame) :: frames)).imp
        fun o u h => ?_)⟩
      exact halts_deliver (by simp) rfl (proceeds_ok (responds_push h))
  | .call env blame argument f s v t a u h hcall =>
      obtain ⟨need, ih⟩ := evaluates_follows h
      obtain ⟨more, ihcall⟩ := calls_follows hcall
      refine ⟨max need more, fun room frames =>
        .bind ((ih room ((.argument f, blame) :: frames)).imp fun o u h => ?_) (Nat.le_refl _)
          ((ihcall room room frames (Nat.le_refl _)).imp fun o u h => ?_)⟩
      · exact halts_deliver (by simp) rfl (proceeds_ok (responds_push h))
      · exact halts_deliver (by simp) rfl (proceeds_ok h)
  | .uncountable env blame argument x s failure h =>
      refine ⟨0, fun room frames => .of_failure ?_⟩
      obtain ⟨stop, hstop, hfailure⟩ := answer?_eq_error h
      refine halts_deliver (by simp) rfl ?_
      simp only [applyTo, hstop]
      exact proceeds_error hfailure
  | .repetition env blame argument x count s a t hcount h =>
      obtain ⟨need, ih⟩ := evaluates_each_follows h
      refine ⟨need, fun room frames => .map ?_⟩
      refine ((ih room frames blame []).2 argument count rfl).imp fun o u h => ?_
      refine halts_deliver (by simp) rfl ?_
      simp only [applyTo, hcount]
      exact proceeds_ok h
  | .index_fails env blame argument items s x t h =>
      obtain ⟨need, ih⟩ := evaluates_follows h
      refine ⟨need, fun room frames => .fails ((ih room ((.index items, blame) :: frames)).imp
        fun o u h => ?_)⟩
      exact halts_deliver (by simp) rfl (proceeds_ok (responds_push h))
  | .index env blame argument items s v t a h ha =>
      obtain ⟨need, ih⟩ := evaluates_follows h
      refine ⟨max need 0, fun room frames =>
        .bind ((ih room ((.index items, blame) :: frames)).imp fun o u h => ?_) (Nat.le_refl _)
          (.of_answer ha (fun w hw o u h => ?_) fun stop x hstop hx => ?_)⟩
      · exact halts_deliver (by simp) rfl (proceeds_ok (responds_push h))
      · refine halts_deliver (by simp) rfl ?_
        rw [elementAt_eq, hw]
        exact proceeds_ok (responds_produce h)
      · refine halts_deliver (by simp) rfl ?_
        rw [elementAt_eq, hstop]
        exact proceeds_error hx
  | .string .. | .unit .. =>
      refine ⟨0, fun room frames => .of_failure ?_⟩
      exact halts_deliver (by simp) rfl (proceeds_error rfl)

/-- The machine comes to the answer of a call. -/
theorem calls_follows {blame : Expr} {f : Function} {v : Value} {s t : ω}
    {a : Except Failure Value} (h : Calls around config blame f v s a t) :
    ∃ need, ∀ room budget frames, budget ≤ room →
      Follows (Responds (around.world resume room) config budget [.invoke f v]
        (between frames blame s)) budget need
        (fun v => Halts (around.world resume room) config (returning v frames t)) a t := by
  match h with
  | .closure blame parameter body env v s a t h =>
      obtain ⟨need, ih⟩ := evaluates_follows h
      refine ⟨need, fun room budget frames hle => .mono ((ih room frames).imp fun o u h => ?_)
        (Nat.add_le_add_right hle _)⟩
      exact responds_invoke (Nat.zero_le _) (Function.respond_closure 0)
        (proceeds_ok (responds_evaluate h))
  | .overfull blame p bound v s hguard =>
      refine ⟨max 0 (Function.primitive p bound).activations, fun room budget frames hle =>
        .of_room (fun hlack => ⟨s, responds_invoke_lacking hlack⟩) fun henough => .of_failure ?_⟩
      exact responds_invoke henough (Function.respond_overfull 0 hguard) (proceeds_error rfl)
  | .refused blame p bound v s guard expected hguard hrefusal =>
      refine ⟨max 0 (Function.primitive p bound).activations, fun room budget frames hle =>
        .of_room (fun hlack => ⟨s, responds_invoke_lacking hlack⟩) fun henough => .of_failure ?_⟩
      exact responds_invoke henough (Function.respond_refused 0 hguard hrefusal)
        (proceeds_error rfl)
  | .more blame p bound v s guard hguard hpass hmore =>
      refine ⟨max 0 (Function.primitive p bound).activations, fun room budget frames hle =>
        .of_room (fun hlack => ⟨s, responds_invoke_lacking hlack⟩)
          fun henough => .of_result fun o u h => ?_⟩
      exact responds_invoke henough (Function.respond_more 0 hguard hpass hmore)
        (proceeds_ok (responds_produce h))
  | .full blame p bound v s guard a t hguard hpass hfull h =>
      obtain ⟨need, ih⟩ := performs_follows h
      let act := (Function.primitive p bound).activations
      refine ⟨max (need + act) act, fun room budget frames hle =>
        .of_room (fun hlack => ⟨s, responds_invoke_lacking hlack⟩) fun henough => ?_⟩
      have hnext := ih room (budget - act) frames (by omega)
      refine .mono (hnext.imp fun o u h => ?_) (by omega)
      obtain ⟨patience, returned, t', hperform, h⟩ := h
      exact responds_invoke henough
        ((Function.respond_full patience hguard hpass hfull).trans hperform) h

/-- The machine comes to the answer of a routine. -/
theorem performs_follows {blame : Expr} {routine : Routine} {args : List Value} {s t : ω}
    {a : Except Failure Value} (h : Performs around config blame routine args s a t) :
    ∃ need, ∀ room budget frames, budget ≤ room →
      Follows (Carries (around.world resume room) config budget routine args frames blame s) budget
        need (fun v => Halts (around.world resume room) config (returning v frames t)) a t := by
  match h with
  | .operation blame op args s a ha =>
      refine ⟨0, fun room budget frames hle => .of_answer ha (fun v hv o u h => ?_)
        fun stop x hstop hx => ?_⟩
      · exact ⟨0, _, s, by rw [Routine.perform, hv]; rfl, proceeds_ok (responds_produce h)⟩
      · exact ⟨0, _, s, by rw [Routine.perform, hstop]; rfl, proceeds_error hx⟩
  | .die blame die args patience s thrown a t hroll ha =>
      refine ⟨0, fun room budget frames hle => .of_answer ha (fun v hv o u h => ?_)
        fun stop x hstop hx => ?_⟩
      · subst hv
        refine ⟨patience, .ok [.produce v], t, ?_, proceeds_ok (responds_produce h)⟩
        simp only [Routine.perform, Surroundings.world, hroll]
      · subst hstop
        refine ⟨patience, .error stop, t, ?_, proceeds_error hx⟩
        simp only [Routine.perform, Surroundings.world, hroll]
  | .host blame id args s returned a t hcall ha =>
      refine ⟨0, fun room budget frames hle => .of_answer ha (fun v hv o u h => ?_)
        fun stop x hstop hx => ?_⟩
      · subst hv
        refine ⟨0, .ok [.produce v], t, ?_, proceeds_ok (responds_produce h)⟩
        simp only [Routine.perform, Surroundings.world, hcall, Except.map]
      · subst hstop
        refine ⟨0, .error stop, t, ?_, proceeds_error hx⟩
        simp only [Routine.perform, Surroundings.world, hcall, Except.map]
  | .misapplied blame c args s hargs =>
      refine ⟨0, fun room budget frames hle => .of_failure ?_⟩
      refine ⟨0, .error (.aborted .misapplied), s, ?_, proceeds_error rfl⟩
      rw [Routine.perform, Combinator.start_of_not_accepts hargs]
  | .map blame items f s a t h =>
      obtain ⟨need, ih⟩ := maps_follows h
      refine ⟨need, fun room budget frames hle => .map ?_⟩
      exact (ih room budget frames [] hle).imp fun o u h => ⟨0, _, s, rfl, proceeds_ok h⟩
  | .reduce blame items f initial s a t h =>
      obtain ⟨need, ih⟩ := folds_follows h
      refine ⟨need, fun room budget frames hle => ?_⟩
      exact (ih room budget frames hle).imp fun o u h => ⟨0, _, s, rfl, proceeds_ok h⟩
  | .selector_fails blame f items s x t h =>
      obtain ⟨need, ih⟩ := calls_follows h
      refine ⟨need, fun room budget frames hle => .fails
        ((ih room budget ((.selected items, blame) :: frames) hle).imp fun o u h => ?_)⟩
      exact ⟨0, _, s, rfl, proceeds_ok (responds_call h)⟩
  | .drop blame f items s v t a h ha =>
      obtain ⟨need, ih⟩ := calls_follows h
      refine ⟨max need 0, fun room budget frames hle => .bind
        ((ih room budget ((.selected items, blame) :: frames) hle).imp fun o u h => ?_) hle
        (.of_answer ha (fun w hw o u h => ?_) fun stop x hstop hx => ?_)⟩
      · exact ⟨0, _, s, rfl, proceeds_ok (responds_call h)⟩
      · refine halts_deliver (by simp) rfl ?_
        rw [Combinator.dropSelected_eq, hw]
        exact proceeds_ok (responds_produce h)
      · refine halts_deliver (by simp) rfl ?_
        rw [Combinator.dropSelected_eq, hstop]
        exact proceeds_error hx
  | .reroll blame roll accept s a t h =>
      obtain ⟨need, ih⟩ := rerolls_follows h
      refine ⟨need, fun room budget frames hle => ?_⟩
      exact (ih room budget frames hle).imp fun o u h => ⟨0, _, s, rfl, proceeds_ok h⟩
  | .uncountable blame x roll again s failure h =>
      refine ⟨0, fun room budget frames hle => .of_failure ?_⟩
      obtain ⟨stop, hstop, hfailure⟩ := answer?_eq_error h
      refine ⟨0, .error stop, s, ?_, proceeds_error hfailure⟩
      simp only [Routine.perform, Combinator.start, hstop, Except.map]
  | .explode blame x roll again count s a t hcount h =>
      obtain ⟨need, ih⟩ := explodes_follows h
      refine ⟨need, fun room budget frames hle => .map ?_⟩
      refine (ih room budget frames [] hle).imp fun o u h => ⟨0, _, s, ?_, proceeds_ok h⟩
      simp only [Routine.perform, Combinator.start, hcount, Except.map]

/-- The machine comes to the images of values in order. -/
theorem maps_follows {blame : Expr} {f : Function} {items : List Value} {s t : ω}
    {a : Except Failure (List Value)} (h : Maps around config blame f items s a t) :
    ∃ need, ∀ room budget frames done, budget ≤ room →
      Follows (Responds (around.world resume room) config budget (Combinator.mapNext f done items)
        (between frames blame s)) budget need
        (fun vs => Halts (around.world resume room) config
          (returning (.array (done.reverse ++ vs)) frames t)) a t := by
  match h with
  | .nil blame f s =>
      refine ⟨0, fun room budget frames done hle => .of_result fun o u h => ?_⟩
      rw [List.append_nil] at h
      exact responds_produce h
  | .head_fails blame f v rest s x t h =>
      obtain ⟨need, ih⟩ := calls_follows h
      refine ⟨need, fun room budget frames done hle => ?_⟩
      exact .fails ((ih room budget ((.mapped f done rest, blame) :: frames) hle).imp
        fun o u h => responds_call h)
  | .cons blame f v rest s w t a u h hrest =>
      obtain ⟨need, ih⟩ := calls_follows h
      obtain ⟨more, ihrest⟩ := maps_follows hrest
      refine ⟨max need more, fun room budget frames done hle => ?_⟩
      refine .bind ((ih room budget ((.mapped f done rest, blame) :: frames) hle).imp
        fun o u h => responds_call h) hle (.map ?_)
      have hnext := ihrest room room frames (w :: done) (Nat.le_refl _)
      simp only [List.reverse_cons, List.append_assoc, List.singleton_append] at hnext
      exact hnext.imp fun o u h => halts_deliver (by simp) rfl (proceeds_ok h)

/-- The machine comes to the value accumulated over items. -/
theorem folds_follows {blame : Expr} {f : Function} {acc : Value} {items : List Value} {s t : ω}
    {a : Except Failure Value} (h : Folds around config blame f acc items s a t) :
    ∃ need, ∀ room budget frames, budget ≤ room →
      Follows (Responds (around.world resume room) config budget (Combinator.reduceNext f acc items)
        (between frames blame s)) budget need
        (fun v => Halts (around.world resume room) config (returning v frames t)) a t := by
  match h with
  | .nil .. =>
      exact ⟨0, fun room budget frames hle => .of_result fun o u h => responds_produce h⟩
  | .function_fails blame f acc item rest s x t h =>
      obtain ⟨need, ih⟩ := calls_follows h
      refine ⟨need, fun room budget frames hle => ?_⟩
      exact .fails ((ih room budget ((.combining f item rest, blame) :: frames) hle).imp
        fun o u h => responds_call h)
  | .cons blame f acc item rest s v t a u h hv =>
      obtain ⟨need, ih⟩ := calls_follows h
      obtain ⟨more, ihv⟩ := combines_follows hv
      refine ⟨max need more, fun room budget frames hle => ?_⟩
      exact .bind ((ih room budget ((.combining f item rest, blame) :: frames) hle).imp
        fun o u h => responds_call h) hle (ihv room frames)

/-- The machine goes on accumulating. -/
theorem combines_follows {blame : Expr} {f : Function} {item : Value} {rest : List Value}
    {v : Value} {s t : ω} {a : Except Failure Value}
    (h : Combines around config blame f item rest v s a t) :
    ∃ need, ∀ room frames,
      Follows (Halts (around.world resume room) config
        (returning v ((.combining f item rest, blame) :: frames) s)) room need
        (fun v => Halts (around.world resume room) config (returning v frames t)) a t := by
  match h with
  | .no_function blame f item rest v s failure h =>
      obtain ⟨stop, hstop, hfailure⟩ := answer?_eq_error h
      refine ⟨0, fun room frames => .of_failure (halts_deliver (by simp) rfl ?_)⟩
      rw [Combinator.reduceItem_eq, hstop]
      exact proceeds_error hfailure
  | .item_fails blame f item rest g s x t h =>
      obtain ⟨need, ih⟩ := calls_follows h
      refine ⟨need, fun room frames => .fails
        ((ih room room ((.combined f rest, blame) :: frames) (Nat.le_refl _)).imp fun o u h => ?_)⟩
      exact halts_deliver (by simp) rfl (proceeds_ok (responds_call h))
  | .item blame f item rest g s acc t a u h hrest =>
      obtain ⟨need, ih⟩ := calls_follows h
      obtain ⟨more, ihrest⟩ := folds_follows hrest
      refine ⟨max need more, fun room frames => .bind
        ((ih room room ((.combined f rest, blame) :: frames) (Nat.le_refl _)).imp fun o u h => ?_)
        (Nat.le_refl _) ((ihrest room room frames (Nat.le_refl _)).imp fun o u h => ?_)⟩
      · exact halts_deliver (by simp) rfl (proceeds_ok (responds_call h))
      · exact halts_deliver (by simp) rfl (proceeds_ok h)

/-- The machine comes to the roll that is taken. -/
theorem rerolls_follows {blame : Expr} {roll accept : Function} {attempts : Nat} {s t : ω}
    {a : Except Failure Value} (h : Rerolls around config blame roll accept attempts s a t) :
    ∃ need, ∀ room budget frames, budget ≤ room →
      Follows (Responds (around.world resume room) config budget
        (Combinator.rollAgain roll accept attempts) (between frames blame s)) budget need
        (fun v => Halts (around.world resume room) config (returning v frames t)) a t := by
  match h with
  | .roll_fails blame roll accept attempts s x t h =>
      obtain ⟨need, ih⟩ := calls_follows h
      refine ⟨need, fun room budget frames hle => ?_⟩
      exact .fails ((ih room budget ((.rolled roll accept attempts, blame) :: frames) hle).imp
        fun o u h => responds_call h)
  | .verdict_fails blame roll accept attempts s v t x u h hv =>
      obtain ⟨need, ih⟩ := calls_follows h
      obtain ⟨more, ihv⟩ := calls_follows hv
      refine ⟨max need more, fun room budget frames hle => ?_⟩
      refine .bind ((ih room budget ((.rolled roll accept attempts, blame) :: frames) hle).imp
        fun o u h => responds_call h) hle (.fails ((ihv room room
          ((.judged roll accept attempts v, blame) :: frames) (Nat.le_refl _)).imp fun o u h => ?_))
      exact halts_deliver (by simp) rfl (proceeds_ok (responds_call h))
  | .verdict blame roll accept attempts s v t verdict u a w h hv hverdict =>
      obtain ⟨need, ih⟩ := calls_follows h
      obtain ⟨more, ihv⟩ := calls_follows hv
      obtain ⟨most, ihverdict⟩ := judges_follows hverdict
      refine ⟨max need (max more most), fun room budget frames hle => ?_⟩
      refine .bind ((ih room budget ((.rolled roll accept attempts, blame) :: frames) hle).imp
        fun o u h => responds_call h) hle (.bind ((ihv room room
          ((.judged roll accept attempts v, blame) :: frames) (Nat.le_refl _)).imp fun o u h => ?_)
          (Nat.le_refl _) (ihverdict room frames))
      exact halts_deliver (by simp) rfl (proceeds_ok (responds_call h))

/-- The machine decides on a roll. -/
theorem judges_follows {blame : Expr} {roll accept : Function} {attempts : Nat} {v verdict : Value}
    {s t : ω} {a : Except Failure Value}
    (h : Judges around config blame roll accept attempts v verdict s a t) :
    ∃ need, ∀ room frames,
      Follows (Halts (around.world resume room) config
        (returning verdict ((.judged roll accept attempts v, blame) :: frames) s)) room need
        (fun v => Halts (around.world resume room) config (returning v frames t)) a t := by
  match h with
  | .accepted blame roll accept attempts v verdict s hverdict =>
      refine ⟨0, fun room frames => .of_result fun o u h => halts_deliver (by simp) rfl ?_⟩
      simp only [Combinator.decideReroll, hverdict, if_true]
      exact proceeds_ok (responds_produce h)
  | .last blame roll accept attempts v verdict s hverdict hattempts hconfig =>
      refine ⟨0, fun room frames => .of_result fun o u h => halts_deliver (by simp) rfl ?_⟩
      simp only [Combinator.decideReroll, hverdict, Bool.false_eq_true, if_false, hattempts, if_true,
        hconfig]
      exact proceeds_ok (responds_produce h)
  | .exhausted blame roll accept attempts v verdict s hverdict hattempts hconfig =>
      refine ⟨0, fun room frames => .of_failure (halts_deliver (by simp) rfl ?_)⟩
      simp only [Combinator.decideReroll, hverdict, Bool.false_eq_true, if_false, hattempts, if_true,
        hconfig]
      exact proceeds_error rfl
  | .again blame roll accept attempts v verdict s a t hverdict hattempts h =>
      obtain ⟨need, ih⟩ := rerolls_follows h
      refine ⟨need, fun room frames =>
        (ih room room frames (Nat.le_refl _)).imp fun o u h => halts_deliver (by simp) rfl ?_⟩
      simp only [Combinator.decideReroll, hverdict, Bool.false_eq_true, if_false,
        Nat.not_le.2 hattempts]
      exact proceeds_ok h

/-- The machine comes to the rolls of an explosion. -/
theorem explodes_follows {blame : Expr} {roll again : Function} {left : Nat} {s t : ω}
    {a : Except Failure (List Value)} (h : Explodes around config blame roll again left s a t) :
    ∃ need, ∀ room budget frames done, budget ≤ room →
      Follows (Responds (around.world resume room) config budget
        (Combinator.nextBase roll again done left) (between frames blame s)) budget need
        (fun vs => Halts (around.world resume room) config
          (returning (.array (done.reverse ++ vs)) frames t)) a t := by
  match h with
  | .done blame roll again s =>
      refine ⟨0, fun room budget frames done hle => .of_result fun o u h => ?_⟩
      rw [List.append_nil] at h
      exact responds_produce h
  | .roll_fails blame roll again left s x t h =>
      obtain ⟨need, ih⟩ := calls_follows h
      refine ⟨need, fun room budget frames done hle => ?_⟩
      exact .fails ((ih room budget ((.exploded roll again done left, blame) :: frames) hle).imp
        fun o u h => responds_call h)
  | .verdict_fails blame roll again left s v t x u h hv =>
      obtain ⟨need, ih⟩ := calls_follows h
      obtain ⟨more, ihv⟩ := calls_follows hv
      refine ⟨max need more, fun room budget frames done hle => ?_⟩
      refine .bind ((ih room budget ((.exploded roll again done left, blame) :: frames) hle).imp
        fun o u h => responds_call h) hle (.fails ((ihv room room
          ((.repeated roll again (v :: done) left, blame) :: frames) (Nat.le_refl _)).imp
          fun o u h => ?_))
      exact halts_deliver (by simp) rfl (proceeds_ok (responds_call h))
  | .verdict blame roll again left s v t verdict u a w h hv hrest =>
      obtain ⟨need, ih⟩ := calls_follows h
      obtain ⟨more, ihv⟩ := calls_follows hv
      obtain ⟨most, ihrest⟩ := explodes_follows hrest
      refine ⟨max need (max more most), fun room budget frames done hle => ?_⟩
      have hnext := ihrest room room frames (v :: done) (Nat.le_refl _)
      simp only [List.reverse_cons, List.append_assoc, List.singleton_append] at hnext
      refine .bind ((ih room budget ((.exploded roll again done left, blame) :: frames) hle).imp
        fun o u h => responds_call h) hle (.bind ((ihv room room
          ((.repeated roll again (v :: done) left, blame) :: frames) (Nat.le_refl _)).imp
          fun o u h => ?_) (Nat.le_refl _) (.map (hnext.imp fun o u h => ?_)))
      · exact halts_deliver (by simp) rfl (proceeds_ok (responds_call h))
      · refine halts_deliver (by simp) rfl (proceeds_ok ?_)
        rwa [Combinator.decideExplode_eq]

end

end RollScript

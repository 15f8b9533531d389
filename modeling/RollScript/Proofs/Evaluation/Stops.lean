import RollScript.Machine.Run

/-!
# Why the rules stop

Every function of the machine stops for a few reasons only. A computation on values stops because it
cannot use a value, or because its arguments are not those of its guards; a name stops because it has
no value; definitions stop for lack of room. Read `Function.respond_stop` and `Frame.requests_stop`:
they say this of calls and of waiting frames. What a function of the host stops for is its own
affair.
-/

namespace RollScript

variable {ω : Type}

/-- Whether a stop is due to a value that cannot be used. -/
def Stop.isOfValues : Stop → Bool
  | .failed (.unbound _) => false
  | .failed _ => true
  | .aborted _ => false
  | .unfinished => false

/-- A stop is due to a value that cannot be used, or to arguments that a primitive is not made for. -/
def Stop.OfArguments (stop : Stop) : Prop :=
  stop.isOfValues = true ∨ stop = .aborted .misapplied

/-- A computation stops for no other reason than the given ones. -/
def StopsFor {α : Type} (reason : Stop → Prop) (computed : Except Stop α) : Prop :=
  ∀ stop, computed = .error stop → reason stop

/-- A computation stops for no other reason than its values. -/
abbrev StopsForValues {α : Type} (computed : Except Stop α) : Prop :=
  StopsFor (fun stop => stop.isOfValues = true) computed

namespace StopsFor

variable {α β : Type} {reason weaker : Stop → Prop}

theorem ok (a : α) : StopsFor reason (.ok a) := by
  intro stop h
  cases h

theorem error {stop : Stop} (h : reason stop) : StopsFor reason (.error stop : Except Stop α) := by
  intro other hother
  cases hother
  exact h

theorem bind {computed : Except Stop α} {next : α → Except Stop β} (h : StopsFor reason computed)
    (hnext : ∀ a, computed = .ok a → StopsFor reason (next a)) :
    StopsFor reason (computed >>= next) := by
  cases computed with
  | ok a => exact hnext a rfl
  | error stop => exact error (h stop rfl)

theorem map {computed : Except Stop α} (h : StopsFor reason computed) (f : α → β) :
    StopsFor reason (computed.map f) := by
  cases computed with
  | ok a => exact ok (f a)
  | error stop => exact error (h stop rfl)

theorem imp {computed : Except Stop α} (h : StopsFor reason computed)
    (hweaker : ∀ stop, reason stop → weaker stop) : StopsFor weaker computed :=
  fun stop hstop => hweaker stop (h stop hstop)

/-- What stops for its values only is not stopped by its arguments. -/
theorem of_values {computed : Except Stop α} (h : StopsForValues computed) :
    StopsFor Stop.OfArguments computed :=
  h.imp fun _ => .inl

theorem misapplied : StopsFor Stop.OfArguments (.error (.aborted .misapplied) : Except Stop α) :=
  error (.inr rfl)

end StopsFor

/-! ## Computations on values -/

theorem Number.rounded_stops (x : Float) : StopsForValues (rounded x) := by
  unfold rounded
  split
  · exact .ok _
  · exact .error rfl

theorem Number.repetitions_stops (x : Float) : StopsForValues (repetitions x) :=
  (rounded_stops x).map _

theorem Value.add_stops (v w : Value) : StopsForValues (v.add w) := by
  fun_cases Value.add v w <;> first | exact .ok _ | exact .error rfl

theorem Value.sum_stops (items : List Value) : StopsForValues (sum items) := by
  cases items with
  | nil => exact .ok _
  | cons first rest =>
      show StopsForValues (rest.foldlM add first)
      induction rest generalizing first with
      | nil => exact .ok _
      | cons next rest ih =>
          rw [List.foldlM_cons]
          exact (add_stops first next).bind fun total _ => ih total

namespace Operation

theorem onNumber_stops (f : Float → Float) (args : List Value) :
    StopsFor Stop.OfArguments (onNumber f args) := by
  unfold onNumber
  split
  · exact .ok _
  · exact .misapplied

theorem onNumbers_stops {f : Float → Float → Except Stop Value} (hf : ∀ x y, StopsForValues (f x y))
    (args : List Value) : StopsFor Stop.OfArguments (onNumbers f args) := by
  unfold onNumbers
  split
  · exact (hf _ _).of_values
  · exact .misapplied

theorem onList_stops {f : List Float → Except Stop Value} (hf : ∀ xs, StopsForValues (f xs))
    (args : List Value) : StopsFor Stop.OfArguments (onList f args) := by
  unfold onList
  split
  · split
    · exact (hf _).of_values
    · exact .misapplied
  · exact .misapplied

theorem onCounted_stops (f : Nat → List Float → List Float) (args : List Value) :
    StopsFor Stop.OfArguments (onCounted f args) := by
  unfold onCounted
  split
  · split
    · exact ((Number.repetitions_stops _).map _).of_values
    · exact .misapplied
  · exact .misapplied

theorem quotient_stops (x y : Float) : StopsForValues (quotient x y) := by
  unfold quotient
  split
  · exact .error rfl
  · exact .ok _

theorem remainder_stops (x y : Float) : StopsForValues (remainder x y) := by
  unfold remainder
  split
  · exact .error rfl
  · exact .ok _

theorem raised_stops (x y : Float) : StopsForValues (raised x y) := by
  unfold raised
  split
  · exact .ok _
  · exact .error rfl
  · exact .error rfl

theorem extreme_stops (none : DomainCause) (pick : Float → Float → Float) (xs : List Float) :
    StopsForValues (extreme none pick xs) := by
  cases xs with
  | nil => exact .error rfl
  | cons x rest => exact .ok _

theorem apply_stops (op : Operation) (args : List Value) :
    StopsFor Stop.OfArguments (op.apply args) := by
  cases op with
  | floor | ceil | round | abs | identity | negate | complement => exact onNumber_stops _ args
  | subtract | multiply | larger | smaller | less | lessOrEqual | greater | greaterOrEqual =>
      exact onNumbers_stops (fun x y => .ok _) args
  | divide => exact onNumbers_stops quotient_stops args
  | modulo => exact onNumbers_stops remainder_stops args
  | power => exact onNumbers_stops raised_stops args
  | sort => exact onList_stops (fun xs => .ok _) args
  | least => exact onList_stops (extreme_stops _ _) args
  | greatest => exact onList_stops (extreme_stops _ _) args
  | highest | lowest => exact onCounted_stops _ args
  | add =>
      simp only [apply]
      split
      · exact (Value.add_stops _ _).of_values
      · exact .misapplied
  | sum =>
      simp only [apply]
      split
      · exact (Value.sum_stops _).of_values
      · exact .misapplied
  | equal | notEqual | length =>
      simp only [apply]
      split
      · exact .ok _
      · exact .misapplied

end Operation

theorem Guard.check_stops (guard : Guard) (v : Value) : StopsForValues (guard.check v) := by
  unfold check
  split
  · exact .ok ()
  · exact .error rfl

theorem applyTo_stops (argument : Expr) (env : Env) (v : Value) :
    StopsForValues (applyTo argument env v) := by
  unfold applyTo
  split
  · exact .ok _
  · exact (Number.repetitions_stops _).map _
  · exact .ok _
  · exact .error rfl

theorem elementAt_stops (items : List Value) (v : Value) : StopsForValues (elementAt items v) := by
  unfold elementAt
  split
  · refine (Number.rounded_stops _).bind fun i _ => ?_
    split
    · exact .error rfl
    · split
      · exact .ok _
      · exact .error rfl
  · exact .error rfl

namespace Combinator

theorem reduceItem_stops (f : Function) (item : Value) (rest : List Value) (v : Value) :
    StopsForValues (reduceItem f item rest v) := by
  unfold reduceItem
  split
  · exact .ok _
  · exact .error rfl

theorem dropSelected_stops (items : List Value) (v : Value) :
    StopsForValues (dropSelected items v) := by
  unfold dropSelected
  split
  · exact .ok _
  · exact .error rfl

theorem decideReroll_stops (config : Config) (roll accept : Function) (attempts : Nat)
    (result verdict : Value) :
    StopsForValues (decideReroll config roll accept attempts result verdict) := by
  unfold decideReroll
  split
  · exact .ok _
  · split
    · split
      · exact .ok _
      · exact .error rfl
    · exact .ok _

theorem start_stops (c : Combinator) (args : List Value) :
    StopsFor Stop.OfArguments (c.start args) := by
  unfold start
  split
  · exact .ok _
  · exact .ok _
  · exact .ok _
  · exact .ok _
  · exact ((Number.repetitions_stops _).map _).of_values
  · exact .misapplied

end Combinator

/-! ## Calls -/

/-- The stops of a throw of dice: the bits run out, or the patience does. -/
inductive DrawStop (draw : Random.BitSource ω) : Stop → Prop where
  | unfinished : DrawStop draw .unfinished
  | exhausted {width : Nat} {s : ω} : draw width s = none → DrawStop draw (.aborted .exhausted)

/-- The stops of a call: those of its arguments, of dice, and of functions of the host. -/
inductive CallStop (world : World ω) : Stop → Prop where
  | arguments {stop : Stop} : stop.OfArguments → CallStop world stop
  | draw {stop : Stop} : DrawStop world.draw stop → CallStop world stop
  | host {stop : Stop} {id : Nat} {args : List Value} {s : ω} :
      (world.call id args s).1 = .error stop → CallStop world stop

theorem CallStop.values {world : World ω} {stop : Stop} (h : stop.isOfValues = true) :
    CallStop world stop :=
  .arguments (.inl h)

theorem CallStop.unfinished {world : World ω} : CallStop world .unfinished :=
  .draw .unfinished

variable (draw : Random.BitSource ω)

theorem Random.below_stop (bound patience : Nat) (s : ω) :
    StopsFor (DrawStop draw) (below draw bound patience s).1 := by
  induction patience generalizing s with
  | zero => exact .error .unfinished
  | succ patience ih =>
      unfold below
      split
      · next hdraw => exact .error (.exhausted hdraw)
      · split
        · exact .ok _
        · exact ih _

theorem Random.choose_stop {α : Type} (patience : Nat) (first : α) (rest : List α) (s : ω) :
    StopsFor (DrawStop draw) (choose draw patience first rest s).1 := by
  have hbelow := below_stop draw (rest.length + 1) patience s
  unfold choose
  split
  · exact .ok _
  · next hstop =>
      rw [hstop] at hbelow
      exact .error (hbelow _ rfl)

namespace Die

/-- The stops of a roll: those of its values and those of a throw. -/
def RollStop (draw : Random.BitSource ω) (stop : Stop) : Prop :=
  stop.isOfValues = true ∨ DrawStop draw stop

theorem face_stop (patience : Nat) (v : Value) (s : ω) :
    StopsFor (RollStop draw) (face draw patience v s).1 := by
  induction patience generalizing v s with
  | zero =>
      simp only [face]
      exact .error (.inr .unfinished)
  | succ patience ih =>
      cases v with
      | array items =>
          cases items with
          | nil =>
              simp only [face]
              exact .error (.inl rfl)
          | cons first rest =>
              have hchoose := Random.choose_stop draw patience first rest s
              simp only [face]
              split
              · exact ih _ _
              · next hstop =>
                  rw [hstop] at hchoose
                  exact .error (.inr (hchoose _ rfl))
      | number | string | unit | function =>
          simp only [face]
          exact .ok _

theorem rollFaces_stop (patience : Nat) (v : Value) (s : ω) :
    StopsFor (RollStop draw) (rollFaces draw patience v s).1 := by
  unfold rollFaces
  split
  · split
    · next hrounded => exact .error (.inl (Number.rounded_stops _ _ hrounded))
    · next sides _ =>
        split
        · exact .error (.inl rfl)
        · have hbelow := Random.below_stop draw sides.toNat patience s
          unfold numbered
          split
          · exact .ok _
          · next hstop =>
              rw [hstop] at hbelow
              exact .error (.inr (hbelow _ rfl))
  · exact face_stop draw patience _ s
  · exact .error (.inl rfl)

theorem roll_stop (patience : Nat) (die : Die) (args : List Value) (s : ω) :
    StopsFor (fun stop => stop.OfArguments ∨ DrawStop draw stop)
      (die.roll draw patience args s).1 := by
  unfold roll
  split
  · exact (rollFaces_stop draw patience _ s).imp fun _ => Or.imp_left .inl
  · exact (Random.choose_stop draw patience _ _ s).imp fun _ => .inr
  · exact .error (.inl (.inr rfl))

end Die

theorem Routine.perform_stop {world : World ω} {patience : Nat} {routine : Routine}
    {args : List Value} {s t : ω} {stop : Stop}
    (h : routine.perform world patience args s = (.error stop, t)) : CallStop world stop := by
  cases routine with
  | operation op =>
      have hmap := (Prod.mk.inj h).1
      exact .arguments ((Operation.apply_stops op args).map _ stop hmap)
  | die d =>
      have hroll := d.roll_stop world.draw patience args s
      simp only [perform] at h
      split at h
      · cases h
      · next hstop =>
          rw [hstop] at hroll
          cases h
          rcases hroll stop rfl with harguments | hdraw
          · exact .arguments harguments
          · exact .draw hdraw
  | combinator c => exact .arguments (Combinator.start_stops c args stop (Prod.mk.inj h).1)
  | host id => exact .host (congrArg Prod.fst h)

theorem Function.respond_stop {world : World ω} {patience : Nat} {f : Function} {v : Value}
    {s t : ω} {stop : Stop} (h : f.respond world patience v s = (.error stop, t)) :
    CallStop world stop := by
  cases f with
  | closure parameter body env => cases h
  | primitive p bound =>
      simp only [respond] at h
      split at h
      · cases h
        exact .arguments (.inr rfl)
      · split at h
        · next hcheck =>
            cases h
            exact .values (Guard.check_stops _ _ _ hcheck)
        · split at h
          · cases h
          · exact Routine.perform_stop h

/-! ## Frames and expressions -/

theorem defineWithin_stop {room : Nat} {done : List (Text × Entry)} {body : Expr} {env : Env}
    {rest : List (Text × Expr)} {stop : Stop}
    (h : defineWithin room done body env rest = .error stop) : stop = .aborted .tooDeep := by
  unfold defineWithin at h
  split at h
  · cases h
    rfl
  · cases h

/-- Whether a frame computes with the value that comes: it can then stop because of the value. The
others pass the value on, or choose what is evaluated next. -/
def Frame.isComputing : Frame → Bool
  | .callee .. | .argument .. | .repetition .. | .index .. => true
  | .mapped .. | .combining .. | .combined .. | .selected .. => true
  | .rolled .. | .judged .. | .exploded .. | .repeated .. => true
  | .finish | .element .. | .definition .. | .branch .. | .host .. => false

/-- A frame that is not the host's stops because of its value, if it computes with it, or for lack of
room. -/
theorem Frame.requests_stop {world : World ω} {config : Config} {frame : Frame} {v : Value}
    {s t : ω} {stop : Stop} (hhost : ∀ id saved, frame ≠ .host id saved)
    (h : frame.requests world config v s = (.error stop, t)) :
    frame.isComputing = true ∧ stop.isOfValues = true ∨ stop = .aborted .tooDeep := by
  cases frame with
  | finish | argument | element | repetition | branch | mapped | combined | rolled | exploded
  | repeated => cases (Prod.mk.inj h).1
  | callee operand env => exact .inl ⟨rfl, applyTo_stops operand env v stop (Prod.mk.inj h).1⟩
  | index items => exact .inl ⟨rfl, elementAt_stops items v stop (Prod.mk.inj h).1⟩
  | definition done name rest body env => exact .inr (defineWithin_stop (Prod.mk.inj h).1)
  | combining f item rest =>
      exact .inl ⟨rfl, Combinator.reduceItem_stops f item rest v stop (Prod.mk.inj h).1⟩
  | selected items => exact .inl ⟨rfl, Combinator.dropSelected_stops items v stop (Prod.mk.inj h).1⟩
  | judged roll accept attempts result =>
      exact .inl ⟨rfl, Combinator.decideReroll_stops config roll accept attempts result v stop
        (Prod.mk.inj h).1⟩
  | host id saved => exact absurd rfl (hhost id saved)

/-- An expression stops only if it is a name without a value, or for lack of room. -/
theorem Expr.requests_stop {room : Nat} {expr : Expr} {env : Env} {stop : Stop}
    (h : expr.requests room env = .error stop) :
    (∃ span x, expr = .name span x ∧ stop = .failed (.unbound x)) ∨ stop = .aborted .tooDeep := by
  cases expr with
  | number | string | unit | array | apply | function | choice => cases h
  | name span x =>
      simp only [requests] at h
      split at h
      · cases h
      · cases h
        exact .inl ⟨span, x, rfl, rfl⟩
  | block span bindings body => exact .inr (defineWithin_stop h)

end RollScript

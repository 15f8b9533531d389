import Mathlib.Data.List.Forall2
import RollScript.Primitive.Registry
import RollScript.Proofs.Evaluation.Stops

/-!
# Arguments that guards let pass

Every primitive of the language is declared with the guards that its routine needs, so a routine that
is carried out with arguments that the guards have let pass is never misapplied. Read
`Routine.perform_fits` first.
-/

namespace RollScript

variable {ω : Type}

/-- A computation does not stop because it is not made for its arguments. -/
abbrev Fitting {α : Type} (computed : Except Stop α) : Prop :=
  StopsFor (fun stop => stop ≠ .aborted .misapplied) computed

/-- The guards let the arguments pass, one by one. -/
abbrev Passes (guards : List Guard) (args : List Value) : Prop :=
  List.Forall₂ (fun guard v => guard.refusal? v = none) guards args

theorem StopsFor.fitting {α : Type} {computed : Except Stop α} (h : StopsForValues computed) :
    Fitting computed := by
  refine h.imp fun stop hstop hmisapplied => ?_
  rw [hmisapplied] at hstop
  cases hstop

theorem DrawStop.fitting {draw : Random.BitSource ω} {stop : Stop} (h : DrawStop draw stop) :
    stop ≠ .aborted .misapplied := by
  intro hmisapplied
  rw [hmisapplied] at h
  cases h

/-! ## Values that pass a guard -/

namespace Guard

variable {v : Value}

theorem number_of_passes (h : Guard.number.refusal? v = none) : ∃ x, v = .number x := by
  cases v with
  | number x => exact ⟨x, rfl⟩
  | _ => cases h

theorem unit_of_passes (h : Guard.unit.refusal? v = none) : v = .unit := by
  cases v with
  | unit => rfl
  | _ => cases h

theorem array_of_passes (h : Guard.array.refusal? v = none) : ∃ items, v = .array items := by
  cases v with
  | array items => exact ⟨items, rfl⟩
  | _ => cases h

theorem function_of_passes (h : Guard.function.refusal? v = none) : ∃ f, v = .function f := by
  cases v with
  | function f => exact ⟨f, rfl⟩
  | _ => cases h

theorem mapM_number? {items : List Value} (h : items.all Value.isNumber = true) :
    ∃ xs, items.mapM Value.number? = some xs := by
  induction items with
  | nil => exact ⟨[], rfl⟩
  | cons v rest ih =>
      rw [List.all_cons, Bool.and_eq_true] at h
      obtain ⟨xs, hxs⟩ := ih h.2
      cases v with
      | number x => exact ⟨x :: xs, by rw [List.mapM_cons, hxs]; rfl⟩
      | _ => cases h.1

theorem numbers_of_passes (h : Guard.numbers.refusal? v = none) :
    ∃ items xs, v = .array items ∧ items.mapM Value.number? = some xs := by
  cases v with
  | array items =>
      simp only [refusal?] at h
      split at h
      · next hall =>
          obtain ⟨xs, hxs⟩ := mapM_number? hall
          exact ⟨items, xs, rfl, hxs⟩
      · cases h
  | _ => cases h

end Guard

namespace Passes

variable {first second third : Guard} {args : List Value}

theorem one (h : Passes [first] args) : ∃ v, args = [v] ∧ first.refusal? v = none := by
  obtain ⟨v, rest, hv, hrest, rfl⟩ := List.forall₂_cons_left_iff.1 h
  rw [List.forall₂_nil_left_iff.1 hrest]
  exact ⟨v, rfl, hv⟩

theorem two (h : Passes [first, second] args) :
    ∃ v w, args = [v, w] ∧ first.refusal? v = none ∧ second.refusal? w = none := by
  obtain ⟨v, rest, hv, hrest, rfl⟩ := List.forall₂_cons_left_iff.1 h
  obtain ⟨w, rfl, hw⟩ := one hrest
  exact ⟨v, w, rfl, hv, hw⟩

theorem three (h : Passes [first, second, third] args) :
    ∃ u v w, args = [u, v, w] ∧ first.refusal? u = none ∧ second.refusal? v = none ∧
      third.refusal? w = none := by
  obtain ⟨u, rest, hu, hrest, rfl⟩ := List.forall₂_cons_left_iff.1 h
  obtain ⟨v, w, rfl, hv, hw⟩ := two hrest
  exact ⟨u, v, w, rfl, hu, hv, hw⟩

/-- One more argument passes the next of the guards. -/
theorem snoc {guards : List Guard} {guard : Guard} {v : Value}
    (h : Passes (guards.take args.length) args) (hguard : guards[args.length]? = some guard)
    (hv : guard.refusal? v = none) :
    Passes (guards.take (args ++ [v]).length) (args ++ [v]) := by
  rw [List.length_append, List.length_singleton, List.take_add_one, hguard]
  exact List.rel_append h (.cons hv .nil)

end Passes

/-! ## Operations -/

namespace Operation

/-- The guards that an operation needs. -/
def guards : Operation → List Guard
  | floor | ceil | round | abs | identity | negate | complement => [.number]
  | subtract | multiply | divide | modulo | power | larger | smaller => [.number, .number]
  | less | lessOrEqual | greater | greaterOrEqual => [.number, .number]
  | add | equal | notEqual => [.any, .any]
  | sum | length => [.array]
  | sort | least | greatest => [.numbers]
  | highest | lowest => [.number, .numbers]

variable {args : List Value}

theorem onNumber_fits (f : Float → Float) (h : Passes [.number] args) : Fitting (onNumber f args) := by
  obtain ⟨v, rfl, hv⟩ := h.one
  obtain ⟨x, rfl⟩ := Guard.number_of_passes hv
  exact .ok _

theorem onNumbers_fits {f : Float → Float → Except Stop Value} (hf : ∀ x y, StopsForValues (f x y))
    (h : Passes [.number, .number] args) : Fitting (onNumbers f args) := by
  obtain ⟨v, w, rfl, hv, hw⟩ := h.two
  obtain ⟨x, rfl⟩ := Guard.number_of_passes hv
  obtain ⟨y, rfl⟩ := Guard.number_of_passes hw
  exact (hf x y).fitting

theorem onList_fits {f : List Float → Except Stop Value} (hf : ∀ xs, StopsForValues (f xs))
    (h : Passes [.numbers] args) : Fitting (onList f args) := by
  obtain ⟨v, rfl, hv⟩ := h.one
  obtain ⟨items, xs, rfl, hxs⟩ := Guard.numbers_of_passes hv
  simp only [onList, hxs]
  exact (hf xs).fitting

theorem onCounted_fits (f : Nat → List Float → List Float) (h : Passes [.number, .numbers] args) :
    Fitting (onCounted f args) := by
  obtain ⟨v, w, rfl, hv, hw⟩ := h.two
  obtain ⟨x, rfl⟩ := Guard.number_of_passes hv
  obtain ⟨items, xs, rfl, hxs⟩ := Guard.numbers_of_passes hw
  simp only [onCounted, hxs]
  exact ((Number.repetitions_stops x).map _).fitting

theorem apply_fits (op : Operation) (h : Passes op.guards args) : Fitting (op.apply args) := by
  cases op with
  | floor | ceil | round | abs | identity | negate | complement => exact onNumber_fits _ h
  | subtract | multiply | larger | smaller | less | lessOrEqual | greater | greaterOrEqual =>
      exact onNumbers_fits (fun x y => .ok _) h
  | divide => exact onNumbers_fits quotient_stops h
  | modulo => exact onNumbers_fits remainder_stops h
  | power => exact onNumbers_fits raised_stops h
  | sort => exact onList_fits (fun xs => .ok _) h
  | least => exact onList_fits (extreme_stops _ _) h
  | greatest => exact onList_fits (extreme_stops _ _) h
  | highest | lowest => exact onCounted_fits _ h
  | add =>
      obtain ⟨v, w, rfl, -, -⟩ := h.two
      exact (Value.add_stops v w).fitting
  | equal | notEqual =>
      obtain ⟨v, w, rfl, -, -⟩ := h.two
      exact .ok _
  | sum =>
      obtain ⟨v, rfl, hv⟩ := h.one
      obtain ⟨items, rfl⟩ := Guard.array_of_passes hv
      exact (Value.sum_stops items).fitting
  | length =>
      obtain ⟨v, rfl, hv⟩ := h.one
      obtain ⟨items, rfl⟩ := Guard.array_of_passes hv
      exact .ok _

end Operation

/-! ## Dice -/

namespace Die

/-- The guards that a die needs. -/
def guards : Die → List Guard
  | faces => [.any]
  | fudge => [.unit]

theorem roll_fits (draw : Random.BitSource ω) (patience : Nat) (die : Die) {args : List Value}
    (h : Passes die.guards args) (s : ω) : Fitting (die.roll draw patience args s).1 := by
  cases die with
  | faces =>
      obtain ⟨v, rfl, -⟩ := h.one
      refine (rollFaces_stop draw patience v s).imp fun stop hstop => ?_
      rcases hstop with hvalues | hdraw
      · intro hmisapplied
        rw [hmisapplied] at hvalues
        cases hvalues
      · exact hdraw.fitting
  | fudge =>
      obtain ⟨v, rfl, hv⟩ := h.one
      rw [Guard.unit_of_passes hv]
      exact (Random.choose_stop draw patience _ _ s).imp fun stop => DrawStop.fitting

end Die

/-! ## Combinators -/

namespace Combinator

/-- The guards that a combinator needs. -/
def guards : Combinator → List Guard
  | map => [.array, .function]
  | reduce => [.array, .function, .any]
  | drop => [.function, .array]
  | reroll => [.function, .function]
  | explode => [.number, .function, .function]

theorem start_fits (c : Combinator) {args : List Value} (h : Passes c.guards args) :
    Fitting (c.start args) := by
  cases c with
  | map =>
      obtain ⟨v, w, rfl, hv, hw⟩ := h.two
      obtain ⟨items, rfl⟩ := Guard.array_of_passes hv
      obtain ⟨f, rfl⟩ := Guard.function_of_passes hw
      exact .ok _
  | reduce =>
      obtain ⟨u, v, w, rfl, hu, hv, -⟩ := h.three
      obtain ⟨items, rfl⟩ := Guard.array_of_passes hu
      obtain ⟨f, rfl⟩ := Guard.function_of_passes hv
      exact .ok _
  | drop =>
      obtain ⟨v, w, rfl, hv, hw⟩ := h.two
      obtain ⟨f, rfl⟩ := Guard.function_of_passes hv
      obtain ⟨items, rfl⟩ := Guard.array_of_passes hw
      exact .ok _
  | reroll =>
      obtain ⟨v, w, rfl, hv, hw⟩ := h.two
      obtain ⟨roll, rfl⟩ := Guard.function_of_passes hv
      obtain ⟨accept, rfl⟩ := Guard.function_of_passes hw
      exact .ok _
  | explode =>
      obtain ⟨u, v, w, rfl, hu, hv, hw⟩ := h.three
      obtain ⟨x, rfl⟩ := Guard.number_of_passes hu
      obtain ⟨roll, rfl⟩ := Guard.function_of_passes hv
      obtain ⟨again, rfl⟩ := Guard.function_of_passes hw
      exact ((Number.repetitions_stops x).map _).fitting

end Combinator

/-! ## The primitives of the language -/

/-- The guards that a routine needs. A function of the host says itself what it needs. -/
def Routine.guards? : Routine → Option (List Guard)
  | .operation op => some op.guards
  | .die d => some d.guards
  | .combinator c => some c.guards
  | .host _ => none

/-- A primitive of the language is declared with the guards that its routine needs. -/
theorem Registry.guards_declared {p : Primitive} (h : p ∈ primitives) :
    p.routine.guards? = some p.guards := by
  revert p
  decide

/-- A routine is never misapplied with arguments that the guards it needs let pass. -/
theorem Routine.perform_fits {routine : Routine} {guards : List Guard}
    (h : routine.guards? = some guards) {args : List Value} (hargs : Passes guards args)
    (world : World ω) (patience : Nat) (s : ω) :
    Fitting (routine.perform world patience args s).1 := by
  cases routine with
  | operation op =>
      cases h
      exact (op.apply_fits hargs).map _
  | die d =>
      cases h
      have hroll := d.roll_fits world.draw patience hargs s
      simp only [perform]
      split
      · exact .ok _
      · next stop later hstop =>
          rw [hstop] at hroll
          exact .error (hroll stop rfl)
  | combinator c =>
      cases h
      exact c.start_fits hargs
  | host id => cases h

end RollScript

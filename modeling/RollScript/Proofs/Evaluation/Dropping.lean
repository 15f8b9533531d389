import RollScript.Primitive.Registry
import RollScript.Proofs.Evaluation.Discipline
import RollScript.Proofs.Values.Difference

/-!
# Dropping what a function selects

Read `drop_removes_selected` first. The primitive `drop` calls its function with the whole sequence and
leaves a frame that keeps the sequence; whatever array comes back to that frame, by any way through the
machine, is removed from the sequence as `Removes` says.
-/

namespace RollScript

namespace Machine

variable {ω : Type} {world : World ω} {config : Config} {work : List (Expr × Env)}
  {frames : List (Frame × Expr)} {before blame : Expr} {results : List Value} {s : ω}

/-- A function that is complete with an argument is carried out with all its arguments. -/
theorem step_full {p : Primitive} {bound : List Value} (guard : Guard) {v : Value} (patience : Nat)
    (hguard : p.guards[bound.length]? = some guard) (hpass : guard.refusal? v = none)
    (hfull : p.arity ≤ bound.length + 1) (hroom : p.routine.activations ≤ world.room) :
    step world config (patience + 1)
        ⟨work, (.argument (.primitive p bound), blame) :: frames, some v, before, results, s⟩ =
      proceed world patience (world.room - p.routine.activations)
        ⟨work, frames, none, blame, results, s⟩
        (p.routine.perform world patience (bound ++ [v]) s) := by
  have hactivations : (Function.primitive p bound).activations = p.routine.activations :=
    if_neg (Nat.not_lt.2 hfull)
  rw [step_deliver _ _ _ _ _ _ _ _ _ _ _ (by simp)]
  simp only [Frame.requests, proceed, perform_invoke, hactivations]
  rw [if_neg (Nat.not_lt.2 hroom), Function.respond_full patience hguard hpass hfull]

/-- The frame of `drop` removes the array that comes to it. -/
theorem turns_dropped {items selected : List Value} :
    Turns world config
      ⟨work, (.selected items, blame) :: frames, some (.array selected), before, results, s⟩
      ⟨work, frames, some (.array (Tally.remove selected items)), blame, results, s⟩ :=
  ⟨1, rfl⟩

end Machine

/-- For any array of values and any array that the selector returns for it there are positions that stay
as `Removes` says, such that in any machine `drop` calls its selector with the array and, when the selected
values come back, goes on with the elements at those positions. -/
theorem drop_removes_selected (items selected : List Value) :
    ∃ p stays, Registry.standard.get? (.ofString "drop") = some p ∧ Removes selected items stays ∧
      ∀ {ω : Type} (world : World ω) (config : Config) (work : List (Expr × Env))
        (frames : List (Frame × Expr)) (before blame : Expr) (results : List Value) (s : ω),
        (3 ≤ world.room → ∀ (f : Function) (patience : Nat),
          Machine.step world config (patience + 1)
              ⟨work, (.argument (.primitive p [.function f]), blame) :: frames, some (.array items),
                before, results, s⟩ =
            Machine.perform world patience (world.room - 3) [.call f (.array items) (.selected items)]
              ⟨work, frames, none, blame, results, s⟩) ∧
        Machine.Turns world config
          ⟨work, (.selected items, blame) :: frames, some (.array selected), before, results, s⟩
          ⟨work, frames, some (.array (sift stays items)), blame, results, s⟩ := by
  obtain ⟨hremoves, hsift⟩ := Tally.remove_removes selected items
  refine ⟨Registry.combinator "drop" [.function, .array] .drop, _, by cbv, hremoves, ?_⟩
  intro ω world config work frames before blame results s
  refine ⟨fun hroom f patience => ?_, ?_⟩
  · exact Machine.step_full .array patience rfl rfl (Nat.le_refl 2) hroom
  · rw [← hsift]
    exact Machine.turns_dropped

end RollScript

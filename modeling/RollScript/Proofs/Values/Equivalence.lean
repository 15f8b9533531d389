import Mathlib
import RollScript.Proofs.Values.Equality

/-!
# Equality of values as a relation

Equality of values is symmetric and transitive, because that of numbers is and because arrays are compared
element by element. It is not reflexive: read `Incomparable` for the values that do not equal themselves.
-/

namespace RollScript.Value

/-- A value that is a function or a NaN, or has one in it at any depth. -/
inductive Incomparable : Value → Prop where
  | nan {x : Float} (h : x.isNaN = true) : Incomparable (.number x)
  | function (f : Function) : Incomparable (.function f)
  | item {items : List Value} {v : Value} (hmem : v ∈ items) (h : Incomparable v) :
      Incomparable (.array items)

/-! ## Values that are no arrays -/

theorem sameScalar_symm {v w : Value} (h : sameScalar v w = true) : sameScalar w v = true := by
  cases v <;> cases w <;> simp only [sameScalar, Bool.false_eq_true] at h ⊢
  all_goals exact BEq.symm h

theorem sameScalar_trans {u v w : Value} (h : sameScalar u v = true) (h' : sameScalar v w = true) :
    sameScalar u w = true := by
  cases u <;> cases v <;> simp only [sameScalar, Bool.false_eq_true] at h <;>
    cases w <;> simp only [sameScalar, Bool.false_eq_true] at h' ⊢
  all_goals exact BEq.trans h h'

/-! ## All values -/

/-- Two values are the same as arrays or as values that are no arrays. -/
theorem same_iff {v w : Value} :
    v.same w = true ↔
      (∃ items others, v = .array items ∧ w = .array others ∧ sameItems items others = true) ∨
        sameScalar v w = true := by
  cases v <;> cases w <;> simp [same, sameScalar]

theorem sameItems_cons {v w : Value} {items others : List Value} :
    sameItems (v :: items) (w :: others) = true ↔ v.same w = true ∧ sameItems items others = true := by
  rw [sameItems, Bool.and_eq_true]

/-! ### Symmetry -/

mutual

theorem same_symm : ∀ (v : Value) {w : Value}, v.same w = true → w.same v = true
  | .array items, w, h => by
      rcases same_iff.1 h with ⟨_, others, heq, rfl, hitems⟩ | hscalar
      · obtain rfl := Value.array.inj heq
        exact same_iff.2 (.inl ⟨others, items, rfl, rfl, sameItems_symm items hitems⟩)
      · exact same_iff.2 (.inr (sameScalar_symm hscalar))
  | .number _, _, h | .string _, _, h | .unit, _, h | .function _, _, h => by
      rcases same_iff.1 h with ⟨_, _, heq, _⟩ | hscalar
      · cases heq
      · exact same_iff.2 (.inr (sameScalar_symm hscalar))

theorem sameItems_symm : ∀ (items : List Value) {others : List Value},
    sameItems items others = true → sameItems others items = true
  | [], others, h => by
      cases others with
      | nil => rfl
      | cons w others => cases h
  | v :: items, others, h => by
      cases others with
      | nil => cases h
      | cons w others =>
          obtain ⟨hhead, htail⟩ := sameItems_cons.1 h
          exact sameItems_cons.2 ⟨same_symm v hhead, sameItems_symm items htail⟩

end

/-! ### Transitivity -/

mutual

theorem same_trans : ∀ (u : Value) {v w : Value},
    u.same v = true → v.same w = true → u.same w = true
  | .array items, v, w, h, h' => by
      rcases same_iff.1 h with ⟨_, others, heq, rfl, hitems⟩ | hscalar
      · obtain rfl := Value.array.inj heq
        rcases same_iff.1 h' with ⟨_, lasts, heq, rfl, hothers⟩ | hscalar
        · obtain rfl := Value.array.inj heq
          exact same_iff.2 (.inl ⟨items, lasts, rfl, rfl, sameItems_trans items hitems hothers⟩)
        · cases w <;> cases hscalar
      · cases v <;> cases hscalar
  | .number _, v, _, h, h' | .string _, v, _, h, h' | .unit, v, _, h, h' | .function _, v, _, h, h' => by
      rcases same_iff.1 h with ⟨_, _, heq, _⟩ | hscalar
      · cases heq
      · rcases same_iff.1 h' with ⟨_, _, rfl, _⟩ | hscalar'
        · cases hscalar
        · exact same_iff.2 (.inr (sameScalar_trans hscalar hscalar'))

theorem sameItems_trans : ∀ (items : List Value) {others lasts : List Value},
    sameItems items others = true → sameItems others lasts = true → sameItems items lasts = true
  | [], others, lasts, h, h' => by
      cases others with
      | nil => exact h'
      | cons w others => cases h
  | v :: items, others, lasts, h, h' => by
      cases others with
      | nil => cases h
      | cons w others =>
          cases lasts with
          | nil => cases h'
          | cons x lasts =>
              obtain ⟨hhead, htail⟩ := sameItems_cons.1 h
              obtain ⟨hhead', htail'⟩ := sameItems_cons.1 h'
              exact sameItems_cons.2
                ⟨same_trans v hhead hhead', sameItems_trans items htail htail'⟩

end

/-! ### Reflexivity -/

theorem incomparable_array_iff {items : List Value} :
    Incomparable (.array items) ↔ ∃ v ∈ items, Incomparable v := by
  constructor
  · rintro (_ | _ | ⟨hmem, h⟩)
    exact ⟨_, hmem, h⟩
  · rintro ⟨v, hmem, h⟩
    exact .item hmem h

mutual

theorem same_self_iff : ∀ v : Value, v.same v = true ↔ ¬ Incomparable v
  | .number x => by
      have hself : (number x).same (number x) = true ↔ x.isNaN = false := by simp [same, sameScalar]
      rw [hself, ← Bool.not_eq_true, not_iff_not]
      exact ⟨.nan, fun h => by cases h; assumption⟩
  | .string s => by
      refine iff_of_true (same_iff.2 (.inr (beq_self_eq_true s))) fun h => ?_
      cases h
  | .unit => iff_of_true (same_iff.2 (.inr rfl)) fun h => by cases h
  | .array items => by
      rw [same, sameItems_self_iff, incomparable_array_iff]
      simp only [not_exists, not_and]
  | .function f => by
      refine iff_of_false (fun h => ?_) (not_not_intro (.function f))
      rcases same_iff.1 h with ⟨_, _, heq, _⟩ | hscalar
      · cases heq
      · cases hscalar

theorem sameItems_self_iff : ∀ items : List Value,
    sameItems items items = true ↔ ∀ v ∈ items, ¬ Incomparable v
  | [] => by simp [sameItems]
  | v :: items => by
      rw [sameItems_cons, same_self_iff v, sameItems_self_iff items, List.forall_mem_cons]

end

/-! ## Equality -/

theorem equal_symm {v w : Value} (h : v.equal w = true) : w.equal v = true := by
  rw [equal_eq_same] at h ⊢
  exact same_symm v h

theorem equal_comm (v w : Value) : v.equal w = w.equal v :=
  Bool.eq_iff_iff.2 ⟨equal_symm, equal_symm⟩

theorem equal_trans {u v w : Value} (h : u.equal v = true) (h' : v.equal w = true) :
    u.equal w = true := by
  rw [equal_eq_same] at h h' ⊢
  exact same_trans u h h'

/-- Equal values are equal to the same values. -/
theorem equal_congr {u v : Value} (h : u.equal v = true) (w : Value) : u.equal w = v.equal w :=
  Bool.eq_iff_iff.2 ⟨equal_trans (equal_symm h), equal_trans h⟩

/-- A value equals itself unless it is a function or a NaN or has one in it. -/
theorem equal_self_iff {v : Value} : v.equal v = true ↔ ¬ Incomparable v := by
  rw [equal_eq_same, same_self_iff]

/-- A value that equals any value equals itself. -/
theorem equal_self_of_equal {v w : Value} (h : v.equal w = true) : v.equal v = true :=
  equal_trans h (equal_symm h)

end RollScript.Value

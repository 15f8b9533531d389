import Mathlib
import RollScript.Number.Binary

/-!
# The order of the doubles

Read `place` first: it puts every double in a linear order. Two doubles that are numbers compare as their
places do, and a NaN is neither below nor equal to anything; the two zeros share a place.
-/

namespace RollScript.Number

open Float.Model

/-- Where a double stands: first its side of zero, with the infinities outermost, and then its exponent
and its significand, which count downwards below zero. -/
def unpackedPlace : UnpackedFloat → ℤ ×ₗ ℤ ×ₗ ℤ
  | .infinity .negative => toLex (-2, toLex (0, 0))
  | .finite .negative m e _ => toLex (-1, toLex (-e, -m))
  | .zero _ => toLex (0, toLex (0, 0))
  | .notANumber => toLex (0, toLex (0, 0))
  | .finite .positive m e _ => toLex (1, toLex (e, m))
  | .infinity .positive => toLex (2, toLex (0, 0))

/-- Where a double stands in the order of the doubles. -/
def place (x : Float) : ℤ ×ₗ ℤ ×ₗ ℤ :=
  unpackedPlace x.toModel.unpack

/-! ## Comparing by places -/

theorem compare_natCast (m n : Nat) : compare (m : ℤ) n = compare m n := by
  rw [Int.compare_eq_ite_lt, Nat.compare_eq_ite_lt]
  simp only [Nat.cast_lt]

theorem compare_neg (a b : ℤ) : compare (-a) (-b) = (compare a b).swap := by
  rw [← Int.compare_swap, Int.compare_eq_ite_lt, Int.compare_eq_ite_lt]
  simp only [neg_lt_neg_iff]

/-- Doubles that are numbers compare as their places do. -/
theorem unpacked_compare_eq {a b : UnpackedFloat} (ha : a.isNaN = false) (hb : b.isNaN = false) :
    a.compare b = some (compare (unpackedPlace a) (unpackedPlace b)) := by
  cases a with
  | notANumber => cases ha
  | infinity s =>
      cases b with
      | notANumber => cases hb
      | infinity t => cases s <;> cases t <;> rfl
      | zero t => cases s <;> rfl
      | finite t n f hn => cases s <;> cases t <;> rfl
  | zero s =>
      cases b with
      | notANumber => cases hb
      | infinity t => cases t <;> rfl
      | zero t => rfl
      | finite t n f hn => cases t <;> rfl
  | finite s m e hm =>
      cases b with
      | notANumber => cases hb
      | infinity t => cases s <;> cases t <;> rfl
      | zero t => cases s <;> rfl
      | finite t n f hn =>
          -- On the same side of zero the exponents and then the significands decide.
          cases s <;> cases t
          · show some _ = some ((compare (-e) (-f)).then (compare (-(m : ℤ)) (-(n : ℤ))))
            rw [compare_neg, compare_neg, compare_natCast, ← Ordering.swap_then]
          · rfl
          · rfl
          · show some _ = some ((compare e f).then (compare (m : ℤ) n))
            rw [compare_natCast]

theorem unpacked_compare_nan {a b : UnpackedFloat} (h : a.isNaN = true ∨ b.isNaN = true) :
    a.compare b = none := by
  cases a <;> cases b <;> simp [UnpackedFloat.isNaN, UnpackedFloat.compare] at h ⊢

/-- How two doubles compare: not at all if one of them is not a number. -/
theorem compare_eq_some_iff {x y : Float} {o : Ordering} :
    x.toModel.unpack.compare y.toModel.unpack = some o ↔
      x.isNaN = false ∧ y.isNaN = false ∧ compare (place x) (place y) = o := by
  have hnan : ∀ z : Float, z.isNaN = z.toModel.unpack.isNaN := fun _ => rfl
  rw [hnan, hnan, place, place]
  cases hx : x.toModel.unpack.isNaN with
  | true => simp [unpacked_compare_nan (.inl hx)]
  | false =>
      cases hy : y.toModel.unpack.isNaN with
      | true => simp [unpacked_compare_nan (.inr hy)]
      | false => simp [unpacked_compare_eq hx hy]

theorem lt_iff {x y : Float} :
    x < y ↔ x.isNaN = false ∧ y.isNaN = false ∧ place x < place y := by
  have hcompare : x < y ↔ x.toModel.unpack.lt y.toModel.unpack = true := decide_eq_true_iff
  rw [hcompare, UnpackedFloat.lt, beq_iff_eq, compare_eq_some_iff, compare_lt_iff_lt]

theorem le_iff {x y : Float} :
    x ≤ y ↔ x.isNaN = false ∧ y.isNaN = false ∧ place x ≤ place y := by
  have hcompare : x ≤ y ↔ x.toModel.unpack.le y.toModel.unpack = true := decide_eq_true_iff
  rw [hcompare, UnpackedFloat.le, Option.any_eq_true]
  constructor
  · rintro ⟨o, ho, hle⟩
    obtain ⟨hx, hy, rfl⟩ := compare_eq_some_iff.1 ho
    exact ⟨hx, hy, compare_le_iff_le.1 (Ordering.isLE_iff_ne_gt.1 hle)⟩
  · rintro ⟨hx, hy, hle⟩
    refine ⟨_, compare_eq_some_iff.2 ⟨hx, hy, rfl⟩, ?_⟩
    exact Ordering.isLE_iff_ne_gt.2 (compare_le_iff_le.2 hle)

theorem beq_iff {x y : Float} :
    (x == y) = true ↔ x.isNaN = false ∧ y.isNaN = false ∧ place x = place y := by
  show x.toModel.unpack.beq y.toModel.unpack = true ↔ _
  rw [UnpackedFloat.beq, beq_iff_eq, compare_eq_some_iff, compare_eq_iff_eq]

end RollScript.Number

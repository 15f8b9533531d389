import Mathlib
import RollScript.Proofs.Numbers.Nearest
import RollScript.Proofs.Numbers.Order

/-!
# The signs of the doubles

Every double that is a number has a sign, the zeros and the infinities included. Packing keeps it
(`HasSign.pack`), also where the number overflows or becomes zero, and a product has the product of the signs
(`HasSign.mul`). Away from zero the sign is the side of zero that the double is on.
-/

namespace RollScript

open Float.Model
open Float.Model.UnpackedFloat

/-- Unpacked doubles that are numbers with a given sign. -/
inductive HasSign (sign : Sign) : UnpackedFloat → Prop where
  | zero : HasSign sign (.zero sign)
  | finite (m : Nat) (e : Int) (hm : 0 < m) : HasSign sign (.finite sign m e hm)
  | infinity : HasSign sign (.infinity sign)

variable {s t : Sign} {f g : UnpackedFloat} {x : Float}

theorem HasSign.isNaN (h : HasSign s f) : f.isNaN = false := by
  cases h <;> rfl

theorem hasSign_of_isNaN (h : f.isNaN = false) : ∃ sign, HasSign sign f := by
  cases f with
  | notANumber => cases h
  | infinity sign => exact ⟨sign, .infinity⟩
  | zero sign => exact ⟨sign, .zero⟩
  | finite sign m e hm => exact ⟨sign, .finite m e hm⟩

/-! ## Packing -/

theorem Unpacks.hasSign {exponent : BitVec 11} {mantissa : BitVec 52} (h : Unpacks s exponent mantissa f)
    (hnumber : exponent = -1#11 → mantissa = 0#52) : HasSign s f := by
  cases h with
  | infinity => exact .infinity
  | nan hexponent hmantissa => exact absurd (hnumber hexponent) hmantissa
  | zero => exact .zero
  | subnormal | normal => exact .finite _ _ _

theorem hasSign_packComponents {exponent : BitVec 11} {mantissa : BitVec 52}
    (hnumber : exponent = -1#11 → mantissa = 0#52) :
    HasSign s (UnpackedFloat.unpack .binary64 (packComponents .binary64 s exponent mantissa)) := by
  have hunpacks := unpacks (packComponents .binary64 s exponent mantissa)
  rw [unpackSign_packComponents, unpackExponent_packComponents, unpackMantissa_packComponents,
    Sign.ofBitVec_toBitVec] at hunpacks
  exact hunpacks.hasSign hnumber

/-- Packing keeps the sign of a number, also where it overflows. -/
theorem HasSign.pack (h : HasSign s f) : HasSign s (Float.Model.pack f).unpack := by
  show HasSign s (UnpackedFloat.unpack .binary64 (UnpackedFloat.pack .binary64 f))
  cases h with
  | zero => exact hasSign_packComponents fun _ => rfl
  | infinity => exact hasSign_packComponents fun _ => rfl
  | finite m e hm =>
      simp only [UnpackedFloat.pack]
      split
      · exact hasSign_packComponents fun _ => rfl
      · next hfits =>
          split
          · refine hasSign_packComponents fun hexponent => absurd ?_ hfits
            have hfield := congrArg BitVec.toNat hexponent
            rw [BitVec.toNat_ofNat] at hfield
            exact Nat.succ_le_succ (hfield.ge.trans (Nat.mod_le _ _))
          · exact hasSign_packComponents fun hexponent => absurd hexponent (by decide)

/-! ## Arithmetic -/

theorem hasSign_roundWithAccuracy (n : Nat) (e : Int) (accuracy : Accuracy) :
    HasSign s (roundWithAccuracy .binary64 s n e accuracy) := by
  simp only [roundWithAccuracy]
  split
  · exact .zero
  · exact .finite _ _ _

theorem HasSign.mul (h : HasSign s f) {m : Nat} {e : Int} (hm : 0 < m) :
    HasSign (s * t) (UnpackedFloat.mul .binary64 f (.finite t m e hm)) := by
  cases h with
  | zero => exact .zero
  | finite => exact hasSign_roundWithAccuracy _ _ _
  | infinity => exact .infinity

theorem HasSign.div (h : HasSign s f) {m : Nat} {e : Int} (hm : 0 < m) :
    HasSign (s / t) (UnpackedFloat.div .binary64 f (.finite t m e hm)) := by
  cases h with
  | zero => exact .zero
  | finite => exact hasSign_roundWithAccuracy _ _ _
  | infinity => exact .infinity

/-! ## Doubles -/

theorem unpack_abs (x : Float) : x.abs.toModel.unpack = x.toModel.unpack.abs := by
  show (Float.Model.pack x.toModel.unpack.abs).unpack = _
  cases h : x.toModel.unpack with
  | notANumber => rfl
  | infinity sign => cases sign <;> rfl
  | zero sign => cases sign <;> rfl
  | finite sign m e hm => exact unpack_pack (canonical_of_unpack h)

theorem unpack_neg (x : Float) : (-x).toModel.unpack = x.toModel.unpack.neg := by
  show (Float.Model.pack x.toModel.unpack.neg).unpack = _
  cases h : x.toModel.unpack with
  | notANumber => rfl
  | infinity sign => cases sign <;> rfl
  | zero sign => cases sign <;> rfl
  | finite sign m e hm => exact unpack_pack (canonical_of_unpack h)

theorem isInf_abs (x : Float) : x.abs.isInf = x.isInf := by
  show x.abs.toModel.unpack.isInf = x.toModel.unpack.isInf
  rw [unpack_abs]
  cases x.toModel.unpack <;> rfl

theorem isNaN_abs (x : Float) : x.abs.isNaN = x.isNaN := by
  show x.abs.toModel.unpack.isNaN = x.toModel.unpack.isNaN
  rw [unpack_abs]
  cases x.toModel.unpack <;> rfl

theorem isInf_neg (x : Float) : (-x).isInf = x.isInf := by
  show (-x).toModel.unpack.isInf = x.toModel.unpack.isInf
  rw [unpack_neg]
  cases x.toModel.unpack <;> rfl

theorem isNaN_neg (x : Float) : (-x).isNaN = x.isNaN := by
  show (-x).toModel.unpack.isNaN = x.toModel.unpack.isNaN
  rw [unpack_neg]
  cases x.toModel.unpack <;> rfl

theorem HasSign.abs (h : HasSign s f) : HasSign .positive f.abs := by
  cases h with
  | zero => exact .zero
  | finite => exact .finite _ _ _
  | infinity => exact .infinity

theorem HasSign.neg (h : HasSign s f) : HasSign (-s) f.neg := by
  cases h with
  | zero => exact .zero
  | finite => exact .finite _ _ _
  | infinity => exact .infinity

/-- Two doubles are on the same side of zero. -/
def SameSide (x y : Float) : Prop :=
  (0 < x ↔ 0 < y) ∧ (x < 0 ↔ y < 0)

theorem beq_zero_iff : (x == 0) = true ↔ ∃ sign, x.toModel.unpack = .zero sign := by
  show UnpackedFloat.beq x.toModel.unpack (.zero .positive) = true ↔ _
  cases x.toModel.unpack with
  | notANumber => simp [UnpackedFloat.beq, UnpackedFloat.compare]
  | infinity sign => cases sign <;> simp [UnpackedFloat.beq, UnpackedFloat.compare]
  | zero sign => simp [UnpackedFloat.beq, UnpackedFloat.compare]
  | finite sign m e hm => cases sign <;> simp [UnpackedFloat.beq, UnpackedFloat.compare]

/-- A double other than zero is on the side of its sign. -/
theorem HasSign.side (h : HasSign s x.toModel.unpack) (hne : (x == 0) = false) :
    (x < 0 ↔ s = .negative) ∧ (0 < x ↔ s = .positive) := by
  have hlt : x < 0 ↔ UnpackedFloat.lt x.toModel.unpack (.zero .positive) = true := decide_eq_true_iff
  have hgt : 0 < x ↔ UnpackedFloat.lt (.zero .positive) x.toModel.unpack = true := decide_eq_true_iff
  rw [hlt, hgt]
  generalize hf : x.toModel.unpack = f at h
  cases h with
  | zero => exact absurd (beq_zero_iff.2 ⟨s, hf⟩) (by simp [hne])
  | finite m e hm => cases s <;> simp [UnpackedFloat.lt, UnpackedFloat.compare]
  | infinity => cases s <;> simp [UnpackedFloat.lt, UnpackedFloat.compare]

theorem sameSide_iff {y : Float} (hx : HasSign s x.toModel.unpack) (hnx : (x == 0) = false)
    (hy : HasSign t y.toModel.unpack) (hny : (y == 0) = false) : SameSide x y ↔ s = t := by
  rw [SameSide, (hx.side hnx).1, (hx.side hnx).2, (hy.side hny).1, (hy.side hny).2]
  cases s <;> cases t <;> simp

end RollScript

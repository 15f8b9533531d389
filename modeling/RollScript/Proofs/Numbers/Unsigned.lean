import Mathlib
import RollScript.Proofs.Numbers.Signs

/-!
# Numerals have no sign

A numeral is read as a double that is a number and has no minus sign: `unsigned_nearest`. It is a zero, a
positive double, or the positive infinity if it is out of range.
-/

namespace RollScript

open Float.Model
open Float.Model.UnpackedFloat

/-- Unpacked doubles that are numbers without a minus sign. -/
inductive Unsigned : UnpackedFloat → Prop where
  | zero : Unsigned (.zero .positive)
  | finite (m : Nat) (e : Int) (hm : 0 < m) : Unsigned (.finite .positive m e hm)
  | infinity : Unsigned (.infinity .positive)

theorem unsigned_iff {f : UnpackedFloat} : Unsigned f ↔ HasSign .positive f := by
  constructor
  · intro h
    cases h with
    | zero => exact .zero
    | finite m e hm => exact .finite m e hm
    | infinity => exact .infinity
  · intro h
    cases h with
    | zero => exact .zero
    | finite m e hm => exact .finite m e hm
    | infinity => exact .infinity

/-- Packing keeps a number from getting a sign, also where it overflows. -/
theorem Unsigned.pack {f : UnpackedFloat} (h : Unsigned f) : Unsigned (Float.Model.pack f).unpack :=
  unsigned_iff.2 (unsigned_iff.1 h).pack

/-! ## Arithmetic without signs -/

theorem Unsigned.mul {f : UnpackedFloat} (h : Unsigned f) {m : Nat} {e : Int} (hm : 0 < m) :
    Unsigned (UnpackedFloat.mul .binary64 f (.finite .positive m e hm)) :=
  unsigned_iff.2 ((unsigned_iff.1 h).mul (t := .positive) hm)

theorem Unsigned.div {f : UnpackedFloat} (h : Unsigned f) {m : Nat} {e : Int} (hm : 0 < m) :
    Unsigned (UnpackedFloat.div .binary64 f (.finite .positive m e hm)) :=
  unsigned_iff.2 ((unsigned_iff.1 h).div (t := .positive) hm)

theorem unsigned_toFloat {n : Nat} (hlt : n < 2 ^ 53) : Unsigned n.toUInt64.toFloat.toModel.unpack := by
  rcases Nat.eq_zero_or_pos n with rfl | hn
  · exact Unsigned.zero
  · rw [unpack_toFloat hn hlt]
    exact .finite _ _ _

theorem unsigned_ofScientific (digits : Nat) (exponent : Int) :
    Unsigned (UnpackedFloat.ofScientific .binary64 digits exponent) := by
  unfold UnpackedFloat.ofScientific
  split
  · exact .zero
  · split
    · exact .infinity
    · split
      · exact .zero
      · split
        · exact (Unsigned.finite _ _ _).mul _
        · exact (Unsigned.finite _ _ _).div _

/-- A decimal is read as a number without a sign. -/
theorem unsigned_nearest (digits : Nat) (exponent : Int) :
    Unsigned (Numeral.nearest digits exponent).toModel.unpack := by
  unfold Numeral.nearest Float.ofScientific
  split
  · next hfast =>
      obtain ⟨hlt, hsmall⟩ := hfast
      have hindex : exponent.natAbs < Float.exactlyRepresentablePowersOfTen.size := by
        show exponent.natAbs < 23
        omega
      simp only
      generalize hx : Float.exactlyRepresentablePowersOfTen[exponent.natAbs] = x
      obtain ⟨m, e, hm, hpower, -⟩ :=
        unpack_power hsmall ((Array.getElem?_eq_getElem hindex).trans (congrArg some hx))
      split
      · show Unsigned (Float.Model.pack (UnpackedFloat.div .binary64 _ _)).unpack
        rw [hpower]
        exact ((unsigned_toFloat hlt).div hm).pack
      · show Unsigned (Float.Model.pack (UnpackedFloat.mul .binary64 _ _)).unpack
        rw [hpower]
        exact ((unsigned_toFloat hlt).mul hm).pack
  · exact (unsigned_ofScientific _ _).pack

end RollScript

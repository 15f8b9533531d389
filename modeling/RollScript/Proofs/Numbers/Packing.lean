import Mathlib
import RollScript.Number.Binary

/-!
# Doubles and their parts

Read `Canonical` first: it says which significands and exponents are those of a finite double other
than zero. Packing such parts and unpacking them again loses nothing, and neither does unpacking a
double and packing its parts.
-/

namespace RollScript

open Float.Model
open Float.Model.UnpackedFloat

/-- The parts that a finite double other than zero has: a significand of at most 53 bits, and the
least exponent or a significand of exactly so many bits. -/
structure Canonical (significand : Nat) (exponent : Int) : Prop where
  pos : 0 < significand
  lt : significand < 2 ^ 53
  least : -1074 ≤ exponent
  greatest : exponent ≤ 971
  normal : 2 ^ 52 ≤ significand ∨ exponent = -1074

/-! ## Parts -/

theorem exponentBias_binary64 : Format.binary64.exponentBias = 1023 :=
  rfl

theorem implicit_bit (mantissa : BitVec 52) : (1#1 ++ mantissa).toNat = 2 ^ 52 + mantissa.toNat := by
  have hor := Nat.two_pow_add_eq_or_of_lt mantissa.isLt 1
  rw [BitVec.toNat_append, Nat.shiftLeft_eq]
  simpa using hor.symm

theorem exponent_lt {exponent : BitVec 11} (h : exponent ≠ -1#11) : exponent.toNat < 2047 := by
  have hlt := exponent.isLt
  have hne : exponent.toNat ≠ 2047 := fun heq => h (BitVec.eq_of_toNat_eq heq)
  omega

/-- How a double with given components is unpacked. -/
inductive Unpacks (sign : Sign) (exponent : BitVec 11) (mantissa : BitVec 52) :
    UnpackedFloat → Prop where
  | infinity : exponent = -1#11 → mantissa = 0#52 → Unpacks sign exponent mantissa (.infinity sign)
  | nan : exponent = -1#11 → mantissa ≠ 0#52 → Unpacks sign exponent mantissa .notANumber
  | zero : exponent = 0#11 → mantissa = 0#52 → Unpacks sign exponent mantissa (.zero sign)
  | subnormal (hm) : exponent = 0#11 →
      Unpacks sign exponent mantissa (.finite sign mantissa.toNat (-1074) hm)
  | normal (hm) : exponent ≠ 0#11 → exponent ≠ -1#11 →
      Unpacks sign exponent mantissa
        (.finite sign (2 ^ 52 + mantissa.toNat) (exponent.toNat - 1075) hm)

theorem unpacks (b : BitVec Format.binary64.numBits) :
    Unpacks (Sign.ofBitVec (unpackSign b)) (unpackExponent b) (unpackMantissa b)
      (UnpackedFloat.unpack .binary64 b) := by
  unfold UnpackedFloat.unpack
  simp only [exponentBias_binary64]
  split
  · next hexponent =>
      split
      · next hmantissa => exact .infinity hexponent hmantissa
      · next hmantissa => exact .nan hexponent hmantissa
  · next hfinite =>
      split
      · next hexponent =>
          split
          · next hmantissa => exact .zero hexponent hmantissa
          · rw [hexponent]
            exact .subnormal _ rfl
      · next hexponent =>
          simp only [implicit_bit]
          exact .normal _ hexponent hfinite

theorem Unpacks.canonical {sign s : Sign} {exponent : BitVec 11} {mantissa : BitVec 52} {m : Nat}
    {e : Int} {hm : 0 < m} (h : Unpacks sign exponent mantissa (.finite s m e hm)) :
    Canonical m e := by
  have hmantissa := mantissa.isLt
  cases h with
  | subnormal _ hexponent => exact ⟨hm, by omega, by omega, by omega, .inr rfl⟩
  | normal _ hexponent hfinite =>
      have hlt := exponent_lt hfinite
      have hpos : exponent.toNat ≠ 0 := fun heq => hexponent (BitVec.eq_of_toNat_eq heq)
      exact ⟨hm, by omega, by omega, by omega, .inl (by omega)⟩

/-- A finite double other than zero has canonical parts. -/
theorem canonical_of_unpack {x : Float.Model} {sign : Sign} {m : Nat} {e : Int} {hm : 0 < m}
    (h : x.unpack = .finite sign m e hm) : Canonical m e := by
  have hunpacks := unpacks x.toBits.toBitVec
  rw [← Float.Model.unpack, h] at hunpacks
  exact hunpacks.canonical

/-- The components of canonical parts. The bit that all normal significands share is left out. -/
theorem pack_finite {sign : Sign} {m : Nat} {e : Int} {hm : 0 < m} (h : Canonical m e) :
    UnpackedFloat.pack .binary64 (.finite sign m e hm) =
      packComponents .binary64 sign
        (if 2 ^ 52 ≤ m then BitVec.ofNat 11 (e + 1075).toNat else 0#11) (BitVec.ofNat 52 m) := by
  have hleast := h.least
  have hgreatest := h.greatest
  have hlt := h.lt
  have hbiased : (e + (Format.binary64.exponentBias : Nat) +
      (Format.binary64.mantissaBitsWithoutImplicit : Nat)).toNat = (e + 1075).toNat := by
    rw [exponentBias_binary64]
    show (e + (1023 : Nat) + (52 : Nat)).toNat = _
    omega
  have hfits : ¬ 2 ^ Format.binary64.exponentBits ≤ (e + 1075).toNat + 1 := by
    show ¬ 2 ^ 11 ≤ (e + 1075).toNat + 1
    omega
  simp only [UnpackedFloat.pack, hbiased]
  rw [if_neg hfits]
  by_cases hnormal : 2 ^ 52 ≤ m
  · have hlog : m.log2 = 52 := (Nat.log2_eq_iff h.pos.ne').2 ⟨hnormal, hlt⟩
    rw [if_pos (by rw [hlog]; rfl), if_pos hnormal]
  · have hlog : m.log2 < 52 := (Nat.log2_lt h.pos.ne').2 (by omega)
    rw [if_neg (by show ¬ m.log2 + 1 = 53; omega), if_neg hnormal]

/-- Packing the parts of a double gives it back. -/
theorem pack_unpack (x : Float.Model) : Float.Model.pack x.unpack = x := by
  obtain ⟨⟨bits⟩, hvalid⟩ := x
  simp only [Float.Model.pack, Float.Model.unpack, pack_unpack_of_valid hvalid]

/-- The components of canonical parts stand for those parts only. -/
theorem Unpacks.eq_finite {sign : Sign} {exponent : BitVec 11} {mantissa : BitVec 52}
    {f : UnpackedFloat} (h : Unpacks sign exponent mantissa f) {m : Nat} {e : Int} {hm : 0 < m}
    (hcanonical : Canonical m e) (hmantissa : mantissa.toNat = m % 2 ^ 52)
    (hexponent : exponent.toNat = if 2 ^ 52 ≤ m then (e + 1075).toNat else 0) :
    f = .finite sign m e hm := by
  obtain ⟨-, hlt, hleast, hgreatest, hnormal⟩ := hcanonical
  cases h with
  | infinity hinfinite _ | nan hinfinite _ =>
      have hfield : exponent.toNat = 2047 := congrArg BitVec.toNat hinfinite
      split at hexponent <;> omega
  | zero hzero hnone =>
      have hfield : exponent.toNat = 0 := congrArg BitVec.toNat hzero
      have hbits : mantissa.toNat = 0 := congrArg BitVec.toNat hnone
      split at hexponent <;> omega
  | subnormal _ hzero =>
      have hfield : exponent.toNat = 0 := congrArg BitVec.toNat hzero
      split at hexponent
      · omega
      · congr <;> omega
  | normal _ hzero _ =>
      have hfield : exponent.toNat ≠ 0 := fun heq => hzero (BitVec.eq_of_toNat_eq heq)
      split at hexponent
      · congr <;> omega
      · omega

theorem unpack_pack {sign : Sign} {m : Nat} {e : Int} {hm : 0 < m} (h : Canonical m e) :
    (Float.Model.pack (.finite sign m e hm)).unpack = .finite sign m e hm := by
  have hleast := h.least
  have hgreatest := h.greatest
  show UnpackedFloat.unpack .binary64 (UnpackedFloat.pack .binary64 (.finite sign m e hm)) = _
  rw [pack_finite h]
  have hunpacks := unpacks (packComponents .binary64 sign
    (if 2 ^ 52 ≤ m then BitVec.ofNat 11 (e + 1075).toNat else 0#11) (BitVec.ofNat 52 m))
  rw [unpackSign_packComponents, unpackExponent_packComponents, unpackMantissa_packComponents,
    Sign.ofBitVec_toBitVec] at hunpacks
  refine hunpacks.eq_finite h (BitVec.toNat_ofNat m 52) ?_
  split
  · rw [BitVec.toNat_ofNat, Nat.mod_eq_of_lt (by omega)]
  · rfl

end RollScript

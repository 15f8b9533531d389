import RollScript.Primitive.Operation
import RollScript.Proofs.Numbers.Nearest

/-!
# Numbers that round to a finite double

Read `round_fits` first: a number below the overflow threshold, which lies half a unit above the greatest
double, is rounded to a finite double. So adding one half to a finite double gives a finite double, and
every finite double is rounded half up to some integer (`exists_roundHalfUp`).
-/

namespace RollScript

open Float.Model
open Float.Model.UnpackedFloat

/-- Unpacked doubles that are packed as finite ones. -/
inductive Fits : UnpackedFloat → Prop where
  | zero (sign : Sign) : Fits (.zero sign)
  | finite (sign : Sign) (m : Nat) {e : Int} (hm : 0 < m) (h : e ≤ 971) : Fits (.finite sign m e hm)

theorem Unpacks.isFinite {sign : Sign} {exponent : BitVec 11} {mantissa : BitVec 52} {f : UnpackedFloat}
    (h : Unpacks sign exponent mantissa f) (hexponent : exponent ≠ -1#11) : f.isFinite = true := by
  cases h with
  | infinity hinfinite _ | nan hinfinite _ => exact absurd hinfinite hexponent
  | zero | subnormal | normal => rfl

theorem isFinite_packComponents (sign : Sign) {exponent : BitVec 11} (mantissa : BitVec 52)
    (h : exponent ≠ -1#11) :
    (UnpackedFloat.unpack .binary64 (packComponents .binary64 sign exponent mantissa)).isFinite = true := by
  have hunpacks := unpacks (packComponents .binary64 sign exponent mantissa)
  rw [unpackExponent_packComponents] at hunpacks
  exact hunpacks.isFinite h

theorem Fits.isFinite {f : UnpackedFloat} (h : Fits f) : (Float.Model.pack f).unpack.isFinite = true := by
  show (UnpackedFloat.unpack .binary64 (UnpackedFloat.pack .binary64 f)).isFinite = true
  cases h with
  | zero sign => exact isFinite_packComponents sign 0#52 (by decide)
  | finite sign m hm h =>
      rename_i e
      have hbiased : e + Format.binary64.exponentBias + Format.binary64.mantissaBitsWithoutImplicit =
          e + 1075 := by
        show e + 1023 + 52 = e + 1075
        omega
      have hfits : ¬ 2 ^ Format.binary64.exponentBits ≤ (e + 1075).toNat + 1 := by
        show ¬ 2 ^ 11 ≤ (e + 1075).toNat + 1
        omega
      have hexponent : BitVec.ofNat 11 (e + 1075).toNat ≠ -1#11 := by
        intro heq
        have hnat : (e + 1075).toNat % 2 ^ 11 = 2047 := by
          rw [← BitVec.toNat_ofNat, heq]
          rfl
        omega
      simp only [UnpackedFloat.pack, hbiased]
      rw [if_neg hfits]
      split
      · exact isFinite_packComponents sign _ hexponent
      · exact isFinite_packComponents sign _ (by decide)

/-- A number less than half a unit above an integer is rounded to it at most. -/
theorem Lies.rounded_le {x : ℚ} {em : ExtendedMantissa} (h : Lies x em) {n : Nat}
    (hx : x < n + 1 / 2) : em.roundedMantissa ≤ n := by
  obtain ⟨k, roundBit, stickyBit⟩ := em
  cases roundBit with
  | false =>
      have hk : k ≤ n := le_of_lt_add_one (by
        cases stickyBit <;> simp only [Lies] at h <;> linarith)
      cases stickyBit <;> exact hk
  | true =>
      have hk : k < n := by
        have hcast : (k : ℚ) < n := by cases stickyBit <;> simp only [Lies] at h <;> linarith
        exact_mod_cast hcast
      cases stickyBit with
      | true => exact hk
      | false =>
          show k + k % 2 ≤ n
          omega

/-- The numbers from which on rounding goes to infinity: half a unit above the greatest double. -/
def overflow : ℚ :=
  (2 ^ 53 - 1 / 2) * 2 ^ (971 : Int)

theorem overflow_lt : overflow < 2 ^ (1024 : Int) := by
  have hpow : (2 : ℚ) ^ (1024 : Int) = 2 ^ 53 * 2 ^ (971 : Int) := by
    rw [← zpow_natCast, ← zpow_add₀ two_ne_zero]
    norm_num
  rw [overflow, hpow]
  exact mul_lt_mul_of_pos_right (by norm_num) (two_zpow_pos _)

/-- A number below the threshold has its leading bit below that of the threshold. -/
theorem log2_add_le {n : Nat} {f : Int} (hn : n ≠ 0) (h : (n : ℚ) * 2 ^ f < overflow) :
    (n.log2 : Int) + f ≤ 1023 := by
  have hlog : (2 : ℚ) ^ n.log2 ≤ n := by exact_mod_cast Nat.log2_self_le hn
  have hlow : (2 : ℚ) ^ ((n.log2 : Int) + f) ≤ n * 2 ^ f := by
    rw [zpow_add₀ two_ne_zero, zpow_natCast]
    exact mul_le_mul_of_nonneg_right hlog (two_zpow_pos f).le
  have hlt := two_zpow_lt (hlow.trans_lt (h.trans overflow_lt))
  omega

/-- The first rounding leaves at most 53 bits, or a power of two that is not at the greatest exponent. -/
theorem roundedMantissa_le {q : ℚ} {em : ExtendedMantissa} {t : Int} (h : Lies (q / 2 ^ t) em)
    (hq : q < 2 ^ (t + 53)) (hoverflow : q < overflow) :
    em.roundedMantissa ≤ 2 ^ 53 ∧ (t = 971 → em.roundedMantissa ≤ 2 ^ 53 - 1) := by
  have hpos := two_zpow_pos t
  constructor
  · refine h.rounded_le ?_
    rw [div_lt_iff₀ hpos]
    rw [zpow_add₀ two_ne_zero, mul_comm] at hq
    push_cast
    norm_num at hq ⊢
    linarith
  · rintro rfl
    refine h.rounded_le ?_
    rw [div_lt_iff₀ hpos]
    refine hoverflow.trans_le (le_of_eq ?_)
    rw [overflow]
    norm_num

theorem roundWithAccuracy_fits {n : Nat} {f : Int} (hn : n ≠ 0) (h : (n : ℚ) * 2 ^ f < overflow)
    (hle : f ≤ Format.binary64.targetExponent (totalExponent n f)) (sign : Sign) :
    Fits (roundWithAccuracy .binary64 sign n f .exact) := by
  have hlies : Lies ((n : ℚ) * 2 ^ f / 2 ^ f) (.ofMantissaAndAccuracy n .exact) :=
    mul_div_cancel_right₀ _ (two_zpow_pos f).ne'
  obtain ⟨em, hshift, hem⟩ := shiftToTargetExponent_lies hlies hle
  have hhigh := (totalExponent_bounds hlies).1
  have hlog := log2_add_le hn h
  rw [targetExponent_eq] at hshift hem
  generalize htarget : max ((n.log2 : Int) + f - 52) (-1074) = t at hshift hem
  have hq : (n : ℚ) * 2 ^ f < 2 ^ (t + 53) :=
    hhigh.trans_le (zpow_le_zpow_right₀ (by norm_num) (by omega))
  obtain ⟨hrounded, hgreatest⟩ := roundedMantissa_le hem hq h
  -- Rounding up may need a bit more, which the greatest exponent cannot give.
  have hbits : em.roundedMantissa.log2 + t - 52 ≤ 971 := by
    by_cases ht : t = 971
    · have hlt : em.roundedMantissa.log2 < 53 := by
        by_cases hzero : em.roundedMantissa = 0
        · rw [hzero]
          decide
        · exact (Nat.log2_lt hzero).2 (by have := hgreatest ht; omega)
      omega
    · have hlt : em.roundedMantissa.log2 < 54 := by
        by_cases hzero : em.roundedMantissa = 0
        · rw [hzero]
          decide
        · exact (Nat.log2_lt hzero).2 (by omega)
      omega
  simp only [roundWithAccuracy, hshift]
  split
  · exact .zero sign
  · refine .finite sign _ _ ?_
    simp only [shiftToTargetExponent, shiftToExponent, targetExponent_eq]
    omega

theorem log2_mul_two_pow {n : Nat} (hn : n ≠ 0) (k : Nat) : (n * 2 ^ k).log2 = n.log2 + k := by
  have hpos : 0 < 2 ^ k := Nat.two_pow_pos k
  refine (Nat.log2_eq_iff (Nat.mul_pos (Nat.pos_of_ne_zero hn) hpos).ne').2 ⟨?_, ?_⟩
  · rw [pow_add]
    exact Nat.mul_le_mul_right _ (Nat.log2_self_le hn)
  · rw [Nat.add_right_comm, pow_add]
    exact Nat.mul_lt_mul_of_pos_right Nat.lt_log2_self hpos

/-- A significand moved to a smaller exponent stands for the same number. -/
theorem shifted_value (n : Nat) {f g : Int} (h : g ≤ f) :
    ((n * 2 ^ (f - g).toNat : ℕ) : ℚ) * 2 ^ g = n * 2 ^ f := by
  have hsum : f = ((f - g).toNat : Int) + g := by omega
  push_cast
  rw [mul_assoc, ← zpow_natCast, ← zpow_add₀ two_ne_zero, ← hsum]

/-- A number below the overflow threshold is rounded to a finite double. -/
theorem round_fits {n : Nat} {f : Int} (hn : n ≠ 0) (h : (n : ℚ) * 2 ^ f < overflow) (sign : Sign) :
    Fits (UnpackedFloat.round .binary64 sign n f) := by
  simp only [UnpackedFloat.round, decreaseExponent, Nat.shiftLeft_eq, targetExponent_eq]
  generalize hshift : (f - max ((n.log2 : Int) + f - 52) (-1074)).toNat = k
  have hexponent : (f - (f - k)).toNat = k := by omega
  have hvalue := shifted_value n (g := f - k) (f := f) (by omega)
  rw [hexponent] at hvalue
  refine roundWithAccuracy_fits ?_ (by rwa [hvalue]) ?_ sign
  · exact Nat.mul_ne_zero hn (Nat.two_pow_pos k).ne'
  · rw [targetExponent_eq, log2_mul_two_pow hn]
    push_cast
    omega

theorem normalize_fits {mantissa : Int} {f : Int} (h : (mantissa.natAbs : ℚ) * 2 ^ f < overflow)
    (sign : Sign) : Fits (UnpackedFloat.normalize .binary64 mantissa f sign) := by
  unfold UnpackedFloat.normalize
  split
  · next hlt =>
      have hneg := Int.compare_eq_lt.1 hlt
      have habs : (-mantissa).toNat = mantissa.natAbs := by omega
      rw [habs]
      exact round_fits (by omega) h _
  · exact .zero sign
  · next hgt =>
      have hpos := Int.compare_eq_gt.1 hgt
      have habs : mantissa.toNat = mantissa.natAbs := by omega
      rw [habs]
      exact round_fits (by omega) h _

/-! ## Rounding half up -/

theorem unpack_half : (0.5 : Float).toModel.unpack = .finite .positive (2 ^ 52) (-53) (by decide) :=
  rfl

theorem natAbs_apply_add_le (sign : Sign) (m n : Nat) :
    (sign.apply m + Sign.positive.apply n).natAbs ≤ m + n := by
  cases sign <;> simp only [Sign.apply] <;> omega

/-- Half of one and any finite double make a number below the overflow threshold. -/
theorem add_half_lt_overflow {m : Nat} {e : Int} (h : Canonical m e) :
    (m : ℚ) * 2 ^ e + 1 / 2 < overflow := by
  have hm : (m : ℚ) + 1 ≤ 2 ^ 53 := by exact_mod_cast h.lt
  have hpow : (2 : ℚ) ^ e ≤ 2 ^ (971 : Int) := zpow_le_zpow_right₀ (by norm_num) h.greatest
  have hlarge : (1 : ℚ) < 2 ^ (971 : Int) := one_lt_zpow₀ (by norm_num) (by norm_num)
  have hpos := two_zpow_pos e
  rw [overflow]
  generalize (2 : ℚ) ^ (971 : Int) = unit at hpow hlarge ⊢
  calc (m : ℚ) * 2 ^ e + 1 / 2 ≤ (2 ^ 53 - 1) * 2 ^ e + 1 / 2 := by nlinarith
    _ ≤ (2 ^ 53 - 1) * unit + 1 / 2 := by nlinarith
    _ < (2 ^ 53 - 1 / 2) * unit := by linarith

theorem fits_add_half {f : UnpackedFloat} (hfinite : f.isFinite = true)
    (hcanonical : ∀ {s m e hm}, f = .finite s m e hm → Canonical m e) :
    Fits (f.add .binary64 (.finite .positive (2 ^ 52) (-53) (by decide))) := by
  cases f with
  | notANumber | infinity => cases hfinite
  | zero s => exact .finite _ _ _ (by decide)
  | finite s m e hm =>
      have hbound := add_half_lt_overflow (hcanonical rfl)
      have hvalue := shifted_value m (min_le_left e (-53))
      have hhalf := shifted_value (2 ^ 52) (min_le_right e (-53))
      simp only [UnpackedFloat.add, decreaseExponent, Nat.shiftLeft_eq]
      refine normalize_fits (lt_of_le_of_lt ?_ hbound) _
      generalize m * 2 ^ (e - min e (-53)).toNat = left at hvalue ⊢
      generalize 2 ^ 52 * 2 ^ (-53 - min e (-53)).toNat = right at hhalf ⊢
      have hcast : ((s.apply left + Sign.positive.apply right).natAbs : ℚ) ≤ left + right := by
        exact_mod_cast natAbs_apply_add_le s left right
      calc ((s.apply left + Sign.positive.apply right).natAbs : ℚ) * 2 ^ min e (-53)
          ≤ (left + right) * 2 ^ min e (-53) :=
            mul_le_mul_of_nonneg_right hcast (two_zpow_pos _).le
        _ = m * 2 ^ e + 1 / 2 := by
            rw [add_mul, hvalue, hhalf]
            norm_num

theorem add_half_isFinite {x : Float} (h : x.isFinite = true) : (x + 0.5).isFinite = true := by
  show (Float.Model.pack (x.toModel.unpack.add .binary64 (0.5 : Float).toModel.unpack)).unpack.isFinite =
    true
  rw [unpack_half]
  exact (fits_add_half h fun heq => canonical_of_unpack heq).isFinite

/-- Every finite double has an integer part. -/
theorem floor?_isSome {x : Float} (h : x.isFinite = true) : (Binary.floor? x).isSome = true := by
  have hfinite : x.toModel.unpack.isFinite = true := h
  unfold Binary.floor? Binary.decode
  cases hx : x.toModel.unpack with
  | notANumber | infinity =>
      rw [hx] at hfinite
      cases hfinite
  | zero | finite =>
      dsimp only
      split <;> rfl

/-- Every finite double is rounded half up. -/
theorem exists_roundHalfUp {x : Float} (h : x.isFinite = true) :
    ∃ k, Binary.roundHalfUp? x = some k := by
  rw [Binary.roundHalfUp?, if_pos h]
  exact Option.isSome_iff_exists.1 (floor?_isSome (add_half_isFinite h))

/-- A number asks for as many repetitions as it is rounded to, and for none if that is negative. -/
theorem repetitions_eq {x : Float} {k : Int} (h : Binary.roundHalfUp? x = some k) :
    Number.repetitions x = .ok k.toNat := by
  rw [Number.repetitions, Number.rounded, h]
  rfl

end RollScript

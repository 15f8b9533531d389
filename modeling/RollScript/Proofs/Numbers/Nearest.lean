import Mathlib.Tactic.Ring
import RollScript.Number.Numeral
import RollScript.Proofs.Numbers.Rounding

/-!
# Reading decimals

Read `nearest_eq` first: a decimal near a double is read as that double. Decimals are read in two ways,
by one operation on doubles when all the numbers involved are doubles, and else by exact arithmetic; both
end in a product or a quotient that is rounded.
-/

namespace RollScript

open Float.Model
open Float.Model.UnpackedFloat

section Operations

variable {q : ℚ} {m m₁ m₂ : Nat} {e e₁ e₂ : Int} {h₁ : 0 < m₁} {h₂ : 0 < m₂}

/-- The positive double with canonical parts. -/
def positive (h : Canonical m e) : UnpackedFloat :=
  .finite .positive m e h.pos

/-- A product near a double is that double. -/
theorem mul_eq (hcanonical : Canonical m e) (h : Near (m₁ * m₂ * 2 ^ (e₁ + e₂)) m e)
    (hbits : 2 ^ 52 ≤ m₁ * m₂) :
    UnpackedFloat.mul .binary64 (.finite .positive m₁ e₁ h₁) (.finite .positive m₂ e₂ h₂) =
      positive hcanonical := by
  refine roundWithAccuracy_eq h hcanonical ?_ ?_ .positive
  · show (m₁ * m₂ : ℚ) * 2 ^ (e₁ + e₂) / 2 ^ (e₁ + e₂) = (m₁ * m₂ : ℕ)
    rw [mul_div_cancel_right₀ _ (two_zpow_pos _).ne', Nat.cast_mul]
  · have hlog : 52 ≤ (m₁ * m₂).log2 := (Nat.le_log2 (Nat.mul_pos h₁ h₂).ne').2 hbits
    rw [targetExponent_eq]
    omega

/-- A quotient lies where the remainder says. -/
theorem lies_div (a : Nat) {b : Nat} (hb : 0 < b) :
    Lies ((a : ℚ) / b) (.ofMantissaAndAccuracy (a / b) (accuracyOfFraction (a % b) b)) := by
  have hcast : (0 : ℚ) < b := by exact_mod_cast hb
  have hlt : ((a % b : ℕ) : ℚ) < b := by exact_mod_cast Nat.mod_lt a hb
  have hdiv : (a : ℚ) = (a / b : ℕ) * b + (a % b : ℕ) := by
    exact_mod_cast (Nat.div_add_mod' a b).symm
  have hsplit : (a : ℚ) / b = (a / b : ℕ) + (a % b : ℕ) / b := by
    conv_lhs => rw [hdiv, add_div, mul_div_cancel_right₀ _ hcast.ne']
  rw [hsplit]
  unfold accuracyOfFraction
  split
  · next hzero =>
      show ((a / b : ℕ) : ℚ) + (a % b : ℕ) / b = (a / b : ℕ)
      rw [hzero, Nat.cast_zero, zero_div, add_zero]
  · next hzero =>
      have hpos : (0 : ℚ) < (a % b : ℕ) / b := div_pos (by exact_mod_cast Nat.pos_of_ne_zero hzero) hcast
      have hone : ((a % b : ℕ) : ℚ) / b < 1 := (div_lt_one₀ hcast).2 hlt
      cases hcompare : compare (2 * (a % b)) b with
      | lt =>
          have hhalf : (2 : ℚ) * (a % b : ℕ) < b := by exact_mod_cast Nat.compare_eq_lt.1 hcompare
          have hless : ((a % b : ℕ) : ℚ) / b < 1 / 2 := by
            rw [div_lt_iff₀ hcast]
            linarith
          exact ⟨by linarith, by linarith⟩
      | eq =>
          have hhalf : (2 : ℚ) * (a % b : ℕ) = b := by exact_mod_cast Nat.compare_eq_eq.1 hcompare
          have hequal : ((a % b : ℕ) : ℚ) / b = 1 / 2 := by
            rw [div_eq_iff hcast.ne']
            linarith
          show ((a / b : ℕ) : ℚ) + (a % b : ℕ) / b = (a / b : ℕ) + 1 / 2
          rw [hequal]
      | gt =>
          have hhalf : (b : ℚ) < 2 * (a % b : ℕ) := by exact_mod_cast Nat.compare_eq_gt.1 hcompare
          have hgreater : 1 / 2 < ((a % b : ℕ) : ℚ) / b := by
            rw [lt_div_iff₀ hcast]
            linarith
          exact ⟨by linarith, by linarith⟩

/-- A quotient near a double is that double. -/
theorem div_eq (hcanonical : Canonical m e) (h : Near (m₁ * 2 ^ e₁ / (m₂ * 2 ^ e₂)) m e) :
    UnpackedFloat.div .binary64 (.finite .positive m₁ e₁ h₁) (.finite .positive m₂ e₂ h₂) =
      positive hcanonical := by
  have hcast : (0 : ℚ) < m₂ := by exact_mod_cast h₂
  simp only [UnpackedFloat.div, divCore]
  generalize htarget : min (e₁ - e₂)
    (Format.binary64.targetExponent (totalExponent m₁ e₁ - totalExponent m₂ e₂)) = t
  rw [targetExponent_binary64, totalExponent, totalExponent] at htarget
  obtain ⟨k, hk⟩ : ∃ k : Nat, e₁ = e₂ + t + k := ⟨(e₁ - e₂ - t).toNat, by omega⟩
  have hshift : (e₁ - e₂ - t).toNat = k := by omega
  rw [hshift, Nat.shiftLeft_eq]
  refine roundWithAccuracy_eq h hcanonical ?_ ?_ .positive
  · have hquotient : (m₁ * 2 ^ e₁ / (m₂ * 2 ^ e₂) / 2 ^ t : ℚ) = (m₁ * 2 ^ k : ℕ) / m₂ := by
      rw [hk, zpow_add₀ two_ne_zero, zpow_add₀ two_ne_zero, zpow_natCast]
      have hpos := two_zpow_pos e₂
      have hpos' := two_zpow_pos t
      push_cast
      field_simp
    rw [hquotient]
    exact lies_div _ h₂
  · rw [targetExponent_eq]
    by_cases hleast : t ≤ -1074
    · omega
    · -- The exponent was chosen so that the quotient has 53 bits at least.
      have hbits : 2 ^ 52 ≤ m₁ * 2 ^ k / m₂ := by
        rw [Nat.le_div_iff_mul_le h₂]
        calc 2 ^ 52 * m₂ ≤ 2 ^ 52 * 2 ^ (m₂.log2 + 1) := Nat.mul_le_mul_left _ Nat.lt_log2_self.le
          _ = 2 ^ (52 + (m₂.log2 + 1)) := (pow_add 2 52 _).symm
          _ ≤ 2 ^ (m₁.log2 + k) := Nat.pow_le_pow_right (by decide) (by omega)
          _ = 2 ^ m₁.log2 * 2 ^ k := pow_add 2 _ _
          _ ≤ m₁ * 2 ^ k := Nat.mul_le_mul_right _ (Nat.log2_self_le h₁.ne')
      have hlog : 52 ≤ (m₁ * 2 ^ k / m₂).log2 := (Nat.le_log2 (by omega)).2 hbits
      omega

end Operations

/-! ## Exact arithmetic -/

section Decimals

variable {m digits : Nat} {e exponent : Int}

/-- All numbers near doubles are between two powers of two. -/
theorem Near.range {q : ℚ} (h : Near q m e) (hcanonical : Canonical m e) :
    (2 : ℚ) ^ (-1075 : Int) ≤ q ∧ q < 2 ^ (1024 : Int) := by
  constructor
  · have hle : (2 : ℚ) ^ (-1074 : Int) ≤ 2 ^ e := zpow_le_zpow_right₀ (by norm_num) hcanonical.least
    have hpos : (1 : ℚ) ≤ m := by exact_mod_cast hcanonical.pos
    have hhalf : (2 : ℚ) ^ (-1074 : Int) = 2 * 2 ^ (-1075 : Int) := by
      rw [← zpow_one_add₀ two_ne_zero]
      rfl
    have hlow := h.low
    have hpow := two_zpow_pos e
    nlinarith
  · have hle : (2 : ℚ) ^ (e + 53) ≤ 2 ^ (1024 : Int) :=
      zpow_le_zpow_right₀ (by norm_num) (by have := hcanonical.greatest; omega)
    exact (h.bounds hcanonical).1.trans_le hle

theorem two_pow_le_ten_pow (n : Nat) : (2 : ℚ) ^ n ≤ 10 ^ n :=
  pow_le_pow_left₀ (by norm_num) (by norm_num) n

/-- The exponent of a decimal near a double is not too large to compute with. -/
theorem exponent_le (hcanonical : Canonical m e) (h : Near (digits * 10 ^ exponent) m e)
    (hdigits : 0 < digits) : exponent ≤ 2048 := by
  by_contra hlarge
  obtain ⟨n, rfl⟩ : ∃ n : Nat, exponent = n := ⟨exponent.toNat, by omega⟩
  have hcast : (1 : ℚ) ≤ digits := by exact_mod_cast hdigits
  have hrange := (h.range hcanonical).2
  have hpow : (2 : ℚ) ^ (1024 : Int) ≤ 2 ^ n := by
    rw [← zpow_natCast]
    exact zpow_le_zpow_right₀ (by norm_num) (by omega)
  have hten := two_pow_le_ten_pow n
  have hmul : (10 : ℚ) ^ n ≤ digits * 10 ^ n :=
    le_mul_of_one_le_left (pow_pos (by norm_num) n).le hcast
  rw [zpow_natCast] at hrange
  exact absurd hrange (not_lt.2 (hpow.trans (hten.trans hmul)))

/-- Nor is it too small. -/
theorem le_exponent (hcanonical : Canonical m e) (h : Near (digits * 10 ^ exponent) m e) :
    -(2048 + (digits.log2 : Int)) ≤ exponent := by
  by_contra hsmall
  obtain ⟨n, rfl⟩ : ∃ n : Nat, exponent = -n := ⟨(-exponent).toNat, by omega⟩
  have hrange := (h.range hcanonical).1
  have hcast : (digits : ℚ) < 2 ^ (digits.log2 + 1) := by exact_mod_cast Nat.lt_log2_self
  have hten := two_pow_le_ten_pow n
  have hpos : (0 : ℚ) < 2 ^ n := pow_pos (by norm_num) n
  have hquotient : (digits : ℚ) * 10 ^ (-(n : Int)) < 2 ^ ((digits.log2 : Int) + 1 - n) := by
    rw [zpow_neg, zpow_natCast, ← div_eq_mul_inv, zpow_sub₀ two_ne_zero, zpow_natCast]
    calc (digits : ℚ) / 10 ^ n ≤ digits / 2 ^ n := div_le_div_of_nonneg_left (Nat.cast_nonneg _) hpos hten
      _ < 2 ^ (digits.log2 + 1) / 2 ^ n := div_lt_div_of_pos_right hcast hpos
  have hlt := two_zpow_lt (hrange.trans_lt hquotient)
  omega

theorem ofScientific_eq (hcanonical : Canonical m e) (h : Near (digits * 10 ^ exponent) m e)
    (hdigits : 0 < digits) :
    UnpackedFloat.ofScientific .binary64 digits exponent = positive hcanonical := by
  have hle := exponent_le hcanonical h hdigits
  have hge := le_exponent hcanonical h
  unfold UnpackedFloat.ofScientific
  rw [dif_neg hdigits.ne', if_neg (by show ¬ (2 : Int) ^ 11 < exponent; omega),
    if_neg (by show ¬ exponent < -((2 : Int) ^ 11 + digits.log2); omega)]
  split
  · next hnonneg =>
      obtain ⟨n, rfl⟩ : ∃ n : Nat, exponent = n := ⟨exponent.toNat, by omega⟩
      refine mul_eq hcanonical ?_ ?_
      · have hvalue : ((digits <<< 53 : ℕ) : ℚ) * (10 ^ n : ℕ) * 2 ^ (-53 + 0 : Int) =
            digits * 10 ^ (n : Int) := by
          rw [Nat.shiftLeft_eq, zpow_natCast]
          push_cast
          norm_num
          ring
        show Near (((digits <<< 53 : ℕ) : ℚ) * (10 ^ n : ℕ) * 2 ^ (-53 + 0 : Int)) m e
        rwa [hvalue]
      · show 2 ^ 52 ≤ digits <<< 53 * 10 ^ n
        rw [Nat.shiftLeft_eq]
        calc 2 ^ 52 ≤ 1 * 2 ^ 53 * 1 := by decide
          _ ≤ digits * 2 ^ 53 * 10 ^ n :=
            Nat.mul_le_mul (Nat.mul_le_mul_right _ hdigits) (Nat.pow_pos (by decide))
  · next hneg =>
      obtain ⟨n, rfl⟩ : ∃ n : Nat, exponent = -n := ⟨(-exponent).toNat, by omega⟩
      refine div_eq hcanonical ?_
      have hexponent : (- -(n : Int)).toNat = n := by omega
      have hvalue : (digits : ℚ) * 2 ^ (0 : Int) / ((10 ^ (- -(n : Int)).toNat : ℕ) * 2 ^ (0 : Int)) =
          digits * 10 ^ (-(n : Int)) := by
        rw [hexponent, zpow_neg, zpow_natCast, zpow_zero, mul_one, mul_one, div_eq_mul_inv,
          Nat.cast_pow]
        rfl
      rwa [← hvalue] at h

/-! ## Arithmetic on doubles -/

theorem canonical_whole {n : Nat} (hn : 0 < n) (hlt : n < 2 ^ 53) :
    Canonical (n * 2 ^ (52 - n.log2)) ((n.log2 : Int) - 52) := by
  have hlog : n.log2 < 53 := (Nat.log2_lt hn.ne').2 hlt
  have hsum : n.log2 + (52 - n.log2) = 52 := by omega
  have hlow : 2 ^ 52 ≤ n * 2 ^ (52 - n.log2) := by
    calc 2 ^ 52 = 2 ^ n.log2 * 2 ^ (52 - n.log2) := by rw [← pow_add, hsum]
      _ ≤ n * 2 ^ (52 - n.log2) := Nat.mul_le_mul_right _ (Nat.log2_self_le hn.ne')
  have hhigh : n * 2 ^ (52 - n.log2) < 2 ^ 53 := by
    calc n * 2 ^ (52 - n.log2) < 2 ^ (n.log2 + 1) * 2 ^ (52 - n.log2) :=
          Nat.mul_lt_mul_of_pos_right Nat.lt_log2_self (Nat.pow_pos (by decide))
      _ = 2 ^ 53 := by rw [← pow_add]; congr 1; omega
  exact ⟨by omega, hhigh, by omega, by omega, .inl hlow⟩

theorem whole_value {n : Nat} (hn : 0 < n) (hlt : n < 2 ^ 53) :
    ((n * 2 ^ (52 - n.log2) : ℕ) : ℚ) * 2 ^ ((n.log2 : Int) - 52) = n := by
  have hlog : n.log2 < 53 := (Nat.log2_lt hn.ne').2 hlt
  have hexponent : (n.log2 : Int) - 52 = -(52 - n.log2 : Nat) := by omega
  rw [hexponent, zpow_neg, zpow_natCast]
  push_cast
  exact mul_inv_cancel_right₀ (pow_ne_zero _ two_ne_zero) _

/-- A double is near itself. -/
theorem near_self (m : Nat) (e : Int) : Near (m * 2 ^ e) m e := by
  have hpos := two_zpow_pos e
  refine ⟨?_, ?_, fun _ => ?_, .inr ⟨?_, ?_⟩⟩ <;> nlinarith

theorem round_whole {n : Nat} (hn : 0 < n) (hlt : n < 2 ^ 53) :
    UnpackedFloat.round .binary64 .positive n 0 = positive (canonical_whole hn hlt) := by
  have hcanonical := canonical_whole hn hlt
  have hlog : n.log2 < 53 := (Nat.log2_lt hn.ne').2 hlt
  have hshift : (0 - max ((n.log2 : Int) + 0 - 52) (-1074)).toNat = 52 - n.log2 := by omega
  have hexponent : (0 : Int) - (52 - n.log2 : Nat) = n.log2 - 52 := by omega
  simp only [UnpackedFloat.round, decreaseExponent, targetExponent_eq, hshift, hexponent,
    Nat.shiftLeft_eq]
  refine roundWithAccuracy_eq (near_self _ _) hcanonical ?_ hcanonical.target.ge .positive
  exact mul_div_cancel_right₀ _ (two_zpow_pos _).ne'

theorem unpack_toFloat {n : Nat} (hn : 0 < n) (hlt : n < 2 ^ 53) :
    n.toUInt64.toFloat.toModel.unpack = positive (canonical_whole hn hlt) := by
  have hnat : n.toUInt64.toNat = n := by
    show n % 2 ^ 64 = n
    omega
  have hcompare : compare (n : Int) 0 = .gt := Int.compare_eq_gt.2 (by omega)
  have hmodel : UnpackedFloat.ofUInt64 .binary64 n.toUInt64 = positive (canonical_whole hn hlt) := by
    rw [UnpackedFloat.ofUInt64, hnat, UnpackedFloat.ofNat, UnpackedFloat.ofInt,
      UnpackedFloat.normalize, hcompare]
    exact round_whole hn hlt
  show (Float.Model.pack (UnpackedFloat.ofUInt64 .binary64 n.toUInt64)).unpack = _
  rw [hmodel]
  exact unpack_pack (canonical_whole hn hlt)

/-- The significand of a power of ten that is a double. -/
def powerSignificand (n : Nat) : Nat :=
  10 ^ n * 2 ^ 52 / 2 ^ (10 ^ n).log2

theorem decode_power : ∀ n : Fin 23,
    Float.exactlyRepresentablePowersOfTen[n.val]?.map Binary.decode =
      some (.finite false (powerSignificand n) ((10 ^ n.val).log2 - 52)) ∧
    powerSignificand n * 2 ^ (10 ^ n.val).log2 = 10 ^ n.val * 2 ^ 52 := by
  decide +kernel

theorem unpack_of_decode {x : Float} {m : Nat} {e : Int} (hm : 0 < m)
    (h : Binary.decode x = .finite false m e) : x.toModel.unpack = .finite .positive m e hm := by
  unfold Binary.decode at h
  split at h
  · cases h
  · cases h
  · obtain ⟨-, rfl, -⟩ := Binary.finite.inj h
    exact absurd hm (Nat.lt_irrefl 0)
  · next sign significand exponent hpos hunpack =>
      cases sign with
      | negative => cases h
      | positive =>
          cases h
          exact hunpack

/-- The powers of ten in the table are exact. -/
theorem unpack_power {n : Nat} (hn : n ≤ 22) {x : Float}
    (hx : Float.exactlyRepresentablePowersOfTen[n]? = some x) :
    ∃ (m : Nat) (e : Int) (hm : 0 < m), x.toModel.unpack = .finite .positive m e hm ∧
      (m * 2 ^ e : ℚ) = 10 ^ n := by
  obtain ⟨hdecode, hexact⟩ := decode_power ⟨n, by omega⟩
  simp only [hx, Option.map_some, Option.some.injEq] at hdecode
  have hm : 0 < powerSignificand n := by
    refine Nat.pos_of_ne_zero fun hzero => ?_
    have hpos : 0 < 10 ^ n * 2 ^ 52 := by positivity
    simp only [hzero, Nat.zero_mul] at hexact
    omega
  refine ⟨_, _, hm, unpack_of_decode hm hdecode, ?_⟩
  have hcast : (powerSignificand n : ℚ) * 2 ^ (10 ^ n).log2 = 10 ^ n * 2 ^ 52 := by
    exact_mod_cast hexact
  rw [zpow_sub₀ two_ne_zero, zpow_natCast, ← mul_div_assoc, hcast]
  exact mul_div_cancel_right₀ _ (by norm_num)

/-- A decimal near a double is read as that double. -/
theorem nearest_eq (hcanonical : Canonical m e) (h : Near (digits * 10 ^ exponent) m e) :
    Numeral.nearest digits exponent = .ofModel (.pack (positive hcanonical)) := by
  have hdigits : 0 < digits := by
    refine Nat.pos_of_ne_zero fun hzero => ?_
    have hpos := h.pos hcanonical.pos
    rw [hzero, Nat.cast_zero, zero_mul] at hpos
    exact lt_irrefl _ hpos
  unfold Numeral.nearest Float.ofScientific
  split
  · next hfast =>
      obtain ⟨hlt, hsmall⟩ := hfast
      have hindex : exponent.natAbs < Float.exactlyRepresentablePowersOfTen.size := by
        show exponent.natAbs < 23
        omega
      have hunpack := unpack_toFloat hdigits hlt
      have hwhole := whole_value hdigits hlt
      simp only
      generalize hx : Float.exactlyRepresentablePowersOfTen[exponent.natAbs] = x
      obtain ⟨M, E, hM, hpower, hvalue⟩ :=
        unpack_power hsmall ((Array.getElem?_eq_getElem hindex).trans (congrArg some hx))
      split
      · next hneg =>
          have hquotient : digits * 10 ^ exponent = ((digits * 2 ^ (52 - digits.log2) : ℕ) : ℚ) *
              2 ^ ((digits.log2 : Int) - 52) / (M * 2 ^ E) := by
            rw [hwhole, hvalue, div_eq_mul_inv, ← zpow_natCast, ← zpow_neg]
            congr 2
            have hlt := of_decide_eq_true hneg
            omega
          rw [hquotient] at h
          show Float.ofModel (.pack (UnpackedFloat.div .binary64 _ _)) = _
          rw [hunpack, hpower]
          exact congrArg (fun f => Float.ofModel (.pack f)) (div_eq hcanonical h)
      · next hnonneg =>
          have hproduct : digits * 10 ^ exponent = ((digits * 2 ^ (52 - digits.log2) : ℕ) : ℚ) * M *
              2 ^ ((digits.log2 : Int) - 52 + E) := by
            rw [zpow_add₀ two_ne_zero, mul_mul_mul_comm, hwhole, hvalue, ← zpow_natCast]
            congr 2
            have hge := of_decide_eq_false (Bool.eq_false_iff.2 hnonneg)
            omega
          rw [hproduct] at h
          show Float.ofModel (.pack (UnpackedFloat.mul .binary64 _ _)) = _
          rw [hunpack, hpower]
          refine congrArg (fun f => Float.ofModel (.pack f)) (mul_eq hcanonical h ?_)
          have hbits := (canonical_whole hdigits hlt).normal.resolve_right (by omega)
          exact hbits.trans (Nat.le_mul_of_pos_right _ hM)
  · next hslow =>
      have hexponent : (if decide (exponent < 0) = true then Int.negOfNat exponent.natAbs
          else Int.ofNat exponent.natAbs) = exponent := by
        split
        · next hneg =>
            have hlt := of_decide_eq_true hneg
            rw [Int.negOfNat_eq]
            show -(exponent.natAbs : Int) = exponent
            omega
        · next hnonneg =>
            have hge := of_decide_eq_false (Bool.eq_false_iff.2 hnonneg)
            exact Int.natAbs_of_nonneg (by omega)
      simp only [hexponent]
      exact congrArg (fun f => Float.ofModel (.pack f)) (ofScientific_eq hcanonical h hdigits)

end Decimals

end RollScript

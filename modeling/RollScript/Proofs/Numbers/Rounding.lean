import Mathlib.Algebra.Order.Field.Power
import Mathlib.Data.Rat.Cast.Order
import Mathlib.Tactic.FieldSimp
import Mathlib.Tactic.Linarith
import RollScript.Proofs.Numbers.Packing

/-!
# Rounding to a double

Read `Near` first: it says which rational numbers are to be read as a given double. The rounding of a
significand with two residual bits keeps track of the number that is rounded by `Lies`, and
`roundWithAccuracy_eq` says that a number near a double is rounded to it.
-/

namespace RollScript

open Float.Model
open Float.Model.UnpackedFloat

/-! ## Residual bits -/

/-- Where a number lies relative to a significand with its two residual bits. -/
def Lies (x : ℚ) : ExtendedMantissa → Prop
  | ⟨m, false, false⟩ => x = m
  | ⟨m, false, true⟩ => m < x ∧ x < m + 1 / 2
  | ⟨m, true, false⟩ => x = m + 1 / 2
  | ⟨m, true, true⟩ => m + 1 / 2 < x ∧ x < m + 1

theorem Lies.bounds {x : ℚ} {em : ExtendedMantissa} (h : Lies x em) :
    em.mantissa ≤ x ∧ x < em.mantissa + 1 := by
  obtain ⟨m, roundBit, stickyBit⟩ := em
  cases roundBit <;> cases stickyBit <;> simp only [Lies] at h ⊢ <;> constructor <;> linarith

theorem Lies.shiftRightOne {x : ℚ} {em : ExtendedMantissa} (h : Lies x em) :
    Lies (x / 2) em.shiftRightOne := by
  obtain ⟨m, roundBit, stickyBit⟩ := em
  have hsplit : (m : ℚ) = 2 * (m / 2 : ℕ) + (m % 2 : ℕ) := by
    exact_mod_cast (Nat.div_add_mod m 2).symm
  unfold ExtendedMantissa.shiftRightOne
  rcases Nat.mod_two_eq_zero_or_one m with hmod | hmod
  · have hbit : (m % 2 != 0) = false := by rw [hmod]; rfl
    rw [hmod, Nat.cast_zero] at hsplit
    cases roundBit <;> cases stickyBit <;>
      simp only [Lies, hbit, Bool.or_false, Bool.or_true] at h ⊢ <;>
      first | linarith | (constructor <;> linarith)
  · have hbit : (m % 2 != 0) = true := by rw [hmod]; rfl
    rw [hmod, Nat.cast_one] at hsplit
    cases roundBit <;> cases stickyBit <;>
      simp only [Lies, hbit, Bool.or_false, Bool.or_true] at h ⊢ <;>
      first | linarith | (constructor <;> linarith)

/-- Shifting keeps where the number lies, on the coarser scale. -/
theorem Lies.shiftRight {x : ℚ} {em : ExtendedMantissa} (h : Lies x em) (n : Nat) :
    Lies (x / 2 ^ n) (em >>> n) := by
  show Lies (x / 2 ^ n) (n.repeat ExtendedMantissa.shiftRightOne em)
  induction n with
  | zero => simpa [Nat.repeat] using h
  | succ n ih =>
      rw [pow_succ, ← div_div]
      exact ih.shiftRightOne

theorem le_of_lt_add_one {m n : Nat} (h : (m : ℚ) < n + 1) : m ≤ n := by
  have hlt : m < n + 1 := by exact_mod_cast h
  omega

/-- A number at most half a unit from an integer is rounded to it; at just half a unit the integer has
to be even. -/
theorem Lies.rounded {x : ℚ} {em : ExtendedMantissa} (h : Lies x em) {m : Nat}
    (hlow : (m : ℚ) - 1 / 2 ≤ x) (hhigh : x ≤ m + 1 / 2)
    (htie : m % 2 = 0 ∨ (m : ℚ) - 1 / 2 < x ∧ x < m + 1 / 2) : em.roundedMantissa = m := by
  obtain ⟨n, roundBit, stickyBit⟩ := em
  cases roundBit with
  | false =>
      -- The number is less than half a unit above `n`.
      have hn : (n : ℚ) ≤ x ∧ x < n + 1 / 2 := by
        cases stickyBit <;> simp only [Lies] at h <;> constructor <;> linarith
      have hle : m ≤ n := le_of_lt_add_one (by linarith [hn.2])
      have hge : n ≤ m := le_of_lt_add_one (by linarith [hn.1])
      obtain rfl := Nat.le_antisymm hle hge
      cases stickyBit <;> rfl
  | true =>
      cases stickyBit with
      | true =>
          have hn : (n : ℚ) + 1 / 2 < x ∧ x < n + 1 := h
          have hle : m ≤ n + 1 := le_of_lt_add_one (by push_cast; linarith [hn.2])
          have hge : n + 1 ≤ m := Nat.succ_le_of_lt (by
            have hlt : (n : ℚ) < m := by linarith [hn.1]
            exact_mod_cast hlt)
          exact Nat.le_antisymm hge hle
      | false =>
          -- A tie, which goes to the even one of the two integers.
          have hn : x = n + 1 / 2 := h
          have hle : m ≤ n + 1 := by
            have hcast : (m : ℚ) ≤ n + 1 := by linarith
            exact_mod_cast hcast
          have hge : n ≤ m := by
            have hcast : (n : ℚ) ≤ m := by linarith
            exact_mod_cast hcast
          have heven : m % 2 = 0 := by
            rcases htie with heven | ⟨hstrict, hstrict'⟩
            · exact heven
            · have hlt : m < n + 1 := by
                have hcast : (m : ℚ) < n + 1 := by linarith
                exact_mod_cast hcast
              have hgt : n < m := by
                have hcast : (n : ℚ) < m := by linarith
                exact_mod_cast hcast
              omega
          show n + n % 2 = m
          omega

/-! ## The numbers near a double -/

/-- Whether the double below `significand · 2 ^ exponent` is half as far from it as the one above. -/
def IsNarrow (significand : Nat) (exponent : Int) : Prop :=
  significand = 2 ^ 52 ∧ -1074 < exponent

/-- The numbers that are read as the double `significand · 2 ^ exponent`: those at most half-way to
the doubles next to it, where half-way itself counts only if the significand is even. -/
structure Near (q : ℚ) (significand : Nat) (exponent : Int) : Prop where
  low : ((significand : ℚ) - 1 / 2) * 2 ^ exponent ≤ q
  high : q ≤ (significand + 1 / 2) * 2 ^ exponent
  narrow : IsNarrow significand exponent → ((significand : ℚ) - 1 / 4) * 2 ^ exponent ≤ q
  tie : significand % 2 = 0 ∨
    ((significand : ℚ) - 1 / 2) * 2 ^ exponent < q ∧ q < (significand + 1 / 2) * 2 ^ exponent

theorem two_zpow_pos (e : Int) : (0 : ℚ) < 2 ^ e :=
  zpow_pos (by norm_num) e

theorem scaled_pos {m : Nat} (hm : 0 < m) (e : Int) : (0 : ℚ) < m * 2 ^ e :=
  mul_pos (by exact_mod_cast hm) (two_zpow_pos e)

theorem scaled_nonneg (m : Nat) (e : Int) : (0 : ℚ) ≤ m * 2 ^ e :=
  mul_nonneg (Nat.cast_nonneg m) (two_zpow_pos e).le

theorem two_zpow_lt {a b : Int} (h : (2 : ℚ) ^ a < 2 ^ b) : a < b :=
  (zpow_lt_zpow_iff_right₀ (by norm_num)).1 h

theorem neg_of_two_zpow_lt_one {a : Int} (h : (2 : ℚ) ^ a < 1) : a < 0 :=
  (zpow_lt_one_iff_right₀ (by norm_num)).1 h

theorem two_le_two_zpow {a : Int} (h : 0 < a) : (2 : ℚ) ≤ 2 ^ a := by
  have hpow : (2 : ℚ) ^ (1 : Int) ≤ 2 ^ a := zpow_le_zpow_right₀ (by norm_num) h
  rwa [zpow_one] at hpow

theorem Near.pos {q : ℚ} {m : Nat} {e : Int} (h : Near q m e) (hm : 0 < m) : 0 < q := by
  have hcast : (1 : ℚ) ≤ m := by exact_mod_cast hm
  exact (mul_pos (by linarith) (two_zpow_pos e)).trans_le h.low

theorem targetExponent_binary64 (total : Int) :
    Format.binary64.targetExponent total = max (total - 53) (-1074) :=
  rfl

theorem targetExponent_eq (m : Nat) (e : Int) :
    Format.binary64.targetExponent (totalExponent m e) = max (m.log2 + e - 52) (-1074) := by
  rw [targetExponent_binary64, totalExponent]
  congr 1
  omega

/-! ## Rounding -/

/-- The parts of a double have the exponent that its format gives them. -/
theorem Canonical.target {m : Nat} {e : Int} (h : Canonical m e) :
    Format.binary64.targetExponent (totalExponent m e) = e := by
  have hleast := h.least
  rw [targetExponent_eq]
  by_cases hnormal : 2 ^ 52 ≤ m
  · have hlog : m.log2 = 52 := (Nat.log2_eq_iff h.pos.ne').2 ⟨hnormal, h.lt⟩
    omega
  · have hlog : m.log2 < 52 := (Nat.log2_lt h.pos.ne').2 (by omega)
    have he := h.normal.resolve_left hnormal
    omega

/-- The first shift brings the significand to the exponent of the format and keeps where the number
lies. -/
theorem shiftToTargetExponent_lies {q : ℚ} {m : Nat} {e : Int} {accuracy : Accuracy}
    (h : Lies (q / 2 ^ e) (.ofMantissaAndAccuracy m accuracy))
    (hle : e ≤ Format.binary64.targetExponent (totalExponent m e)) :
    ∃ em, shiftToTargetExponent .binary64 m e accuracy =
        (em, Format.binary64.targetExponent (totalExponent m e)) ∧
      Lies (q / 2 ^ Format.binary64.targetExponent (totalExponent m e)) em := by
  generalize htarget : Format.binary64.targetExponent (totalExponent m e) = t at hle ⊢
  obtain ⟨n, rfl⟩ : ∃ n : Nat, t = e + n := ⟨(t - e).toNat, by omega⟩
  have hshift : (e + n - e).toNat = n := by omega
  refine ⟨ExtendedMantissa.ofMantissaAndAccuracy m accuracy >>> n, ?_, ?_⟩
  · simp only [shiftToTargetExponent, htarget, shiftToExponent, hshift]
  · have hpow : q / 2 ^ (e + n) = q / 2 ^ e / 2 ^ n := by
      rw [zpow_add₀ two_ne_zero, zpow_natCast, div_div]
    rw [hpow]
    exact h.shiftRight n

/-- A significand that rounding has made too long by one bit is shifted once more. -/
theorem shiftToTargetExponent_carry {e : Int} (h : -1074 ≤ e) :
    shiftToTargetExponent .binary64 (2 ^ 53) (e - 1) .exact = (⟨2 ^ 52, false, false⟩, e) := by
  have htarget : Format.binary64.targetExponent (totalExponent (2 ^ 53) (e - 1)) = e := by
    rw [targetExponent_eq, Nat.log2_two_pow]
    omega
  have hshift : (e - (e - 1)).toNat = 1 := by omega
  simp only [shiftToTargetExponent, htarget, shiftToExponent, hshift]
  refine Prod.ext rfl ?_
  show e - 1 + (1 : Nat) = e
  omega

theorem shiftToTargetExponent_canonical {m : Nat} {e : Int} (h : Canonical m e) :
    shiftToTargetExponent .binary64 m e .exact = (⟨m, false, false⟩, e) := by
  have hshift : (e - e).toNat = 0 := by omega
  simp only [shiftToTargetExponent, h.target, shiftToExponent, hshift]
  refine Prod.ext rfl ?_
  show e + (0 : Nat) = e
  omega

/-- The number of bits before the point of a number, as far as its significand shows it. -/
theorem totalExponent_bounds {q : ℚ} {m : Nat} {e : Int} {accuracy : Accuracy}
    (h : Lies (q / 2 ^ e) (.ofMantissaAndAccuracy m accuracy)) :
    q < 2 ^ ((m.log2 : Int) + 1 + e) ∧ (m ≠ 0 → (2 : ℚ) ^ ((m.log2 : Int) + e) ≤ q) ∧
      (m = 0 → q < 2 ^ e) := by
  have hmantissa : (ExtendedMantissa.ofMantissaAndAccuracy m accuracy).mantissa = m := by
    cases accuracy with
    | exact => rfl
    | inexact order => cases order <;> rfl
  obtain ⟨hlow, hhigh⟩ := h.bounds
  rw [hmantissa] at hlow hhigh
  have hpos := two_zpow_pos e
  have hlower : (m : ℚ) * 2 ^ e ≤ q := (le_div_iff₀ hpos).1 hlow
  have hupper : q < (m + 1) * 2 ^ e := (div_lt_iff₀ hpos).1 hhigh
  refine ⟨?_, fun hm => ?_, ?_⟩
  · have hlog : ((m : ℚ) + 1) ≤ 2 ^ (m.log2 + 1) := by exact_mod_cast Nat.lt_log2_self
    have hpow : (2 : ℚ) ^ ((m.log2 : Int) + 1 + e) = 2 ^ (m.log2 + 1) * 2 ^ e := by
      rw [zpow_add₀ two_ne_zero]
      congr 1
    rw [hpow]
    exact hupper.trans_le (mul_le_mul_of_nonneg_right hlog hpos.le)
  · have hlog : (2 : ℚ) ^ m.log2 ≤ m := by exact_mod_cast Nat.log2_self_le hm
    rw [zpow_add₀ two_ne_zero, zpow_natCast]
    exact (mul_le_mul_of_nonneg_right hlog hpos.le).trans hlower
  · rintro rfl
    simpa using hupper

/-- A number near a double is below the next power of two, and not far below the one before it. -/
theorem Near.bounds {q : ℚ} {m : Nat} {e : Int} (h : Near q m e) (hcanonical : Canonical m e) :
    q < 2 ^ (e + 53) ∧
    (2 ^ 52 ≤ m → (2 : ℚ) ^ (e + 51) < q) ∧
    (2 ^ 52 < m → (2 : ℚ) ^ (e + 52) ≤ q) ∧
    (m < 2 ^ 52 → q < 2 ^ (e + 52)) := by
  have hpos := two_zpow_pos e
  have hpow : ∀ n : Nat, (2 : ℚ) ^ (e + n) = 2 ^ n * 2 ^ e := by
    intro n
    rw [zpow_add₀ two_ne_zero, zpow_natCast, mul_comm]
  have hpow53 := hpow 53
  have hpow52 := hpow 52
  have hpow51 := hpow 51
  push_cast at hpow53 hpow52 hpow51
  have hlow := h.low
  have hhigh := h.high
  have hlt : (m : ℚ) + 1 ≤ 2 ^ 53 := by exact_mod_cast hcanonical.lt
  refine ⟨?_, fun hm => ?_, fun hm => ?_, fun hm => ?_⟩
  · rw [hpow53]
    nlinarith
  · have hcast : (2 : ℚ) ^ 52 ≤ m := by exact_mod_cast hm
    rw [hpow51]
    nlinarith
  · have hcast : (2 : ℚ) ^ 52 + 1 ≤ m := by exact_mod_cast hm
    rw [hpow52]
    nlinarith
  · have hcast : (m : ℚ) + 1 ≤ 2 ^ 52 := by exact_mod_cast hm
    rw [hpow52]
    nlinarith

/-- Where a number near a double is rounded: at the exponent of the double, or one below it when the
number lies below a power of two. -/
theorem Near.target {q : ℚ} {m n : Nat} {e f : Int} {accuracy : Accuracy} (h : Near q m e)
    (hcanonical : Canonical m e) (hlies : Lies (q / 2 ^ f) (.ofMantissaAndAccuracy n accuracy))
    (hle : f ≤ Format.binary64.targetExponent (totalExponent n f)) :
    Format.binary64.targetExponent (totalExponent n f) = e ∨
      Format.binary64.targetExponent (totalExponent n f) = e - 1 ∧ IsNarrow m e ∧
        q < 2 ^ (e + 52) := by
  obtain ⟨hhigh, hhalf, hfull, hsub⟩ := h.bounds hcanonical
  obtain ⟨hupper, hlower, hzero⟩ := totalExponent_bounds hlies
  have hleast := hcanonical.least
  rw [targetExponent_eq] at hle ⊢
  by_cases hn : n = 0
  · -- Nothing is left of the number before the point, so it is below all normal doubles.
    have hq := hzero hn
    subst hn
    have hf : f ≤ -1074 := by
      rw [show Nat.log2 0 = 0 from rfl] at hle
      omega
    have hm : ¬ 2 ^ 52 ≤ m := by
      intro hm
      have hlt := two_zpow_lt ((hhalf hm).trans hq)
      omega
    have he := hcanonical.normal.resolve_left hm
    rw [show Nat.log2 0 = 0 from rfl]
    exact .inl (by omega)
  · have hlow := hlower hn
    have hbelow := two_zpow_lt (hlow.trans_lt hhigh)
    by_cases he : e = -1074
    · exact .inl (by omega)
    · have hm := hcanonical.normal.resolve_right he
      have habove := two_zpow_lt ((hhalf hm).trans hupper)
      by_cases hq : q < 2 ^ (e + 52)
      · have hlt := two_zpow_lt (hlow.trans_lt hq)
        have hle' : ¬ 2 ^ 52 < m := fun hlt => absurd hq (hfull hlt).not_gt
        exact .inr ⟨by omega, ⟨by omega, by omega⟩, hq⟩
      · have hlt := two_zpow_lt ((not_lt.1 hq).trans_lt hupper)
        exact .inl (by omega)

/-- A number near a double is rounded to it, if it is given with enough bits. -/
theorem roundWithAccuracy_eq {q : ℚ} {m n : Nat} {e f : Int} {accuracy : Accuracy} (h : Near q m e)
    (hcanonical : Canonical m e) (hlies : Lies (q / 2 ^ f) (.ofMantissaAndAccuracy n accuracy))
    (hle : f ≤ Format.binary64.targetExponent (totalExponent n f)) (sign : Sign) :
    roundWithAccuracy .binary64 sign n f accuracy = .finite sign m e hcanonical.pos := by
  have hpos := two_zpow_pos e
  obtain ⟨em, hshift, hem⟩ := shiftToTargetExponent_lies hlies hle
  have htarget := h.target hcanonical hlies hle
  generalize Format.binary64.targetExponent (totalExponent n f) = t at hshift hem htarget
  rcases htarget with rfl | ⟨rfl, ⟨rfl, he⟩, hq⟩
  · have hrounded : em.roundedMantissa = m := by
      refine hem.rounded ?_ ?_ ?_
      · rw [le_div_iff₀ hpos]
        exact h.low
      · rw [div_le_iff₀ hpos]
        exact h.high
      · rw [lt_div_iff₀ hpos, div_lt_iff₀ hpos]
        exact h.tie
    simp only [roundWithAccuracy, hshift, hrounded, shiftToTargetExponent_canonical hcanonical]
    rw [dif_neg hcanonical.pos.ne']
  · -- Below a power of two the spacing is half as wide, and rounding carries into the next bit.
    have hhalf : (2 : ℚ) ^ e = 2 * 2 ^ (e - 1) := by
      rw [← zpow_one_add₀ two_ne_zero]
      congr 1
      omega
    have hhalfpos := two_zpow_pos (e - 1)
    have hnarrow := h.narrow ⟨rfl, he⟩
    have hrounded : em.roundedMantissa = 2 ^ 53 := by
      refine hem.rounded ?_ ?_ (.inl rfl)
      · rw [le_div_iff₀ hhalfpos]
        rw [hhalf] at hnarrow
        push_cast at hnarrow ⊢
        linarith
      · rw [div_le_iff₀ hhalfpos]
        rw [zpow_add₀ two_ne_zero, hhalf] at hq
        push_cast at hq ⊢
        norm_num at hq ⊢
        linarith
    simp only [roundWithAccuracy, hshift, hrounded, shiftToTargetExponent_carry hcanonical.least]
    rfl

end RollScript

import Mathlib
import RollScript.Primitive.Operation
import RollScript.Proofs.Numbers.Neighbours
import RollScript.Proofs.Numbers.Signs

/-!
# The sign of a power

A power with a natural exponent is compared with the product that repeats its base. Both have the sign that
the laws of signs give (`signOf`), with one exception: a power out of range is the positive infinity, also
where the base is negative and the exponent odd (`power_and_product`).
-/

namespace RollScript

open Float.Model
open Float.Model.UnpackedFloat

/-- The product of `n` factors, multiplied from the left. -/
def repeatedProduct (x : Float) (n : Nat) : Except Stop Value :=
  (List.replicate (n - 1) (Value.number x)).foldlM (fun v w => Operation.multiply.apply [v, w]) (.number x)

/-- The sign of a product of `n` factors of one sign. -/
def signOf (s : Sign) (n : Nat) : Sign :=
  if n % 2 = 1 then s else .positive

/-- What is known of the power that the library computes: a positive base with a natural exponent has a number
for its power, the infinity exactly where the exact power is out of range. -/
structure LibraryPower (x y : Float) (n : Nat) : Prop where
  number : (Float.pow x y).isNaN = false
  overflows : (Float.pow x y).isInf = true ↔ overflow ≤ Binary.value x ^ n

variable {x y : Float} {n : Nat} {s : Sign}

/-! ## The sign of a product -/

theorem signOf_succ (s : Sign) (n : Nat) : signOf s (n + 1) = signOf s n * s := by
  rcases Nat.mod_two_eq_zero_or_one n with heven | hodd
  · rw [signOf, signOf, if_pos (by omega), if_neg (by omega)]
    cases s <;> rfl
  · rw [signOf, signOf, if_neg (by omega), if_pos hodd]
    cases s <;> rfl

theorem signOf_negative_iff : signOf s n = .negative ↔ s = .negative ∧ n % 2 = 1 := by
  rw [signOf]
  split
  · next hodd => simp [hodd]
  · next heven => simp [heven]

/-- One more factor is multiplied to the product of the others. -/
theorem repeatedProduct_succ {v : Float} (hv : repeatedProduct x (n + 1) = .ok (.number v)) :
    repeatedProduct x (n + 2) = .ok (.number (v * x)) := by
  rw [repeatedProduct, Nat.add_sub_cancel] at hv
  show (List.replicate (n + 1) (Value.number x)).foldlM _ _ = _
  rw [List.replicate_succ', List.foldlM_append, hv]
  rfl

theorem repeatedProduct_ok (x : Float) (n : Nat) : ∃ q, repeatedProduct x (n + 1) = .ok (.number q) := by
  induction n with
  | zero => exact ⟨x, rfl⟩
  | succ n ih =>
      obtain ⟨v, hv⟩ := ih
      exact ⟨v * x, repeatedProduct_succ hv⟩

/-- One more factor changes the sign of a product by its own. -/
theorem hasSign_mul {v : Float} {t : Sign} {m : Nat} {e : Int} {hm : 0 < m} (hv : HasSign t v.toModel.unpack)
    (hx : x.toModel.unpack = .finite s m e hm) : HasSign (t * s) (v * x).toModel.unpack := by
  show HasSign (t * s) (Float.Model.pack (UnpackedFloat.mul .binary64 v.toModel.unpack x.toModel.unpack)).unpack
  rw [hx]
  exact (hv.mul hm).pack

/-- A product of `n` factors other than zero has the sign that the laws of signs give it. -/
theorem repeatedProduct_hasSign {q : Float} {m : Nat} {e : Int} {hm : 0 < m} (hx : x.toModel.unpack = .finite s m e hm)
    (hq : repeatedProduct x (n + 1) = .ok (.number q)) : HasSign (signOf s (n + 1)) q.toModel.unpack := by
  induction n generalizing q with
  | zero =>
      cases hq
      rw [hx]
      exact .finite m e hm
  | succ n ih =>
      obtain ⟨v, hv⟩ := repeatedProduct_ok x n
      rw [repeatedProduct_succ hv] at hq
      cases hq
      rw [signOf_succ]
      exact hasSign_mul (ih hv) hx

/-! ## The power -/

/-- A double that is a positive natural number. -/
theorem unpack_of_natural (hy : Binary.integer? y = some (n : Int)) (hn : 1 ≤ n) :
    ∃ m e hm, y.toModel.unpack = .finite .positive m e hm := by
  obtain ⟨hfinite, hvalue⟩ := integer?_eq_some_iff.1 hy
  have hpos : (0 : ℚ) < n := by exact_mod_cast hn
  rw [Int.cast_natCast] at hvalue
  obtain ⟨sign, hunpack⟩ | ⟨sign, m, e, hm, hunpack⟩ := unpack_of_isFinite hfinite
  · rw [value_of_zero hunpack] at hvalue
    exact absurd hvalue hpos.ne
  · cases sign with
    | positive => exact ⟨m, e, hm, hunpack⟩
    | negative =>
        have hnonneg := scaled_nonneg m e
        have hneg : Binary.value y = -(m * 2 ^ e) := by
          rw [value_of_finite hunpack, show (Sign.negative == .negative) = true from rfl, unit]
          norm_num
        linarith

theorem isOdd_iff (hy : Binary.integer? y = some (n : Int)) : Number.isOdd y = true ↔ n % 2 = 1 := by
  simp only [Number.isOdd, hy, decide_eq_true_eq]
  omega

/-- A base of magnitude `2 ^ k` or more with an exponent that makes `2 ^ 1024` of it. -/
theorem overflow_le_of_overflowsSurely {m : Nat} {e : Int} {hm : 0 < m}
    (hx : x.toModel.unpack = .finite s m e hm) (hy : Binary.integer? y = some (n : Int))
    (h : Number.overflowsSurely x y = true) : overflow ≤ (m * 2 ^ e : ℚ) ^ n := by
  obtain ⟨hfinite, hvalue⟩ := integer?_eq_some_iff.1 hy
  have hfloor : Binary.floor? y = some (n : Int) := by rw [floor?_eq hfinite, hvalue, Int.floor_intCast]
  simp only [Number.overflowsSurely, decode_of_unpack hx, hfloor, decide_eq_true_eq] at h
  obtain ⟨-, -, hlarge⟩ := h
  have hlog := (log_bounds hm e).1
  calc overflow ≤ 2 ^ (1024 : Int) := overflow_lt.le
    _ ≤ 2 ^ (((m.log2 : Int) + e) * n) := zpow_le_zpow_right₀ (by norm_num) hlarge
    _ = (2 ^ ((m.log2 : Int) + e)) ^ n := by rw [zpow_mul, zpow_natCast]
    _ ≤ (m * 2 ^ e) ^ n := pow_le_pow_left₀ (two_zpow_pos _).le hlog n

/-- The power of a positive base has no minus sign, if it is a number. -/
theorem positivePower_hasSign (h : (Number.positivePower x y).isNaN = false) :
    HasSign .positive (Number.positivePower x y).toModel.unpack := by
  unfold Number.positivePower at h ⊢
  split
  · exact .infinity
  · next hsafe =>
      rw [if_neg hsafe, isNaN_abs] at h
      obtain ⟨sign, hsign⟩ := hasSign_of_isNaN h
      rw [unpack_abs]
      exact hsign.abs

/-- With what is known of the library, the power of a positive base is a number, and infinite where the exact
power is out of range. -/
theorem positivePower_overflows {m : Nat} {e : Int} {hm : 0 < m} (hx : x.toModel.unpack = .finite .positive m e hm)
    (hy : Binary.integer? y = some (n : Int)) (hlibrary : LibraryPower x y n) :
    (Number.positivePower x y).isNaN = false ∧
      ((Number.positivePower x y).isInf = true ↔ overflow ≤ (m * 2 ^ e : ℚ) ^ n) := by
  unfold Number.positivePower
  split
  · next hsurely =>
      exact ⟨rfl, fun _ => overflow_le_of_overflowsSurely hx hy hsurely, fun _ => rfl⟩
  · have hvalue : Binary.value x = m * 2 ^ e := by
      rw [value_of_finite hx, show (Sign.positive == .negative) = false from rfl, unit]
      norm_num
    rw [isNaN_abs, isInf_abs, ← hvalue]
    exact ⟨hlibrary.number, hlibrary.overflows⟩

theorem hasSign_of_finite {m : Nat} {e : Int} {hm : 0 < m} (hx : x.toModel.unpack = .finite s m e hm) :
    HasSign s x.toModel.unpack := by
  rw [hx]
  exact .finite m e hm

theorem finite_isNaN {m : Nat} {e : Int} {hm : 0 < m} (hx : x.toModel.unpack = .finite s m e hm) : x.isNaN = false := by
  show x.toModel.unpack.isNaN = false
  rw [hx]
  rfl

theorem finite_isInf {m : Nat} {e : Int} {hm : 0 < m} (hx : x.toModel.unpack = .finite s m e hm) : x.isInf = false := by
  show x.toModel.unpack.isInf = false
  rw [hx]
  rfl

theorem beq_zero_eq_false {m : Nat} {e : Int} {hm : 0 < m} (hx : x.toModel.unpack = .finite s m e hm) :
    (x == 0) = false := by
  rw [Bool.eq_false_iff]
  intro hzero
  obtain ⟨sign, hunpack⟩ := beq_zero_iff.1 hzero
  rw [hx] at hunpack
  cases hunpack

variable {m : Nat} {e : Int} {hm : 0 < m}

/-- Two finite numbers other than zero have a power that is computed from the magnitude of the base. -/
theorem power_eq_finitePower (hx : x.toModel.unpack = .finite s m e hm) (hy : Binary.integer? y = some (n : Int))
    (hn : 1 ≤ n) : Number.power x y = Number.finitePower x y := by
  obtain ⟨k, f, hk, hunpack⟩ := unpack_of_natural hy hn
  simp only [Number.power, beq_zero_eq_false hunpack, finite_isNaN hx, finite_isNaN hunpack,
    finite_isInf hunpack, finite_isInf hx, beq_zero_eq_false hx, Bool.false_eq_true, if_false]

/-- The magnitude of a double that equals one is one. -/
theorem magnitude_eq_one (hx : x.toModel.unpack = .finite .positive m e hm) (h : (x == 1) = true) :
    (m * 2 ^ e : ℚ) = 1 := by
  have hone : (1 : Float).toModel.unpack = .finite .positive (2 ^ 52) (-52) (by decide) := rfl
  have hplace := (Number.beq_iff.1 h).2.2
  rw [Number.place, Number.place, hx, hone] at hplace
  obtain ⟨rfl, hm⟩ : e = -52 ∧ (m : Int) = 2 ^ 52 := by
    simpa [Number.unpackedPlace] using hplace
  have hm : m = 2 ^ 52 := by exact_mod_cast hm
  rw [hm]
  norm_num

theorem one_lt_overflow : 1 < overflow := by
  have hpow : (1 : ℚ) ≤ 2 ^ 971 := one_le_pow₀ (by norm_num)
  calc (1 : ℚ) < 2 ^ 53 - 1 / 2 := by norm_num
    _ ≤ overflow := le_mul_of_one_le_right (by norm_num) hpow

/-- The power of a base is that of its magnitude, negated for a negative base and an odd exponent. -/
def signedMagnitude (x y z : Float) : Float :=
  if x < 0 ∧ Number.isOdd y then -z else z

theorem isInf_signedMagnitude (x y z : Float) : (signedMagnitude x y z).isInf = z.isInf := by
  unfold signedMagnitude
  split
  · exact isInf_neg z
  · rfl

theorem isNaN_signedMagnitude (x y z : Float) : (signedMagnitude x y z).isNaN = z.isNaN := by
  unfold signedMagnitude
  split
  · exact isNaN_neg z
  · rfl

theorem signedMagnitude_hasSign {z : Float} (hx : x.toModel.unpack = .finite s m e hm)
    (hy : Binary.integer? y = some (n : Int)) (hz : HasSign .positive z.toModel.unpack) :
    HasSign (signOf s n) (signedMagnitude x y z).toModel.unpack := by
  have hside := ((hasSign_of_finite hx).side (beq_zero_eq_false hx)).1
  unfold signedMagnitude
  split
  · next h =>
      rw [hside, isOdd_iff hy] at h
      rw [signOf_negative_iff.2 h, unpack_neg]
      exact hz.neg
  · next h =>
      rw [hside, isOdd_iff hy, ← signOf_negative_iff] at h
      have hpositive : signOf s n = .positive := by
        cases hs : signOf s n with
        | positive => rfl
        | negative => exact absurd hs h
      rw [hpositive]
      exact hz

/-- A power of a number other than zero has the sign that the laws of signs give it, but for an infinite one,
which is positive. -/
theorem finitePower_hasSign (hx : x.toModel.unpack = .finite s m e hm) (hy : Binary.integer? y = some (n : Int)) :
    ∃ p, Number.finitePower x y = .ok p ∧
      (p.isNaN = false → p.isInf = true ∧ HasSign .positive p.toModel.unpack ∨
        p.isInf = false ∧ HasSign (signOf s n) p.toModel.unpack) ∧
      (LibraryPower x.abs y n → p.isNaN = false ∧ (p.isInf = true ↔ overflow ≤ (m * 2 ^ e : ℚ) ^ n)) := by
  have hmagnitude : x.abs.toModel.unpack = .finite .positive m e hm := by
    rw [unpack_abs, hx]
    rfl
  have hinteger : ¬ (x < 0 ∧ (Binary.integer? y).isNone = true) := by
    rw [hy]
    exact fun h => Bool.false_ne_true h.2
  unfold Number.finitePower
  rw [if_neg hinteger]
  by_cases hone : (x.abs == 1) = true
  · -- a base of magnitude one
    have hunpack : (1 : Float).toModel.unpack = .finite .positive (2 ^ 52) (-52) (by decide) := rfl
    have hinf : (signedMagnitude x y 1).isInf = false := (isInf_signedMagnitude x y 1).trans rfl
    have hnan : (signedMagnitude x y 1).isNaN = false := (isNaN_signedMagnitude x y 1).trans rfl
    rw [if_pos hone]
    refine ⟨signedMagnitude x y 1, rfl, fun _ => .inr ⟨hinf, signedMagnitude_hasSign hx hy (hasSign_of_finite hunpack)⟩,
      fun _ => ⟨hnan, ?_⟩⟩
    rw [hinf, magnitude_eq_one hmagnitude hone, one_pow]
    exact iff_of_false Bool.false_ne_true one_lt_overflow.not_ge
  · rw [if_neg hone]
    by_cases hinf : (Number.positivePower x.abs y).isInf = true
    · rw [if_pos hinf]
      refine ⟨1.0 / 0.0, rfl, fun _ => .inl ⟨rfl, .infinity⟩, fun hlibrary => ⟨rfl, ?_⟩⟩
      exact iff_of_true rfl ((positivePower_overflows hmagnitude hy hlibrary).2.1 hinf)
    · -- the power of the magnitude, which takes the sign of the base for an odd exponent
      rw [if_neg hinf]
      refine ⟨signedMagnitude x y (Number.positivePower x.abs y), rfl, fun hnumber => .inr ⟨?_, ?_⟩, fun hlibrary => ?_⟩
      · rw [isInf_signedMagnitude, Bool.not_eq_true] at *
        exact hinf
      · rw [isNaN_signedMagnitude] at hnumber
        exact signedMagnitude_hasSign hx hy (positivePower_hasSign hnumber)
      · rw [isNaN_signedMagnitude, isInf_signedMagnitude]
        exact positivePower_overflows hmagnitude hy hlibrary

theorem zero_isNaN {t : Sign} (hx : x.toModel.unpack = .zero t) : x.isNaN = false := by
  show x.toModel.unpack.isNaN = false
  rw [hx]
  rfl

theorem zero_isInf {t : Sign} (hx : x.toModel.unpack = .zero t) : x.isInf = false := by
  show x.toModel.unpack.isInf = false
  rw [hx]
  rfl

/-- A power of zero is zero. -/
theorem power_of_zero {t : Sign} (hx : x.toModel.unpack = .zero t) (hy : Binary.integer? y = some (n : Int))
    (hn : 1 ≤ n) : ∃ p sign, Number.power x y = .ok p ∧ p.toModel.unpack = .zero sign := by
  obtain ⟨k, f, hk, hunpack⟩ := unpack_of_natural hy hn
  have hpositive : ¬ y < 0 := by
    rw [((hasSign_of_finite hunpack).side (beq_zero_eq_false hunpack)).1]
    exact fun h => by cases h
  have hpower : Number.power x y = .ok (if Number.isOdd y then x else 0) := by
    simp only [Number.power, beq_zero_eq_false hunpack, zero_isNaN hx, finite_isNaN hunpack,
      finite_isInf hunpack, zero_isInf hx, beq_zero_iff.2 ⟨t, hx⟩, if_neg hpositive, Bool.false_eq_true, if_false,
      if_true]
  by_cases hodd : Number.isOdd y = true
  · exact ⟨x, t, hpower.trans (by rw [if_pos hodd]), hx⟩
  · exact ⟨0, .positive, hpower.trans (by rw [if_neg hodd]), rfl⟩

/-! ## The power and the product -/

theorem apply_power {p : Float} (h : Number.power x y = .ok p) :
    Operation.power.apply [.number x, .number y] = .ok (.number p) := by
  show Operation.raised x y = _
  rw [Operation.raised, h]

/-- A power and the product that repeats its base are both computed, and where they are not zero they are on the
same side of zero, except that an infinite power of a negative number with an odd exponent is positive. With what
is known of the library, the power is infinite just where the exact power is out of range. -/
theorem power_and_product (hx : x.isFinite = true) (hy : Binary.integer? y = some (n : Int)) (hn : 1 ≤ n) :
    ∃ p q, Operation.power.apply [.number x, .number y] = .ok (.number p) ∧
      repeatedProduct x n = .ok (.number q) ∧
      ((p == 0) = false → (q == 0) = false → p.isNaN = false →
        q.isNaN = false ∧ (SameSide p q ↔ ¬ (x < 0 ∧ n % 2 = 1 ∧ p.isInf = true))) ∧
      (LibraryPower x.abs y n →
        p.isNaN = false ∧ (p.isInf = true ↔ overflow ≤ |Binary.value x| ^ n)) := by
  obtain ⟨k, rfl⟩ : ∃ k, n = k + 1 := ⟨n - 1, by omega⟩
  obtain ⟨q, hq⟩ := repeatedProduct_ok x k
  obtain ⟨t, hunpack⟩ | ⟨s, m, e, hm, hunpack⟩ := unpack_of_isFinite hx
  · -- a base of zero, of whose power only the size is said
    obtain ⟨p, sign, hpower, hzero⟩ := power_of_zero hunpack hy hn
    have hp : (p == 0) = true := beq_zero_iff.2 ⟨sign, hzero⟩
    refine ⟨p, q, apply_power hpower, hq, fun hne => absurd hp (by simp [hne]), fun _ => ?_⟩
    refine ⟨zero_isNaN hzero, ?_⟩
    rw [zero_isInf hzero, value_of_zero hunpack, abs_zero, zero_pow (Nat.succ_ne_zero k)]
    exact iff_of_false Bool.false_ne_true (by have := one_lt_overflow; linarith)
  · obtain ⟨p, hpower, hsign, hlibrary⟩ := finitePower_hasSign hunpack hy
    rw [← power_eq_finitePower hunpack hy hn] at hpower
    have hproduct := repeatedProduct_hasSign hunpack hq
    have hside := ((hasSign_of_finite hunpack).side (beq_zero_eq_false hunpack)).1
    have hmagnitude := abs_value_of_decode (decode_of_unpack hunpack)
    refine ⟨p, q, apply_power hpower, hq, fun hp hq0 hnumber => ⟨hproduct.isNaN, ?_⟩, by rwa [hmagnitude]⟩
    rcases hsign hnumber with ⟨hinf, hpositive⟩ | ⟨hinf, hsame⟩
    · -- the power is the positive infinity
      rw [sameSide_iff hpositive hp hproduct hq0, hinf, hside, and_iff_left rfl, ← signOf_negative_iff]
      cases signOf s (k + 1) <;> simp
    · rw [sameSide_iff hsame hp hproduct hq0, hinf]
      simp

set_option maxRecDepth 4096 in
/-- A power of a negative number with an odd exponent that is out of range is the positive infinity, and the product
that repeats the base is the negative one. -/
theorem power_and_product_out_of_range :
    ∃ p q, Operation.power.apply [.number (-1e22), .number 15] = .ok (.number p) ∧
      repeatedProduct (-1e22) 15 = .ok (.number q) ∧ p.isInf = true ∧ q.isInf = true ∧ ¬ SameSide p q := by
  obtain ⟨p, q, hp, hq, hside, -⟩ := power_and_product (x := -1e22) (y := 15) (n := 15) (by rfl) (by rfl) (by decide)
  have hpower : Operation.power.apply [.number (-1e22), .number 15] = .ok (.number (1.0 / 0.0)) := by rfl
  have hproduct : repeatedProduct (-1e22) 15 = .ok (.number (-1.0 / 0.0)) := by rfl
  obtain rfl : 1.0 / 0.0 = p := by
    rw [hpower] at hp
    cases hp
    rfl
  obtain rfl : -1.0 / 0.0 = q := by
    rw [hproduct] at hq
    cases hq
    rfl
  refine ⟨_, _, hp, hq, rfl, rfl, ?_⟩
  rw [(hside rfl rfl rfl).2, not_not]
  exact ⟨by decide, rfl, rfl⟩

end RollScript

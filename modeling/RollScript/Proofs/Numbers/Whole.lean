import Mathlib
import RollScript.Proofs.Numbers.Numerals
import RollScript.Proofs.Numbers.Overflow

/-!
# Whole doubles

A natural number becomes the double nearest to it, and that never passes a double: `integer?_ofNat` says
that the double of a number up to a whole double `bound` is a whole number up to `bound` itself, however
large the two are. `representable_of_roundHalfUp` says that a rounded double is such a bound, and `integer?_ofInt`
that it becomes a double unchanged.
-/

namespace RollScript

/-- The natural numbers that are doubles. -/
def Representable (n : Nat) : Prop :=
  ∃ m e : Nat, m < 2 ^ 53 ∧ e ≤ 971 ∧ n = m * 2 ^ e

theorem lt_add_of_two_pow_lt {a b c : Nat} (h : 2 ^ a < 2 ^ b * 2 ^ c) : a < b + c :=
  (Nat.pow_lt_pow_iff_right (by decide)).1 (h.trans_eq (pow_add 2 b c).symm)

namespace Representable

variable {n e : Nat}

/-- A double of more than 53 bits ends in zeros. -/
theorem exists_multiple (h : Representable n) (hlow : 2 ^ (52 + e) ≤ n) : ∃ k, n = k * 2 ^ e := by
  obtain ⟨m, f, hm, -, rfl⟩ := h
  have hlt : 52 + e < 53 + f :=
    lt_add_of_two_pow_lt (hlow.trans_lt (Nat.mul_lt_mul_of_pos_right hm (Nat.two_pow_pos f)))
  have hexponent : e ≤ f := by omega
  refine ⟨m * 2 ^ (f - e), ?_⟩
  rw [mul_assoc, ← pow_add, Nat.sub_add_cancel hexponent]

/-- No double reaches `2 ^ 1024`. -/
theorem add_lt (h : Representable n) {b : Nat} (hlow : 2 ^ b * 2 ^ e ≤ n) : b + e < 1024 := by
  obtain ⟨m, f, hm, hf, rfl⟩ := h
  have hlt : 2 ^ (b + e) < 2 ^ 53 * 2 ^ f :=
    (pow_add 2 b e).trans_le hlow |>.trans_lt (Nat.mul_lt_mul_of_pos_right hm (Nat.two_pow_pos f))
  have := lt_add_of_two_pow_lt hlt
  omega

end Representable

/-! ## The double nearest to a natural number -/

/-- A multiple of `unit` nearest to `n`, by an even factor at a tie. -/
theorem exists_nearest_multiple (n : Nat) {unit : Nat} (hunit : 0 < unit) :
    ∃ m, n / unit ≤ m ∧ 2 * (m * unit) ≤ 2 * n + unit ∧ 2 * n ≤ 2 * (m * unit) + unit ∧
      (m % 2 = 0 ∨ 2 * (m * unit) < 2 * n + unit ∧ 2 * n < 2 * (m * unit) + unit) := by
  have hsplit := Nat.div_add_mod' n unit
  have hrest := Nat.mod_lt n hunit
  have hnext : (n / unit + 1) * unit = n / unit * unit + unit := Nat.succ_mul _ _
  by_cases hdown : 2 * (n % unit) < unit ∨ 2 * (n % unit) = unit ∧ n / unit % 2 = 0
  · exact ⟨n / unit, Nat.le_refl _, by omega, by omega, by omega⟩
  · exact ⟨n / unit + 1, Nat.le_succ _, by omega, by omega, by omega⟩

/-- A number of `2 ^ 52` units or more is near the double of as many units as make the multiple nearest to
it. -/
theorem near_multiple {n m e : Nat} (hlow : 2 * (m * 2 ^ e) ≤ 2 * n + 2 ^ e)
    (hhigh : 2 * n ≤ 2 * (m * 2 ^ e) + 2 ^ e) (hleast : 2 ^ 52 * 2 ^ e ≤ n)
    (htie : m % 2 = 0 ∨ 2 * (m * 2 ^ e) < 2 * n + 2 ^ e ∧ 2 * n < 2 * (m * 2 ^ e) + 2 ^ e) :
    Near n m (e : Int) := by
  have hcastLow : 2 * ((m : ℚ) * 2 ^ e) ≤ 2 * n + 2 ^ e := by exact_mod_cast hlow
  have hcastHigh : 2 * (n : ℚ) ≤ 2 * (m * 2 ^ e) + 2 ^ e := by exact_mod_cast hhigh
  have hcastLeast : (2 : ℚ) ^ 52 * 2 ^ e ≤ n := by exact_mod_cast hleast
  have hpos : (0 : ℚ) < 2 ^ e := by positivity
  refine ⟨?_, ?_, ?_, ?_⟩
  · rw [zpow_natCast]
    linarith
  · rw [zpow_natCast]
    linarith
  · rintro ⟨rfl, -⟩
    rw [zpow_natCast]
    push_cast
    linarith
  · refine htie.imp id fun ⟨hbelow, habove⟩ => ?_
    have hcastBelow : 2 * ((m : ℚ) * 2 ^ e) < 2 * n + 2 ^ e := by exact_mod_cast hbelow
    have hcastAbove : 2 * (n : ℚ) < 2 * (m * 2 ^ e) + 2 ^ e := by exact_mod_cast habove
    rw [zpow_natCast]
    constructor <;> linarith

/-- A number at most half a unit below `2 ^ 53` units is near the double of `2 ^ 52` units twice as large. -/
theorem near_carry {n e : Nat} (hlow : 2 * (2 ^ 53 * 2 ^ e) ≤ 2 * n + 2 ^ e) (hhigh : n < 2 ^ 53 * 2 ^ e) :
    Near n (2 ^ 52) ((e + 1 : Nat) : Int) := by
  have hcastLow : 2 * ((2 : ℚ) ^ 53 * 2 ^ e) ≤ 2 * n + 2 ^ e := by exact_mod_cast hlow
  have hcastHigh : (n : ℚ) < 2 ^ 53 * 2 ^ e := by exact_mod_cast hhigh
  have hpos : (0 : ℚ) < 2 ^ e := by positivity
  have hdouble : (2 : ℚ) ^ ((e + 1 : Nat) : Int) = 2 * 2 ^ e := by rw [zpow_natCast, pow_succ']
  refine ⟨?_, ?_, fun _ => ?_, .inl (by decide)⟩ <;> rw [hdouble] <;> push_cast <;> linarith

/-- The double nearest to `n` is a natural number no greater than `bound`. -/
def NearestWithin (n bound : Nat) : Prop :=
  ∃ (m : Nat) (e : Int) (j : Nat), Canonical m e ∧ Near n m e ∧ (j : ℚ) = m * 2 ^ e ∧ j ≤ bound

/-- A number of at most 53 bits is itself a double. -/
theorem nearestWithin_self {n : Nat} (hn : 0 < n) (hlt : n < 2 ^ 53) : NearestWithin n n := by
  have hvalue := whole_value hn hlt
  refine ⟨_, _, n, canonical_whole hn hlt, ?_, hvalue.symm, Nat.le_refl n⟩
  have hnear := near_self (n * 2 ^ (52 - n.log2)) ((n.log2 : Int) - 52)
  rwa [hvalue] at hnear

/-- Rounding a number of more than 53 bits does not pass a double. -/
theorem nearestWithin_large {n bound : Nat} (hbound : Representable bound) (hle : n ≤ bound)
    (hlarge : 2 ^ 53 ≤ n) : NearestWithin n bound := by
  have hne : n ≠ 0 := by rintro rfl; exact absurd hlarge (by decide)
  have hlog : 53 ≤ n.log2 := (Nat.le_log2 hne).2 hlarge
  obtain ⟨e, he⟩ : ∃ e, n.log2 = 52 + e := ⟨n.log2 - 52, by omega⟩
  have hleast : 2 ^ 52 * 2 ^ e ≤ n := by
    rw [← pow_add, ← he]
    exact Nat.log2_self_le hne
  have hgreatest : n < 2 ^ 53 * 2 ^ e := by
    rw [← pow_add, show 53 + e = n.log2 + 1 by omega]
    exact Nat.lt_log2_self
  have hunit : 0 < 2 ^ e := Nat.two_pow_pos e
  obtain ⟨k, hk⟩ := hbound.exists_multiple (e := e) (by rw [pow_add]; omega)
  obtain ⟨m, hquotient, hlow, hhigh, htie⟩ := exists_nearest_multiple n hunit
  have hsignificand : 2 ^ 52 ≤ m := ((Nat.le_div_iff_mul_le hunit).2 hleast).trans hquotient
  -- Both `m` and `k` count units, and `m` is at most half a unit above `n`.
  have hmk : m ≤ k := by
    by_contra hlt
    have hnext : (k + 1) * 2 ^ e ≤ m * 2 ^ e := Nat.mul_le_mul_right _ (by omega)
    rw [Nat.succ_mul] at hnext
    omega
  have hwithin : m * 2 ^ e ≤ bound := hk ▸ Nat.mul_le_mul_right _ hmk
  rcases Nat.lt_or_ge m (2 ^ 53) with hm | hm
  · have hexponent := hbound.add_lt (hleast.trans hle)
    refine ⟨m, e, m * 2 ^ e, ⟨by omega, hm, by omega, by omega, .inl hsignificand⟩,
      near_multiple hlow hhigh hleast htie, ?_, hwithin⟩
    rw [zpow_natCast]
    push_cast
    rfl
  · have hcarry : m = 2 ^ 53 := by
      by_contra hne
      have hnext : (2 ^ 53 + 1) * 2 ^ e ≤ m * 2 ^ e := Nat.mul_le_mul_right _ (by omega)
      omega
    subst hcarry
    have hexponent := hbound.add_lt hwithin
    refine ⟨2 ^ 52, (e + 1 : Nat), 2 ^ 53 * 2 ^ e,
      ⟨by decide, by decide, by omega, by omega, .inl (Nat.le_refl _)⟩, near_carry hlow hgreatest, ?_,
      hwithin⟩
    rw [zpow_natCast, pow_succ]
    push_cast
    ring

theorem nearestWithin {n bound : Nat} (hbound : Representable bound) (hn : 0 < n) (hle : n ≤ bound) :
    NearestWithin n bound := by
  rcases Nat.lt_or_ge n (2 ^ 53) with hlt | hlarge
  · obtain ⟨m, e, j, hcanonical, hnear, hvalue, hj⟩ := nearestWithin_self hn hlt
    exact ⟨m, e, j, hcanonical, hnear, hvalue, hj.trans hle⟩
  · exact nearestWithin_large hbound hle hlarge

/-! ## The integer that a double equals -/

/-- A double whose parts make a natural number equals that number, with its sign. -/
theorem integer?_of_value {x : Float} {negative : Bool} {m j : Nat} {e : Int}
    (hdecode : Binary.decode x = .finite negative m e) (hvalue : (j : ℚ) = m * 2 ^ e) :
    Binary.integer? x = some (Binary.signed negative j) := by
  simp only [Binary.integer?, hdecode, Nat.pow_eq]
  split
  · next hnonneg =>
      obtain ⟨n, rfl⟩ : ∃ n : Nat, e = n := ⟨e.toNat, by omega⟩
      rw [zpow_natCast] at hvalue
      have hj : j = m * 2 ^ n := by exact_mod_cast hvalue
      simp [hj]
  · next hneg =>
      obtain ⟨n, rfl⟩ : ∃ n : Nat, e = -n := ⟨(-e).toNat, by omega⟩
      have hcast : (2 : ℚ) ^ n ≠ 0 := by positivity
      have hm : m = j * 2 ^ n := by
        rw [zpow_neg, zpow_natCast, ← div_eq_mul_inv, eq_div_iff hcast] at hvalue
        exact_mod_cast hvalue.symm
      simp [hm]

/-- The double of a natural number up to a whole double is a whole number up to that double. -/
theorem integer?_ofNat {n bound : Nat} (hbound : Representable bound) (hn : 0 < n) (hle : n ≤ bound) :
    ∃ j : Nat, Binary.integer? (Float.ofNat n) = some (j : Int) ∧ 1 ≤ j ∧ j ≤ bound := by
  obtain ⟨m, e, j, hcanonical, hnear, hvalue, hj⟩ := nearestWithin hbound hn hle
  have hfloat : Float.ofNat n = .ofModel (.pack (positive hcanonical)) := by
    have hscaled : Near (n * (10 : ℚ) ^ (0 : ℤ)) m e := by rwa [zpow_zero, mul_one]
    exact Eq.trans rfl (nearest_eq hcanonical hscaled)
  have hdecode : Binary.decode (Float.ofNat n) = .finite false m e := by
    rw [hfloat]
    exact decode_of_unpack (unpack_pack hcanonical)
  refine ⟨j, integer?_of_value hdecode hvalue, ?_, hj⟩
  have hpos : (0 : ℚ) < j := by
    rw [hvalue]
    exact scaled_pos hcanonical.pos e
  exact_mod_cast hpos

/-- Half-way between two doubles, the one with an even significand. -/
example : Binary.integer? (Float.ofNat (2 ^ 53 + 3)) = some (2 ^ 53 + 4) := by rfl

/-! ## The bound of a rounded double -/

/-- The significand of a double has at most 53 bits, and its exponent is in range. -/
theorem decode_bounds {x : Float} {negative : Bool} {m : Nat} {e : Int}
    (h : Binary.decode x = .finite negative m e) : m < 2 ^ 53 ∧ e ≤ 971 := by
  unfold Binary.decode at h
  split at h
  · cases h
  · cases h
  · cases h
    decide
  · next hunpack =>
      cases h
      have hcanonical := canonical_of_unpack hunpack
      exact ⟨hcanonical.lt, hcanonical.greatest⟩

theorem representable_of_lt {n : Nat} (h : n < 2 ^ 53) : Representable n :=
  ⟨n, 0, h, by decide, by rw [pow_zero, mul_one]⟩

theorem natAbs_signed (negative : Bool) (n : Nat) : (Binary.signed negative n).natAbs = n := by
  cases negative <;> simp [Binary.signed]

/-- The floor of a double is a double. -/
theorem representable_of_floor {x : Float} {k : Int} (h : Binary.floor? x = some k) :
    Representable k.natAbs := by
  unfold Binary.floor? at h
  split at h
  · next negative m e hdecode =>
      obtain ⟨hm, he⟩ := decode_bounds hdecode
      simp only [Nat.pow_eq] at h
      split at h
      · have hvalue := congrArg Int.natAbs (Option.some.inj h)
        rw [natAbs_signed] at hvalue
        exact ⟨m, e.toNat, hm, by omega, hvalue.symm⟩
      · -- The floor of a fraction is not further from zero than its numerator.
        have hvalue := Option.some.inj h
        rw [Int.fdiv_eq_ediv_of_nonneg _ (Int.natCast_nonneg _)] at hvalue
        have hself : k.natAbs ≤ (Binary.signed negative m).natAbs := by
          rw [← hvalue]
          exact Int.natAbs_ediv_le_natAbs _ _
        rw [natAbs_signed] at hself
        exact representable_of_lt (by omega)
  · cases h

/-- A rounded double is a double. -/
theorem representable_of_roundHalfUp {x : Float} {k : Int} (h : Binary.roundHalfUp? x = some k) :
    Representable k.natAbs := by
  unfold Binary.roundHalfUp? at h
  split at h
  · exact representable_of_floor h
  · cases h

/-! ## The double of an integer that is one -/

/-- The parts of a positive integer that is a double. -/
theorem Representable.canonical {n : Nat} (h : Representable n) (hn : 0 < n) :
    ∃ (m : Nat) (e : Int), Canonical m e ∧ (m : ℚ) * 2 ^ e = n := by
  obtain ⟨k, f, hk, hf, rfl⟩ := h
  have hpos : 0 < k := Nat.pos_of_mul_pos_right hn
  have hwhole := canonical_whole hpos hk
  have hlog : k.log2 < 53 := (Nat.log2_lt hpos.ne').2 hk
  have hnormal := hwhole.normal.resolve_right (by omega)
  refine ⟨k * 2 ^ (52 - k.log2), (k.log2 : Int) - 52 + f,
    ⟨hwhole.pos, hwhole.lt, by omega, by omega, .inl hnormal⟩, ?_⟩
  rw [zpow_add₀ two_ne_zero, ← mul_assoc, whole_value hpos hk, zpow_natCast]
  push_cast
  rfl

theorem unpack_ofNat {n : Nat} (h : Representable n) (hn : 0 < n) :
    ∃ m e hm, (Float.ofNat n).toModel.unpack = .finite .positive m e hm ∧ (n : ℚ) = m * 2 ^ e := by
  obtain ⟨m, e, hcanonical, hvalue⟩ := h.canonical hn
  have hnear : Near (n * (10 : ℚ) ^ (0 : ℤ)) m e := by
    rw [zpow_zero, mul_one, ← hvalue]
    exact near_self m e
  have hfloat : Float.ofNat n = .ofModel (.pack (positive hcanonical)) := Eq.trans rfl (nearest_eq hcanonical hnear)
  refine ⟨m, e, hcanonical.pos, ?_, hvalue.symm⟩
  rw [hfloat]
  exact unpack_pack hcanonical

/-- An integer whose magnitude is a double becomes that double, with its sign. -/
theorem integer?_ofInt {k : Int} (h : Representable k.natAbs) : Binary.integer? (Float.ofInt k) = some k := by
  cases k with
  | ofNat n =>
      rcases Nat.eq_zero_or_pos n with rfl | hn
      · rfl
      · obtain ⟨m, e, hm, hunpack, hvalue⟩ := unpack_ofNat h hn
        exact integer?_of_value (decode_of_unpack hunpack) hvalue
  | negSucc n =>
      obtain ⟨m, e, hm, hunpack, hvalue⟩ := unpack_ofNat (n := n + 1) h (Nat.succ_pos n)
      have hneg : (Float.ofInt (.negSucc n)).toModel.unpack = .finite .negative m e hm := by
        have hcanonical := canonical_of_unpack hunpack
        show (Float.Model.pack (Float.ofNat (n + 1)).toModel.unpack.neg).unpack = _
        rw [hunpack]
        exact unpack_pack hcanonical
      exact integer?_of_value (decode_of_unpack hneg) hvalue

end RollScript

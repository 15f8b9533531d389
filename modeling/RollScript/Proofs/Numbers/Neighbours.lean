import Mathlib
import RollScript.Proofs.Numbers.Whole

/-!
# Exact values and the doubles next to them

`Binary.value` is the rational number that a finite double is. Read `Near.le` and `Near.ge` first: no double
lies strictly between a number and the double that it is near, so rounding keeps the order of a number and a
double. Every number in range is near a double (`exists_near`), and sums and integer parts of doubles are
those of their values, rounded (`value_add`, `floor?_eq`).
-/

namespace RollScript

open Float.Model
open Float.Model.UnpackedFloat

variable {q r : ℚ} {m m' : Nat} {e e' : Int}

/-! ## The order of numbers and doubles -/

/-- A double is a multiple of every smaller power of two that its exponent allows. -/
theorem exists_multiple (m : Nat) (h : e' ≤ e) : ∃ c : Nat, (m : ℚ) * 2 ^ e = c * 2 ^ e' :=
  ⟨m * 2 ^ (e - e').toNat, (shifted_value m h).symm⟩

theorem half_zpow (e : Int) : (2 : ℚ) ^ (e - 1) = 2 ^ e / 2 := by
  rw [zpow_sub_one₀ two_ne_zero, div_eq_mul_inv]

/-- A double of a smaller exponent is below the doubles of 53 bits. -/
theorem Canonical.mul_le_of_lt (h : Canonical m e) (hlt : e < e') :
    (m : ℚ) * 2 ^ e ≤ (2 ^ 52 - 1 / 2) * 2 ^ e' := by
  have hm : (m : ℚ) ≤ 2 ^ 53 - 1 := by
    have hsucc : (m : ℚ) + 1 ≤ 2 ^ 53 := by exact_mod_cast h.lt
    linarith
  have hpow : (2 : ℚ) ^ e ≤ 2 ^ e' / 2 := by
    rw [← half_zpow]
    exact zpow_le_zpow_right₀ (by norm_num) (by omega)
  calc (m : ℚ) * 2 ^ e ≤ (2 ^ 53 - 1) * (2 ^ e' / 2) :=
        mul_le_mul hm hpow (two_zpow_pos e).le (by norm_num)
    _ = (2 ^ 52 - 1 / 2) * 2 ^ e' := by ring

theorem Canonical.normal_of_lt (h : Canonical m e) (hlt : e' < e) (hleast : -1074 ≤ e') :
    (2 : ℚ) ^ 52 ≤ m := by
  exact_mod_cast h.normal.resolve_right (by omega)

/-- A number up to a double is rounded to that double at most. -/
theorem Near.le (h : Near q m e) (hcanonical : Canonical m e) (hcanonical' : Canonical m' e')
    (hq : q ≤ m' * 2 ^ e') : (m : ℚ) * 2 ^ e ≤ m' * 2 ^ e' := by
  by_contra hgreater
  rw [not_le] at hgreater
  have hpos := two_zpow_pos e
  rcases le_or_gt e e' with hle | hlt
  · -- Both are multiples of one unit, half of which the number would have to be away.
    obtain ⟨c, hc⟩ := exists_multiple m' hle
    rw [hc] at hgreater hq
    have hcm : c + 1 ≤ m := by exact_mod_cast lt_of_mul_lt_mul_right hgreater hpos.le
    have hcast : (c : ℚ) + 1 ≤ m := by exact_mod_cast hcm
    have hlow := h.low
    nlinarith
  · have hbelow := hq.trans (hcanonical'.mul_le_of_lt hlt)
    have hnormal := hcanonical.normal_of_lt hlt hcanonical'.least
    by_cases hnarrow : IsNarrow m e
    · have hlow := h.narrow hnarrow
      nlinarith
    · have hm : m ≠ 2 ^ 52 := fun heq => hnarrow ⟨heq, by have := hcanonical'.least; omega⟩
      have hm' : 2 ^ 52 < m := lt_of_le_of_ne (by exact_mod_cast hnormal) hm.symm
      have hcast : (2 : ℚ) ^ 52 + 1 ≤ m := by exact_mod_cast hm'
      have hlow := h.low
      nlinarith

/-- A number from a double on is rounded to that double at least. -/
theorem Near.ge (h : Near q m e) (hcanonical : Canonical m e) (hcanonical' : Canonical m' e')
    (hq : m' * 2 ^ e' ≤ q) : (m' : ℚ) * 2 ^ e' ≤ m * 2 ^ e := by
  by_contra hless
  rw [not_le] at hless
  have hpos := two_zpow_pos e
  rcases le_or_gt e e' with hle | hlt
  · obtain ⟨c, hc⟩ := exists_multiple m' hle
    rw [hc] at hless hq
    have hcm : m + 1 ≤ c := by exact_mod_cast lt_of_mul_lt_mul_right hless hpos.le
    have hcast : (m : ℚ) + 1 ≤ c := by exact_mod_cast hcm
    have hhigh := h.high
    nlinarith
  · have hbelow := hcanonical'.mul_le_of_lt hlt
    have hnormal := hcanonical.normal_of_lt hlt hcanonical'.least
    nlinarith

/-- The numbers near a double are an interval. -/
theorem Near.between {p : ℚ} (hp : Near p m e) (hr : Near r m e) (hpq : p ≤ q) (hqr : q ≤ r) :
    Near q m e where
  low := hp.low.trans hpq
  high := hqr.trans hr.high
  narrow := fun hnarrow => (hp.narrow hnarrow).trans hpq
  tie := by
    rcases hp.tie with heven | ⟨hlow, -⟩
    · exact .inl heven
    · rcases hr.tie with heven | ⟨-, hhigh⟩
      · exact .inl heven
      · exact .inr ⟨hlow.trans_le hpq, hqr.trans_lt hhigh⟩

/-- A double is at least the power of two with its leading bit, and less than the next one. -/
theorem log_bounds (hm : 0 < m) (e : Int) : (2 : ℚ) ^ ((m.log2 : Int) + e) ≤ m * 2 ^ e ∧
    (m : ℚ) * 2 ^ e < 2 ^ ((m.log2 : Int) + e + 1) := by
  have hlow : (2 : ℚ) ^ m.log2 ≤ m := by exact_mod_cast Nat.log2_self_le hm.ne'
  have hhigh : (m : ℚ) < 2 ^ (m.log2 + 1) := by exact_mod_cast Nat.lt_log2_self
  have hpos := two_zpow_pos e
  constructor
  · rw [zpow_add₀ two_ne_zero, zpow_natCast]
    exact mul_le_mul_of_nonneg_right hlow hpos.le
  · rw [add_right_comm, zpow_add₀ two_ne_zero, ← Nat.cast_succ, zpow_natCast]
    exact mul_lt_mul_of_pos_right hhigh hpos

/-! ## Every number in range is near a double -/

/-- An integer nearest to a number, an even one at a tie. -/
theorem exists_nearest (hq : 0 ≤ q) : ∃ n : Nat, (n : ℚ) - 1 / 2 ≤ q ∧ q ≤ n + 1 / 2 ∧
    (n % 2 = 0 ∨ (n : ℚ) - 1 / 2 < q ∧ q < n + 1 / 2) := by
  have hlow := Nat.floor_le hq
  have hhigh := Nat.lt_floor_add_one q
  generalize ⌊q⌋₊ = n at hlow hhigh
  by_cases hdown : q < n + 1 / 2 ∨ q = n + 1 / 2 ∧ n % 2 = 0
  · refine ⟨n, by linarith, ?_, ?_⟩
    · rcases hdown with hlt | ⟨heq, -⟩ <;> linarith
    · rcases hdown with hlt | ⟨-, heven⟩
      · exact .inr ⟨by linarith, hlt⟩
      · exact .inl heven
  · rw [not_or, not_lt, not_and] at hdown
    obtain ⟨hge, hodd⟩ := hdown
    refine ⟨n + 1, ?_, ?_, ?_⟩
    · push_cast
      linarith
    · push_cast
      linarith
    · rcases hge.eq_or_lt with heq | hgt
      · have hne := hodd heq.symm
        exact .inl (by omega)
      · refine .inr ⟨?_, ?_⟩ <;> push_cast <;> linarith

/-- A number is near the double of as many units as are nearest to it, in the unit in which it has 53 bits, or in the
least one. -/
theorem exists_near_of_unit {t : Int} (hleast : -1074 ≤ t) (hgreatest : t ≤ 971) (hlow : 2 ^ (-1075 : Int) < q)
    (hhigh : q < overflow) (hbits : q < 2 ^ 53 * 2 ^ t) (hnormal : t = -1074 ∨ 2 ^ 52 * 2 ^ t ≤ q) :
    ∃ (m : Nat) (e : Int), Canonical m e ∧ Near q m e := by
  have hqpos : 0 < q := (two_zpow_pos _).trans hlow
  have hpos := two_zpow_pos t
  obtain ⟨n, hnLow, hnHigh, htie⟩ := exists_nearest (q := q / 2 ^ t) (div_pos hqpos hpos).le
  rw [le_div_iff₀ hpos] at hnLow
  rw [div_le_iff₀ hpos] at hnHigh
  rw [lt_div_iff₀ hpos, div_lt_iff₀ hpos] at htie
  have hnle : n ≤ 2 ^ 53 := by
    have hcast : (n : ℚ) < 2 ^ 53 + 1 := by nlinarith
    have hlt : n < 2 ^ 53 + 1 := by exact_mod_cast hcast
    omega
  rcases hnle.eq_or_lt with rfl | hlt
  · -- The nearest multiple has a bit more, and belongs to the unit twice as large.
    have hdouble : (2 : ℚ) ^ (t + 1) = 2 * 2 ^ t := by rw [zpow_add_one₀ two_ne_zero, mul_comm]
    have hnext : t + 1 ≤ 971 := by
      by_contra hlarge
      have ht : t = 971 := by omega
      rw [overflow, ← ht] at hhigh
      push_cast at hnLow
      linarith
    refine ⟨2 ^ 52, t + 1, ⟨by decide, by decide, by omega, hnext, .inl (Nat.le_refl _)⟩, ?_⟩
    push_cast at hnLow
    refine ⟨?_, ?_, fun _ => ?_, .inl (by decide)⟩ <;> rw [hdouble] <;> push_cast <;> linarith
  · have hn : t = -1074 ∨ 2 ^ 52 ≤ n := by
      refine hnormal.imp id fun hge => ?_
      have hcast : (2 : ℚ) ^ 52 < n + 1 := by nlinarith
      have hlt : 2 ^ 52 < n + 1 := by exact_mod_cast hcast
      omega
    have hnpos : 0 < n := by
      rcases hn with rfl | hn
      · refine Nat.pos_of_ne_zero fun hzero => ?_
        have hhalf : (2 : ℚ) ^ (-1074 : Int) / 2 < q := half_zpow (-1074) ▸ hlow
        rw [hzero, Nat.cast_zero] at hnHigh
        linarith
      · exact hn.trans_lt' (by decide)
    refine ⟨n, t, ⟨hnpos, hlt, hleast, hgreatest, hn.symm⟩, hnLow, hnHigh, ?_, htie⟩
    rintro ⟨rfl, hleast⟩
    have hge := hnormal.resolve_left (by omega)
    push_cast
    linarith

/-- A number between half the least double and the overflow threshold is near a double. -/
theorem exists_near (hlow : 2 ^ (-1075 : Int) < q) (hhigh : q < overflow) :
    ∃ (m : Nat) (e : Int), Canonical m e ∧ Near q m e := by
  have hqpos : 0 < q := (two_zpow_pos _).trans hlow
  have hlogLow : (2 : ℚ) ^ Int.log 2 q ≤ q := by exact_mod_cast Int.zpow_log_le_self one_lt_two hqpos
  have hlogHigh : q < (2 : ℚ) ^ (Int.log 2 q + 1) := by
    exact_mod_cast Int.lt_zpow_succ_log_self one_lt_two q
  generalize Int.log 2 q = l at hlogLow hlogHigh
  have hl : l < 1024 := two_zpow_lt (hlogLow.trans_lt (hhigh.trans overflow_lt))
  have hpow : ∀ (b : Nat) (t : Int), (2 : ℚ) ^ (b + t) = 2 ^ b * 2 ^ t := fun b t => by
    rw [zpow_add₀ two_ne_zero, zpow_natCast]
  refine exists_near_of_unit (t := max (l - 52) (-1074)) (by omega) (by omega) hlow hhigh ?_ ?_
  · exact hpow 53 _ ▸ hlogHigh.trans_le (zpow_le_zpow_right₀ (by norm_num) (by omega))
  · rcases le_or_gt (l - 52) (-1074) with hle | hgt
    · exact .inl (by omega)
    · have hexponent : ((52 : ℕ) : Int) + max (l - 52) (-1074) = l := by omega
      exact .inr (by rwa [← hpow 52, hexponent])

/-! ## Values -/

/-- One, or minus one for a negative number. -/
def unit (negative : Bool) : ℚ :=
  if negative then -1 else 1

theorem abs_unit_mul (negative : Bool) (hq : 0 ≤ q) : |unit negative * q| = q := by
  cases negative with
  | false => rw [unit, if_neg Bool.false_ne_true, one_mul, abs_of_nonneg hq]
  | true => rw [unit, if_pos rfl, neg_one_mul, abs_neg, abs_of_nonneg hq]

/-- The rational number that a finite double is. -/
def Binary.value (x : Float) : ℚ :=
  match Binary.decode x with
  | .finite negative m e => unit negative * (m * 2 ^ e)
  | _ => 0

variable {x y : Float} {negative : Bool}

theorem value_of_decode (h : Binary.decode x = .finite negative m e) :
    Binary.value x = unit negative * (m * 2 ^ e) := by
  simp only [Binary.value, h]

theorem cast_signed (negative : Bool) (n : Nat) : (Binary.signed negative n : ℚ) = unit negative * n := by
  cases negative <;> simp [Binary.signed, unit]

/-- A finite double is a zero or has a significand. -/
theorem unpack_of_isFinite (h : x.isFinite = true) : (∃ sign, x.toModel.unpack = .zero sign) ∨
    ∃ sign m e hm, x.toModel.unpack = .finite sign m e hm := by
  have hfinite : x.toModel.unpack.isFinite = true := h
  cases hunpack : x.toModel.unpack with
  | notANumber | infinity =>
      rw [hunpack] at hfinite
      cases hfinite
  | zero sign => exact .inl ⟨sign, rfl⟩
  | finite sign m e hm => exact .inr ⟨sign, m, e, hm, rfl⟩

/-- The parts of a finite double: a zero, or those of a double other than zero. -/
theorem decode_of_isFinite (h : x.isFinite = true) : ∃ negative m e,
    Binary.decode x = .finite negative m e ∧ (m = 0 ∧ e = 0 ∨ Canonical m e) := by
  obtain ⟨sign, hunpack⟩ | ⟨sign, m, e, hm, hunpack⟩ := unpack_of_isFinite h
  · exact ⟨_, 0, 0, decode_zero hunpack, .inl ⟨rfl, rfl⟩⟩
  · exact ⟨_, m, e, decode_of_unpack hunpack, .inr (canonical_of_unpack hunpack)⟩

theorem isFinite_of_decode (h : Binary.decode x = .finite negative m e) : x.isFinite = true := by
  show x.toModel.unpack.isFinite = true
  unfold Binary.decode at h
  split at h
  · cases h
  · cases h
  · next hunpack =>
      rw [hunpack]
      rfl
  · next hunpack =>
      rw [hunpack]
      rfl

/-- The integer part of a double is that of its value. -/
theorem floor?_eq (h : x.isFinite = true) : Binary.floor? x = some ⌊Binary.value x⌋ := by
  obtain ⟨negative, m, e, hdecode, -⟩ := decode_of_isFinite h
  rw [value_of_decode hdecode]
  simp only [Binary.floor?, hdecode, Nat.pow_eq]
  split
  · next hnonneg =>
      obtain ⟨n, rfl⟩ : ∃ n : Nat, e = n := ⟨e.toNat, by omega⟩
      have hvalue : unit negative * ((m : ℚ) * 2 ^ (n : Int)) =
          (Binary.signed negative (m * 2 ^ n) : Int) := by
        rw [cast_signed, zpow_natCast]
        push_cast
        rfl
      rw [hvalue, Int.floor_intCast, Int.toNat_natCast]
  · obtain ⟨n, rfl⟩ : ∃ n : Nat, e = -n := ⟨(-e).toNat, by omega⟩
    have hvalue : unit negative * ((m : ℚ) * 2 ^ (-(n : Int))) =
        (Binary.signed negative m : Int) / (2 ^ n : ℕ) := by
      rw [cast_signed, zpow_neg, zpow_natCast]
      push_cast
      rw [mul_div_assoc, div_eq_mul_inv]
    have hexponent : (- -(n : Int)).toNat = n := by omega
    rw [hvalue, hexponent, Int.fdiv_eq_ediv_of_nonneg _ (Int.natCast_nonneg _),
      Rat.floor_intCast_div_natCast]

/-- The magnitude of a double. -/
theorem abs_value_of_decode (h : Binary.decode x = .finite negative m e) : |Binary.value x| = m * 2 ^ e := by
  rw [value_of_decode h, abs_unit_mul negative (scaled_nonneg m e)]

/-- A double equals an integer if that is its value. -/
theorem integer?_eq_some_iff {n : Int} :
    Binary.integer? x = some n ↔ x.isFinite = true ∧ Binary.value x = n := by
  constructor
  · intro h
    cases hdecode : Binary.decode x with
    | nan | infinite =>
        simp only [Binary.integer?, hdecode] at h
        cases h
    | finite negative m e =>
        obtain ⟨k, rfl, hk⟩ := integer?_eq_some hdecode h
        exact ⟨isFinite_of_decode hdecode, by rw [value_of_decode hdecode, cast_signed, hk]⟩
  · rintro ⟨hfinite, hvalue⟩
    obtain ⟨negative, m, e, hdecode, -⟩ := decode_of_isFinite hfinite
    rw [value_of_decode hdecode] at hvalue
    have hmagnitude : ((n.natAbs : ℕ) : ℚ) = m * 2 ^ e := by
      rw [Nat.cast_natAbs, Int.cast_abs, ← hvalue, abs_unit_mul negative (scaled_nonneg m e)]
    have hn : n = Binary.signed negative n.natAbs := by
      have hcast : (n : ℚ) = (Binary.signed negative n.natAbs : Int) := by
        rw [cast_signed, hmagnitude, hvalue]
      exact_mod_cast hcast
    rw [hn]
    exact integer?_of_value hdecode hmagnitude

/-! ## Rounded results -/

/-- An exact number near a double is rounded to it. -/
theorem round_eq {n : Nat} {f : Int} (h : Near (n * 2 ^ f) m e) (hcanonical : Canonical m e)
    (sign : Sign) : UnpackedFloat.round .binary64 sign n f = .finite sign m e hcanonical.pos := by
  have hn : n ≠ 0 := by
    rintro rfl
    have hpos := h.pos hcanonical.pos
    rw [Nat.cast_zero, zero_mul] at hpos
    exact lt_irrefl _ hpos
  simp only [UnpackedFloat.round, decreaseExponent, Nat.shiftLeft_eq, targetExponent_eq]
  generalize hshift : (f - max ((n.log2 : Int) + f - 52) (-1074)).toNat = k
  have hexponent : (f - (f - k)).toNat = k := by omega
  have hvalue := shifted_value n (g := f - k) (f := f) (by omega)
  rw [hexponent] at hvalue
  refine roundWithAccuracy_eq h hcanonical ?_ ?_ sign
  · rw [← hvalue]
    exact mul_div_cancel_right₀ _ (two_zpow_pos _).ne'
  · rw [targetExponent_eq, log2_mul_two_pow hn]
    push_cast
    omega

/-- The sum of two significands at the smaller exponent stands for the sum of the numbers. -/
theorem sum_value (s s' : Sign) (m m' : Nat) (e e' : Int) :
    ((s.apply (m * 2 ^ (e - min e e').toNat : ℕ) + s'.apply (m' * 2 ^ (e' - min e e').toNat : ℕ) : Int) : ℚ) *
        2 ^ min e e' =
      unit (s == .negative) * (m * 2 ^ e) + unit (s' == .negative) * (m' * 2 ^ e') := by
  have hleft := shifted_value m (min_le_left e e')
  have hright := shifted_value m' (min_le_right e e')
  have happly : ∀ (t : Sign) (n : ℕ), ((t.apply n : Int) : ℚ) = unit (t == .negative) * n := by
    intro t n
    cases t
    · show ((-(n : Int) : Int) : ℚ) = -1 * n
      push_cast
      ring
    · show ((n : Int) : ℚ) = 1 * n
      push_cast
      ring
  rw [Int.cast_add, happly, happly, add_mul, mul_assoc, mul_assoc, hleft, hright]

/-- An exact number of either sign, rounded: to a double near its magnitude, of the same sign. -/
theorem normalize_eq {n f : Int} (h : Near |(n : ℚ) * 2 ^ f| m e) (hcanonical : Canonical m e) (zero : Sign) :
    UnpackedFloat.normalize .binary64 n f zero =
      .finite (if (n : ℚ) * 2 ^ f < 0 then .negative else .positive) m e hcanonical.pos := by
  have hpos := two_zpow_pos f
  have habs : |(n : ℚ) * 2 ^ f| = (n.natAbs : ℕ) * 2 ^ f := by
    rw [abs_mul, abs_of_pos hpos, Nat.cast_natAbs, Int.cast_abs]
  rw [habs] at h
  unfold UnpackedFloat.normalize
  split
  · next hlt =>
      have hneg := Int.compare_eq_lt.1 hlt
      have hcast : (n : ℚ) < 0 := by exact_mod_cast hneg
      have hnat : (-n).toNat = n.natAbs := by omega
      rw [if_pos (mul_neg_of_neg_of_pos hcast hpos), hnat]
      exact round_eq h hcanonical _
  · next heq =>
      obtain rfl := Int.compare_eq_eq.1 heq
      have hzero := h.pos hcanonical.pos
      simp at hzero
  · next hgt =>
      have hgreater := Int.compare_eq_gt.1 hgt
      have hcast : (0 : ℚ) < n := by exact_mod_cast hgreater
      have hnat : n.toNat = n.natAbs := by omega
      rw [if_neg (mul_pos hcast hpos).not_gt, hnat]
      exact round_eq h hcanonical _

/-- The double with the given parts and the sign of a number. -/
def withSign (q : ℚ) (m : Nat) (e : Int) : ℚ :=
  if q < 0 then -(m * 2 ^ e) else m * 2 ^ e

/-- A double is what it is itself near. -/
theorem value_eq_withSign (hy : y.isFinite = true) (h : Near |Binary.value y| m e) (hcanonical : Canonical m e) :
    Binary.value y = withSign (Binary.value y) m e := by
  obtain ⟨negative, m', e', hdecode, hparts⟩ := decode_of_isFinite hy
  have hvalue := value_of_decode hdecode
  rcases hparts with ⟨rfl, rfl⟩ | hcanonical'
  · have hpos := h.pos hcanonical.pos
    rw [hvalue] at hpos
    simp at hpos
  · have hpos := scaled_pos hcanonical'.pos e'
    have habs : |Binary.value y| = m' * 2 ^ e' := by rw [hvalue, abs_unit_mul negative hpos.le]
    rw [habs] at h
    have heq : (m : ℚ) * 2 ^ e = m' * 2 ^ e' :=
      le_antisymm (h.le hcanonical hcanonical' le_rfl) (h.ge hcanonical hcanonical' le_rfl)
    rw [withSign, heq, hvalue]
    cases negative
    · rw [if_neg (by simpa [unit] using hpos.le)]
      simp [unit]
    · rw [if_pos (by simpa [unit] using hpos)]
      simp [unit]

theorem value_of_finite {sign : Sign} {hm : 0 < m} (h : x.toModel.unpack = .finite sign m e hm) :
    Binary.value x = unit (sign == .negative) * (m * 2 ^ e) :=
  value_of_decode (decode_of_unpack h)

theorem value_of_zero {sign : Sign} (h : x.toModel.unpack = .zero sign) : Binary.value x = 0 := by
  rw [value_of_decode (decode_zero h), Nat.cast_zero, zero_mul, mul_zero]

/-- The value of a packed double. -/
theorem value_pack {f : UnpackedFloat} {hm : 0 < m} (hf : f = .finite (if q < 0 then .negative else .positive) m e hm)
    (hcanonical : Canonical m e) (hx : x = .ofModel (.pack f)) :
    x.isFinite = true ∧ Binary.value x = withSign q m e := by
  have hunpack : x.toModel.unpack = .finite (if q < 0 then .negative else .positive) m e hm := by
    rw [hx, hf]
    exact unpack_pack hcanonical
  refine ⟨isFinite_of_decode (decode_of_unpack hunpack), ?_⟩
  rw [value_of_finite hunpack, withSign]
  by_cases hq : q < 0 <;> simp [hq, unit]

theorem add_eq (x y : Float) :
    x + y = .ofModel (.pack (x.toModel.unpack.add .binary64 y.toModel.unpack)) :=
  rfl

theorem value_packed_zero {sign : Sign} (h : x = .ofModel (.pack (.zero sign))) :
    x.isFinite = true ∧ Binary.value x = 0 := by
  have hdecode : Binary.decode x = .finite (sign == .negative) 0 0 := by
    rw [h]
    cases sign <;> rfl
  exact ⟨isFinite_of_decode hdecode, by rw [value_of_decode hdecode, Nat.cast_zero, zero_mul, mul_zero]⟩

/-- The sum of two doubles is the double that the sum of their values is near. -/
theorem value_add (hx : x.isFinite = true) (hy : y.isFinite = true)
    (h : Near |Binary.value x + Binary.value y| m e) (hcanonical : Canonical m e) :
    (x + y).isFinite = true ∧
      Binary.value (x + y) = withSign (Binary.value x + Binary.value y) m e := by
  obtain ⟨s, hunpackX⟩ | ⟨s, n, f, hn, hunpackX⟩ := unpack_of_isFinite hx
  · rw [value_of_zero hunpackX, zero_add] at h ⊢
    obtain ⟨t, hunpackY⟩ | ⟨t, n, f, hn, hunpackY⟩ := unpack_of_isFinite hy
    · have hpos := h.pos hcanonical.pos
      rw [value_of_zero hunpackY, abs_zero] at hpos
      exact absurd hpos (lt_irrefl _)
    · have hsame : x + y = y := by
        rw [add_eq, hunpackX, hunpackY]
        show Float.ofModel (.pack (.finite t n f hn)) = y
        rw [← hunpackY, pack_unpack]
      rw [hsame]
      exact ⟨hy, value_eq_withSign hy h hcanonical⟩
  · obtain ⟨t, hunpackY⟩ | ⟨t, n', f', hn', hunpackY⟩ := unpack_of_isFinite hy
    · rw [value_of_zero hunpackY, add_zero] at h ⊢
      have hsame : x + y = x := by
        rw [add_eq, hunpackX, hunpackY]
        show Float.ofModel (.pack (.finite s n f hn)) = x
        rw [← hunpackX, pack_unpack]
      rw [hsame]
      exact ⟨hx, value_eq_withSign hx h hcanonical⟩
    · rw [value_of_finite hunpackX, value_of_finite hunpackY, ← sum_value] at h ⊢
      refine value_pack (normalize_eq h hcanonical .positive) hcanonical ?_
      rw [add_eq, hunpackX, hunpackY]
      simp only [UnpackedFloat.add, decreaseExponent, Nat.shiftLeft_eq]

theorem value_ne_zero {sign : Sign} {hm : 0 < m} (h : x.toModel.unpack = .finite sign m e hm) :
    Binary.value x ≠ 0 := by
  rw [value_of_finite h]
  refine mul_ne_zero ?_ (scaled_pos hm e).ne'
  cases sign <;> simp [unit]

/-- A sum that cancels out is a zero. -/
theorem value_add_zero (hx : x.isFinite = true) (hy : y.isFinite = true)
    (h : Binary.value x + Binary.value y = 0) : (x + y).isFinite = true ∧ Binary.value (x + y) = 0 := by
  obtain ⟨s, hunpackX⟩ | ⟨s, n, f, hn, hunpackX⟩ := unpack_of_isFinite hx
  · obtain ⟨t, hunpackY⟩ | ⟨t, n, f, hn, hunpackY⟩ := unpack_of_isFinite hy
    · rw [add_eq, hunpackX, hunpackY]
      cases s <;> cases t <;> exact value_packed_zero rfl
    · rw [value_of_zero hunpackX, zero_add] at h
      exact absurd h (value_ne_zero hunpackY)
  · obtain ⟨t, hunpackY⟩ | ⟨t, n', f', hn', hunpackY⟩ := unpack_of_isFinite hy
    · rw [value_of_zero hunpackY, add_zero] at h
      exact absurd h (value_ne_zero hunpackX)
    · rw [value_of_finite hunpackX, value_of_finite hunpackY, ← sum_value] at h
      have hzero := (mul_eq_zero.1 h).resolve_right (two_zpow_pos _).ne'
      have hsum : x + y = .ofModel (.pack (.zero .positive)) := by
        rw [add_eq, hunpackX, hunpackY]
        simp only [UnpackedFloat.add, decreaseExponent, Nat.shiftLeft_eq, Int.cast_eq_zero.1 hzero]
        rfl
      exact value_packed_zero hsum

end RollScript

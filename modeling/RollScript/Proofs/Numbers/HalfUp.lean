import Mathlib
import RollScript.Machine.Rules
import RollScript.Proofs.Numbers.Neighbours
import RollScript.Proofs.Values.Numbers

/-!
# Rounding half up

The rounding of a number is the integer part of the double next to the number and one half. Read
`RoundsTooHigh` first: it names the doubles for which that sum, once rounded, has passed the next integer.
All others are rounded to the nearest integer, halves up. Between `-2 ^ 52` and `2 ^ 52` the argument is that
two multiples of a unit that are not the same are a unit apart (`IsMultiple.add_le`); outside all doubles are
integers, and the double next to the sum is known.
-/

namespace RollScript

open Float.Model
open Float.Model.UnpackedFloat (Sign)

/-- The doubles that are rounded to the integer above the nearest one: the greatest double below one half,
and the odd integers of 53 bits. -/
def RoundsTooHigh (v : ℚ) : Prop :=
  v = 1 / 2 - 2 ^ (-54 : Int) ∨ ∃ n : Int, v = n ∧ n % 2 = 1 ∧ 2 ^ 52 < n.natAbs ∧ n.natAbs < 2 ^ 53

/-- A number is the nearest integer to another, which is that integer itself or less than a half above it or
at most a half below it. -/
def IsNearest (v : ℚ) (k : Int) : Prop :=
  (k : ℚ) - 1 / 2 ≤ v ∧ v < k + 1 / 2

/-! ## Multiples of a unit -/

/-- A multiple of a power of two. -/
def IsMultiple (v : ℚ) (t : Int) : Prop :=
  ∃ c : Int, v = c * 2 ^ t

variable {u v q : ℚ} {m : Nat} {e t : Int} {x : Float}

theorem IsMultiple.add_le (hu : IsMultiple u t) (hv : IsMultiple v t) (hlt : u < v) : u + 2 ^ t ≤ v := by
  obtain ⟨c, rfl⟩ := hu
  obtain ⟨d, rfl⟩ := hv
  have hpos := two_zpow_pos t
  have hcd : c + 1 ≤ d := by exact_mod_cast lt_of_mul_lt_mul_right hlt hpos.le
  have hcast : (c : ℚ) + 1 ≤ d := by exact_mod_cast hcd
  nlinarith

theorem IsMultiple.neg (hv : IsMultiple v t) : IsMultiple (-v) t := by
  obtain ⟨c, rfl⟩ := hv
  exact ⟨-c, by push_cast; ring⟩

theorem IsMultiple.add (hu : IsMultiple u t) (hv : IsMultiple v t) : IsMultiple (u + v) t := by
  obtain ⟨c, rfl⟩ := hu
  obtain ⟨d, rfl⟩ := hv
  exact ⟨c + d, by push_cast; ring⟩

/-- Half an integer is a multiple of every smaller unit. -/
theorem isMultiple_half (n : Int) (ht : t ≤ -1) : IsMultiple (n / 2) t := by
  obtain ⟨k, rfl⟩ : ∃ k : Nat, t = -1 - k := ⟨(-1 - t).toNat, by omega⟩
  refine ⟨n * 2 ^ k, ?_⟩
  rw [zpow_sub₀ two_ne_zero, zpow_natCast]
  push_cast
  field_simp

/-- The doubles of a given size are multiples of a unit. -/
def OnGrid (v : ℚ) : Prop :=
  ∀ t : Int, (2 : ℚ) ^ (t + 52) ≤ |v| → IsMultiple v t

/-- A significand has at most 53 bits. -/
theorem Canonical.exponent_of_le (h : Canonical m e) (hle : (2 : ℚ) ^ t ≤ m * 2 ^ e) : t < 53 + e := by
  have hm : (m : ℚ) < 2 ^ 53 := by exact_mod_cast h.lt
  refine two_zpow_lt ?_
  calc (2 : ℚ) ^ t ≤ m * 2 ^ e := hle
    _ < 2 ^ 53 * 2 ^ e := mul_lt_mul_of_pos_right hm (two_zpow_pos e)
    _ = 2 ^ (53 + e) := by rw [zpow_add₀ two_ne_zero]; rfl

theorem Canonical.onGrid (h : Canonical m e) (negative : Bool) : OnGrid (unit negative * (m * 2 ^ e)) := by
  intro t hlow
  have habs : |unit negative * ((m : ℚ) * 2 ^ e)| = m * 2 ^ e := abs_unit_mul negative (scaled_nonneg m e)
  have ht : t ≤ e := by
    have := h.exponent_of_le (habs ▸ hlow)
    omega
  obtain ⟨c, hc⟩ := exists_multiple m ht
  rw [hc]
  cases negative
  · exact ⟨c, by simp [unit]⟩
  · exact ⟨-c, by simp [unit]⟩

theorem onGrid_value (hx : x.isFinite = true) : OnGrid (Binary.value x) := by
  obtain ⟨negative, m, e, hdecode, ⟨rfl, rfl⟩ | hcanonical⟩ := decode_of_isFinite hx
  · intro t _
    exact ⟨0, by rw [value_of_decode hdecode]; simp⟩
  · rw [value_of_decode hdecode]
    exact hcanonical.onGrid negative

/-! ## Rounding and integers -/

theorem Near.le_whole (h : Near q m e) (hcanonical : Canonical m e) {n : Nat} (hn : 0 < n)
    (hlt : n < 2 ^ 53) (hq : q ≤ n) : (m : ℚ) * 2 ^ e ≤ n := by
  have hwhole := whole_value hn hlt
  have hle := h.le hcanonical (canonical_whole hn hlt) (hwhole.symm ▸ hq)
  rwa [hwhole] at hle

theorem Near.whole_le (h : Near q m e) (hcanonical : Canonical m e) {n : Nat} (hlt : n < 2 ^ 53)
    (hq : n ≤ q) : (n : ℚ) ≤ m * 2 ^ e := by
  rcases Nat.eq_zero_or_pos n with rfl | hn
  · exact scaled_nonneg m e
  · have hwhole := whole_value hn hlt
    have hle := h.ge hcanonical (canonical_whole hn hlt) (hwhole.symm ▸ hq)
    rwa [hwhole] at hle

/-- The parts of a positive integer: its significand has 53 bits, and so it has no bit below its unit. -/
theorem Canonical.whole_parts (h : Canonical m e) {n : Nat} (hn : 0 < n) (heq : (m : ℚ) * 2 ^ e = n) :
    2 ^ 52 ≤ m ∧ (2 : ℚ) ^ (e + 52) ≤ n ∧ 0 ≤ e + 52 ∧ -1074 < e := by
  have hexponent : 0 < 53 + e := by
    refine h.exponent_of_le ?_
    rw [zpow_zero, heq]
    exact_mod_cast hn
  have hnormal : 2 ^ 52 ≤ m := h.normal.resolve_right (by omega)
  refine ⟨hnormal, ?_, by omega, by omega⟩
  have hcast : (2 : ℚ) ^ 52 ≤ m := by exact_mod_cast hnormal
  rw [zpow_add₀ two_ne_zero, ← heq, mul_comm]
  exact mul_le_mul_of_nonneg_right hcast (two_zpow_pos e).le

/-- A unit below one half lies between a double and half an integer above it, if the double is large enough to be
a multiple of that unit. -/
theorem OnGrid.gap (hgrid : OnGrid v) (ht : t ≤ -1) (hbits : (2 : ℚ) ^ (t + 52) ≤ |v|) {n : Nat}
    (hlt : v + 1 / 2 < n) : v + 2 ^ t ≤ n - 1 / 2 := by
  have hhalf := isMultiple_half (2 * n - 1) ht
  have hsame : (((2 * n - 1 : Int) : ℚ) / 2) = n - 1 / 2 := by
    push_cast
    ring
  rw [hsame] at hhalf
  exact (hgrid t hbits).add_le hhalf (by linarith)

/-- A sum with one half is only rounded up to a power of two from the greatest double below one half. -/
theorem Near.eq_of_power (hgrid : OnGrid v) {n : Nat} (hle : n ≤ 2 ^ 52) (h : Near (v + 1 / 2) (2 ^ 52) e)
    (hleast : -1074 < e) (hexponent : 0 ≤ e + 52) (hlt : v + 1 / 2 < n) (heq : (2 : ℚ) ^ 52 * 2 ^ e = n) :
    v = 1 / 2 - 2 ^ (-54 : Int) := by
  have hpos := two_zpow_pos e
  have hcastle : (n : ℚ) ≤ 2 ^ 52 := by exact_mod_cast hle
  have hnarrow := h.narrow ⟨rfl, hleast⟩
  push_cast at hnarrow
  have hunit : (2 : ℚ) ^ e ≤ 1 := by linarith
  have hbits : (2 : ℚ) ^ (e + 52) = n := by
    rw [zpow_add₀ two_ne_zero, ← heq, mul_comm]
    rfl
  rcases hexponent.eq_or_lt with hzero | hpositive
  · -- just below one
    obtain rfl : e = -52 := by omega
    have hone : (n : ℚ) = 1 := by
      rw [← heq]
      norm_num
    norm_num at hnarrow
    have hgap := hgrid.gap (t := -54) (by decide) (by
      rw [abs_of_nonneg (by linarith)]
      norm_num
      linarith) hlt
    rw [hone] at hgap
    refine le_antisymm (by linarith) ?_
    norm_num
    linarith
  · -- just below a greater power, where half a unit lies between the sum and the power
    have htwo : (2 : ℚ) ≤ n := hbits ▸ two_le_two_zpow hpositive
    have he : e - 1 ≤ -1 := by
      have hpow : (2 : ℚ) ^ e < 2 ^ (1 : Int) := by
        rw [zpow_one]
        linarith
      have := two_zpow_lt hpow
      omega
    have hgap := hgrid.gap he (by
      rw [show e - 1 + 52 = e + 52 - 1 by omega, half_zpow, hbits, abs_of_nonneg (by linarith)]
      linarith) hlt
    rw [half_zpow] at hgap
    linarith

/-- The sum with one half is not rounded up to an integer, but from the greatest double below one half. -/
theorem Near.ne_above (hgrid : OnGrid v) (hv : v ≠ 1 / 2 - 2 ^ (-54 : Int)) {n : Nat} (hn : 0 < n)
    (hle : n ≤ 2 ^ 52) (h : Near (v + 1 / 2) m e) (hcanonical : Canonical m e) (hlt : v + 1 / 2 < n) :
    (m : ℚ) * 2 ^ e ≠ n := by
  intro heq
  obtain ⟨hm, hbits, hexponent, hleast⟩ := hcanonical.whole_parts hn heq
  have hpos := two_zpow_pos e
  have hcastle : (n : ℚ) ≤ 2 ^ 52 := by exact_mod_cast hle
  rcases hm.eq_or_lt with rfl | hgt
  · exact hv (h.eq_of_power hgrid hle hleast hexponent hlt (by exact_mod_cast heq))
  · -- the integer is no power of two, so half a unit is left below it, and the gap is a whole one
    have hlow := h.low
    have hcast : (2 : ℚ) ^ 52 + 1 ≤ m := by exact_mod_cast hgt
    have hsmall : (2 : ℚ) ^ e < 1 := by nlinarith
    have he := neg_of_two_zpow_lt_one hsmall
    have hnext : (2 : ℚ) ^ (e + 52) + 1 ≤ n := by
      obtain ⟨k, hk⟩ : ∃ k : Nat, e + 52 = k := ⟨(e + 52).toNat, by omega⟩
      have hstrict : (2 : ℚ) ^ k < n := by
        rw [← zpow_natCast, ← hk, zpow_add₀ two_ne_zero, ← heq, mul_comm]
        exact mul_lt_mul_of_pos_right (lt_of_lt_of_le (by norm_num) hcast) hpos
      rw [hk, zpow_natCast]
      exact_mod_cast hstrict
    have hone : (1 : ℚ) ≤ n := by exact_mod_cast hn
    have hgap := hgrid.gap (t := e) (by omega) (by
      rw [abs_of_nonneg (by linarith)]
      linarith) hlt
    linarith

/-- Nor is it rounded up to an integer on the other side of zero. -/
theorem Near.ne_below (hgrid : OnGrid v) {n : Nat} (hn : 0 < n) (hlt : n < 2 ^ 52)
    (h : Near (-(v + 1 / 2)) m e) (hcanonical : Canonical m e) (hgt : n < -(v + 1 / 2)) :
    (m : ℚ) * 2 ^ e ≠ n := by
  intro heq
  obtain ⟨hm, hbits, -, -⟩ := hcanonical.whole_parts hn heq
  have hpos := two_zpow_pos e
  have hhigh := h.high
  have hmcast : (2 : ℚ) ^ 52 ≤ m := by exact_mod_cast hm
  have hltcast : (n : ℚ) < 2 ^ 52 := by exact_mod_cast hlt
  have he : e ≤ -1 := by
    have hsmall : (2 : ℚ) ^ e < 1 := by nlinarith
    have := neg_of_two_zpow_lt_one hsmall
    omega
  have habove : IsMultiple ((n : ℚ) + 1 / 2) e := by
    have hhalf := isMultiple_half (2 * n + 1) he
    have hsame : (((2 * n + 1 : Int) : ℚ) / 2) = n + 1 / 2 := by
      push_cast
      ring
    rwa [hsame] at hhalf
  have hmultiple := hgrid e (by
    rw [abs_of_neg (by linarith)]
    linarith)
  have hgap := habove.add_le hmultiple.neg (by linarith)
  linarith

theorem floor_of_bounds {k : Int} (hlow : (k : ℚ) ≤ q) (hhigh : q < k + 1) : ⌊q⌋ = k :=
  Int.floor_eq_iff.2 ⟨hlow, hhigh⟩

/-- A sum with one half below zero keeps its integer part when it is rounded: its magnitude lies between two
integers, the upper one included. -/
theorem Near.floor_neg (hgrid : OnGrid v) (hneg : v + 1 / 2 < 0) (hlow : -2 ^ 52 ≤ v)
    (h : Near (-(v + 1 / 2)) m e) (hcanonical : Canonical m e) : ⌊-((m : ℚ) * 2 ^ e)⌋ = ⌊v + 1 / 2⌋ := by
  -- The magnitude is above `n` and at most `n + 1`, and rounding must not bring it down to `n`.
  obtain ⟨n, hn⟩ : ∃ n : Nat, ⌈-(v + 1 / 2)⌉₊ = n + 1 :=
    Nat.exists_eq_add_one_of_ne_zero (Nat.ceil_pos.2 (by linarith)).ne'
  have hupper : -(v + 1 / 2) ≤ ((n + 1 : ℕ) : ℚ) := hn ▸ Nat.le_ceil _
  have hlower : (n : ℚ) < -(v + 1 / 2) := Nat.lt_ceil.1 (by omega)
  have hnlt : n < 2 ^ 52 := by
    have hcast : (n : ℚ) < 2 ^ 52 := by linarith
    exact_mod_cast hcast
  have hle := h.le_whole hcanonical (Nat.succ_pos n) (by omega) hupper
  have hgt : (n : ℚ) < m * 2 ^ e := by
    rcases Nat.eq_zero_or_pos n with rfl | hnpos
    · rw [Nat.cast_zero]
      exact scaled_pos hcanonical.pos e
    · exact lt_of_le_of_ne (h.whole_le hcanonical (by omega) hlower.le)
        (h.ne_below hgrid hnpos hnlt hcanonical hlower).symm
  push_cast at hle hupper
  rw [floor_of_bounds (k := -(n + 1 : ℕ)) (by push_cast; linarith) (by push_cast; linarith),
    floor_of_bounds (k := -(n + 1 : ℕ)) (by push_cast; linarith) (by push_cast; linarith)]

/-- So does a sum above zero, but for the greatest double below one half. -/
theorem Near.floor_pos (hgrid : OnGrid v) (hne : v ≠ 1 / 2 - 2 ^ (-54 : Int)) (hpos : 0 < v + 1 / 2)
    (hhigh : v < 2 ^ 52) (h : Near (v + 1 / 2) m e) (hcanonical : Canonical m e) :
    ⌊(m : ℚ) * 2 ^ e⌋ = ⌊v + 1 / 2⌋ := by
  have hlower := Nat.floor_le hpos.le
  have hupper := Nat.lt_floor_add_one (v + 1 / 2)
  generalize ⌊v + 1 / 2⌋₊ = n at hlower hupper
  have hnle : n ≤ 2 ^ 52 := by
    have hcast : (n : ℚ) < 2 ^ 52 + 1 := by linarith
    have hlt : n < 2 ^ 52 + 1 := by exact_mod_cast hcast
    omega
  have hge := h.whole_le hcanonical (by omega) hlower
  have hlt : (m : ℚ) * 2 ^ e < n + 1 := by
    rcases hnle.eq_or_lt with rfl | hnlt
    · -- the last half below `2 ^ 52` makes the sum `2 ^ 52` itself
      push_cast at hlower
      have hmultiple := hgrid (-1) (by
        rw [abs_of_nonneg (by linarith)]
        norm_num
        linarith)
      have hgap := hmultiple.add_le (isMultiple_half (2 ^ 53) le_rfl) (by push_cast; linarith)
      have hle := h.le_whole hcanonical (by norm_num) (by norm_num) (n := 2 ^ 52) (by
        push_cast at hgap ⊢
        norm_num at hgap ⊢
        linarith)
      linarith
    · have hle := h.le_whole hcanonical (Nat.succ_pos n) (by omega) (by push_cast; exact hupper.le)
      have hstrict := h.ne_above hgrid hne (Nat.succ_pos n) hnlt hcanonical (by push_cast; exact hupper)
      push_cast at hle hstrict
      exact lt_of_le_of_ne hle hstrict
  rw [floor_of_bounds (k := n) (by exact_mod_cast hge) (by exact_mod_cast hlt),
    floor_of_bounds (k := n) (by exact_mod_cast hlower) (by exact_mod_cast hupper)]

/-! ## The sum with one half -/

theorem value_half : Binary.value 0.5 = 1 / 2 := by
  rw [value_of_finite unpack_half, show (Sign.positive == .negative) = false from rfl]
  norm_num [unit]

theorem isFinite_half : (0.5 : Float).isFinite = true := by
  show (0.5 : Float).toModel.unpack.isFinite = true
  rw [unpack_half]
  rfl

/-- The double that the sum with one half is near has the integer part that is the rounding. -/
theorem roundHalfUp?_of_near (hx : x.isFinite = true) (h : Near |Binary.value x + 1 / 2| m e)
    (hcanonical : Canonical m e) :
    Binary.roundHalfUp? x = some ⌊withSign (Binary.value x + 1 / 2) m e⌋ := by
  rw [← value_half] at h ⊢
  obtain ⟨hfinite, hvalue⟩ := value_add hx isFinite_half h hcanonical
  rw [Binary.roundHalfUp?, if_pos hx, floor?_eq hfinite, hvalue]

theorem roundHalfUp?_of_cancel (hx : x.isFinite = true) (h : Binary.value x + 1 / 2 = 0) :
    Binary.roundHalfUp? x = some 0 := by
  rw [← value_half] at h
  obtain ⟨hfinite, hvalue⟩ := value_add_zero hx isFinite_half h
  rw [Binary.roundHalfUp?, if_pos hx, floor?_eq hfinite, hvalue, Int.floor_zero]

/-- The sum of a double and one half is near a double, unless it is zero. -/
theorem exists_near_add_half (hx : x.isFinite = true) (hne : Binary.value x + 1 / 2 ≠ 0) :
    ∃ (m : Nat) (e : Int), Canonical m e ∧ Near |Binary.value x + 1 / 2| m e := by
  have hgrid := onGrid_value hx
  refine exists_near ?_ ?_
  · have hleast : (2 : ℚ) ^ (-1075 : Int) < 2 ^ (-54 : Int) := zpow_lt_zpow_right₀ (by norm_num) (by norm_num)
    refine hleast.trans_le ?_
    rcases le_or_gt (1 / 4) |Binary.value x| with hlarge | hsmall
    · -- Both terms are multiples of one unit, and so is the sum.
      have hmultiple := (hgrid (-54) (by norm_num; linarith)).add (isMultiple_half 1 (by norm_num : (-54 : Int) ≤ -1))
      rw [Int.cast_one] at hmultiple
      have hzero : IsMultiple 0 (-54) := ⟨0, by simp⟩
      rcases lt_or_gt_of_ne hne with hneg | hpos
      · have hgap := hmultiple.add_le hzero hneg
        rw [abs_of_neg hneg]
        linarith
      · have hgap := hzero.add_le hmultiple hpos
        rw [abs_of_pos hpos]
        linarith
    · have hbounds := abs_lt.1 hsmall
      rw [abs_of_pos (by linarith)]
      norm_num
      linarith
  · obtain ⟨negative, m, e, hdecode, ⟨rfl, rfl⟩ | hcanonical⟩ := decode_of_isFinite hx
    · rw [value_of_decode hdecode]
      refine lt_of_le_of_lt ?_ (add_half_lt_overflow (canonical_whole Nat.one_pos (by norm_num)))
      rw [whole_value Nat.one_pos (by norm_num)]
      norm_num
    · refine lt_of_le_of_lt ?_ (add_half_lt_overflow hcanonical)
      have hnonneg := scaled_nonneg m e
      rw [value_of_decode hdecode, abs_le]
      cases negative <;> simp only [unit] <;> constructor <;> norm_num <;> linarith

/-- Doubles between `-2 ^ 52` and `2 ^ 52` are rounded to the nearest integer, but for the greatest one below
one half. -/
theorem roundHalfUp?_small (hx : x.isFinite = true) (hlow : -2 ^ 52 ≤ Binary.value x)
    (hhigh : Binary.value x < 2 ^ 52) (hne : Binary.value x ≠ 1 / 2 - 2 ^ (-54 : Int)) :
    Binary.roundHalfUp? x = some ⌊Binary.value x + 1 / 2⌋ := by
  have hgrid := onGrid_value hx
  rcases eq_or_ne (Binary.value x + 1 / 2) 0 with hzero | hnonzero
  · rw [roundHalfUp?_of_cancel hx hzero, hzero, Int.floor_zero]
  obtain ⟨m, e, hcanonical, hnear⟩ := exists_near_add_half hx hnonzero
  rw [roundHalfUp?_of_near hx hnear hcanonical, withSign]
  rcases lt_or_gt_of_ne hnonzero with hneg | hpos
  · rw [abs_of_neg hneg] at hnear
    rw [if_pos hneg, hnear.floor_neg hgrid hneg hlow hcanonical]
  · rw [abs_of_pos hpos] at hnear
    rw [if_neg hpos.not_gt, hnear.floor_pos hgrid hne hpos hhigh hcanonical]

/-! ## Doubles that are integers -/

/-- The sum of an integer double and one half is rounded to the integer, or half-way up to the next one if that is
even and the integer odd. -/
theorem exists_near_above (hcanonical : Canonical m e) (he : 0 ≤ e) : ∃ (k : Nat) (f : Int), Canonical k f ∧
    Near (m * 2 ^ e + 1 / 2) k f ∧ (k : ℚ) * 2 ^ f = if m % 2 = 1 ∧ e = 0 then (m : ℚ) * 2 ^ e + 1 else m * 2 ^ e := by
  have hm := hcanonical.lt
  have hnormal : 2 ^ 52 ≤ m := hcanonical.normal.resolve_right (by omega)
  by_cases hodd : m % 2 = 1 ∧ e = 0
  · obtain ⟨hmodd, rfl⟩ := hodd
    rw [if_pos ⟨hmodd, rfl⟩, zpow_zero, mul_one]
    by_cases hcarry : m + 1 = 2 ^ 53
    · have hcast : (m : ℚ) = 2 ^ 53 - 1 := by
        rw [eq_sub_iff_add_eq]
        exact_mod_cast hcarry
      refine ⟨2 ^ 52, 1, ⟨by decide, by decide, by decide, by decide, .inl le_rfl⟩,
        ⟨?_, ?_, fun _ => ?_, .inl (by decide)⟩, ?_⟩ <;> rw [hcast] <;> norm_num
    · refine ⟨m + 1, 0, ⟨by omega, by omega, by decide, by decide, .inl (by omega)⟩,
        ⟨?_, ?_, fun hnarrow => absurd hnarrow.1 (by omega), .inl (by omega)⟩, ?_⟩ <;> push_cast <;> linarith
  · have hunit : (1 : ℚ) ≤ 2 ^ e := one_le_zpow₀ (by norm_num) he
    have heven : m % 2 = 0 ∨ 0 < e := by omega
    rw [if_neg hodd]
    refine ⟨m, e, hcanonical, ⟨by linarith, by linarith, fun _ => by linarith, heven.imp id fun hpos => ?_⟩, rfl⟩
    have := two_le_two_zpow hpos
    constructor <;> linarith

/-- The same below, where the doubles are twice as close next to a power of two. -/
theorem exists_near_below (hcanonical : Canonical m e) (he : 0 ≤ e) (hlarge : m = 2 ^ 52 → 0 < e) :
    ∃ (k : Nat) (f : Int), Canonical k f ∧ Near (m * 2 ^ e - 1 / 2) k f ∧
      (k : ℚ) * 2 ^ f = if m % 2 = 1 ∧ e = 0 then (m : ℚ) * 2 ^ e - 1 else m * 2 ^ e := by
  have hm := hcanonical.lt
  have hnormal : 2 ^ 52 ≤ m := hcanonical.normal.resolve_right (by omega)
  by_cases hodd : m % 2 = 1 ∧ e = 0
  · obtain ⟨hmodd, rfl⟩ := hodd
    have hcast : ((m - 1 : ℕ) : ℚ) = m - 1 := by
      rw [Nat.cast_sub (by omega), Nat.cast_one]
    rw [if_pos ⟨hmodd, rfl⟩, zpow_zero, mul_one]
    refine ⟨m - 1, 0, ⟨by omega, by omega, by decide, by decide, .inl (by omega)⟩,
      ⟨?_, ?_, fun _ => ?_, .inl (by omega)⟩, ?_⟩ <;> rw [hcast, zpow_zero] <;> linarith
  · have hunit : (1 : ℚ) ≤ 2 ^ e := one_le_zpow₀ (by norm_num) he
    have heven : m % 2 = 0 ∨ 0 < e := by omega
    rw [if_neg hodd]
    refine ⟨m, e, hcanonical, ⟨by linarith, by linarith, fun hnarrow => ?_, heven.imp id fun hpos => ?_⟩, rfl⟩
    · have := two_le_two_zpow (hlarge hnarrow.1)
      linarith
    · have := two_le_two_zpow hpos
      constructor <;> linarith

/-- The parts of an integer double of magnitude `2 ^ 52` or more, and when it is odd. -/
theorem parts_of_large {n : Int} (hx : x.isFinite = true) (hvalue : Binary.value x = n)
    (hlarge : 2 ^ 52 ≤ n.natAbs) : ∃ m e, Canonical m e ∧ 0 ≤ e ∧ |(n : ℚ)| = m * 2 ^ e ∧
      (n % 2 = 1 ∧ n.natAbs < 2 ^ 53 ↔ m % 2 = 1 ∧ e = 0) := by
  obtain ⟨negative, m, e, hdecode, hparts⟩ := decode_of_isFinite hx
  have habs : |(n : ℚ)| = m * 2 ^ e := by rw [← hvalue, abs_value_of_decode hdecode]
  have hcast : (2 : ℚ) ^ 52 ≤ m * 2 ^ e := by
    rw [← habs, ← Int.cast_abs, Int.abs_eq_natAbs]
    exact_mod_cast hlarge
  rcases hparts with ⟨rfl, rfl⟩ | hcanonical
  · norm_num at hcast
  have he : 0 ≤ e := by
    have := hcanonical.exponent_of_le (t := 52) (by exact_mod_cast hcast)
    omega
  refine ⟨m, e, hcanonical, he, habs, ?_⟩
  obtain ⟨j, rfl⟩ := Int.eq_ofNat_of_zero_le he
  have hnat : n.natAbs = m * 2 ^ j := by
    rw [zpow_natCast, ← Int.cast_abs, Int.abs_eq_natAbs] at habs
    exact_mod_cast habs
  have hm := hcanonical.lt
  cases j with
  | zero =>
      rw [pow_zero, mul_one] at hnat
      omega
  | succ j =>
      have hdouble : n.natAbs = 2 * (m * 2 ^ j) := by
        rw [hnat, pow_succ]
        ring
      omega

/-- From `2 ^ 52` on, an odd double is rounded to the even integer above it, and an even one to itself. -/
theorem roundHalfUp?_large {n : Int} (hx : x.isFinite = true) (hvalue : Binary.value x = n)
    (hlarge : 2 ^ 52 ≤ n ∨ n < -2 ^ 52) :
    Binary.roundHalfUp? x = some (if n % 2 = 1 ∧ n.natAbs < 2 ^ 53 then n + 1 else n) := by
  obtain ⟨m, e, hcanonical, he, habs, hiff⟩ := parts_of_large hx hvalue (by omega)
  have hresult : (((if n % 2 = 1 ∧ n.natAbs < 2 ^ 53 then n + 1 else n : Int)) : ℚ) =
      if m % 2 = 1 ∧ e = 0 then (n : ℚ) + 1 else n := by
    by_cases hodd : m % 2 = 1 ∧ e = 0
    · rw [if_pos hodd, if_pos (hiff.2 hodd)]
      push_cast
      rfl
    · rw [if_neg hodd, if_neg (mt hiff.1 hodd)]
  rcases hlarge with hpos | hneg
  · have hcast : (0 : ℚ) < n := by exact_mod_cast (by omega : 0 < n)
    obtain ⟨k, f, hcanonical', hnear, hnext⟩ := exists_near_above hcanonical he
    rw [← habs, abs_of_pos hcast] at hnear hnext
    have hsum : 0 < (n : ℚ) + 1 / 2 := by linarith
    rw [roundHalfUp?_of_near hx (by rwa [hvalue, abs_of_pos hsum]) hcanonical', hvalue, withSign,
      if_neg hsum.not_gt, hnext, ← hresult, Int.floor_intCast]
  · have hcast : (n : ℚ) < -2 ^ 52 := by exact_mod_cast hneg
    rw [abs_of_neg (by linarith)] at habs
    have hsum : (n : ℚ) + 1 / 2 < 0 := by linarith
    have hbound : m = 2 ^ 52 → 0 < e := by
      rintro rfl
      refine lt_of_le_of_ne he ?_
      rintro rfl
      norm_num at habs
      linarith
    obtain ⟨k, f, hcanonical', hnear, hnext⟩ := exists_near_below hcanonical he hbound
    have hmagnitude : |(n : ℚ) + 1 / 2| = m * 2 ^ e - 1 / 2 := by
      rw [abs_of_neg hsum]
      linarith
    have hsigned : -((k : ℚ) * 2 ^ f) = if m % 2 = 1 ∧ e = 0 then (n : ℚ) + 1 else n := by
      rw [hnext]
      split <;> linarith
    rw [roundHalfUp?_of_near hx (by rwa [hvalue, hmagnitude]) hcanonical', hvalue, withSign, if_pos hsum,
      hsigned, ← hresult, Int.floor_intCast]

/-! ## The rounding of every double -/

theorem isInteger_of_large (hx : x.isFinite = true) (hlarge : (2 : ℚ) ^ 52 ≤ |Binary.value x|) :
    ∃ n : Int, Binary.value x = n := by
  obtain ⟨n, hn⟩ := onGrid_value hx 0 (by norm_num; linarith)
  exact ⟨n, by rwa [zpow_zero, mul_one] at hn⟩

theorem roundsTooHigh_intCast (n : Int) :
    RoundsTooHigh n ↔ n % 2 = 1 ∧ 2 ^ 52 < n.natAbs ∧ n.natAbs < 2 ^ 53 := by
  constructor
  · rintro (hfraction | ⟨k, hk, hodd, hlow, hhigh⟩)
    · -- no integer lies between zero and one half
      have hpos : (0 : ℚ) < n := by
        rw [hfraction]
        norm_num
      have hlt : (n : ℚ) < 1 := by
        rw [hfraction]
        norm_num
      have hone : (1 : ℚ) ≤ n := by exact_mod_cast (Int.cast_pos.1 hpos)
      linarith
    · obtain rfl : n = k := by exact_mod_cast hk
      exact ⟨hodd, hlow, hhigh⟩
  · rintro ⟨hodd, hlow, hhigh⟩
    exact .inr ⟨n, rfl, hodd, hlow, hhigh⟩

theorem floor_intCast_add_half (n : Int) : ⌊(n : ℚ) + 1 / 2⌋ = n :=
  floor_of_bounds (by linarith) (by linarith)

theorem roundHalfUp?_tooHigh (hx : x.isFinite = true) (h : RoundsTooHigh (Binary.value x)) :
    Binary.roundHalfUp? x = some (⌊Binary.value x + 1 / 2⌋ + 1) := by
  rcases h with hfraction | ⟨n, hvalue, hodd, hlow, hhigh⟩
  · have hcanonical : Canonical (2 ^ 52) (-52) :=
      ⟨by decide, by decide, by decide, by decide, .inl le_rfl⟩
    have hnear : Near |Binary.value x + 1 / 2| (2 ^ 52) (-52) := by
      have habs : |Binary.value x + 1 / 2| = 1 - 2 ^ (-54 : Int) := by
        rw [hfraction, abs_of_pos] <;> norm_num
      refine ⟨?_, ?_, fun _ => ?_, .inl (by decide)⟩ <;> rw [habs] <;> norm_num
    rw [roundHalfUp?_of_near hx hnear hcanonical, hfraction, withSign, if_neg (by norm_num)]
    norm_num
  · rw [roundHalfUp?_large hx hvalue (by omega), if_pos ⟨hodd, hhigh⟩, hvalue, floor_intCast_add_half]

theorem roundHalfUp?_nearest (hx : x.isFinite = true) (h : ¬ RoundsTooHigh (Binary.value x)) :
    Binary.roundHalfUp? x = some ⌊Binary.value x + 1 / 2⌋ := by
  by_cases hsmall : -2 ^ 52 ≤ Binary.value x ∧ Binary.value x < 2 ^ 52
  · exact roundHalfUp?_small hx hsmall.1 hsmall.2 fun hfraction => h (.inl hfraction)
  · have hlarge : (2 : ℚ) ^ 52 ≤ Binary.value x ∨ Binary.value x < -2 ^ 52 := by
      by_contra hnone
      rw [not_or, not_le, not_lt] at hnone
      exact hsmall hnone.symm
    obtain ⟨n, hvalue⟩ := isInteger_of_large hx (le_abs.2 (hlarge.imp id fun hlt => by linarith))
    rw [hvalue] at h hlarge
    have hint : 2 ^ 52 ≤ n ∨ n < -2 ^ 52 := by exact_mod_cast hlarge
    have hkept : ¬ (n % 2 = 1 ∧ n.natAbs < 2 ^ 53) := by
      rw [roundsTooHigh_intCast] at h
      omega
    rw [roundHalfUp?_large hx hvalue hint, if_neg hkept, hvalue, floor_intCast_add_half]

theorem isNearest_iff {k : Int} : IsNearest v k ↔ k = ⌊v + 1 / 2⌋ := by
  rw [eq_comm, Int.floor_eq_iff, IsNearest]
  constructor <;> rintro ⟨hlow, hhigh⟩ <;> constructor <;> linarith

/-! ## Where numbers are rounded -/

/-- Every place that rounds a number goes on with the integer `k`: the operation `round`, a number applied to an
argument, an index, the count of `highest` and `lowest`, the sides of a die and the rolls of `explode`. -/
structure RoundsTo (x : Float) (k : Int) : Prop where
  round : ∃ y, Operation.round.apply [.number x] = .ok (.number y) ∧ Binary.integer? y = some k
  repeated : ∀ argument env, applyTo argument env (.number x) = .ok (repeatNext [] argument env k.toNat)
  index : ∀ items, elementAt items (.number x) =
    if h : 0 ≤ k ∧ k.toNat < items.length then .ok [.produce (items.get ⟨k.toNat, h.2⟩)]
    else .error (.domain (.outOfBounds k items.length))
  highest : ∀ xs, Operation.highest.apply [.number x, .ofNumbers xs] =
    .ok (.ofNumbers (Number.takeLast k.toNat (Number.sort xs)))
  lowest : ∀ xs, Operation.lowest.apply [.number x, .ofNumbers xs] =
    .ok (.ofNumbers (Number.takeLast k.toNat (Number.sortDescending xs)))
  sides : ∀ {ω : Type} (draw : Random.BitSource ω) (patience : Nat) (state : ω),
    Die.rollFaces draw patience (.number x) state =
      if k < 1 then (.error (.domain (.noSides x)), state) else Die.numbered draw patience k.toNat state
  rolls : ∀ roll again, Combinator.explode.start [.number x, .function roll, .function again] =
    .ok (Combinator.nextBase roll again [] k.toNat)

theorem roundsTo_of_roundHalfUp {k : Int} (h : Binary.roundHalfUp? x = some k) : RoundsTo x k := by
  have hrounded : Number.rounded x = .ok k := by rw [Number.rounded, h]
  have hrepetitions := repetitions_eq h
  refine ⟨⟨Float.ofInt k, ?_, integer?_ofInt (representable_of_roundHalfUp h)⟩, fun argument env => ?_,
    fun items => ?_, fun xs => ?_, fun xs => ?_, fun draw patience state => ?_, fun roll again => ?_⟩
  · show Except.ok (Value.number (Number.roundedBy Binary.roundHalfUp? x)) = _
    rw [Number.roundedBy, h]
  · show (Number.repetitions x).map _ = _
    rw [hrepetitions]
    rfl
  · show (Number.rounded x >>= _) = _
    rw [hrounded]
    show (if k < 0 then _ else _) = _
    split
    · next hneg => rw [dif_neg (by omega)]
    · next hnonneg =>
        by_cases hlt : k.toNat < items.length
        · rw [dif_pos ⟨by omega, hlt⟩, List.getElem?_eq_getElem hlt]
          rfl
        · rw [dif_neg fun hin => hlt hin.2, List.getElem?_eq_none (by omega)]
  · show Operation.onCounted _ [.number x, .array (xs.map .number)] = _
    simp only [Operation.onCounted, Value.mapM_number?_numbers, hrepetitions]
    rfl
  · show Operation.onCounted _ [.number x, .array (xs.map .number)] = _
    simp only [Operation.onCounted, Value.mapM_number?_numbers, hrepetitions]
    rfl
  · simp only [Die.rollFaces, hrounded]
  · show (Number.repetitions x).map _ = _
    rw [hrepetitions]
    rfl

/-- A finite number is rounded to the nearest integer, halves up, unless it is one of those rounded too high,
which are rounded to the integer above the nearest. An integer is its own nearest. -/
theorem rounds_to_nearest (hx : x.isFinite = true) :
    ∃ k, Binary.roundHalfUp? x = some k ∧ RoundsTo x k ∧
      (¬ RoundsTooHigh (Binary.value x) → ∀ j, IsNearest (Binary.value x) j ↔ j = k) ∧
      (RoundsTooHigh (Binary.value x) → ∀ j, IsNearest (Binary.value x) j ↔ j + 1 = k) ∧
      ∀ n, Binary.integer? x = some n →
        k = if n % 2 = 1 ∧ 2 ^ 52 < n.natAbs ∧ n.natAbs < 2 ^ 53 then n + 1 else n := by
  by_cases hhigh : RoundsTooHigh (Binary.value x)
  · have hround := roundHalfUp?_tooHigh hx hhigh
    refine ⟨_, hround, roundsTo_of_roundHalfUp hround, fun hnot => absurd hhigh hnot, fun _ j => ?_, fun n hn => ?_⟩
    · rw [isNearest_iff]
      omega
    · rw [(integer?_eq_some_iff.1 hn).2, roundsTooHigh_intCast] at hhigh
      rw [(integer?_eq_some_iff.1 hn).2, floor_intCast_add_half, if_pos hhigh]
  · have hround := roundHalfUp?_nearest hx hhigh
    refine ⟨_, hround, roundsTo_of_roundHalfUp hround, fun _ j => isNearest_iff, fun h => absurd h hhigh, fun n hn => ?_⟩
    rw [(integer?_eq_some_iff.1 hn).2, roundsTooHigh_intCast] at hhigh
    rw [(integer?_eq_some_iff.1 hn).2, floor_intCast_add_half, if_neg hhigh]

/-- The first odd integer of 53 bits becomes the even one above it. -/
theorem rounds_first_odd : (4503599627370497 : Float).isFinite = true ∧
    RoundsTo 4503599627370497 4503599627370498 := by
  have hfinite : (4503599627370497 : Float).isFinite = true := by rfl
  obtain ⟨k, -, hto, -, -, hinteger⟩ := rounds_to_nearest hfinite
  obtain rfl := hinteger 4503599627370497 (by rfl)
  exact ⟨hfinite, hto⟩

end RollScript

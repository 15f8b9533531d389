import Mathlib.Tactic.Positivity
import Mathlib.Tactic.Ring
import RollScript.Number.Shortest
import RollScript.Proofs.Numbers.Rounding

/-!
# Shortest digits read back

Read `digits_near` first: the shortest digits of a double are a decimal near that double. The search
goes from grid to grid; a number that it finds on a grid lies in the interval of the double, and the
grid of twenty digits is finer than the interval.
-/

namespace RollScript

namespace Shortest

variable {m : Nat} {e : Int}

/-! ## The interval -/

/-- The common scale of an interval's ends. -/
theorem scale_eq (e : Int) :
    ((2 ^ (e - 2).toNat : ℕ) : ℚ) / (2 ^ (2 - e).toNat : ℕ) = 2 ^ (e - 2) := by
  push_cast
  by_cases h : 2 ≤ e
  · have hzero : (2 - e).toNat = 0 := by omega
    have hexponent : ((e - 2).toNat : Int) = e - 2 := by omega
    rw [hzero, pow_zero, div_one, ← zpow_natCast, hexponent]
  · have hzero : (e - 2).toNat = 0 := by omega
    have hexponent : e - 2 = -((2 - e).toNat : Int) := by omega
    rw [hzero, pow_zero, hexponent, zpow_neg, zpow_natCast, one_div]

theorem quarter (e : Int) : (2 : ℚ) ^ e = 4 * 2 ^ (e - 2) := by
  rw [zpow_sub₀ two_ne_zero]
  norm_num
  ring

/-- A comparison over the common denominator. -/
theorem scaled_le {c a b : Nat} (hb : 0 < b) :
    c * 2 ^ (e - 2).toNat * b ≤ a * 2 ^ (2 - e).toNat ↔ (c : ℚ) * 2 ^ (e - 2) ≤ a / b := by
  have hcast : (0 : ℚ) < b := by exact_mod_cast hb
  have hpos : (0 : ℚ) < (2 ^ (2 - e).toNat : ℕ) := by positivity
  rw [← scale_eq, mul_div_assoc', div_le_div_iff₀ hpos hcast]
  exact_mod_cast Iff.rfl

theorem le_scaled {c a b : Nat} (hb : 0 < b) :
    a * 2 ^ (2 - e).toNat ≤ c * 2 ^ (e - 2).toNat * b ↔ (a / b : ℚ) ≤ c * 2 ^ (e - 2) := by
  have hcast : (0 : ℚ) < b := by exact_mod_cast hb
  have hpos : (0 : ℚ) < (2 ^ (2 - e).toNat : ℕ) := by positivity
  rw [← scale_eq, mul_div_assoc', div_le_div_iff₀ hcast hpos]
  exact_mod_cast Iff.rfl

theorem contains_iff {i : Interval} {numerator denominator : Nat} :
    i.contains numerator denominator = true ↔
      i.low * denominator ≤ numerator * i.denominator ∧
        numerator * i.denominator ≤ i.high * denominator ∧
        (i.closed = false → i.low * denominator < numerator * i.denominator ∧
          numerator * i.denominator < i.high * denominator) := by
  unfold Interval.contains
  cases hclosed : i.closed with
  | true => simp [Nat.isLE_compare]
  | false =>
      simp only [Bool.false_eq_true, if_false, Bool.and_eq_true, beq_iff_eq, Nat.compare_eq_lt,
        true_implies]
      omega

/-- The lower end of an interval in quarters of the spacing of doubles. -/
theorem low_eq (hm : 0 < m) :
    ∃ c : Nat, (interval m e).low = c * 2 ^ (e - 2).toNat ∧ (4 * m - 2 : ℚ) ≤ c ∧
      (IsNarrow m e → (c : ℚ) = 4 * m - 1) ∧ (¬ IsNarrow m e → (c : ℚ) = 4 * m - 2) ∧ c < 4 * m := by
  by_cases hnarrow : IsNarrow m e
  · have hcast : ((4 * m - 1 : ℕ) : ℚ) = 4 * m - 1 := by
      rw [Nat.cast_sub (by omega)]
      push_cast
      ring
    refine ⟨4 * m - 1, ?_, by rw [hcast]; linarith, fun _ => hcast, fun h => absurd hnarrow h, by omega⟩
    show (if m = 4503599627370496 ∧ -1074 < e then 4 * m - 1 else 4 * m - 2) * _ = _
    rw [if_pos (show m = 4503599627370496 ∧ -1074 < e from hnarrow)]
    rfl
  · have hcast : ((4 * m - 2 : ℕ) : ℚ) = 4 * m - 2 := by
      rw [Nat.cast_sub (by omega)]
      push_cast
      ring
    refine ⟨4 * m - 2, ?_, hcast.ge, fun h => absurd h hnarrow, fun _ => hcast, by omega⟩
    show (if m = 4503599627370496 ∧ -1074 < e then 4 * m - 1 else 4 * m - 2) * _ = _
    rw [if_neg (show ¬ (m = 4503599627370496 ∧ -1074 < e) from hnarrow)]
    rfl

/-- What the interval contains is near the double. -/
theorem near_of_contains {numerator denominator : Nat} (hm : 0 < m) (hdenominator : 0 < denominator)
    (h : (interval m e).contains numerator denominator = true) :
    Near ((numerator : ℚ) / denominator) m e := by
  obtain ⟨hlow, hhigh, hopen⟩ := contains_iff.1 h
  obtain ⟨c, hc, hquarters, hnarrow, -⟩ := @low_eq m e hm
  have hquarter := quarter e
  have hpos := two_zpow_pos (e - 2)
  generalize hq : (numerator / denominator : ℚ) = q
  have hhigh' : q ≤ (4 * m + 2 : ℕ) * 2 ^ (e - 2) := hq ▸ (le_scaled hdenominator).1 hhigh
  have hlow' : c * 2 ^ (e - 2) ≤ q := by
    rw [hc] at hlow
    exact hq ▸ (scaled_le hdenominator).1 hlow
  push_cast at hhigh'
  refine ⟨?_, ?_, fun h => ?_, ?_⟩
  · rw [hquarter]
    nlinarith
  · rw [hquarter]
    linarith
  · rw [hquarter, show ((m : ℚ) - 1 / 4) * (4 * 2 ^ (e - 2)) = (4 * m - 1) * 2 ^ (e - 2) by ring,
      ← hnarrow h]
    exact hlow'
  · rcases Nat.mod_two_eq_zero_or_one m with heven | hodd
    · exact .inl heven
    · obtain ⟨hlower, hupper⟩ := hopen (decide_eq_false (by omega))
      have hupper' : q < (4 * m + 2 : ℕ) * 2 ^ (e - 2) := by
        rw [← hq, ← not_le, ← scaled_le hdenominator, not_le]
        exact hupper
      have hlower' : c * 2 ^ (e - 2) < q := by
        rw [hc] at hlower
        rw [← hq, ← not_le, ← le_scaled hdenominator, not_le]
        exact hlower
      push_cast at hupper'
      refine .inr ⟨?_, ?_⟩
      · rw [hquarter]
        nlinarith
      · rw [hquarter]
        linarith

/-- What is near the double lies in the interval. -/
theorem contains_of_near {numerator denominator : Nat} (hm : 0 < m) (hdenominator : 0 < denominator)
    (h : Near ((numerator : ℚ) / denominator) m e) :
    (interval m e).contains numerator denominator = true := by
  obtain ⟨c, hc, -, hnarrow, hwide, -⟩ := @low_eq m e hm
  have hquarter := quarter e
  generalize hq : (numerator / denominator : ℚ) = q at h
  have hlow : c * 2 ^ (e - 2) ≤ q := by
    by_cases hcase : IsNarrow m e
    · have hbound := h.narrow hcase
      rw [hquarter] at hbound
      rw [hnarrow hcase]
      linarith
    · have hbound := h.low
      rw [hquarter] at hbound
      rw [hwide hcase]
      linarith
  have hhigh : q ≤ (4 * m + 2 : ℕ) * 2 ^ (e - 2) := by
    have hbound := h.high
    rw [hquarter] at hbound
    push_cast
    linarith
  have hlow' := (scaled_le hdenominator).2 (hq.symm ▸ hlow)
  have hhigh' := (le_scaled hdenominator).2 (hq.symm ▸ hhigh)
  rw [← hc] at hlow'
  refine contains_iff.2 ⟨hlow', hhigh', fun hopen => ?_⟩
  -- An odd significand is not that of a power of two.
  have hodd : m % 2 ≠ 0 := of_decide_eq_false hopen
  have hnot : ¬ IsNarrow m e := by
    rintro ⟨rfl, -⟩
    exact hodd rfl
  obtain ⟨hlower, hupper⟩ := h.tie.resolve_left hodd
  rw [hquarter] at hlower hupper
  rw [hc, ← not_le, ← not_le]
  constructor
  · show ¬ numerator * 2 ^ (2 - e).toNat ≤ c * 2 ^ (e - 2).toNat * denominator
    rw [le_scaled hdenominator, hq, hwide hnot, not_le]
    linarith
  · show ¬ (4 * m + 2) * 2 ^ (e - 2).toNat * denominator ≤ numerator * 2 ^ (2 - e).toNat
    rw [scaled_le hdenominator, hq, not_le]
    push_cast
    linarith

/-! ## Grids -/

/-- The numbers `n · 10 ^ unit`. -/
theorem grid_value (n : Nat) (unit : Int) :
    ((n * 10 ^ unit.toNat : ℕ) : ℚ) / (10 ^ (-unit).toNat : ℕ) = n * 10 ^ unit := by
  push_cast
  rcases le_total 0 unit with h | h
  · have hzero : (-unit).toNat = 0 := by omega
    have hexponent : (unit.toNat : Int) = unit := by omega
    rw [hzero, pow_zero, div_one, ← zpow_natCast, hexponent]
  · have hzero : unit.toNat = 0 := by omega
    have hexponent : unit = -((-unit).toNat : Int) := by omega
    conv_rhs => rw [hexponent, zpow_neg, zpow_natCast]
    rw [hzero, pow_zero, mul_one, div_eq_mul_inv]

/-- What is found on a grid lies in the interval. -/
theorem contains_of_onGrid {i : Interval} {unit : Int} {n : Nat} (h : onGrid i unit = some n) :
    i.contains (n * 10 ^ unit.toNat) (10 ^ (-unit).toNat) = true := by
  unfold onGrid at h
  simp only [Nat.pow_eq] at h
  split at h
  · next hbelow _ =>
      cases h
      exact hbelow
  · next habove =>
      cases h
      exact habove
  · cases h
  · next hbelow habove =>
      split at h
      · cases h
        exact hbelow
      · cases h
        exact habove
      · split at h
        · cases h
          exact hbelow
        · cases h
          exact habove

/-- On a grid that is finer than the interval the number below the double is in the interval. -/
theorem contains_below {up down : Nat} (hm : 0 < m) (hdown : 0 < down)
    (h : up * 2 ^ (2 - e).toNat ≤ 2 ^ (e - 2).toNat * down) (hup : 0 < up) :
    (interval m e).contains
      ((interval m e).value * down / ((interval m e).denominator * up) * up) down = true := by
  obtain ⟨c, hlow, -, -, -, hlt⟩ := @low_eq m e hm
  have hvalue : (interval m e).value = 4 * m * 2 ^ (e - 2).toNat := rfl
  have hhigh : (interval m e).high = (4 * m + 2) * 2 ^ (e - 2).toNat := rfl
  have hdenominator : (interval m e).denominator = 2 ^ (2 - e).toNat := rfl
  have hscale : 0 < 2 ^ (e - 2).toNat * down := by positivity
  have hgrid : 0 < 2 ^ (2 - e).toNat * up := by positivity
  rw [contains_iff, hlow, hvalue, hhigh, hdenominator]
  generalize 2 ^ (e - 2).toNat = scale at *
  generalize 2 ^ (2 - e).toNat = denominator at *
  have hle := Nat.div_mul_le_self (4 * m * scale * down) (denominator * up)
  have hgt := Nat.lt_div_mul_add hgrid (a := 4 * m * scale * down)
  generalize 4 * m * scale * down / (denominator * up) = below at *
  have hquarter : c * scale * down + scale * down ≤ 4 * m * scale * down := by
    calc c * scale * down + scale * down = (c + 1) * (scale * down) := by ring
      _ ≤ 4 * m * (scale * down) := Nat.mul_le_mul_right _ hlt
      _ = 4 * m * scale * down := by ring
  have hbelow : below * up * denominator = below * (denominator * up) := by ring
  have htop : (4 * m + 2) * scale * down = 4 * m * scale * down + 2 * (scale * down) := by ring
  have hspacing : denominator * up ≤ scale * down := by rwa [Nat.mul_comm denominator]
  rw [hbelow, htop]
  omega

/-- A grid that is finer than the interval holds a number of it. -/
theorem onGrid_ne_none {unit : Int} (hm : 0 < m) (h : (10 : ℚ) ^ unit ≤ 2 ^ (e - 2)) :
    onGrid (interval m e) unit ≠ none := by
  have hdown : 0 < 10 ^ (-unit).toNat := by positivity
  have hvalue := grid_value 1 unit
  rw [Nat.cast_one, one_mul, one_mul] at hvalue
  have hfine : 10 ^ unit.toNat * 2 ^ (2 - e).toNat ≤ 1 * 2 ^ (e - 2).toNat * 10 ^ (-unit).toNat := by
    rw [le_scaled hdown, hvalue, Nat.cast_one, one_mul]
    exact h
  rw [Nat.one_mul] at hfine
  have hbelow := contains_below hm hdown hfine (by positivity)
  unfold onGrid
  simp only [Nat.pow_eq, hbelow]
  split
  · simp
  · next hfalse _ => cases hfalse
  · next hfalse _ => cases hfalse
  · split <;> simp

/-! ## The search -/

/-- The search ends at the first grid that holds a number of the interval, if one within reach does. -/
theorem search_eq {i : Interval} {point : Int} {steps count : Nat}
    (h : ∃ k < steps, onGrid i (point - (count + k : Nat)) ≠ none) :
    ∃ (c n : Nat), onGrid i (point - c) = some n ∧
      (count ≤ c ∧ ∀ k : Nat, count ≤ k → k < c → onGrid i (point - k) = none) ∧
      search i point steps count = ⟨stripZeros 20 n, point + (digitCount n : Int) - c⟩ := by
  induction steps generalizing count with
  | zero =>
      obtain ⟨k, hk, -⟩ := h
      omega
  | succ steps ih =>
      unfold search
      cases hgrid : onGrid i (point - count) with
      | some n => exact ⟨count, n, hgrid, ⟨le_rfl, fun k hk hlt => by omega⟩, rfl⟩
      | none =>
          obtain ⟨k, hk, hfound⟩ := h
          have hpos : k ≠ 0 := by
            rintro rfl
            exact hfound hgrid
          obtain ⟨c, n, hsome, ⟨hle, hfirst⟩, hsearch⟩ := ih ⟨k - 1, by omega, by
            rwa [show count + 1 + (k - 1) = count + k by omega]⟩
          refine ⟨c, n, hsome, ⟨by omega, fun j hj hlt => ?_⟩, hsearch⟩
          rcases hj.eq_or_lt with rfl | hgt
          · exact hgrid
          · exact hfirst j hgt hlt

theorem digitCount_mul_ten {n : Nat} (hn : 0 < n) : digitCount (n * 10) = digitCount n + 1 := by
  have happend := Nat.toDigits_append_toDigits (b := 10) (d := 0) (by decide) hn (by decide)
  rw [Nat.add_zero, Nat.mul_comm] at happend
  rw [digitCount, ← happend, List.length_append]
  rfl

/-- Stripping zeros divides by a power of ten and takes as many digits away. -/
theorem stripZeros_spec (steps : Nat) {n : Nat} (hn : 0 < n) :
    ∃ k, n = stripZeros steps n * 10 ^ k ∧ digitCount n = digitCount (stripZeros steps n) + k := by
  induction steps generalizing n with
  | zero => exact ⟨0, by rw [stripZeros, pow_zero, Nat.mul_one], rfl⟩
  | succ steps ih =>
      unfold stripZeros
      split
      · next hzero =>
          have htenth : n = n / 10 * 10 := by omega
          have hpos : 0 < n / 10 := by omega
          obtain ⟨k, hvalue, hcount⟩ := ih hpos
          refine ⟨k + 1, ?_, ?_⟩
          · rw [pow_succ, ← Nat.mul_assoc, ← hvalue, ← htenth]
          · rw [← Nat.add_assoc, ← hcount, ← digitCount_mul_ten hpos, ← htenth]
      · exact ⟨0, by rw [pow_zero, Nat.mul_one], rfl⟩

/-- The search for the point ends at its start, or above a power of ten that the value reaches. -/
theorem pointFrom_spec (i : Interval) (steps : Nat) (start : Int) :
    pointFrom i steps start = start ∨
      i.denominator * 10 ^ (pointFrom i steps start - 1).toNat ≤
        i.value * 10 ^ (-(pointFrom i steps start - 1)).toNat := by
  induction steps generalizing start with
  | zero => exact .inl rfl
  | succ steps ih =>
      unfold pointFrom
      split
      · exact .inl rfl
      · next hvalue =>
          rcases ih (start + 1) with hstart | hreached
          · rw [hstart, show start + 1 - 1 = start by omega]
            exact .inr (Nat.not_lt.1 hvalue)
          · exact .inr hreached

/-! ## Powers of two and ten -/

theorem ten_pow_le_two_pow_of_le {j k : Nat} (h : 10 * j ≤ 3 * k) : 10 ^ j ≤ 2 ^ k := by
  refine (Nat.pow_le_pow_iff_left (n := 3) (by decide)).1 ?_
  calc (10 ^ j) ^ 3 = (10 ^ 3) ^ j := by rw [← pow_mul, ← pow_mul, Nat.mul_comm]
    _ ≤ (2 ^ 10) ^ j := Nat.pow_le_pow_left (by decide) j
    _ = 2 ^ (10 * j) := (pow_mul 2 10 j).symm
    _ ≤ 2 ^ (3 * k) := Nat.pow_le_pow_right (by decide) h
    _ = (2 ^ k) ^ 3 := by rw [← pow_mul, Nat.mul_comm]

theorem two_pow_le_ten_pow_of_le {j k : Nat} (h : 28 * j ≤ 93 * k) : 2 ^ j ≤ 10 ^ k := by
  refine (Nat.pow_le_pow_iff_left (n := 93) (by decide)).1 ?_
  calc (2 ^ j) ^ 93 = (2 ^ 93) ^ j := by rw [← pow_mul, ← pow_mul, Nat.mul_comm]
    _ ≤ (10 ^ 28) ^ j := Nat.pow_le_pow_left (by decide) j
    _ = 10 ^ (28 * j) := (pow_mul 10 28 j).symm
    _ ≤ 10 ^ (93 * k) := Nat.pow_le_pow_right (by decide) h
    _ = (10 ^ k) ^ 93 := by rw [← pow_mul, Nat.mul_comm]

/-- A power of ten is at most a power of two if the exponents are far enough apart. -/
theorem ten_zpow_le_two_zpow {j k : Int} (hpos : 0 ≤ j → 10 * j ≤ 3 * k)
    (hneg : j ≤ 0 → 93 * j ≤ 28 * k) : (10 : ℚ) ^ j ≤ 2 ^ k := by
  rcases le_total 0 j with hj | hj
  · obtain ⟨a, rfl⟩ : ∃ a : Nat, j = a := ⟨j.toNat, by omega⟩
    obtain ⟨b, rfl⟩ : ∃ b : Nat, k = b := ⟨k.toNat, by omega⟩
    rw [zpow_natCast, zpow_natCast]
    exact_mod_cast ten_pow_le_two_pow_of_le (by omega)
  · obtain ⟨a, rfl⟩ : ∃ a : Nat, j = -a := ⟨(-j).toNat, by omega⟩
    rcases le_total 0 k with hk | hk
    · calc (10 : ℚ) ^ (-(a : Int)) ≤ 1 := zpow_le_one_of_nonpos₀ (by norm_num) hj
        _ ≤ 2 ^ k := one_le_zpow₀ (by norm_num) hk
    · obtain ⟨b, rfl⟩ : ∃ b : Nat, k = -b := ⟨(-k).toNat, by omega⟩
      rw [zpow_neg, zpow_neg, zpow_natCast, zpow_natCast]
      refine inv_anti₀ (by positivity) ?_
      exact_mod_cast two_pow_le_ten_pow_of_le (by omega)

/-- The grid of twenty digits is finer than the interval. -/
theorem twenty_digits (h : Canonical m e) (steps : Nat) :
    (10 : ℚ) ^ (pointFrom (interval m e) steps
      (((m.log2 : Int) + e) * 30103 / 100000 - 1) - 20) ≤ 2 ^ (e - 2) := by
  have hleast := h.least
  have hgreatest := h.greatest
  have hlog : m.log2 < 53 := (Nat.log2_lt h.pos.ne').2 h.lt
  rcases pointFrom_spec (interval m e) steps (((m.log2 : Int) + e) * 30103 / 100000 - 1) with
    hstart | hreached
  · rw [hstart]
    exact ten_zpow_le_two_zpow (by omega) (by omega)
  · generalize pointFrom (interval m e) steps _ = point at hreached ⊢
    have hvalue := grid_value 1 (point - 1)
    rw [Nat.cast_one, one_mul, one_mul] at hvalue
    have hle : (10 : ℚ) ^ (point - 1) ≤ (4 * m : ℕ) * 2 ^ (e - 2) := by
      rw [← hvalue, ← le_scaled (by positivity), Nat.mul_comm]
      exact hreached
    have hm : (m : ℚ) < 2 ^ 53 := by exact_mod_cast h.lt
    have hpow : (10 : ℚ) ^ (point - 20) = 10 ^ (point - 1) / 10 ^ 19 := by
      rw [show point - 20 = point - 1 - 19 by omega, zpow_sub₀ (by norm_num)]
      norm_num
    have hpos := two_zpow_pos (e - 2)
    push_cast at hle
    rw [hpow, div_le_iff₀ (by positivity)]
    calc (10 : ℚ) ^ (point - 1) ≤ 4 * m * 2 ^ (e - 2) := hle
      _ ≤ 10 ^ 19 * 2 ^ (e - 2) := mul_le_mul_of_nonneg_right (by linarith) hpos.le
      _ = 2 ^ (e - 2) * 10 ^ 19 := mul_comm _ _

end Shortest

/-- The rational number that a decimal is. -/
def Decimal.value (d : Decimal) : ℚ :=
  d.digits * 10 ^ (d.point - (Shortest.digitCount d.digits : Int))

/-- The shortest digits of a double are a decimal near it. -/
theorem digits_near {m : Nat} {e : Int} (h : Canonical m e) :
    Near (Shortest.digits m e).value m e := by
  have hfine := Shortest.twenty_digits h 5
  unfold Shortest.digits
  simp only
  generalize Shortest.pointFrom (Shortest.interval m e) 5 _ = point at hfine ⊢
  obtain ⟨c, n, hgrid, -, hsearch⟩ := @Shortest.search_eq (Shortest.interval m e) point 20 1
    ⟨19, by decide, Shortest.onGrid_ne_none h.pos hfine⟩
  have hnear := Shortest.near_of_contains h.pos (by positivity) (Shortest.contains_of_onGrid hgrid)
  rw [Shortest.grid_value] at hnear
  have hn : 0 < n := by
    refine Nat.pos_of_ne_zero fun hzero => ?_
    have hpos := hnear.pos h.pos
    rw [hzero, Nat.cast_zero, zero_mul] at hpos
    exact lt_irrefl _ hpos
  obtain ⟨k, hvalue, hcount⟩ := Shortest.stripZeros_spec 20 hn
  have hexponent : point + (Shortest.digitCount n : Int) - c -
      Shortest.digitCount (Shortest.stripZeros 20 n) = k + (point - c) := by
    rw [hcount]
    push_cast
    omega
  have hcast : (n : ℚ) = Shortest.stripZeros 20 n * 10 ^ k := by exact_mod_cast hvalue
  rw [hsearch]
  simp only [Decimal.value]
  rw [hexponent, zpow_add₀ (by norm_num), zpow_natCast, ← mul_assoc, ← hcast]
  exact hnear

end RollScript

import Mathlib
import RollScript.Proofs.Numbers.Neighbours

/-!
# The shortest decimal of a double

Read `ShortestDecimal` first: it says which decimal a double is written with, the one nearest to it among
those with the fewest digits that are read as it. `digits_shortest` says that the search finds it. A decimal near
a double has a number near the double on the grid of as many digits (`exists_on_grid`), so the first grid that
holds one has the fewest digits, and the better neighbour on that grid is the nearest (`onGrid_some`).
-/

namespace RollScript

/-- A double is written with the decimal `s · 10 ^ (n - k)`: `s` has `k` digits, the decimal is read as the double,
none with fewer digits is, and of those with as many digits it is nearest to the double, with an even `s` if two
are. -/
structure ShortestDecimal (m : Nat) (e : Int) (s k : Nat) (n : Int) : Prop where
  positive : 1 ≤ k
  low : 10 ^ (k - 1) ≤ s
  high : s < 10 ^ k
  near : Near (s * 10 ^ (n - k)) m e
  shortest : ∀ (s' k' : Nat) (j : Int), s' < 10 ^ k' → Near (s' * 10 ^ j) m e → k ≤ k'
  closest : ∀ (s' : Nat) (j : Int), s' < 10 ^ k → Near (s' * 10 ^ j) m e →
    |(s : ℚ) * 10 ^ (n - k) - m * 2 ^ e| ≤ |(s' : ℚ) * 10 ^ j - m * 2 ^ e|
  even : ∀ s' : Nat, Near (s' * 10 ^ (n - k)) m e →
    |(s' : ℚ) * 10 ^ (n - k) - m * 2 ^ e| = |(s : ℚ) * 10 ^ (n - k) - m * 2 ^ e| → s' = s ∨ s % 2 = 0

namespace Shortest

variable {m : Nat} {e : Int}

theorem ten_zpow_pos (j : Int) : (0 : ℚ) < 10 ^ j :=
  zpow_pos (by norm_num) j

theorem ten_pow_mul {i : Nat} {j l : Int} (h : i + j = l) : ((10 ^ i : ℕ) : ℚ) * 10 ^ j = 10 ^ l := by
  rw [Nat.cast_pow, Nat.cast_ofNat, ← zpow_natCast, ← zpow_add₀ (by norm_num), h]

/-! ## The neighbours on a grid -/

theorem contains_grid_iff (hm : 0 < m) (n : Nat) (unit : Int) :
    (interval m e).contains (n * 10 ^ unit.toNat) (10 ^ (-unit).toNat) = true ↔ Near (n * 10 ^ unit) m e := by
  rw [← grid_value]
  exact ⟨near_of_contains hm (by positivity), contains_of_near hm (by positivity)⟩

/-- The value of an interval is that of its double. -/
theorem interval_value (m : Nat) (e : Int) :
    ((interval m e).value : ℚ) / (interval m e).denominator = m * 2 ^ e := by
  show ((4 * m * 2 ^ (e - 2).toNat : ℕ) : ℚ) / (2 ^ (2 - e).toNat : ℕ) = _
  rw [Nat.cast_mul, mul_div_assoc, scale_eq, quarter e]
  push_cast
  ring

/-- A multiple of the double against a number of a grid. -/
theorem grid_le_iff (c a : Nat) (unit : Int) :
    a * 10 ^ unit.toNat * (interval m e).denominator ≤ c * (interval m e).value * 10 ^ (-unit).toNat ↔
      (a : ℚ) * 10 ^ unit ≤ c * (m * 2 ^ e) := by
  have hdenominator : (0 : ℚ) < ((interval m e).denominator : ℕ) := by
    exact_mod_cast Nat.two_pow_pos (2 - e).toNat
  have hdown : (0 : ℚ) < ((10 ^ (-unit).toNat : ℕ) : ℚ) := by positivity
  rw [← grid_value, ← interval_value, mul_div_assoc', div_le_div_iff₀ hdown hdenominator]
  exact_mod_cast Iff.rfl

theorem le_grid_iff (c a : Nat) (unit : Int) :
    c * (interval m e).value * 10 ^ (-unit).toNat ≤ a * 10 ^ unit.toNat * (interval m e).denominator ↔
      c * (m * 2 ^ e) ≤ (a : ℚ) * 10 ^ unit := by
  have hdenominator : (0 : ℚ) < ((interval m e).denominator : ℕ) := by
    exact_mod_cast Nat.two_pow_pos (2 - e).toNat
  have hdown : (0 : ℚ) < ((10 ^ (-unit).toNat : ℕ) : ℚ) := by positivity
  rw [← grid_value, ← interval_value, mul_div_assoc', div_le_div_iff₀ hdenominator hdown]
  exact_mod_cast Iff.rfl

/-- The number below the double on a grid. -/
def below (m : Nat) (e unit : Int) : Nat :=
  (interval m e).value * 10 ^ (-unit).toNat / ((interval m e).denominator * 10 ^ unit.toNat)

theorem below_le (m : Nat) (e unit : Int) : (below m e unit : ℚ) * 10 ^ unit ≤ m * 2 ^ e := by
  have hle := Nat.div_mul_le_self ((interval m e).value * 10 ^ (-unit).toNat)
    ((interval m e).denominator * 10 ^ unit.toNat)
  have hgrid := (grid_le_iff (m := m) (e := e) 1 (below m e unit) unit).1 (by
    rw [below]
    linarith)
  rwa [Nat.cast_one, one_mul] at hgrid

theorem lt_above (m : Nat) (e unit : Int) : (m : ℚ) * 2 ^ e < (below m e unit + 1) * 10 ^ unit := by
  have hpos : 0 < (interval m e).denominator * 10 ^ unit.toNat :=
    Nat.mul_pos (Nat.two_pow_pos (2 - e).toNat) (by positivity)
  have hlt := Nat.lt_div_mul_add hpos (a := (interval m e).value * 10 ^ (-unit).toNat)
  have hgrid := mt (grid_le_iff (m := m) (e := e) 1 (below m e unit + 1) unit).2 (by
    rw [below, not_le]
    linarith)
  rw [not_le] at hgrid
  push_cast at hgrid
  rwa [one_mul] at hgrid

/-- A number between the double and one that is read as it is read as the double too, and is not further from it. -/
theorem near_raised {q g : ℚ} (h : Near q m e) (hq : q ≤ g) (hg : g ≤ m * 2 ^ e) :
    Near g m e ∧ |g - m * 2 ^ e| ≤ |q - m * 2 ^ e| := by
  refine ⟨h.between (near_self m e) hq hg, ?_⟩
  rw [abs_of_nonpos (by linarith), abs_of_nonpos (by linarith)]
  linarith

theorem near_lowered {q g : ℚ} (h : Near q m e) (hg : m * 2 ^ e ≤ g) (hq : g ≤ q) :
    Near g m e ∧ |g - m * 2 ^ e| ≤ |q - m * 2 ^ e| := by
  refine ⟨(near_self m e).between h hg hq, ?_⟩
  rw [abs_of_nonneg (by linarith), abs_of_nonneg (by linarith)]
  linarith

variable {unit : Int}

theorem grid_mono {a b : Nat} (h : a ≤ b) (unit : Int) : (a : ℚ) * 10 ^ unit ≤ b * 10 ^ unit :=
  mul_le_mul_of_nonneg_right (by exact_mod_cast h) (ten_zpow_pos unit).le

theorem grid_step {a b : Nat} (h : a < b) (unit : Int) : (a + 1 : ℚ) * 10 ^ unit ≤ b * 10 ^ unit := by
  have hmono := grid_mono (Nat.succ_le_of_lt h) unit
  rwa [Nat.succ_eq_add_one, Nat.cast_succ] at hmono

/-- How far the numbers of a grid are from the double. -/
theorem distance_below {a : Nat} (h : a ≤ below m e unit) :
    |(a : ℚ) * 10 ^ unit - m * 2 ^ e| = m * 2 ^ e - a * 10 ^ unit := by
  have hle := below_le m e unit
  have hmono := grid_mono h unit
  rw [abs_of_nonpos (by linarith), neg_sub]

theorem distance_above {a : Nat} (h : below m e unit < a) :
    |(a : ℚ) * 10 ^ unit - m * 2 ^ e| = a * 10 ^ unit - m * 2 ^ e := by
  have hlt := lt_above m e unit
  have hmono := grid_step h unit
  rw [abs_of_nonneg (by linarith)]

/-- The number of a grid that a double is written with, if there is one: no other number of the grid is nearer to
the double, and at a tie it is even. -/
structure BestOnGrid (m : Nat) (e unit : Int) (n : Nat) : Prop where
  near : Near (n * 10 ^ unit) m e
  neighbour : n = below m e unit ∨ n = below m e unit + 1
  closest : ∀ a : Nat, Near (a * 10 ^ unit) m e →
    |(n : ℚ) * 10 ^ unit - m * 2 ^ e| ≤ |(a : ℚ) * 10 ^ unit - m * 2 ^ e|
  even : ∀ a : Nat, Near (a * 10 ^ unit) m e →
    |(a : ℚ) * 10 ^ unit - m * 2 ^ e| = |(n : ℚ) * 10 ^ unit - m * 2 ^ e| → a = n ∨ n % 2 = 0

/-- A neighbour of the double is the best number of a grid if every other number is further, or as far and the
neighbour even. -/
theorem BestOnGrid.of_cases {n : Nat} (hnear : Near (n * 10 ^ unit) m e)
    (hneighbour : n = below m e unit ∨ n = below m e unit + 1)
    (hcases : ∀ a : Nat, Near (a * 10 ^ unit) m e →
      |(n : ℚ) * 10 ^ unit - m * 2 ^ e| < |(a : ℚ) * 10 ^ unit - m * 2 ^ e| ∨
      |(n : ℚ) * 10 ^ unit - m * 2 ^ e| ≤ |(a : ℚ) * 10 ^ unit - m * 2 ^ e| ∧ (a = n ∨ n % 2 = 0)) :
    BestOnGrid m e unit n := by
  refine ⟨hnear, hneighbour, fun a ha => ?_, fun a ha heq => ?_⟩
  · rcases hcases a ha with hlt | ⟨hle, -⟩
    · exact hlt.le
    · exact hle
  · rcases hcases a ha with hlt | ⟨-, h⟩
    · exact absurd heq hlt.ne'
    · exact h

/-- The number below the double is the best if the one above is not read as the double or is further. -/
theorem best_below (hnear : Near (below m e unit * 10 ^ unit) m e)
    (habove : Near ((below m e unit + 1 : ℕ) * 10 ^ unit) m e →
      2 * (m * 2 ^ e : ℚ) < (below m e unit + (below m e unit + 1)) * 10 ^ unit ∨
      2 * (m * 2 ^ e : ℚ) = (below m e unit + (below m e unit + 1)) * 10 ^ unit ∧ below m e unit % 2 = 0) :
    BestOnGrid m e unit (below m e unit) := by
  refine .of_cases hnear (.inl rfl) fun a ha => ?_
  rw [distance_below le_rfl]
  rcases lt_trichotomy a (below m e unit) with hlt | rfl | hgt
  · have hmono := grid_step hlt unit
    have hpos := ten_zpow_pos unit
    rw [distance_below hlt.le]
    exact .inl (by linarith)
  · rw [distance_below le_rfl]
    exact .inr ⟨le_rfl, .inl rfl⟩
  · have hmono := grid_step hgt unit
    rw [distance_above hgt]
    have hnext := (near_lowered ha (lt_above m e unit).le hmono).1
    rcases habove (by push_cast; exact hnext) with hfar | ⟨htie, heven⟩
    · exact .inl (by linarith)
    · exact .inr ⟨by linarith, .inr heven⟩

/-- The number above the double is the best if the one below is not read as the double or is further. -/
theorem best_above (hnear : Near ((below m e unit + 1 : ℕ) * 10 ^ unit) m e)
    (hbelow : Near (below m e unit * 10 ^ unit) m e →
      (below m e unit + (below m e unit + 1)) * 10 ^ unit < 2 * (m * 2 ^ e : ℚ) ∨
      2 * (m * 2 ^ e : ℚ) = (below m e unit + (below m e unit + 1)) * 10 ^ unit ∧ below m e unit % 2 = 1) :
    BestOnGrid m e unit (below m e unit + 1) := by
  refine .of_cases hnear (.inr rfl) fun a ha => ?_
  rw [distance_above (Nat.lt_succ_self _)]
  rcases lt_trichotomy a (below m e unit + 1) with hlt | rfl | hgt
  · have hle := Nat.le_of_lt_succ hlt
    have hmono := grid_mono hle unit
    have hnext := (near_raised ha hmono (below_le m e unit)).1
    rw [distance_below hle]
    push_cast
    rcases hbelow hnext with hfar | ⟨htie, hodd⟩
    · exact .inl (by linarith)
    · exact .inr ⟨by linarith, .inr (by omega)⟩
  · rw [distance_above (Nat.lt_succ_self _)]
    exact .inr ⟨le_rfl, .inl rfl⟩
  · have hmono := grid_step hgt unit
    have hpos := ten_zpow_pos unit
    rw [distance_above (by omega)]
    exact .inl (by linarith)

theorem onGrid_eq (m : Nat) (e unit : Int) : onGrid (interval m e) unit =
    match (interval m e).contains (below m e unit * 10 ^ unit.toNat) (10 ^ (-unit).toNat),
      (interval m e).contains ((below m e unit + 1) * 10 ^ unit.toNat) (10 ^ (-unit).toNat) with
    | true, false => some (below m e unit)
    | false, true => some (below m e unit + 1)
    | false, false => none
    | true, true =>
      match compare (2 * (interval m e).value * 10 ^ (-unit).toNat)
        ((below m e unit + (below m e unit + 1)) * 10 ^ unit.toNat * (interval m e).denominator) with
      | .lt => some (below m e unit)
      | .gt => some (below m e unit + 1)
      | .eq => some (if below m e unit % 2 = 0 then below m e unit else below m e unit + 1) :=
  rfl

/-- What is found on a grid is the best number of it. -/
theorem onGrid_some (hm : 0 < m) {n : Nat} (h : onGrid (interval m e) unit = some n) :
    BestOnGrid m e unit n := by
  have hbelow := contains_grid_iff (e := e) hm (below m e unit) unit
  have habove := contains_grid_iff (e := e) hm (below m e unit + 1) unit
  have hless := le_grid_iff (m := m) (e := e) 2 (below m e unit + (below m e unit + 1)) unit
  have hmore := grid_le_iff (m := m) (e := e) 2 (below m e unit + (below m e unit + 1)) unit
  push_cast at hless hmore
  rw [onGrid_eq] at h
  split at h
  · next hin hout =>
      cases h
      exact best_below (hbelow.1 hin) fun hnear => absurd (habove.2 hnear) (by simp [hout])
  · next hout hin =>
      cases h
      exact best_above (habove.1 hin) fun hnear => absurd (hbelow.2 hnear) (by simp [hout])
  · cases h
  · next hin hin' =>
      split at h
      · next hlt =>
          cases h
          rw [Nat.compare_eq_lt, ← not_le, hmore, not_le] at hlt
          exact best_below (hbelow.1 hin) fun _ => .inl hlt
      · next hgt =>
          cases h
          rw [Nat.compare_eq_gt, ← not_le, hless, not_le] at hgt
          exact best_above (habove.1 hin') fun _ => .inl hgt
      · next heq =>
          rw [Nat.compare_eq_eq] at heq
          have htie := le_antisymm (hless.1 heq.le) (hmore.1 heq.ge)
          cases h
          split
          · next heven => exact best_below (hbelow.1 hin) fun _ => .inr ⟨htie, heven⟩
          · next hodd => exact best_above (habove.1 hin') fun _ => .inr ⟨htie, by omega⟩

/-- Where nothing is found on a grid, no number of it is read as the double. -/
theorem onGrid_none (hm : 0 < m) (h : onGrid (interval m e) unit = none) (a : Nat) :
    ¬ Near (a * 10 ^ unit) m e := by
  intro ha
  have hbelow := contains_grid_iff (e := e) hm (below m e unit) unit
  have habove := contains_grid_iff (e := e) hm (below m e unit + 1) unit
  rw [onGrid_eq] at h
  have hneither : ¬ Near (below m e unit * 10 ^ unit) m e ∧ ¬ Near ((below m e unit + 1 : ℕ) * 10 ^ unit) m e := by
    rw [← hbelow, ← habove]
    split at h
    · cases h
    · cases h
    · next hout hout' => exact ⟨by simp [hout], by simp [hout']⟩
    · split at h <;> cases h
  rcases le_or_gt a (below m e unit) with hle | hgt
  · exact hneither.1 (near_raised ha (grid_mono hle unit) (below_le m e unit)).1
  · exact hneither.2 (near_lowered ha (by push_cast; exact (lt_above m e unit).le) (by push_cast; exact grid_step hgt unit)).1

/-! ## The point -/

theorem two_zpow_le_ten_zpow {j k : Int} (hpos : 0 ≤ j → 28 * j ≤ 93 * k) (hneg : j ≤ 0 → 3 * j ≤ 10 * k) :
    (2 : ℚ) ^ j ≤ 10 ^ k := by
  have hinverse := ten_zpow_le_two_zpow (j := -k) (k := -j) (by omega) (by omega)
  rw [zpow_neg, zpow_neg] at hinverse
  exact (inv_le_inv₀ (ten_zpow_pos k) (two_zpow_pos j)).1 hinverse

theorem lt_point_iff (m : Nat) (e p : Int) :
    (interval m e).value * 10 ^ (-p).toNat < (interval m e).denominator * 10 ^ p.toNat ↔
      (m : ℚ) * 2 ^ e < 10 ^ p := by
  have hgrid := grid_le_iff (m := m) (e := e) 1 1 p
  rw [Nat.cast_one, one_mul, one_mul, one_mul, one_mul] at hgrid
  rw [← not_le, ← not_le, Nat.mul_comm (interval m e).denominator, hgrid]

/-- The search for the point stops once it has passed the value. -/
theorem pointFrom_lt {i : Interval} {steps k : Nat} {start : Int} (hk : k < steps)
    (h : i.value * 10 ^ (-(start + k)).toNat < i.denominator * 10 ^ (start + k).toNat) :
    i.value * 10 ^ (-pointFrom i steps start).toNat < i.denominator * 10 ^ (pointFrom i steps start).toNat := by
  induction steps generalizing start k with
  | zero => omega
  | succ steps ih =>
      unfold pointFrom
      split
      · next hvalue => exact hvalue
      · next hvalue =>
          obtain ⟨j, rfl⟩ : ∃ j, k = j + 1 := by
            refine Nat.exists_eq_add_one_of_ne_zero ?_
            rintro rfl
            rw [Nat.cast_zero, add_zero] at h
            exact hvalue h
          refine ih (k := j) (by omega) ?_
          rwa [show start + 1 + (j : Int) = start + (j + 1 : ℕ) by omega]

/-- The number of digits before the point. -/
def point (m : Nat) (e : Int) : Int :=
  pointFrom (interval m e) 5 (((m.log2 : Int) + e) * 30103 / 100000 - 1)

/-- A double lies between the powers of ten on both sides of its leading digit. -/
theorem point_bounds (h : Canonical m e) :
    (10 : ℚ) ^ (point m e - 1) ≤ m * 2 ^ e ∧ (m : ℚ) * 2 ^ e < 10 ^ point m e := by
  have hleast := h.least
  have hgreatest := h.greatest
  have hlog : m.log2 < 53 := (Nat.log2_lt h.pos.ne').2 h.lt
  obtain ⟨hlow, hhigh⟩ := log_bounds h.pos e
  constructor
  · rcases pointFrom_spec (interval m e) 5 (((m.log2 : Int) + e) * 30103 / 100000 - 1) with hstart | hreached
    · rw [point, hstart]
      exact (ten_zpow_le_two_zpow (by omega) (by omega)).trans hlow
    · exact not_lt.1 (mt (lt_point_iff m e _).2 (not_lt.2 hreached))
  · refine (lt_point_iff m e _).1 (pointFrom_lt (k := 4) (by decide) ?_)
    rw [lt_point_iff]
    exact hhigh.trans_le (two_zpow_le_ten_zpow (by omega) (by omega))

/-! ## The first grid -/

/-- Zero is not read as another double. -/
theorem digits_pos_of_near (hm : 0 < m) {s : Nat} {j : Int} (h : Near (s * 10 ^ j) m e) : 0 < s := by
  refine Nat.pos_of_ne_zero ?_
  rintro rfl
  have hpos := h.pos hm
  rw [Nat.cast_zero, zero_mul] at hpos
  exact lt_irrefl _ hpos

/-- A decimal that is read as the double has a number on the grid of as many digits that is read as it as well, and
is not further from it. -/
theorem exists_on_grid {p : Int} (hlow : (10 : ℚ) ^ (p - 1) ≤ m * 2 ^ e) (hhigh : (m : ℚ) * 2 ^ e < 10 ^ p)
    (hm : 0 < m) {s k : Nat} {j : Int} (hs : s < 10 ^ k) (h : Near (s * 10 ^ j) m e) :
    1 ≤ k ∧ ∃ a : Nat, Near (a * 10 ^ (p - k)) m e ∧
      |(a : ℚ) * 10 ^ (p - k) - m * 2 ^ e| ≤ |(s : ℚ) * 10 ^ j - m * 2 ^ e| := by
  have hspos := digits_pos_of_near hm h
  have hk : 1 ≤ k := by
    refine Nat.pos_of_ne_zero ?_
    rintro rfl
    omega
  refine ⟨hk, ?_⟩
  -- Decimals off the leading digit of the double are replaced by the power of ten between.
  rcases lt_or_ge ((s : ℚ) * 10 ^ j) (10 ^ (p - 1)) with hless | hge
  · have hvalue := ten_pow_mul (i := k - 1) (j := p - k) (l := p - 1) (by omega)
    exact ⟨10 ^ (k - 1), by rw [hvalue]; exact near_raised h hless.le hlow⟩
  · rcases lt_or_ge (10 ^ p) ((s : ℚ) * 10 ^ j) with hmore | hle
    · have hvalue := ten_pow_mul (i := k) (j := p - k) (l := p) (by omega)
      exact ⟨10 ^ k, by rw [hvalue]; exact near_lowered h hhigh.le hmore.le⟩
    · -- the decimal has its leading digit where the double has it
      have hten : (10 : ℚ) ≠ 0 := by norm_num
      have hexponent : p - 1 < k + j := by
        have hlt : (10 : ℚ) ^ (p - 1) < 10 ^ (k + j : Int) := by
          have hcast : (s : ℚ) < 10 ^ k := by exact_mod_cast hs
          rw [zpow_add₀ hten, zpow_natCast]
          exact hge.trans_lt (mul_lt_mul_of_pos_right hcast (ten_zpow_pos j))
        exact (zpow_lt_zpow_iff_right₀ (by norm_num)).1 hlt
      have hvalue : ((s * 10 ^ (j - (p - k)).toNat : ℕ) : ℚ) * 10 ^ (p - k) = s * 10 ^ j := by
        push_cast
        rw [mul_assoc, ← zpow_natCast, ← zpow_add₀ hten]
        congr 2
        omega
      exact ⟨s * 10 ^ (j - (p - k)).toNat, by rw [hvalue]; exact ⟨h, le_rfl⟩⟩

theorem digitCount_le_iff {n k : Nat} (hk : 0 < k) : digitCount n ≤ k ↔ n < 10 ^ k :=
  Nat.length_toDigits_le_iff (by decide) hk

theorem digitCount_pos (n : Nat) : 0 < digitCount n :=
  Nat.length_toDigits_pos

theorem pow_digitCount_le {n : Nat} (hn : 0 < n) : 10 ^ (digitCount n - 1) ≤ n := by
  have hpos := digitCount_pos n
  rcases Nat.eq_zero_or_pos (digitCount n - 1) with hzero | hone
  · rw [hzero, pow_zero]
    exact hn
  · rw [← not_lt, ← digitCount_le_iff hone]
    omega

theorem lt_pow_digitCount (n : Nat) : n < 10 ^ digitCount n :=
  (digitCount_le_iff (digitCount_pos n)).1 le_rfl

/-- The best number of a grid of `c` digits has `c` digits, or is the power of ten above. -/
theorem BestOnGrid.bounds {c n : Nat} {p : Int} (hc : 1 ≤ c) (hlow : (10 : ℚ) ^ (p - 1) ≤ m * 2 ^ e)
    (hhigh : (m : ℚ) * 2 ^ e < 10 ^ p) (h : BestOnGrid m e (p - c) n) : 10 ^ (c - 1) ≤ n ∧ n ≤ 10 ^ c := by
  have hpos := ten_zpow_pos (p - c)
  have hfirst := ten_pow_mul (i := c - 1) (j := p - c) (l := p - 1) (by omega)
  have hlast := ten_pow_mul (i := c) (j := p - c) (l := p) (by omega)
  have hge : 10 ^ (c - 1) < below m e (p - c) + 1 := by
    have hlt := hlow.trans_lt (lt_above m e (p - c))
    rw [← hfirst] at hlt
    exact_mod_cast lt_of_mul_lt_mul_right hlt hpos.le
  have hle : below m e (p - c) < 10 ^ c := by
    have hlt := (below_le m e (p - c)).trans_lt hhigh
    rw [← hlast] at hlt
    exact_mod_cast lt_of_mul_lt_mul_right hlt hpos.le
  rcases h.neighbour with rfl | rfl <;> omega

/-- The digits of the best number of a grid, without the zeros at the end. Only the power of ten above the double
has any, as otherwise fewer digits would do. -/
theorem stripped {c n : Nat} (hc : 1 ≤ c) (hbounds : 10 ^ (c - 1) ≤ n ∧ n ≤ 10 ^ c)
    (hfirst : ∀ s k z : Nat, s < 10 ^ k → n = s * 10 ^ z → c ≤ k) :
    stripZeros 20 n = n ∧ digitCount n = c ∨ c = 1 ∧ n = 10 := by
  have hn : 0 < n := (Nat.pow_pos (by decide)).trans_le hbounds.1
  rcases hbounds.2.eq_or_lt with rfl | hlt
  · have hone : c = 1 := le_antisymm (hfirst 1 1 c (by decide) (by rw [Nat.one_mul])) hc
    rw [hone]
    exact .inr ⟨rfl, rfl⟩
  · obtain ⟨z, hvalue, hcount⟩ := stripZeros_spec 20 hn
    have hle := (digitCount_le_iff hc).2 hlt
    have hge := hfirst _ _ z (lt_pow_digitCount (stripZeros 20 n)) hvalue
    obtain rfl : z = 0 := by omega
    rw [pow_zero, Nat.mul_one] at hvalue
    exact .inl ⟨hvalue.symm, by omega⟩

/-- A decimal on the grid of as many digits as it has, which the first grid with a number that is read as the double
holds. -/
theorem shortest_of_grid {p : Int} {c n : Nat} (h : Canonical m e) (hlow : (10 : ℚ) ^ (p - 1) ≤ m * 2 ^ e)
    (hhigh : (m : ℚ) * 2 ^ e < 10 ^ p) (hbest : BestOnGrid m e (p - c) n)
    (hfirst : ∀ (s k : Nat) (j : Int), s < 10 ^ k → Near (s * 10 ^ j) m e → c ≤ k) (hcount : digitCount n = c) :
    ShortestDecimal m e n c p where
  positive := hcount ▸ digitCount_pos n
  low := hcount ▸ pow_digitCount_le (digits_pos_of_near h.pos hbest.near)
  high := hcount ▸ lt_pow_digitCount n
  near := hbest.near
  shortest := hfirst
  closest := by
    intro s j hs hnear
    obtain ⟨-, a, ha, hle⟩ := exists_on_grid hlow hhigh h.pos hs hnear
    exact (hbest.closest a ha).trans hle
  even := hbest.even

/-- The power of ten above a double that no other decimal of one digit is nearer to. -/
theorem shortest_of_carry {p : Int} (h : Canonical m e) (hlow : (10 : ℚ) ^ (p - 1) ≤ m * 2 ^ e)
    (hhigh : (m : ℚ) * 2 ^ e < 10 ^ p) (hbest : BestOnGrid m e (p - 1) 10) :
    ShortestDecimal m e 1 1 (p + 1) := by
  have hten : (10 : ℚ) ≠ 0 := by norm_num
  have hpos := ten_zpow_pos p
  have hpower : ((10 : ℕ) : ℚ) * 10 ^ (p - 1) = 10 ^ p := by
    rw [Nat.cast_ofNat, ← zpow_one_add₀ hten]
    congr 1
    omega
  have hvalue : ((1 : ℕ) : ℚ) * 10 ^ (p + 1 - (1 : ℕ)) = 10 ^ p := by
    rw [Nat.cast_one, one_mul, Nat.cast_one, add_sub_cancel_right]
  have hnear := hbest.near
  rw [hpower] at hnear
  refine ⟨le_rfl, le_rfl, by decide, by rwa [hvalue], fun s k j hs hs' => ?_, fun s j hs hs' => ?_,
    fun s hs heq => .inl ?_⟩
  · exact (exists_on_grid hlow hhigh h.pos hs hs').1
  · obtain ⟨-, a, ha, hle⟩ := exists_on_grid hlow hhigh h.pos hs hs'
    have hclosest := hbest.closest a ha
    rw [hpower] at hclosest
    rw [hvalue]
    exact hclosest.trans hle
  · -- another multiple of the power is further away
    have hbelow : (9 : ℚ) * 10 ^ (p - 1) ≤ m * 2 ^ e := by
      have hnine : 9 ≤ below m e (p - 1) := by
        rcases hbest.neighbour with heq | heq <;> omega
      exact (grid_mono hnine (p - 1)).trans (below_le m e (p - 1))
    have hexponent : p + 1 - ((1 : ℕ) : Int) = p := by omega
    rw [hvalue, hexponent, abs_of_pos (a := (10 : ℚ) ^ p - _) (by linarith)] at heq
    rw [Nat.cast_ofNat] at hpower
    rcases Nat.lt_trichotomy s 1 with hzero | hone | hmore
    · obtain rfl : s = 0 := by omega
      rw [Nat.cast_zero, zero_mul, zero_sub, abs_neg, abs_of_pos (by linarith)] at heq
      linarith
    · exact hone
    · have hmono := grid_mono hmore p
      push_cast at hmono
      rw [abs_of_pos (by linarith)] at heq
      linarith

/-- The digits that a double is written with are its shortest decimal. -/
theorem digits_shortest (h : Canonical m e) :
    ShortestDecimal m e (digits m e).digits (digitCount (digits m e).digits) (digits m e).point := by
  obtain ⟨hlow, hhigh⟩ := point_bounds h
  obtain ⟨c, n, hgrid, ⟨hc, hnone⟩, hsearch⟩ := @search_eq (interval m e) (point m e) 20 1
    ⟨19, by decide, onGrid_ne_none h.pos (twenty_digits h 5)⟩
  have hbest := onGrid_some h.pos hgrid
  have hfirst : ∀ (s k : Nat) (j : Int), s < 10 ^ k → Near (s * 10 ^ j) m e → c ≤ k := by
    intro s k j hs hnear
    obtain ⟨hk, a, ha, -⟩ := exists_on_grid hlow hhigh h.pos hs hnear
    by_contra hlt
    exact onGrid_none h.pos (hnone k hk (by omega)) a ha
  -- With a zero at the end the number would stand on an earlier grid, without it.
  have hstripped := stripped hc (hbest.bounds hc hlow hhigh) fun s k z hs hn => by
    refine hfirst s k (z + (point m e - c)) hs ?_
    rw [zpow_add₀ (by norm_num), ← mul_assoc, zpow_natCast]
    have hnear := hbest.near
    rw [hn] at hnear
    exact_mod_cast hnear
  have hdigits : digits m e = ⟨stripZeros 20 n, point m e + (digitCount n : Int) - c⟩ := hsearch
  rw [hdigits]
  rcases hstripped with ⟨hsame, hcount⟩ | ⟨rfl, rfl⟩
  · simp only [hsame, hcount, add_sub_cancel_right]
    exact shortest_of_grid h hlow hhigh hbest hfirst hcount
  · -- One digit is rounded up to the power of ten above, and the point moves.
    have hpoint : point m e + (digitCount 10 : Int) - (1 : ℕ) = point m e + 1 := by
      show point m e + 2 - 1 = _
      omega
    have hzeros : stripZeros 20 10 = 1 := rfl
    have hone : digitCount 1 = 1 := rfl
    simp only [hpoint, hzeros, hone]
    exact shortest_of_carry h hlow hhigh hbest

end Shortest

end RollScript

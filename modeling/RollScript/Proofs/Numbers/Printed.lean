import Mathlib
import RollScript.Proofs.Numbers.Shortest

/-!
# The text of a printed number

`WrittenByRule` is the rule by which JavaScript turns a number into text: it takes the shortest decimal of the
number and writes it positionally or with an exponent. A number has one shortest decimal
(`ShortestDecimal.unique`), and so one text by the rule. Read `print_by_rule_iff` first: numbers are printed by this
rule unless they have excess digits, that is, unless they are integers below `10 ^ 21` with a shortest decimal other
than the integer itself. Those are printed with all the digits of the integer.
-/

namespace RollScript

/-- The text of the decimal `s · 10 ^ (n - k)` of `k` digits. -/
def decimalText (s k : Nat) (n : Int) : List Char :=
  let digits := Nat.toDigits 10 s
  if k ≤ n ∧ n ≤ 21 then digits ++ List.replicate (n - k).toNat '0'
  else if 0 < n ∧ n ≤ 21 then digits.take n.toNat ++ '.' :: digits.drop n.toNat
  else if -6 < n ∧ n ≤ 0 then '0' :: '.' :: List.replicate (-n).toNat '0' ++ digits
  else
    digits.take 1 ++ (if k = 1 then [] else '.' :: digits.drop 1) ++
      'e' :: (if n - 1 < 0 then '-' else '+') :: Nat.toDigits 10 (n - 1).natAbs

/-- A minus for a negative number. -/
def minus (negative : Bool) : List Char :=
  if negative then ['-'] else []

/-- The rule by which numbers are written: both zeros as `0`, and every other finite number as the text of its
shortest decimal, after a minus if it is negative. -/
def WrittenByRule (x : Float) (text : String) : Prop :=
  match Binary.decode x with
  | .nan => text = "NaN"
  | .infinite negative => text = String.ofList (minus negative ++ "Infinity".toList)
  | .finite negative m e => m = 0 ∧ text = "0" ∨
      ∃ s k n, ShortestDecimal m e s k n ∧ text = String.ofList (minus negative ++ decimalText s k n)

/-- The integers below `10 ^ 21` that are not the shortest decimal of the double. -/
def HasExcessDigits (x : Float) : Prop :=
  ∃ negative m e, Binary.decode x = .finite negative m e ∧ 0 < m ∧
    ∃ i : Int, Binary.integer? x = some i ∧ i.natAbs < 10 ^ 21 ∧
      ∀ s k n, ShortestDecimal m e s k n → (s : ℚ) * 10 ^ (n - k) ≠ i.natAbs

variable {m s k : Nat} {e n : Int} {x : Float} {negative : Bool}

/-! ## Where the shortest decimal lies -/

namespace ShortestDecimal

theorem bounds (h : ShortestDecimal m e s k n) :
    (10 : ℚ) ^ (n - 1) ≤ s * 10 ^ (n - k) ∧ (s : ℚ) * 10 ^ (n - k) < 10 ^ n := by
  have hk := h.positive
  have hpos := Shortest.ten_zpow_pos (n - k)
  have hlow := Shortest.ten_pow_mul (i := k - 1) (j := n - k) (l := n - 1) (by omega)
  have hhigh := Shortest.ten_pow_mul (i := k) (j := n - k) (l := n) (by omega)
  rw [← hlow, ← hhigh]
  exact ⟨Shortest.grid_mono h.low (n - k), mul_lt_mul_of_pos_right (by exact_mod_cast h.high) hpos⟩

theorem digits_pos (h : ShortestDecimal m e s k n) : 0 < s :=
  (Nat.pow_pos (by decide)).trans_le h.low

theorem length_digits (h : ShortestDecimal m e s k n) : (Nat.toDigits 10 s).length = k := by
  have hle := (Shortest.digitCount_le_iff h.positive).2 h.high
  have hge : ¬ Shortest.digitCount s < k := by
    intro hlt
    have hcount := Shortest.digitCount_pos s
    have hless := (Shortest.digitCount_le_iff (n := s) (k := k - 1) (by omega)).1 (by omega)
    exact absurd h.low (not_le.2 hless)
  exact le_antisymm hle (not_lt.1 hge)

/-- The shortest decimal of a number from a power of ten on is not below that power. -/
theorem pow_le (h : ShortestDecimal m e s k n) {j : Int} (hv : (10 : ℚ) ^ j ≤ m * 2 ^ e) :
    (10 : ℚ) ^ j ≤ s * 10 ^ (n - k) := by
  by_contra hless
  rw [not_le] at hless
  -- The power itself would be read as the number, has one digit, and is nearer.
  have hnear := (Shortest.near_raised h.near hless.le hv).1
  have hone : ((1 : ℕ) : ℚ) * 10 ^ j = 10 ^ j := by rw [Nat.cast_one, one_mul]
  have hclosest := h.closest 1 j (Nat.one_lt_pow (by have := h.positive; omega) (by decide)) (by rwa [hone])
  rw [hone, abs_of_neg (by linarith), abs_of_nonpos (by linarith)] at hclosest
  linarith

/-- The shortest decimal of a number below an integer that is a double is below that integer. -/
theorem lt_whole (h : ShortestDecimal m e s k n) (hcanonical : Canonical m e) {w : Nat} (hw : Representable w)
    (hpos : 0 < w) (hv : (m : ℚ) * 2 ^ e < w) : (s : ℚ) * 10 ^ (n - k) < w := by
  obtain ⟨m', e', hcanonical', hvalue⟩ := hw.canonical hpos
  by_contra hge
  rw [not_lt, ← hvalue] at hge
  have hle := h.near.ge hcanonical hcanonical' hge
  rw [hvalue] at hle
  linarith

end ShortestDecimal

theorem representable_ten_pow {j : Nat} (h : j ≤ 22) : Representable (10 ^ j) := by
  refine ⟨5 ^ j, j, ?_, by omega, by rw [← Nat.mul_pow]⟩
  calc 5 ^ j ≤ 5 ^ 22 := Nat.pow_le_pow_right (by decide) h
    _ < 2 ^ 53 := by decide

theorem exponent_lt_of_pow_lt {i j : Int} (h : (10 : ℚ) ^ i < 10 ^ j) : i < j :=
  (zpow_lt_zpow_iff_right₀ (by norm_num)).1 h

namespace ShortestDecimal

/-- A number below a power of ten has no digit at that power. -/
theorem point_le (h : ShortestDecimal m e s k n) (hcanonical : Canonical m e) {j : Nat} (hj : j ≤ 22)
    (hv : (m : ℚ) * 2 ^ e < 10 ^ j) : n ≤ j := by
  have hlt := h.lt_whole hcanonical (representable_ten_pow hj) (Nat.pow_pos (by decide)) (by exact_mod_cast hv)
  rw [Nat.cast_pow, Nat.cast_ofNat, ← zpow_natCast] at hlt
  have := exponent_lt_of_pow_lt (h.bounds.1.trans_lt hlt)
  omega

/-- A number from a power of ten on has a digit at that power. -/
theorem lt_point (h : ShortestDecimal m e s k n) {j : Int} (hv : (10 : ℚ) ^ j ≤ m * 2 ^ e) : j < n :=
  exponent_lt_of_pow_lt ((h.pow_le hv).trans_lt h.bounds.2)

end ShortestDecimal

/-! ## One shortest decimal -/

namespace ShortestDecimal

variable {s' : Nat} {n' : Int}

/-- No number of the same grid above the decimal is as near to the double, unless it is the next one or the
decimal has no next one of as many digits: those between would be nearer. -/
theorem not_tied (h : ShortestDecimal m e s k n) (hnext : s + 1 < 10 ^ k) {t : Nat} (ht : s + 1 < t)
    (hnear : Near (t * 10 ^ (n - k)) m e) :
    |(t : ℚ) * 10 ^ (n - k) - m * 2 ^ e| ≠ |(s : ℚ) * 10 ^ (n - k) - m * 2 ^ e| := by
  intro htie
  have hlow : (s : ℚ) * 10 ^ (n - k) < (s + 1 : ℕ) * 10 ^ (n - k) :=
    mul_lt_mul_of_pos_right (by exact_mod_cast Nat.lt_succ_self s) (Shortest.ten_zpow_pos _)
  have hhigh : ((s + 1 : ℕ) : ℚ) * 10 ^ (n - k) < t * 10 ^ (n - k) :=
    mul_lt_mul_of_pos_right (by exact_mod_cast ht) (Shortest.ten_zpow_pos _)
  have hclosest := h.closest (s + 1) (n - k) hnext (h.near.between hnear hlow.le hhigh.le)
  -- the double is half-way between the two
  have hmiddle : (t : ℚ) * 10 ^ (n - k) - m * 2 ^ e = m * 2 ^ e - s * 10 ^ (n - k) := by
    rcases abs_eq_abs.1 htie with heq | hneg
    · linarith
    · rw [hneg, neg_sub]
  rw [abs_of_neg (a := (s : ℚ) * 10 ^ (n - k) - _) (by linarith), neg_sub, le_abs] at hclosest
  rcases hclosest with hright | hleft <;> linarith

/-- Of two shortest decimals none is greater. -/
theorem value_le (h : ShortestDecimal m e s k n) (h' : ShortestDecimal m e s' k n') :
    (s' : ℚ) * 10 ^ (n' - k) ≤ s * 10 ^ (n - k) := by
  by_contra hgt
  rw [not_le] at hgt
  have htie : |(s' : ℚ) * 10 ^ (n' - k) - m * 2 ^ e| = |(s : ℚ) * 10 ^ (n - k) - m * 2 ^ e| :=
    le_antisymm (h'.closest s (n - k) h.high h.near) (h.closest s' (n' - k) h'.high h'.near)
  have hpoint : n ≤ n' := by
    have := exponent_lt_of_pow_lt ((h.bounds.1.trans_lt hgt).trans h'.bounds.2)
    omega
  obtain ⟨z, rfl⟩ : ∃ z : Nat, n' = n + z := ⟨(n' - n).toNat, by omega⟩
  have hvalue : (s' : ℚ) * 10 ^ (n + z - k) = (s' * 10 ^ z : ℕ) * 10 ^ (n - k) := by
    rw [add_sub_right_comm, zpow_add₀ (by norm_num), zpow_natCast]
    push_cast
    ring
  have hnear := h'.near
  rw [hvalue] at hgt htie hnear
  have hlt : s < s' * 10 ^ z := by exact_mod_cast lt_of_mul_lt_mul_right hgt (Shortest.ten_zpow_pos _).le
  have heven : s % 2 = 0 := (h.even _ hnear htie).resolve_left hlt.ne'
  cases z with
  | zero =>
      -- two decimals on one grid are both even
      rw [pow_zero, Nat.mul_one] at hlt hnear htie
      have heven' : s' % 2 = 0 := by
        have hback := h'.even s
        rw [Int.natCast_zero, add_zero] at hback
        exact (hback h.near htie.symm).resolve_left hlt.ne
      have hhigh := h'.high
      exact h.not_tied (by omega) (by omega) hnear htie
  | succ z =>
      -- the power of ten above is even, and so the decimal is not next to it
      have hhigh := h.high
      have hpower : 10 ^ k ≤ s' * 10 ^ (z + 1) := by
        calc 10 ^ k = 10 ^ (k - 1) * 10 ^ 1 := by rw [← pow_add, Nat.sub_add_cancel h.positive]
          _ ≤ s' * 10 ^ (z + 1) := Nat.mul_le_mul h'.low (Nat.pow_le_pow_right (by decide) (by omega))
      have hten : 10 ^ k % 2 = 0 := by
        obtain ⟨j, rfl⟩ := Nat.exists_eq_add_of_le' h.positive
        rw [pow_succ]
        omega
      exact h.not_tied (by omega) (by omega) hnear htie

/-- A double has one shortest decimal. -/
theorem unique {k' : Nat} (h : ShortestDecimal m e s k n) (h' : ShortestDecimal m e s' k' n') :
    s = s' ∧ k = k' ∧ n = n' := by
  obtain rfl : k = k' := le_antisymm (h.shortest s' k' _ h'.high h'.near) (h'.shortest s k _ h.high h.near)
  have hvalue := le_antisymm (h'.value_le h) (h.value_le h')
  obtain rfl : n = n' := by
    have hlow := exponent_lt_of_pow_lt (h.bounds.1.trans_lt (hvalue ▸ h'.bounds.2))
    have hhigh := exponent_lt_of_pow_lt (h'.bounds.1.trans_lt (hvalue ▸ h.bounds.2))
    omega
  have hdigits := mul_right_cancel₀ (Shortest.ten_zpow_pos (n - k)).ne' hvalue
  exact ⟨by exact_mod_cast hdigits, rfl, rfl⟩

/-- Zero has no shortest decimal, as no digits would do. -/
theorem pos (h : ShortestDecimal m e s k n) : 0 < m := by
  refine Nat.pos_of_ne_zero ?_
  rintro rfl
  have hzero : Near ((0 : ℕ) * 10 ^ (0 : Int)) 0 e := by
    have hself := near_self 0 e
    rwa [Nat.cast_zero, zero_mul] at hself ⊢
  exact absurd h.positive (Nat.not_le.2 (Nat.lt_succ_of_le (h.shortest 0 0 0 (by decide) hzero)))

end ShortestDecimal

/-! ## Texts of decimals -/

theorem toDigits_mul_pow (hs : 0 < s) (z : Nat) :
    Nat.toDigits 10 (s * 10 ^ z) = Nat.toDigits 10 s ++ List.replicate z '0' := by
  induction z with
  | zero => rw [pow_zero, Nat.mul_one, List.replicate_zero, List.append_nil]
  | succ z ih =>
      have hpos : 0 < s * 10 ^ z := Nat.mul_pos hs (Nat.pow_pos (by decide))
      have happend := Nat.toDigits_append_toDigits (b := 10) (d := 0) (by decide) hpos (by decide)
      have hvalue : s * 10 ^ (z + 1) = 10 * (s * 10 ^ z) + 0 := by ring
      rw [hvalue, ← happend, ih, List.replicate_succ', List.append_assoc]
      rfl

theorem toDigits_injective {i j : Nat} (h : Nat.toDigits 10 i = Nat.toDigits 10 j) : i = j := by
  have hvalue := congrArg (Nat.ofDigitChars 10 · 0) h
  simpa only [Nat.ofDigitChars_ten_toDigits] using hvalue

theorem padded_one (i : Nat) : Layout.padded 1 i = String.ofList (Nat.toDigits 10 i) := by
  have hpos : 0 < (Nat.toDigits 10 i).length := Nat.length_toDigits_pos
  rw [Layout.padded, Nat.sub_eq_zero_of_le hpos, List.replicate_zero, List.nil_append]

/-- Decimals of at most 16 digits before the point, or of more than 21, are laid out by the rule. -/
theorem magnitude_eq (h : ShortestDecimal m e (Shortest.digits m e).digits k (Shortest.digits m e).point)
    (hpoint : (Shortest.digits m e).point ≤ 16 ∨ 21 < (Shortest.digits m e).point) :
    Number.printed.magnitude m e =
      String.ofList (decimalText (Shortest.digits m e).digits k (Shortest.digits m e).point) := by
  have hlength := h.length_digits
  have hk := h.positive
  simp only [Layout.magnitude, decimalText]
  generalize Nat.toDigits 10 (Shortest.digits m e).digits = digits at hlength ⊢
  generalize (Shortest.digits m e).point = n at hpoint ⊢
  subst hlength
  show (if -6 ≤ n - 1 ∧ n - 1 < 16 then Layout.positional digits n
    else Layout.scientific Number.printed digits (n - 1)) = _
  by_cases hpositional : -6 ≤ n - 1 ∧ n - 1 < 16
  · rw [if_pos hpositional, Layout.positional]
    by_cases hsmall : n ≤ 0
    · rw [if_pos hsmall, if_neg (by omega), if_neg (by omega), if_pos ⟨by omega, hsmall⟩]
    · rw [if_neg hsmall]
      by_cases hwhole : (digits.length : Int) ≤ n
      · have hle : digits.length ≤ n.toNat := by omega
        have hzeros : n.toNat - digits.length = (n - digits.length).toNat := by omega
        rw [if_pos hle, if_pos ⟨hwhole, by omega⟩, List.take_of_length_le hle, List.append_nil, hzeros]
      · have hgt : ¬ digits.length ≤ n.toNat := by omega
        rw [if_neg hgt, if_neg (fun h => hwhole h.1), if_pos ⟨by omega, by omega⟩,
          Nat.sub_eq_zero_of_le (by omega), List.replicate_zero, List.append_nil]
  · rw [if_neg hpositional, if_neg (by omega), if_neg (by omega), if_neg (by omega), Layout.scientific]
    have hfraction : (if digits.length ≤ 1 then [] else '.' :: digits.drop 1) =
        if digits.length = 1 then [] else '.' :: digits.drop 1 := by
      by_cases hone : digits.length = 1
      · rw [if_pos hone, if_pos hone.le]
      · rw [if_neg hone, if_neg (by omega)]
    have hsign : (if n - 1 < 0 then "e-" else "e+") =
        String.ofList ['e', if n - 1 < 0 then '-' else '+'] := by
      split <;> rfl
    rw [hfraction, hsign, show Number.printed.exponentWidth = 1 from rfl, padded_one, ← String.ofList_append,
      ← String.ofList_append, List.append_assoc]
    rfl

/-! ## Printed numbers -/

theorem minus_text (negative : Bool) : (if negative then "-" else "") = String.ofList (minus negative) := by
  cases negative <;> rfl

theorem whole_pos {j : Nat} (hj : (j : ℚ) = m * 2 ^ e) (hm : 0 < m) : 0 < j := by
  have hpos := scaled_pos hm e
  rw [← hj] at hpos
  exact_mod_cast hpos

/-- An integer below `10 ^ 21` is printed with all its digits. -/
theorem print_integer {i : Int} (hdecode : Binary.decode x = .finite negative m e) (hm : 0 < m)
    (hi : Binary.integer? x = some i) (hlt : i.natAbs < 10 ^ 21) :
    Number.print x = String.ofList (minus negative ++ Nat.toDigits 10 i.natAbs) ∧ decide (i < 0) = negative ∧
      (i.natAbs : ℚ) = m * 2 ^ e := by
  obtain ⟨j, rfl, hj⟩ := integer?_eq_some hdecode hi
  have hpos := whole_pos hj hm
  have hfilter : (Binary.integer? x).filter Number.printed.writesOut = some (Binary.signed negative j) := by
    rw [hi, Option.filter_some, if_pos (by simpa [Layout.writesOut, Number.printed] using hlt)]
  have hsign : decide (Binary.signed negative j < 0) = negative := by
    cases negative with
    | false => exact decide_eq_false (Int.not_lt.2 (Int.natCast_nonneg j))
    | true =>
        have hneg : -(j : Int) < 0 := by omega
        exact decide_eq_true hneg
  rw [natAbs_signed]
  refine ⟨?_, hsign, hj⟩
  simp only [Number.print, Layout.write, hdecode, hfilter, natAbs_signed, padded_one]
  cases negative with
  | false =>
      rw [if_neg (of_decide_eq_false hsign)]
      rfl
  | true =>
      rw [if_pos (of_decide_eq_true hsign), show "-" = String.ofList ['-'] from rfl, ← String.ofList_append]
      rfl

/-- A number that is not an integer is below `2 ^ 53`. -/
theorem lt_of_integer?_none (hdecode : Binary.decode x = .finite negative m e) (hcanonical : Canonical m e)
    (h : Binary.integer? x = none) : (m : ℚ) * 2 ^ e < 2 ^ 53 := by
  have he : e < 0 := by
    by_contra hnonneg
    simp only [Binary.integer?, hdecode, if_pos (not_lt.1 hnonneg)] at h
    cases h
  have hm : (m : ℚ) < 2 ^ 53 := by exact_mod_cast hcanonical.lt
  have hpow : (2 : ℚ) ^ e ≤ 1 := zpow_le_one_of_nonpos₀ (by norm_num) he.le
  have hpos := two_zpow_pos e
  have hnonneg : (0 : ℚ) ≤ m := Nat.cast_nonneg m
  nlinarith

/-- All other numbers are printed by the rule. -/
theorem print_decimal (hdecode : Binary.decode x = .finite negative m e) (hcanonical : Canonical m e)
    (hlarge : ∀ i, Binary.integer? x = some i → 10 ^ 21 ≤ i.natAbs) :
    ∃ s k n, ShortestDecimal m e s k n ∧ Number.print x = String.ofList (minus negative ++ decimalText s k n) := by
  have hshortest := Shortest.digits_shortest hcanonical
  have hpoint : (Shortest.digits m e).point ≤ 16 ∨ 21 < (Shortest.digits m e).point := by
    cases hi : Binary.integer? x with
    | none =>
        have hlt := lt_of_integer?_none hdecode hcanonical hi
        exact .inl (hshortest.point_le hcanonical (j := 16) (by decide) (hlt.trans (by norm_num)))
    | some i =>
        obtain ⟨j, rfl, hj⟩ := integer?_eq_some hdecode hi
        have hge := hlarge _ hi
        rw [natAbs_signed] at hge
        refine .inr (hshortest.lt_point (j := 21) ?_)
        rw [← hj]
        exact_mod_cast hge
  have hfilter : (Binary.integer? x).filter Number.printed.writesOut = none := by
    rw [Option.filter_eq_none_iff]
    intro i hi
    have hge := hlarge i hi
    simp only [Layout.writesOut, Number.printed, decide_eq_true_eq]
    omega
  refine ⟨_, _, _, hshortest, ?_⟩
  simp only [Number.print, Layout.write, hdecode, hfilter]
  rw [magnitude_eq hshortest hpoint, minus_text, ← String.ofList_append]

/-! ## Excess digits -/

/-- A decimal without digits after the point is its digits with zeros at the end. -/
theorem exists_zeros (s : Nat) (hwhole : (k : Int) ≤ n) :
    ∃ z : Nat, n - k = z ∧ (s : ℚ) * 10 ^ (n - k) = (s * 10 ^ z : ℕ) := by
  obtain ⟨z, hz⟩ : ∃ z : Nat, n - k = z := ⟨(n - k).toNat, by omega⟩
  refine ⟨z, hz, ?_⟩
  rw [hz, zpow_natCast]
  push_cast
  rfl

/-- The shortest decimal of an integer below `10 ^ 21` has the digits of the integer for its text only if it is the
integer. -/
theorem decimalText_eq_iff (h : ShortestDecimal m e s k n) (hcanonical : Canonical m e) {j : Nat}
    (hj : (j : ℚ) = m * 2 ^ e) (hlt : j < 10 ^ 21) :
    decimalText s k n = Nat.toDigits 10 j ↔ (s : ℚ) * 10 ^ (n - k) = j := by
  have hone : 1 ≤ j := whole_pos hj hcanonical.pos
  have hle : n ≤ 21 := h.point_le hcanonical (j := 21) (by decide) (by rw [← hj]; exact_mod_cast hlt)
  have hge : 0 < n := h.lt_point (by rw [zpow_zero, ← hj]; exact_mod_cast hone)
  unfold decimalText
  by_cases hk : (k : Int) ≤ n
  · obtain ⟨z, hz, hcast⟩ := exists_zeros s hk
    rw [if_pos ⟨hk, hle⟩, hz, Int.toNat_natCast, ← toDigits_mul_pow h.digits_pos, ← hz, hcast, Nat.cast_inj]
    exact ⟨toDigits_injective, congrArg _⟩
  · rw [if_neg (fun hin => hk hin.1), if_pos ⟨hge, hle⟩]
    refine iff_of_false (fun htext => ?_) fun hvalue => ?_
    · -- no point among the digits of an integer
      have hmem : '.' ∈ Nat.toDigits 10 j := by
        rw [← htext]
        exact List.mem_append_right _ List.mem_cons_self
      exact absurd (areDigits_toDigits j _ hmem) (by decide)
    · -- the integer itself has fewer digits
      have hdigits : j < 10 ^ n.toNat := by
        have hbound := h.bounds.2
        rw [hvalue, show n = (n.toNat : Int) by omega, zpow_natCast] at hbound
        exact_mod_cast hbound
      have hnear := h.near
      rw [hvalue] at hnear
      have hfewer := h.shortest j n.toNat 0 hdigits (by rwa [zpow_zero, mul_one])
      omega

/-- The doubles below `2 ^ 53` are at most one apart. -/
theorem Canonical.unit_le_one (hcanonical : Canonical m e) (hlt : (m : ℚ) * 2 ^ e < 2 ^ 53) : (2 : ℚ) ^ e ≤ 1 := by
  refine zpow_le_one_of_nonpos₀ (by norm_num) ?_
  by_contra hpos
  have hm : (2 : ℚ) ^ 52 ≤ m := hcanonical.normal_of_lt (not_le.1 hpos) (by decide)
  have htwo := two_le_two_zpow (not_le.1 hpos)
  nlinarith

/-- A decimal of fewer digits than an integer is another integer or much smaller, and is not read as the integer if
the doubles are at most one apart. -/
theorem ShortestDecimal.eq_of_fewer (h : ShortestDecimal m e s k n) (hunit : (2 : ℚ) ^ e ≤ 1) {j : Nat}
    (hj : (j : ℚ) = m * 2 ^ e) (hfewer : 10 ^ k ≤ j) : (s : ℚ) * 10 ^ (n - k) = j := by
  have hlow := h.near.low
  have hhigh := h.near.high
  rcases le_or_gt (k : Int) n with hwhole | hfraction
  · obtain ⟨z, -, hcast⟩ := exists_zeros s hwhole
    rw [hcast] at hlow hhigh ⊢
    rcases Nat.lt_trichotomy (s * 10 ^ z) j with hless | heq | hmore
    · have hstep : ((s * 10 ^ z : ℕ) : ℚ) + 1 ≤ j := by exact_mod_cast hless
      linarith
    · rw [heq]
    · have hstep : (j : ℚ) + 1 ≤ (s * 10 ^ z : ℕ) := by exact_mod_cast hmore
      linarith
  · have hdigits : (10 : ℚ) ^ k ≤ j := by exact_mod_cast hfewer
    have hsmall : (s : ℚ) * 10 ^ (n - k) ≤ 10 ^ k / 10 := by
      have hhigher : (s : ℚ) ≤ 10 ^ k := by exact_mod_cast h.high.le
      have htenth : (10 : ℚ) ^ (n - k) ≤ 10 ^ (-1 : Int) := zpow_le_zpow_right₀ (by norm_num) (by omega)
      rw [zpow_neg_one] at htenth
      rw [div_eq_mul_inv]
      exact mul_le_mul hhigher htenth (Shortest.ten_zpow_pos _).le (by positivity)
    have hone : (10 : ℚ) ≤ 10 ^ k := by
      have hpow : (10 : ℚ) ^ 1 ≤ 10 ^ k := pow_le_pow_right₀ (by norm_num) h.positive
      rwa [pow_one] at hpow
    linarith

/-- The integers below `2 ^ 53` are their shortest decimals. -/
theorem ShortestDecimal.eq_whole (h : ShortestDecimal m e s k n) (hcanonical : Canonical m e) {j : Nat}
    (hj : (j : ℚ) = m * 2 ^ e) (hlt : j < 2 ^ 53) : (s : ℚ) * 10 ^ (n - k) = j := by
  have hself : ((j : ℕ) : ℚ) * 10 ^ (0 : Int) = j := by rw [zpow_zero, mul_one]
  have hnear : Near (j * 10 ^ (0 : Int)) m e := by
    rw [hself, hj]
    exact near_self m e
  rcases (h.shortest j _ 0 (Shortest.lt_pow_digitCount j) hnear).eq_or_lt with rfl | hfewer
  · have hclosest := h.closest j 0 (Shortest.lt_pow_digitCount j) hnear
    rw [hself, hj, sub_self, abs_zero] at hclosest
    rw [hj]
    exact sub_eq_zero.1 (abs_nonpos_iff.1 hclosest)
  · -- fewer digits than the integer has
    have hexponent : k ≤ Shortest.digitCount j - 1 := by omega
    have hdigits := Shortest.pow_digitCount_le (whole_pos hj hcanonical.pos)
    refine h.eq_of_fewer (hcanonical.unit_le_one ?_) hj ((Nat.pow_le_pow_right (by decide) hexponent).trans hdigits)
    rw [← hj]
    exact_mod_cast hlt

theorem writtenByRule_iff (hdecode : Binary.decode x = .finite negative m e) (hm : 0 < m) (text : String) :
    WrittenByRule x text ↔
      ∃ s k n, ShortestDecimal m e s k n ∧ text = String.ofList (minus negative ++ decimalText s k n) := by
  simp only [WrittenByRule, hdecode]
  exact or_iff_right fun hzero => hm.ne' hzero.1

theorem hasExcessDigits_iff {i : Int} (hdecode : Binary.decode x = .finite negative m e) (hm : 0 < m)
    (hi : Binary.integer? x = some i) (hlt : i.natAbs < 10 ^ 21) :
    HasExcessDigits x ↔ ∀ s k n, ShortestDecimal m e s k n → (s : ℚ) * 10 ^ (n - k) ≠ i.natAbs := by
  constructor
  · rintro ⟨negative', m', e', hdecode', -, i', hi', -, hexcess⟩
    rw [hdecode] at hdecode'
    cases hdecode'
    rw [hi] at hi'
    cases hi'
    exact hexcess
  · exact fun hexcess => ⟨negative, m, e, hdecode, hm, i, hi, hlt, hexcess⟩

/-- An integer has excess digits if a decimal of fewer digits is read as it, unless it ends in a zero. -/
theorem hasExcessDigits_of_fewer {i j : Int} (hdecode : Binary.decode x = .finite negative m e) (hm : 0 < m)
    (hi : Binary.integer? x = some i) (hlt : i.natAbs < 10 ^ 21) (hten : i.natAbs % 10 ≠ 0) (hs : s < 10 ^ k)
    (hnear : Near (s * 10 ^ j) m e) (hfewer : 10 ^ k ≤ i.natAbs) : HasExcessDigits x := by
  refine (hasExcessDigits_iff hdecode hm hi hlt).2 fun s' k' n h heq => ?_
  have hle := h.shortest s k j hs hnear
  have hless : s' < i.natAbs := h.high.trans_le ((Nat.pow_le_pow_right (by decide) hle).trans hfewer)
  rcases le_or_gt n (k' : Int) with hfraction | hwhole
  · have hpow : (10 : ℚ) ^ (n - k') ≤ 1 := zpow_le_one_of_nonpos₀ (by norm_num) (by omega)
    have hcast : (s' : ℚ) < i.natAbs := by exact_mod_cast hless
    have hnonneg : (0 : ℚ) ≤ s' := Nat.cast_nonneg s'
    nlinarith
  · obtain ⟨z, hz, hcast⟩ := exists_zeros s' hwhole.le
    rw [hcast] at heq
    have hvalue : s' * 10 ^ z = i.natAbs := by exact_mod_cast heq
    obtain ⟨y, rfl⟩ : ∃ y, z = y + 1 := ⟨z - 1, by omega⟩
    rw [pow_succ, ← Nat.mul_assoc] at hvalue
    exact hten (hvalue ▸ Nat.mul_mod_left _ 10)

/-- An integer of one bit that a decimal of sixteen digits is read as. -/
theorem hasExcessDigits_two_pow : HasExcessDigits (Float.ofNat (2 ^ 60)) := by
  have hdecode : Binary.decode (Float.ofNat (2 ^ 60)) = .finite false (2 ^ 52) 8 := by rfl
  refine hasExcessDigits_of_fewer (s := 1152921504606847) (k := 16) (j := 3) hdecode (by decide)
    (i := 1152921504606846976) (by rfl) (by decide) (by decide) (by decide) ?_ (by decide)
  refine ⟨?_, ?_, fun _ => ?_, .inl (by decide)⟩ <;> norm_num

/-- An integer below `10 ^ 21` is printed by the rule if it is its own shortest decimal. -/
theorem print_integer_iff {i : Int} (hdecode : Binary.decode x = .finite negative m e) (hcanonical : Canonical m e)
    (hi : Binary.integer? x = some i) (hlt : i.natAbs < 10 ^ 21) :
    WrittenByRule x (Number.print x) ↔ ¬ HasExcessDigits x := by
  obtain ⟨hprint, -, hvalue⟩ := print_integer hdecode hcanonical.pos hi hlt
  have htext : ∀ s k n, ShortestDecimal m e s k n →
      (Number.print x = String.ofList (minus negative ++ decimalText s k n) ↔ (s : ℚ) * 10 ^ (n - k) = i.natAbs) := by
    intro s k n h
    rw [hprint, String.ofList_inj, List.append_cancel_left_eq, eq_comm]
    exact decimalText_eq_iff h hcanonical hvalue hlt
  rw [writtenByRule_iff hdecode hcanonical.pos, hasExcessDigits_iff hdecode hcanonical.pos hi hlt]
  constructor
  · rintro ⟨s, k, n, h, hsame⟩ hexcess
    exact hexcess s k n h ((htext s k n h).1 hsame)
  · intro hnone
    by_contra hrule
    exact hnone fun s k n h hsame => hrule ⟨s, k, n, h, (htext s k n h).2 hsame⟩

theorem not_hasExcessDigits (h : ∀ negative m e, Binary.decode x = .finite negative m e → m = 0) :
    ¬ HasExcessDigits x := by
  rintro ⟨negative, m, e, hdecode, hm, -⟩
  exact hm.ne' (h negative m e hdecode)

/-- NaN, the infinities and the zeros are printed by the rule and have no excess digits. -/
theorem print_special (h : ∀ sign m e hm, x.toModel.unpack ≠ .finite sign m e hm) :
    WrittenByRule x (Number.print x) ∧ ¬ HasExcessDigits x := by
  cases hunpack : x.toModel.unpack with
  | notANumber =>
      have hdecode : Binary.decode x = .nan := by simp only [Binary.decode, hunpack]
      refine ⟨?_, not_hasExcessDigits fun negative m e hfinite => ?_⟩
      · simp only [WrittenByRule, Number.print, Layout.write, hdecode]
        rfl
      · rw [hdecode] at hfinite
        cases hfinite
  | infinity sign =>
      have hdecode : Binary.decode x = .infinite (sign == .negative) := by simp only [Binary.decode, hunpack]
      refine ⟨?_, not_hasExcessDigits fun negative m e hfinite => ?_⟩
      · simp only [WrittenByRule, Number.print, Layout.write, hdecode]
        cases sign <;> rfl
      · rw [hdecode] at hfinite
        cases hfinite
  | zero sign =>
      have hdecode := decode_zero hunpack
      refine ⟨?_, not_hasExcessDigits fun negative m e hfinite => ?_⟩
      · simp only [WrittenByRule, hdecode]
        exact .inl ⟨trivial, print_zero hdecode⟩
      · rw [hdecode] at hfinite
        cases hfinite
        rfl
  | finite sign m e hm => exact absurd hunpack (h sign m e hm)

/-- All other numbers are printed by the rule unless they have excess digits. -/
theorem print_finite_iff (hdecode : Binary.decode x = .finite negative m e) (hcanonical : Canonical m e) :
    WrittenByRule x (Number.print x) ↔ ¬ HasExcessDigits x := by
  by_cases hwhole : ∃ i, Binary.integer? x = some i ∧ i.natAbs < 10 ^ 21
  · obtain ⟨i, hi, hlt⟩ := hwhole
    exact print_integer_iff hdecode hcanonical hi hlt
  · have hlarge : ∀ i, Binary.integer? x = some i → 10 ^ 21 ≤ i.natAbs := fun i hi =>
      not_lt.1 fun hlt => hwhole ⟨i, hi, hlt⟩
    refine iff_of_true ?_ ?_
    · exact (writtenByRule_iff hdecode hcanonical.pos _).2 (print_decimal hdecode hcanonical hlarge)
    · rintro ⟨-, -, -, -, -, i, hi, hlt, -⟩
      exact hwhole ⟨i, hi, hlt⟩

theorem canonical_of_decode (hdecode : Binary.decode x = .finite negative m e) (hm : 0 < m) : Canonical m e := by
  obtain ⟨_, _, _, hdecode', ⟨rfl, -⟩ | hcanonical⟩ := decode_of_isFinite (isFinite_of_decode hdecode)
  · rw [hdecode] at hdecode'
    cases hdecode'
    exact absurd hm (lt_irrefl 0)
  · rw [hdecode] at hdecode'
    cases hdecode'
    exact hcanonical

/-- The rule gives every number exactly one text. -/
theorem existsUnique_writtenByRule (x : Float) : ∃! text, WrittenByRule x text := by
  cases hdecode : Binary.decode x with
  | nan =>
      simp only [WrittenByRule, hdecode]
      exact existsUnique_eq
  | infinite negative =>
      simp only [WrittenByRule, hdecode]
      exact existsUnique_eq
  | finite negative m e =>
      rcases Nat.eq_zero_or_pos m with rfl | hm
      · have hzero : ∀ text, WrittenByRule x text ↔ text = "0" := by
          intro text
          simp only [WrittenByRule, hdecode, true_and]
          refine or_iff_left ?_
          rintro ⟨s, k, n, h, -⟩
          exact lt_irrefl 0 h.pos
        simp only [hzero]
        exact existsUnique_eq
      · have hshortest := Shortest.digits_shortest (canonical_of_decode hdecode hm)
        refine ⟨_, (writtenByRule_iff hdecode hm _).2 ⟨_, _, _, hshortest, rfl⟩, fun text htext => ?_⟩
        obtain ⟨s, k, n, h, rfl⟩ := (writtenByRule_iff hdecode hm text).1 htext
        obtain ⟨rfl, rfl, rfl⟩ := h.unique hshortest
        rfl

/-- Numbers are printed by the rule, unless they have excess digits. Those are integers from `2 ^ 53` on and below
`10 ^ 21`, which are printed with all their digits. -/
theorem print_by_rule_iff (x : Float) :
    (WrittenByRule x (Number.print x) ↔ ¬ HasExcessDigits x) ∧
      (HasExcessDigits x → ∃ i, Binary.integer? x = some i ∧ 2 ^ 53 ≤ i.natAbs ∧ i.natAbs < 10 ^ 21 ∧
        Number.print x = String.ofList (minus (decide (i < 0)) ++ Nat.toDigits 10 i.natAbs)) := by
  constructor
  · by_cases hfinite : ∃ sign m e hm, x.toModel.unpack = .finite sign m e hm
    · obtain ⟨sign, m, e, hm, hunpack⟩ := hfinite
      exact print_finite_iff (decode_of_unpack hunpack) (canonical_of_unpack hunpack)
    · obtain ⟨hrule, hexcess⟩ := print_special fun sign m e hm hunpack => hfinite ⟨sign, m, e, hm, hunpack⟩
      exact iff_of_true hrule hexcess
  · rintro ⟨negative, m, e, hdecode, hm, i, hi, hlt, hexcess⟩
    obtain ⟨hprint, hsign, hvalue⟩ := print_integer hdecode hm hi hlt
    have hcanonical := canonical_of_decode hdecode hm
    have hshortest := Shortest.digits_shortest hcanonical
    refine ⟨i, hi, ?_, hlt, by rw [hsign, hprint]⟩
    by_contra hsmall
    exact hexcess _ _ _ hshortest (hshortest.eq_whole hcanonical hvalue (not_le.1 hsmall))

/-- The rule writes `1152921504606847000`. -/
example : Number.print (Float.ofNat (2 ^ 60)) = "1152921504606846976" := by rfl

end RollScript

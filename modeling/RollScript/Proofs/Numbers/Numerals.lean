import RollScript.Number.Layout
import RollScript.Number.Numeral
import RollScript.Proofs.Numbers.Digits
import RollScript.Proofs.Numbers.Nearest

/-!
# Written numbers are read back

Read `number_reads_back` first: the text of a finite double is a numeral, perhaps after a minus, and the
numeral is read as the magnitude of the double. A `Spelling` is a numeral taken apart; its length and its
value do not depend on what follows it, as long as that cannot continue it.
-/

namespace RollScript

/-! ## Digits -/

theorem digit_bounds {c : Char} (h : c.isDigit = true) : 48 ≤ c.toNat ∧ c.toNat < 58 := by
  simp only [Char.isDigit, Bool.and_eq_true, decide_eq_true_eq] at h
  exact ⟨h.1, Nat.lt_succ_of_le h.2⟩

theorem CodePoint.digit?_scalar {c : Char} (h : c.isDigit = true) :
    (CodePoint.scalar c).digit? = some (c.toNat - '0'.toNat) := by
  have hbounds := digit_bounds h
  have hfirst : (decide (48 ≤ c.toNat) && decide (c.toNat < 48 + 10)) = true := by
    simp only [Bool.and_eq_true, decide_eq_true_eq]
    omega
  unfold CodePoint.digit? digitZeros
  rw [List.find?_cons]
  split
  · rfl
  · next hfalse => exact absurd (hfirst.symm.trans hfalse) (by decide)

theorem CodePoint.isDigit_scalar {c : Char} (h : c.isDigit = true) :
    (CodePoint.scalar c).isDigit = true := by
  rw [CodePoint.isDigit, CodePoint.digit?_scalar h]
  rfl

/-- Characters that are decimal digits. -/
def AreDigits (cs : List Char) : Prop :=
  ∀ c ∈ cs, c.isDigit = true

theorem areDigits_toDigits (n : Nat) : AreDigits (Nat.toDigits 10 n) :=
  fun _ hc => Nat.isDigit_of_mem_toDigits (by decide) (by decide) hc

theorem AreDigits.append {cs ds : List Char} (hcs : AreDigits cs) (hds : AreDigits ds) :
    AreDigits (cs ++ ds) := by
  intro c hc
  rcases List.mem_append.1 hc with hc | hc
  · exact hcs c hc
  · exact hds c hc

theorem AreDigits.sublist {cs ds : List Char} (hcs : AreDigits cs) (h : ds.Sublist cs) :
    AreDigits ds :=
  fun c hc => hcs c (h.subset hc)

theorem areDigits_zeros (n : Nat) : AreDigits (List.replicate n '0') := by
  intro c hc
  rw [List.eq_of_mem_replicate hc]
  rfl

/-- The text of a list of characters. -/
def Text.ofChars (cs : List Char) : Text :=
  cs.map .scalar

theorem Text.ofString_eq (s : String) : Text.ofString s = Text.ofChars s.toList :=
  rfl

@[simp] theorem Text.ofChars_cons (c : Char) (cs : List Char) :
    Text.ofChars (c :: cs) = .scalar c :: Text.ofChars cs :=
  rfl

@[simp] theorem Text.ofChars_append (cs ds : List Char) :
    Text.ofChars (cs ++ ds) = Text.ofChars cs ++ Text.ofChars ds :=
  List.map_append

@[simp] theorem Text.length_ofChars (cs : List Char) : (Text.ofChars cs).length = cs.length :=
  List.length_map _

namespace Numeral

theorem digitRun_append {cs : List Char} (h : AreDigits cs) (rest : Text) :
    digitRun (Text.ofChars cs ++ rest) = cs.length + digitRun rest := by
  have hall : ∀ c ∈ Text.ofChars cs, c.isDigit = true := by
    intro c hc
    obtain ⟨d, hd, rfl⟩ := List.mem_map.1 hc
    exact CodePoint.isDigit_scalar (h d hd)
  rw [digitRun, List.takeWhile_append_of_pos hall, List.length_append, Text.length_ofChars]
  rfl

theorem natural_ofChars {cs : List Char} (h : AreDigits cs) :
    natural (Text.ofChars cs) = Nat.ofDigitChars 10 cs 0 := by
  have hfold : ∀ n, (Text.ofChars cs).foldl (fun n c => 10 * n + c.digit?.getD 0) n =
      Nat.ofDigitChars 10 cs n := by
    induction cs with
    | nil => intro n; rfl
    | cons c cs ih =>
        intro n
        have hc : (CodePoint.scalar c).digit? = some (c.toNat - '0'.toNat) :=
          CodePoint.digit?_scalar (h c List.mem_cons_self)
        rw [Nat.ofDigitChars_cons, ← ih fun d hd => h d (List.mem_cons_of_mem _ hd)]
        show List.foldl _ (10 * n + (CodePoint.scalar c).digit?.getD 0) (Text.ofChars cs) = _
        rw [hc]
        rfl
  exact hfold 0

/-- A text that cannot continue a numeral. -/
structure Closes (rest : Text) : Prop where
  digits : digitRun rest = 0
  fraction : fractionLength rest = 0
  exponent : exponentLength rest = 0

theorem closes_nil : Closes [] :=
  ⟨rfl, rfl, rfl⟩

end Numeral

/-- The parts of a numeral: the digits before and after the point, and the sign and the digits of the
exponent. -/
structure Spelling where
  whole : List Char
  fraction : List Char
  exponent : Option (Bool × List Char)

namespace Spelling

/-- The characters of an exponent. -/
def exponentChars : Option (Bool × List Char) → List Char
  | none => []
  | some (negative, digits) => 'e' :: (if negative then '-' else '+') :: digits

/-- The characters of a fraction. -/
def fractionChars (fraction : List Char) : List Char :=
  if fraction = [] then [] else '.' :: fraction

/-- The characters of a numeral. -/
def chars (s : Spelling) : List Char :=
  s.whole ++ (fractionChars s.fraction ++ exponentChars s.exponent)

/-- The parts of a numeral are made of digits, and those that must be there are. -/
structure Proper (s : Spelling) : Prop where
  whole : AreDigits s.whole ∧ s.whole ≠ []
  fraction : AreDigits s.fraction
  exponent : ∀ negative digits, s.exponent = some (negative, digits) →
    AreDigits digits ∧ digits ≠ []

/-- The power of ten by which a numeral is scaled. -/
def power (s : Spelling) : Int :=
  match s.exponent with
  | none => 0
  | some (negative, digits) => if negative then -(Nat.ofDigitChars 10 digits 0 : Int)
      else Nat.ofDigitChars 10 digits 0

/-- The digits of a numeral as one number. -/
def digits (s : Spelling) : Nat :=
  Nat.ofDigitChars 10 (s.whole ++ s.fraction) 0

end Spelling

namespace Numeral

variable {s : Spelling} {rest : Text}

theorem digitRun_eq_zero {c : CodePoint} (h : c.isDigit = false) (rest : Text) :
    digitRun (c :: rest) = 0 := by
  rw [digitRun, List.takeWhile_cons_of_neg (by rw [h]; decide)]
  rfl

theorem digitRun_exponent (s : Spelling) (hrest : Closes rest) :
    digitRun (Text.ofChars (Spelling.exponentChars s.exponent) ++ rest) = 0 := by
  cases s.exponent with
  | none => exact hrest.digits
  | some p => exact digitRun_eq_zero rfl _

theorem digitRun_fraction (s : Spelling) (hrest : Closes rest) :
    digitRun (Text.ofChars (Spelling.fractionChars s.fraction) ++
      (Text.ofChars (Spelling.exponentChars s.exponent) ++ rest)) = 0 := by
  unfold Spelling.fractionChars
  split
  · exact digitRun_exponent s hrest
  · exact digitRun_eq_zero rfl _

theorem exponentLength_cons (sign : Char) (rest : Text) :
    exponentLength (.scalar 'e' :: .scalar sign :: rest) =
      if (sign = '+' ∨ sign = '-') ∧ digitRun rest ≠ 0 then 2 + digitRun rest else 0 :=
  rfl

theorem fractionLength_cons (rest : Text) :
    fractionLength (.scalar '.' :: rest) = if digitRun rest = 0 then 0 else 1 + digitRun rest :=
  rfl

theorem exponentLength_eq (hs : s.Proper) (hrest : Closes rest) :
    exponentLength (Text.ofChars (Spelling.exponentChars s.exponent) ++ rest) =
      (Spelling.exponentChars s.exponent).length := by
  cases hexponent : s.exponent with
  | none => exact hrest.exponent
  | some p =>
      obtain ⟨negative, digits⟩ := p
      obtain ⟨hdigits, hne⟩ := hs.exponent negative digits hexponent
      have hrun : digitRun (Text.ofChars digits ++ rest) = digits.length := by
        rw [digitRun_append hdigits, hrest.digits, Nat.add_zero]
      have hpos : digits.length ≠ 0 := fun hzero => hne (List.length_eq_zero_iff.1 hzero)
      have hsign : (if negative then '-' else '+') = '+' ∨ (if negative then '-' else '+') = '-' := by
        cases negative
        · exact .inl rfl
        · exact .inr rfl
      rw [Spelling.exponentChars, Text.ofChars_cons, Text.ofChars_cons, List.cons_append,
        List.cons_append, exponentLength_cons, hrun, if_pos ⟨hsign, hpos⟩, List.length_cons,
        List.length_cons]
      omega

theorem fractionLength_eq (hs : s.Proper) (hrest : Closes rest) :
    fractionLength (Text.ofChars (Spelling.fractionChars s.fraction) ++
      (Text.ofChars (Spelling.exponentChars s.exponent) ++ rest)) =
      (Spelling.fractionChars s.fraction).length := by
  unfold Spelling.fractionChars
  split
  · cases hexponent : s.exponent with
    | none => exact hrest.fraction
    | some p => rfl
  · next hne =>
      have hrun : digitRun (Text.ofChars s.fraction ++
          (Text.ofChars (Spelling.exponentChars s.exponent) ++ rest)) = s.fraction.length := by
        rw [digitRun_append hs.fraction, digitRun_exponent s hrest, Nat.add_zero]
      have hpos : s.fraction.length ≠ 0 := fun hzero => hne (List.length_eq_zero_iff.1 hzero)
      rw [Text.ofChars_cons, List.cons_append, fractionLength_cons, hrun, if_neg hpos,
        List.length_cons, Nat.add_comm]

theorem drop_ofChars (cs : List Char) (rest : Text) :
    (Text.ofChars cs ++ rest).drop cs.length = rest := by
  rw [← Text.length_ofChars cs, List.drop_left]

/-- A numeral ends where its spelling does. -/
theorem length_eq (hs : s.Proper) (hrest : Closes rest) :
    length (Text.ofChars s.chars ++ rest) = s.chars.length := by
  have hwhole : digitRun (Text.ofChars s.whole ++ (Text.ofChars (Spelling.fractionChars s.fraction) ++
      (Text.ofChars (Spelling.exponentChars s.exponent) ++ rest))) = s.whole.length := by
    rw [digitRun_append hs.whole.1, digitRun_fraction s hrest, Nat.add_zero]
  have hpos : s.whole.length ≠ 0 := fun hzero => hs.whole.2 (List.length_eq_zero_iff.1 hzero)
  simp only [length, Spelling.chars, Text.ofChars_append, List.append_assoc, hwhole]
  rw [if_neg hpos, drop_ofChars, fractionLength_eq hs hrest, ← List.drop_drop, drop_ofChars, drop_ofChars,
    exponentLength_eq hs hrest, List.length_append, List.length_append, Nat.add_assoc]

theorem exponent_ofChars (hs : s.Proper) :
    exponent (Text.ofChars (Spelling.exponentChars s.exponent)) = s.power := by
  unfold Spelling.power
  cases hexponent : s.exponent with
  | none => rfl
  | some p =>
      obtain ⟨negative, digits⟩ := p
      have hnatural := natural_ofChars (hs.exponent negative digits hexponent).1
      cases negative with
      | true =>
          show -(natural (Text.ofChars digits) : Int) = _
          rw [hnatural]
          rfl
      | false =>
          show (natural (Text.ofChars digits) : Int) = _
          rw [hnatural]
          rfl

/-- The digits after the point stand after the first character of the fraction. -/
theorem take_fraction (fraction : List Char) (rest : Text) :
    ((Text.ofChars (Spelling.fractionChars fraction) ++ rest).drop 1).take
      ((Spelling.fractionChars fraction).length - 1) = Text.ofChars fraction ∧
    (Spelling.fractionChars fraction).length - 1 = fraction.length := by
  unfold Spelling.fractionChars
  split
  · next hnil =>
      subst hnil
      exact ⟨rfl, rfl⟩
  · refine ⟨?_, rfl⟩
    rw [Text.ofChars_cons, List.cons_append, List.drop_one, List.tail_cons, List.length_cons,
      Nat.add_sub_cancel, ← Text.length_ofChars fraction, List.take_left]

/-- The value of a numeral, from its parts. -/
theorem value_eq (hs : s.Proper) :
    value (Text.ofChars s.chars) = nearest s.digits (s.power - s.fraction.length) := by
  have hwhole : digitRun (Text.ofChars s.whole ++ (Text.ofChars (Spelling.fractionChars s.fraction) ++
      Text.ofChars (Spelling.exponentChars s.exponent))) = s.whole.length := by
    have hrun := digitRun_fraction s closes_nil
    rw [List.append_nil] at hrun
    rw [digitRun_append hs.whole.1, hrun, Nat.add_zero]
  have hfraction := fractionLength_eq hs closes_nil
  rw [List.append_nil] at hfraction
  obtain ⟨htake, hlength⟩ := take_fraction s.fraction (Text.ofChars (Spelling.exponentChars s.exponent))
  have hdigits := natural_ofChars (hs.whole.1.append hs.fraction)
  simp only [value, Spelling.chars, Text.ofChars_append, hwhole, drop_ofChars, hfraction,
    ← List.drop_drop, exponent_ofChars hs]
  rw [htake, hlength, ← Text.length_ofChars s.whole, List.take_left, ← Text.ofChars_append, hdigits]
  rfl

end Numeral

/-! ## Layouts -/

/-- The rational number that a numeral writes. -/
def Spelling.value (s : Spelling) : ℚ :=
  s.digits * 10 ^ (s.power - s.fraction.length)

/-- Some characters spell a rational number. -/
def Spells (cs : List Char) (q : ℚ) : Prop :=
  ∃ s : Spelling, s.Proper ∧ cs = s.chars ∧ s.value = q

namespace Layout

theorem fractionChars_drop (cs : List Char) (n : Nat) :
    (if cs.length ≤ n then [] else '.' :: cs.drop n) = Spelling.fractionChars (cs.drop n) := by
  unfold Spelling.fractionChars
  by_cases h : cs.length ≤ n
  · rw [if_pos h, if_pos (List.drop_eq_nil_iff.2 h)]
  · rw [if_neg h, if_neg (fun hnil => h (List.drop_eq_nil_iff.1 hnil))]

theorem positional_spells {cs : List Char} (hcs : AreDigits cs) (hne : cs ≠ []) (point : Int) :
    Spells (positional cs point).toList
      (Nat.ofDigitChars 10 cs 0 * 10 ^ (point - (cs.length : Int))) := by
  unfold positional
  split
  · next hpoint =>
      -- Zeros stand between the point and the first digit.
      have hfraction : List.replicate (-point).toNat '0' ++ cs ≠ [] :=
        List.append_ne_nil_of_right_ne_nil _ hne
      refine ⟨⟨['0'], List.replicate (-point).toNat '0' ++ cs, none⟩, ⟨⟨?_, by simp⟩, ?_, by simp⟩, ?_, ?_⟩
      · exact areDigits_zeros 1
      · exact (areDigits_zeros _).append hcs
      · rw [String.toList_ofList, Spelling.chars, Spelling.fractionChars, if_neg hfraction]
        simp [Spelling.exponentChars]
      · have hdigits : Nat.ofDigitChars 10 (['0'] ++ (List.replicate (-point).toNat '0' ++ cs)) 0 =
            Nat.ofDigitChars 10 cs 0 := by
          rw [Nat.ofDigitChars_append, Nat.ofDigitChars_append, Nat.ofDigitChars_replicate_zero]
          rfl
        have hexponent : (0 : Int) - (List.replicate (-point).toNat '0' ++ cs).length =
            point - cs.length := by
          rw [List.length_append, List.length_replicate]
          omega
        simp only [Spelling.value, Spelling.digits, Spelling.power]
        rw [hdigits, hexponent]
  · next hpoint =>
      refine ⟨⟨cs.take point.toNat ++ List.replicate (point.toNat - cs.length) '0',
        cs.drop point.toNat, none⟩, ⟨⟨?_, ?_⟩, ?_, by simp⟩, ?_, ?_⟩
      · exact (hcs.sublist (List.take_sublist _ _)).append (areDigits_zeros _)
      · have hpos : 0 < cs.length := List.length_pos_iff.2 hne
        refine List.append_ne_nil_of_left_ne_nil (List.ne_nil_of_length_pos ?_) _
        rw [List.length_take]
        omega
      · exact hcs.sublist (List.drop_sublist _ _)
      · rw [String.toList_ofList, fractionChars_drop]
        simp [Spelling.chars, Spelling.exponentChars]
      · simp only [Spelling.value, Spelling.digits, Spelling.power]
        by_cases hlength : cs.length ≤ point.toNat
        · -- Zeros fill the places between the last digit and the point.
          rw [List.take_of_length_le hlength, List.drop_eq_nil_of_le hlength, List.append_nil,
            Nat.ofDigitChars_append, Nat.ofDigitChars_replicate_zero, List.length_nil,
            show point - (cs.length : Int) = (point.toNat - cs.length : ℕ) by omega, zpow_natCast]
          push_cast
          norm_num
          ring
        · rw [Nat.sub_eq_zero_of_le (by omega), List.replicate_zero, List.append_nil,
            List.take_append_drop, List.length_drop,
            show (0 : Int) - (cs.length - point.toNat : ℕ) = point - cs.length by omega]

theorem padded_digits (width n : Nat) :
    AreDigits (padded width n).toList ∧ (padded width n).toList ≠ [] ∧
      Nat.ofDigitChars 10 (padded width n).toList 0 = n := by
  simp only [padded, String.toList_ofList]
  refine ⟨(areDigits_zeros _).append (areDigits_toDigits n), by simp, ?_⟩
  rw [Nat.ofDigitChars_append, Nat.ofDigitChars_replicate_zero, Nat.mul_zero,
    Nat.ofDigitChars_ten_toDigits]

theorem padded_spells (width n : Nat) : Spells (padded width n).toList n := by
  obtain ⟨hdigits, hne, hvalue⟩ := padded_digits width n
  refine ⟨⟨(padded width n).toList, [], none⟩, ⟨⟨hdigits, hne⟩, fun _ h => (by cases h), by simp⟩, ?_, ?_⟩
  · simp [Spelling.chars, Spelling.fractionChars, Spelling.exponentChars]
  · simp [Spelling.value, Spelling.digits, Spelling.power, hvalue]

theorem scientific_spells (layout : Layout) {cs : List Char} (hcs : AreDigits cs) (hne : cs ≠ [])
    (exponent : Int) :
    Spells (layout.scientific cs exponent).toList
      (Nat.ofDigitChars 10 cs 0 * 10 ^ (exponent + 1 - (cs.length : Int))) := by
  have hpos : 0 < cs.length := List.length_pos_iff.2 hne
  obtain ⟨hdigits, hpadded, hvalue⟩ := padded_digits layout.exponentWidth exponent.natAbs
  refine ⟨⟨cs.take 1, cs.drop 1, some (decide (exponent < 0),
    (padded layout.exponentWidth exponent.natAbs).toList)⟩, ⟨⟨?_, ?_⟩, ?_, ?_⟩, ?_, ?_⟩
  · exact hcs.sublist (List.take_sublist _ _)
  · refine List.ne_nil_of_length_pos ?_
    rw [List.length_take]
    omega
  · exact hcs.sublist (List.drop_sublist _ _)
  · intro negative digits h
    cases h
    exact ⟨hdigits, hpadded⟩
  · simp only [scientific, fractionChars_drop, Spelling.chars, Spelling.exponentChars]
    by_cases hneg : exponent < 0
    · simp [hneg]
    · simp [hneg]
  · have hpower : (if decide (exponent < 0) = true then -(exponent.natAbs : Int)
        else exponent.natAbs) - ((cs.length - 1 : ℕ) : Int) = exponent + 1 - cs.length := by
      by_cases hneg : exponent < 0
      · rw [if_pos (decide_eq_true hneg)]
        omega
      · rw [if_neg (by simpa using hneg)]
        omega
    simp only [Spelling.value, Spelling.digits, Spelling.power, List.take_append_drop, hvalue,
      List.length_drop]
    rw [hpower]

/-- The text of a positive double spells a decimal near it. -/
theorem magnitude_spells (layout : Layout) {m : Nat} {e : Int} (h : Canonical m e) :
    ∃ q, Spells (layout.magnitude m e).toList q ∧ Near q m e := by
  refine ⟨_, ?_, digits_near h⟩
  have hvalue : (Shortest.digits m e).value =
      Nat.ofDigitChars 10 (Nat.toDigits 10 (Shortest.digits m e).digits) 0 *
        10 ^ ((Shortest.digits m e).point -
          ((Nat.toDigits 10 (Shortest.digits m e).digits).length : Int)) := by
    rw [Nat.ofDigitChars_ten_toDigits]
    rfl
  rw [hvalue]
  unfold magnitude
  simp only
  split
  · exact positional_spells (areDigits_toDigits _) (by simp) _
  · have hspells := layout.scientific_spells (areDigits_toDigits (Shortest.digits m e).digits)
      (by simp) ((Shortest.digits m e).point - 1)
    rwa [Int.sub_add_cancel] at hspells

end Layout

/-- A spelled decimal near a double is read as that double. -/
theorem Spelling.Proper.reads {s : Spelling} (hs : s.Proper) {m : Nat} {e : Int} (h : Canonical m e)
    (hnear : Near s.value m e) :
    Numeral.value (Text.ofChars s.chars) = .ofModel (.pack (positive h)) := by
  rw [Numeral.value_eq hs]
  exact nearest_eq h hnear

/-! ## Numbers -/

/-- The integer that a double equals has the magnitude of the double. -/
theorem integer?_eq_some {x : Float} {negative : Bool} {m : Nat} {e : Int} {n : Int}
    (hdecode : Binary.decode x = .finite negative m e) (h : Binary.integer? x = some n) :
    ∃ k : Nat, n = Binary.signed negative k ∧ (k : ℚ) = m * 2 ^ e := by
  simp only [Binary.integer?, hdecode] at h
  split at h
  · next hnonneg =>
      cases h
      refine ⟨_, rfl, ?_⟩
      have hexponent : (e.toNat : Int) = e := Int.toNat_of_nonneg hnonneg
      rw [Nat.pow_eq, Nat.cast_mul, Nat.cast_pow, ← zpow_natCast, hexponent]
      rfl
  · split at h
    · next hneg hmod =>
        cases h
        refine ⟨_, rfl, ?_⟩
        obtain ⟨j, rfl⟩ : ∃ j : Nat, e = -j := ⟨(-e).toNat, by omega⟩
        have hexponent : (- -(j : Int)).toNat = j := by omega
        rw [hexponent] at hmod ⊢
        obtain ⟨c, rfl⟩ := Nat.dvd_of_mod_eq_zero hmod
        have hpos : 0 < 2 ^ j := Nat.pow_pos (by decide)
        rw [Nat.pow_eq, Nat.mul_div_cancel_left c hpos, zpow_neg, zpow_natCast]
        push_cast
        rw [mul_comm, inv_mul_cancel_left₀ (pow_ne_zero j two_ne_zero)]
    · cases h

/-- What a number is read back as: itself, but without the sign of a negative zero. -/
def Number.readBack (x : Float) : Float :=
  if Binary.isNegativeZero x then 0 else x

theorem decode_of_unpack {x : Float} {sign : Float.Model.UnpackedFloat.Sign} {m : Nat} {e : Int}
    {hm : 0 < m} (h : x.toModel.unpack = .finite sign m e hm) :
    Binary.decode x = .finite (sign == .negative) m e := by
  simp only [Binary.decode, h]

/-- The text of a positive or negative double, in any layout, is a numeral that is read as its magnitude. -/
theorem Layout.write_reads_back (layout : Layout) {x : Float} {sign : Float.Model.UnpackedFloat.Sign} {m : Nat} {e : Int}
    {hm : 0 < m} (h : x.toModel.unpack = .finite sign m e hm) :
    ∃ (s : Spelling) (hcanonical : Canonical m e), s.Proper ∧
      (layout.write x).toList = (if sign == .negative then ['-'] else []) ++ s.chars ∧
      Numeral.value (Text.ofChars s.chars) = .ofModel (.pack (positive hcanonical)) := by
  have hcanonical := canonical_of_unpack h
  have hdecode := decode_of_unpack h
  simp only [Layout.write, hdecode]
  cases hwhole : (Binary.integer? x).filter layout.writesOut with
  | some n =>
      obtain ⟨hinteger, -⟩ := Option.filter_eq_some_iff.1 hwhole
      obtain ⟨k, rfl, hk⟩ := integer?_eq_some hdecode hinteger
      obtain ⟨s, hs, hchars, hvalue⟩ := Layout.padded_spells 1 k
      refine ⟨s, hcanonical, hs, ?_, hs.reads hcanonical ?_⟩
      · have hpos : 0 < k := by
          have hcast : (0 : ℚ) < k := by
            rw [hk]
            exact scaled_pos hm e
          exact_mod_cast hcast
        cases sign with
        | positive =>
            have hnonneg : ¬ (Binary.signed false k < 0) := Int.not_lt.2 (Int.natCast_nonneg k)
            show (if Binary.signed false k < 0 then _ else Layout.padded 1 k).toList = _
            rw [if_neg hnonneg, hchars]
            rfl
        | negative =>
            have hneg : Binary.signed true k < 0 := by
              show -(k : Int) < 0
              omega
            have habs : (Binary.signed true k).natAbs = k := Int.natAbs_neg k
            show (if Binary.signed true k < 0 then "-" ++ Layout.padded 1 (Binary.signed true k).natAbs
              else _).toList = _
            rw [if_pos hneg, habs, String.toList_append, hchars]
            rfl
      · rw [hvalue, hk]
        exact near_self m e
  | none =>
      obtain ⟨q, ⟨s, hs, hchars, hvalue⟩, hnear⟩ := layout.magnitude_spells hcanonical
      refine ⟨s, hcanonical, hs, ?_, hs.reads hcanonical (hvalue ▸ hnear)⟩
      simp only [String.toList_append, hchars]
      cases sign <;> rfl

theorem print_zero {x : Float} {negative : Bool} (h : Binary.decode x = .finite negative 0 0) :
    Number.print x = "0" := by
  have hinteger : Binary.integer? x = some 0 := by
    simp only [Binary.integer?, h]
    cases negative <;> rfl
  simp only [Number.print, Layout.write, h, hinteger]
  rfl

theorem decode_zero {x : Float} {sign : Float.Model.UnpackedFloat.Sign}
    (h : x.toModel.unpack = .zero sign) : Binary.decode x = .finite (sign == .negative) 0 0 := by
  simp only [Binary.decode, h]

theorem readBack_zero {x : Float} {sign : Float.Model.UnpackedFloat.Sign}
    (h : x.toModel.unpack = .zero sign) : Number.readBack x = 0 := by
  cases sign with
  | negative =>
      simp only [Number.readBack, Binary.isNegativeZero, decode_zero h]
      rfl
  | positive =>
      have hx : x = .ofModel (.pack (.zero .positive)) := by
        rw [← h, pack_unpack]
      rw [hx]
      decide

theorem readBack_finite {x : Float} {sign : Float.Model.UnpackedFloat.Sign} {m : Nat} {e : Int}
    {hm : 0 < m} (h : x.toModel.unpack = .finite sign m e hm) : Number.readBack x = x := by
  have hne : Binary.decode x ≠ .finite true 0 0 := by
    rw [decode_of_unpack h]
    intro heq
    obtain ⟨-, hzero, -⟩ := Binary.finite.inj heq
    omega
  rw [Number.readBack, if_neg (by simpa [Binary.isNegativeZero] using hne)]

/-- A number is written as what it is read back as. -/
theorem print_readBack (x : Float) : Number.print (Number.readBack x) = Number.print x := by
  unfold Number.readBack
  split
  · next hzero =>
      have hdecode : Binary.decode x = .finite true 0 0 := by
        simpa [Binary.isNegativeZero] using hzero
      have hplain : Binary.decode 0 = .finite false 0 0 := by decide
      rw [print_zero hdecode, print_zero hplain]
  · rfl

/-- A finite number equals what it is read back as. -/
theorem readBack_beq (x : Float) (hx : x.isFinite = true) : (Number.readBack x == x) = true := by
  cases h : x.toModel.unpack with
  | notANumber | infinity sign =>
      have hfinite : x.toModel.unpack.isFinite = true := hx
      rw [h] at hfinite
      cases hfinite
  | zero sign =>
      have hplain : (0 : Float).toModel.unpack = .zero .positive := rfl
      rw [readBack_zero h]
      show Float.Model.UnpackedFloat.beq (0 : Float).toModel.unpack x.toModel.unpack = true
      rw [hplain, h]
      rfl
  | finite sign m e hm =>
      rw [readBack_finite h]
      show Float.Model.UnpackedFloat.beq x.toModel.unpack x.toModel.unpack = true
      rw [h]
      cases sign <;>
        simp [Float.Model.UnpackedFloat.beq, Float.Model.UnpackedFloat.compare]

theorem lt_zero_iff (x : Float) :
    x < 0 ↔ Float.Model.UnpackedFloat.lt x.toModel.unpack (.zero .positive) = true := by
  have hzero : (0 : Float).toModel.unpack = .zero .positive := rfl
  rw [← hzero]
  exact decide_eq_true_iff

/-- A finite number is written as a numeral, after a minus if it is negative, and the numeral is read
as its magnitude. A negative zero is written without its sign. -/
theorem number_reads_back (x : Float) (hx : x.isFinite = true) :
    ∃ s : Spelling, s.Proper ∧
      ((¬ x < 0 ∧ (Number.print x).toList = s.chars ∧
          Numeral.value (Text.ofChars s.chars) = Number.readBack x) ∨
        (x < 0 ∧ (Number.print x).toList = '-' :: s.chars ∧
          -Numeral.value (Text.ofChars s.chars) = Number.readBack x)) := by
  cases h : x.toModel.unpack with
  | notANumber | infinity sign =>
      have hfinite : x.toModel.unpack.isFinite = true := hx
      rw [h] at hfinite
      cases hfinite
  | zero sign =>
      refine ⟨⟨['0'], [], none⟩, ⟨⟨areDigits_zeros 1, by simp⟩, fun _ hc => (by cases hc), by simp⟩,
        .inl ⟨?_, ?_, ?_⟩⟩
      · rw [lt_zero_iff, h]
        cases sign <;> decide
      · rw [print_zero (decode_zero h)]
        rfl
      · rw [readBack_zero h]
        rfl
  | finite sign m e hm =>
      obtain ⟨s, hcanonical, hs, hchars, hvalue⟩ := Number.printed.write_reads_back h
      have hx : x = .ofModel (.pack (.finite sign m e hm)) := by
        rw [← h, pack_unpack]
      refine ⟨s, hs, ?_⟩
      rw [readBack_finite h, hvalue, lt_zero_iff, h]
      cases sign with
      | positive => exact .inl ⟨Bool.false_ne_true, hchars, hx.symm⟩
      | negative =>
          refine .inr ⟨rfl, hchars, ?_⟩
          show Float.ofModel (.pack (Float.Model.pack (positive hcanonical)).unpack.neg) = x
          rw [positive, unpack_pack hcanonical, hx]
          rfl

end RollScript

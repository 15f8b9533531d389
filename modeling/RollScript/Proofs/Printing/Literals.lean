import RollScript.Proofs.Numbers.Numerals
import RollScript.Text.Literal
import RollScript.Token.Scan

/-!
# Written strings are read back

Read `decode_encode` first: a string literal is read back as the text it was written for, except that a
high surrogate and a low one that follows it directly are read as the character they encode. Writing
that character gives the same two escapes again. Each code point is written in one of four ways, which
`Escapes` lists together with what the reader makes of them.
-/

namespace RollScript

/-! ## Code points -/

namespace CodePoint

theorem not_surrogate (c : Char) : c.toNat < 0xD800 ∨ 0xE000 ≤ c.toNat := by
  rcases c.valid with h | ⟨h, -⟩
  · exact .inl h
  · exact .inr h

theorem isHighSurrogate_iff {c : CodePoint} :
    c.isHighSurrogate = true ↔ 0xD800 ≤ c.toNat ∧ c.toNat < 0xDC00 := by
  simp [isHighSurrogate]

theorem isLowSurrogate_iff {c : CodePoint} :
    c.isLowSurrogate = true ↔ 0xDC00 ≤ c.toNat ∧ c.toNat < 0xE000 := by
  simp [isLowSurrogate]

@[simp] theorem isHighSurrogate_scalar (c : Char) : (scalar c).isHighSurrogate = false := by
  have hvalid := not_surrogate c
  refine Bool.eq_false_iff.2 fun h => ?_
  have hrange : 0xD800 ≤ c.toNat ∧ c.toNat < 0xDC00 := isHighSurrogate_iff.1 h
  omega

@[simp] theorem isLowSurrogate_scalar (c : Char) : (scalar c).isLowSurrogate = false := by
  have hvalid := not_surrogate c
  refine Bool.eq_false_iff.2 fun h => ?_
  have hrange : 0xDC00 ≤ c.toNat ∧ c.toNat < 0xE000 := isLowSurrogate_iff.1 h
  omega

theorem ofNatAux_toNat (c : Char) (h : c.toNat.isValidChar) : Char.ofNatAux c.toNat h = c := by
  have hchar := Char.ofNat_toNat c
  rwa [Char.ofNat, dif_pos h] at hchar

theorem ofNat_toNat (c : CodePoint) : ofNat c.toNat = c := by
  cases c with
  | scalar c =>
      have hvalid : c.toNat.isValidChar := c.valid
      rw [ofNat, toNat, dif_pos hvalid, ofNatAux_toNat]
  | surrogate index =>
      have hlt := index.isLt
      have hinvalid : ¬ (0xD800 + index.val).isValidChar := by
        unfold Nat.isValidChar
        omega
      rw [ofNat, toNat, dif_neg hinvalid, dif_pos (by omega)]
      exact congrArg surrogate (Fin.ext (Nat.add_sub_cancel_left ..))

theorem toNat_ofNat {n : Nat} (h : n < 0x110000) : (ofNat n).toNat = n := by
  unfold ofNat
  split
  · rfl
  · next hinvalid =>
      have hrange : ¬ (n < 0xD800 ∨ 0xDFFF < n ∧ n < 0x110000) := hinvalid
      rw [dif_pos (by omega)]
      show 0xD800 + (n - 0xD800) = n
      omega

theorem toNat_lt (c : CodePoint) : c.toNat < 0x110000 := by
  cases c with
  | scalar c =>
      rcases c.valid with h | ⟨-, h⟩
      · exact Nat.lt_trans h (by decide)
      · exact h
  | surrogate index =>
      have hlt := index.isLt
      show 0xD800 + index.val < 0x110000
      omega

/-- A high surrogate and a low one, in this order. -/
def Joins (high low : CodePoint) : Prop :=
  high.isHighSurrogate = true ∧ low.isLowSurrogate = true

instance (high low : CodePoint) : Decidable (Joins high low) :=
  inferInstanceAs (Decidable (_ ∧ _))

theorem joins_iff {high low : CodePoint} : Joins high low ↔
    (0xD800 ≤ high.toNat ∧ high.toNat < 0xDC00) ∧ 0xDC00 ≤ low.toNat ∧ low.toNat < 0xE000 := by
  rw [Joins, isHighSurrogate_iff, isLowSurrogate_iff]

/-- The number of the character that a surrogate pair encodes. -/
theorem toNat_joinPair {high low : CodePoint} (h : Joins high low) :
    (high.joinPair low).toNat = 0x10000 + (high.toNat - 0xD800) * 0x400 + (low.toNat - 0xDC00) := by
  have hrange := joins_iff.1 h
  exact toNat_ofNat (by omega)

end CodePoint

/-- The text with each high surrogate and a low one that follows it directly joined to the character
they encode. -/
def Text.joinPairs : Text → Text
  | high :: low :: rest =>
    if high.Joins low then high.joinPair low :: joinPairs rest
    else high :: joinPairs (low :: rest)
  | t => t

/-- No high surrogate is directly followed by a low one. -/
def Text.Unpaired (t : Text) : Prop :=
  t.IsChain fun high low => ¬ high.Joins low

instance (t : Text) : Decidable t.Unpaired :=
  inferInstanceAs (Decidable (List.IsChain _ t))

theorem Text.joinPairs_eq_self {t : Text} (h : t.Unpaired) : t.joinPairs = t := by
  fun_induction joinPairs t with
  | case1 high low rest hpair => exact absurd hpair (List.isChain_cons_cons.1 h).1
  | case2 high low rest hpair ih => rw [ih (List.isChain_cons_cons.1 h).2]
  | case3 t => rfl

namespace Literal

/-! ## Hexadecimal digits -/

theorem hexDigit?_hexDigit {value : Nat} (h : value < 16) :
    (CodePoint.scalar (hexDigit value)).hexDigit? = some value := by
  revert value
  decide

/-- Four hexadecimal digits are read as the unit they were written for. -/
theorem unit?_hexDigits {unit : Nat} (h : unit < 0x10000) :
    ∃ a b c d : Char, hexDigits unit 4 = [a, b, c, d] ∧
      unit? (.scalar a) (.scalar b) (.scalar c) (.scalar d) = some unit := by
  have hlt : ∀ n, n % 16 < 16 := fun n => Nat.mod_lt n (by decide)
  refine ⟨hexDigit (unit / 16 / 16 / 16 % 16), hexDigit (unit / 16 / 16 % 16), hexDigit (unit / 16 % 16),
    hexDigit (unit % 16), rfl, ?_⟩
  rw [unit?, hexDigit?_hexDigit (hlt _), hexDigit?_hexDigit (hlt _), hexDigit?_hexDigit (hlt _),
    hexDigit?_hexDigit (hlt _)]
  show some ((((unit / 16 / 16 / 16 % 16) * 16 + unit / 16 / 16 % 16) * 16 + unit / 16 % 16) * 16 +
    unit % 16) = some unit
  congr 1
  omega

theorem hexDigit?_of_unit? {a b c d : CodePoint} {unit : Nat} (h : unit? a b c d = some unit) :
    (a.hexDigit?.isSome && b.hexDigit?.isSome && c.hexDigit?.isSome && d.hexDigit?.isSome) = true := by
  unfold unit? at h
  cases ha : a.hexDigit? <;> cases hb : b.hexDigit? <;> cases hc : c.hexDigit? <;>
    cases hd : d.hexDigit? <;> simp [ha, hb, hc, hd] at h ⊢

/-- The characters of a four-digit escape. -/
def unitChars (unit : Nat) : List Char :=
  '\\' :: 'u' :: hexDigits unit 4

theorem unitEscape_toList (unit : Nat) : (unitEscape unit).toList = unitChars unit := by
  rw [unitEscape, hex, String.toList_append]
  exact congrArg (['\\', 'u'] ++ ·) String.toList_ofList

/-- The first half of the surrogate pair that encodes a number. -/
def highHalf (n : Nat) : Nat :=
  0xD800 + (n - 0x10000) / 0x400

/-- The second half of the surrogate pair that encodes a number. -/
def lowHalf (n : Nat) : Nat :=
  0xDC00 + (n - 0x10000) % 0x400

/-! ## How a code point is written -/

/-- The ways in which a code point is written between the quotes, with the pieces that the reader finds
there. -/
inductive Escapes : CodePoint → List Char → List Piece → Prop where
  | plain {c : Char} (hquote : c ≠ '"') (hbackslash : c ≠ '\\') :
      Escapes (.scalar c) [c] [.plain (.scalar c)]
  | short {c mark : Char} (hmark : mark ∈ ['"', '\\', '/', 'b', 'f', 'n', 'r', 't'])
      (hmeant : shortEscape? (.scalar mark) = some (.scalar c)) :
      Escapes (.scalar c) ['\\', mark] [.plain (.scalar c)]
  | unit {c : CodePoint} (hsmall : c.toNat < 0x10000) :
      Escapes c (unitChars c.toNat) [.escaped c.toNat]
  | pair {c : CodePoint} (hlarge : 0x10000 ≤ c.toNat) :
      Escapes c (unitChars (highHalf c.toNat) ++ unitChars (lowHalf c.toNat))
        [.escaped (highHalf c.toNat), .escaped (lowHalf c.toNat)]

/-- Every code point is written in one of the four ways. -/
theorem escapes (c : CodePoint) : ∃ pieces, Escapes c (escape c).toList pieces := by
  unfold escape
  split
  · exact ⟨_, .short (by decide) rfl⟩
  · exact ⟨_, .short (by decide) rfl⟩
  · exact ⟨_, .short (by decide) rfl⟩
  · exact ⟨_, .short (by decide) rfl⟩
  · exact ⟨_, .short (by decide) rfl⟩
  · exact ⟨_, .short (by decide) rfl⟩
  · exact ⟨_, .short (by decide) rfl⟩
  · next hquote hbackslash _ _ _ _ _ =>
      dsimp only
      split
      · next hprintable =>
          cases c with
          | scalar c =>
              refine ⟨[.plain (.scalar c)], ?_⟩
              rw [String.toList_singleton, CodePoint.toNat, Char.ofNat_toNat]
              exact .plain (fun h => hquote (h ▸ rfl)) (fun h => hbackslash (h ▸ rfl))
          | surrogate index =>
              have hrange : 0xD800 + index.val ≤ 0x7E := hprintable.2
              omega
      · split
        · next hsmall =>
            rw [unitEscape_toList]
            exact ⟨_, .unit hsmall⟩
        · next hlarge =>
            rw [String.toList_append, unitEscape_toList, unitEscape_toList]
            exact ⟨_, .pair (Nat.le_of_not_lt hlarge)⟩

/-- How a text is written between the quotes, code point by code point. -/
inductive Writes : Text → List Char → List Piece → Prop where
  | nil : Writes [] [] []
  | cons {c : CodePoint} {t : Text} {first later : List Char} {head tail : List Piece}
      (hfirst : Escapes c first head) (hlater : Writes t later tail) :
      Writes (c :: t) (first ++ later) (head ++ tail)

theorem writes (t : Text) : ∃ pieces, Writes t (t.flatMap fun c => (escape c).toList) pieces := by
  induction t with
  | nil => exact ⟨[], .nil⟩
  | cons c t ih =>
      obtain ⟨head, hfirst⟩ := escapes c
      obtain ⟨tail, hlater⟩ := ih
      exact ⟨head ++ tail, .cons hfirst hlater⟩

/-- A literal is a quote, its written code points, and a quote. -/
theorem encode_toList (t : Text) :
    (encode t).toList = '"' :: ((t.flatMap fun c => (escape c).toList) ++ ['"']) := by
  have hjoin : (String.join (t.map escape)).toList = t.flatMap fun c => (escape c).toList := by
    rw [String.toList_join, List.flatMap_map]
  rw [encode, String.toList_append, String.toList_append, hjoin]
  rfl

/-! ## What the reader finds -/

variable {c : CodePoint} {t rest : Text} {chars : List Char} {found later : List Piece} {unit : Nat}

theorem pieces_plain {c : CodePoint} (hquote : c ≠ .scalar '"') (hbackslash : c ≠ .scalar '\\')
    (hrest : pieces rest = some later) : pieces (c :: rest) = some (.plain c :: later) := by
  rw [pieces, hrest]
  · rfl
  · exact fun h _ => hquote h
  · exact hquote
  · exact fun _ _ _ _ _ h _ => hbackslash h
  · exact fun _ _ h _ => hbackslash h
  · exact fun h _ => hbackslash h

theorem pieces_short {mark : Char} (h : shortEscape? (.scalar mark) = some c)
    (hrest : pieces rest = some later) :
    pieces (.scalar '\\' :: .scalar mark :: rest) = some (.plain c :: later) := by
  rw [pieces, h, hrest]
  · rfl
  · intro a b c' d after hmark
    cases hmark
    cases h

theorem pieces_unit (h : unit < 0x10000) (hrest : pieces rest = some later) :
    pieces (Text.ofChars (unitChars unit) ++ rest) = some (.escaped unit :: later) := by
  obtain ⟨a, b, c, d, hdigits, hunit⟩ := unit?_hexDigits h
  rw [unitChars, hdigits]
  show pieces (.scalar '\\' :: .scalar 'u' :: .scalar a :: .scalar b :: .scalar c :: .scalar d :: rest) = _
  rw [pieces, hunit, hrest]
  rfl

theorem literalRest_plain {c : CodePoint} (hquote : c ≠ .scalar '"') (hbackslash : c ≠ .scalar '\\')
    (rest : Text) : literalRest (c :: rest) = (literalRest rest).map (1 + ·) := by
  rw [literalRest]
  · exact hquote
  · intro a b c d rest hc
    exact absurd hc hbackslash
  · intro a rest hc
    exact absurd hc hbackslash
  · exact hbackslash

theorem literalRest_short {mark : Char} (h : mark ∈ ['"', '\\', '/', 'b', 'f', 'n', 'r', 't'])
    (rest : Text) :
    literalRest (.scalar '\\' :: .scalar mark :: rest) = (literalRest rest).map (2 + ·) := by
  rw [literalRest, if_pos h]
  intro a b c d after hmark hrest
  subst hrest
  cases hmark
  exact absurd h (by decide)

theorem literalRest_unit (h : unit < 0x10000) (rest : Text) :
    literalRest (Text.ofChars (unitChars unit) ++ rest) = (literalRest rest).map (6 + ·) := by
  obtain ⟨a, b, c, d, hdigits, hunit⟩ := unit?_hexDigits h
  rw [unitChars, hdigits]
  show literalRest (.scalar '\\' :: .scalar 'u' :: .scalar a :: .scalar b :: .scalar c :: .scalar d ::
    rest) = _
  rw [literalRest, if_pos (hexDigit?_of_unit? hunit)]

theorem length_unitChars (unit : Nat) : (unitChars unit).length = 6 :=
  rfl

theorem halves_lt (hlt : c.toNat < 0x110000) :
    highHalf c.toNat < 0x10000 ∧ lowHalf c.toNat < 0x10000 := by
  unfold highHalf lowHalf
  omega

theorem Escapes.pieces_append (h : Escapes c chars found) (hrest : pieces rest = some later) :
    pieces (Text.ofChars chars ++ rest) = some (found ++ later) := by
  cases h with
  | plain hquote hbackslash =>
      exact pieces_plain (by simpa using hquote) (by simpa using hbackslash) hrest
  | short hmark hmeant => exact pieces_short hmeant hrest
  | unit hsmall => exact pieces_unit hsmall hrest
  | pair hlarge =>
      obtain ⟨hhigh, hlow⟩ := halves_lt c.toNat_lt
      rw [Text.ofChars_append, List.append_assoc]
      exact pieces_unit hhigh (pieces_unit hlow hrest)

theorem Escapes.literalRest_append (h : Escapes c chars found) (rest : Text) :
    literalRest (Text.ofChars chars ++ rest) = (literalRest rest).map (chars.length + ·) := by
  cases h with
  | plain hquote hbackslash =>
      exact literalRest_plain (by simpa using hquote) (by simpa using hbackslash) rest
  | short hmark hmeant => exact literalRest_short hmark rest
  | unit hsmall => exact literalRest_unit hsmall rest
  | pair hlarge =>
      obtain ⟨hhigh, hlow⟩ := halves_lt c.toNat_lt
      rw [Text.ofChars_append, List.append_assoc, literalRest_unit hhigh, literalRest_unit hlow,
        Option.map_map, List.length_append, length_unitChars, length_unitChars]
      congr 1
      funext n
      exact (Nat.add_assoc 6 6 n).symm

theorem Writes.pieces_eq (h : Writes t chars found) :
    pieces (Text.ofChars (chars ++ ['"'])) = some found := by
  induction h with
  | nil => rfl
  | cons hfirst hlater ih =>
      rw [List.append_assoc, Text.ofChars_append]
      exact hfirst.pieces_append ih

theorem Writes.literalRest_eq (h : Writes t chars found) (rest : Text) :
    literalRest (Text.ofChars (chars ++ ['"']) ++ rest) = some (chars.length + 1) := by
  induction h with
  | nil => rfl
  | @cons c t first later head tail hfirst hlater ih =>
      rw [List.append_assoc, Text.ofChars_append, List.append_assoc, hfirst.literalRest_append, ih,
        Option.map_some, List.length_append, Nat.add_assoc]

/-! ## Surrogate pairs -/

theorem joinPieces_apart
    (h : ∀ low after, later = .escaped low :: after → ¬ CodePoint.Joins (.ofNat unit) (.ofNat low)) :
    joinPieces (.escaped unit :: later) = .ofNat unit :: joinPieces later := by
  cases later with
  | nil => rfl
  | cons piece later =>
      cases piece with
      | plain c => rfl
      | escaped low =>
          have hapart := h low later rfl
          rw [joinPieces, if_neg (by rwa [Bool.and_eq_true])]

theorem joinPairs_apart (h : ∀ low after, t = low :: after → ¬ CodePoint.Joins c low) :
    Text.joinPairs (c :: t) = c :: t.joinPairs := by
  cases t with
  | nil => rfl
  | cons low t => rw [Text.joinPairs, if_neg (h low t rfl)]

theorem joinPieces_pair {n : Nat} (hlarge : 0x10000 ≤ n) (hlt : n < 0x110000) (later : List Piece) :
    joinPieces (.escaped (highHalf n) :: .escaped (lowHalf n) :: later) =
      .ofNat n :: joinPieces later := by
  have hhigh : (CodePoint.ofNat (highHalf n)).toNat = highHalf n :=
    CodePoint.toNat_ofNat (by unfold highHalf; omega)
  have hlow : (CodePoint.ofNat (lowHalf n)).toNat = lowHalf n :=
    CodePoint.toNat_ofNat (by unfold lowHalf; omega)
  have hhigh' : (CodePoint.ofNat (highHalf n)).isHighSurrogate = true :=
    CodePoint.isHighSurrogate_iff.2 (by rw [hhigh, highHalf]; omega)
  have hlow' : (CodePoint.ofNat (lowHalf n)).isLowSurrogate = true :=
    CodePoint.isLowSurrogate_iff.2 (by rw [hlow, lowHalf]; omega)
  have hjoin : (CodePoint.ofNat (highHalf n)).joinPair (.ofNat (lowHalf n)) = .ofNat n := by
    rw [CodePoint.joinPair, hhigh, hlow]
    refine congrArg CodePoint.ofNat ?_
    unfold highHalf lowHalf
    omega
  rw [joinPieces, hhigh', hlow', hjoin]
  rfl

/-- Reading on after a code point that is written as one escape. -/
theorem Writes.joinPieces_unit (h : Writes t chars later) (ih : joinPieces later = t.joinPairs)
    (c : CodePoint) :
    joinPieces (.escaped c.toNat :: later) = Text.joinPairs (c :: t) := by
  have hc : CodePoint.ofNat c.toNat = c := c.ofNat_toNat
  cases h with
  | nil => rw [joinPieces_apart (by simp), joinPairs_apart (by simp), hc, ih]
  | @cons d t first later head tail hfirst hlater =>
      cases hfirst with
      | plain hquote hbackslash =>
          rw [joinPieces_apart (by simp), joinPairs_apart (by simp [CodePoint.Joins]), hc, ih]
      | short hmark hmeant =>
          rw [joinPieces_apart (by simp), joinPairs_apart (by simp [CodePoint.Joins]), hc, ih]
      | unit hsmall' =>
          have hd : CodePoint.ofNat d.toNat = d := d.ofNat_toNat
          by_cases hpair : c.Joins d
          · have hrange := CodePoint.joins_iff.1 hpair
            -- The low surrogate starts no pair itself, so the rest is read without it.
            have hlow : ∀ low, ¬ CodePoint.Joins d low := by
              intro low hd'
              have hrange' := CodePoint.joins_iff.1 hd'
              omega
            have htail : joinPieces tail = t.joinPairs := by
              rw [List.singleton_append, joinPieces_apart (by rw [hd]; exact fun low _ _ => hlow _),
                joinPairs_apart (fun low _ _ => hlow low), hd] at ih
              exact (List.cons.inj ih).2
            rw [List.singleton_append, joinPieces, hc, hd, if_pos (by rwa [Bool.and_eq_true]),
              Text.joinPairs, if_pos hpair, htail]
          · rw [joinPieces_apart, joinPairs_apart, hc, ih]
            · intro low after heq
              cases heq
              exact hpair
            · intro low after heq
              cases heq
              rwa [hc, hd]
      | pair hlarge =>
          have hd := d.toNat_lt
          rw [joinPieces_apart, joinPairs_apart, hc, ih]
          · intro low after heq hjoins
            cases heq
            have hrange := CodePoint.joins_iff.1 hjoins
            omega
          · intro low after heq hjoins
            cases heq
            have hrange := CodePoint.joins_iff.1 hjoins
            rw [CodePoint.toNat_ofNat (n := highHalf d.toNat) (by unfold highHalf; omega)] at hrange
            unfold highHalf at hrange
            omega

theorem Writes.joinPieces_eq (h : Writes t chars found) : joinPieces found = t.joinPairs := by
  induction h with
  | nil => rfl
  | @cons c t first later head tail hfirst hlater ih =>
      cases hfirst with
      | plain hquote hbackslash =>
          rw [joinPairs_apart (by simp [CodePoint.Joins]), ← ih]
          rfl
      | short hmark hmeant =>
          rw [joinPairs_apart (by simp [CodePoint.Joins]), ← ih]
          rfl
      | unit hsmall => exact hlater.joinPieces_unit ih c
      | pair hlarge =>
          rw [joinPairs_apart, ← ih, List.cons_append, List.singleton_append,
            joinPieces_pair hlarge c.toNat_lt, c.ofNat_toNat]
          intro low after _ hjoins
          have hrange := CodePoint.joins_iff.1 hjoins
          omega

/-- A written string is read as the text it was written for, with its surrogate pairs joined. -/
theorem decode_encode (t : Text) : decode (Text.ofString (encode t)) = some t.joinPairs := by
  obtain ⟨found, hwrites⟩ := writes t
  rw [Text.ofString_eq, encode_toList, Text.ofChars_cons, decode, hwrites.pieces_eq, Option.map_some,
    hwrites.joinPieces_eq]

/-- A written string ends with its closing quote, whatever follows. -/
theorem literalRest_encode (t rest : Text) :
    ∃ body, (encode t).toList = '"' :: body ∧
      literalRest (Text.ofChars body ++ rest) = some body.length := by
  obtain ⟨found, hwrites⟩ := writes t
  refine ⟨_, encode_toList t, ?_⟩
  rw [hwrites.literalRest_eq, List.length_append]
  rfl

/-- A character outside the first plane is written as the two halves of its pair. -/
theorem escape_large (hlarge : 0x10000 ≤ c.toNat) :
    escape c = unitEscape (highHalf c.toNat) ++ unitEscape (lowHalf c.toNat) := by
  unfold escape
  split <;> first | exact absurd hlarge (by decide) | skip
  dsimp only
  rw [if_neg (by omega), if_neg (by omega)]
  rfl

/-- A surrogate is written as one escape. -/
theorem escape_surrogate (hlow : 0xD800 ≤ c.toNat) (hhigh : c.toNat < 0x10000) :
    escape c = unitEscape c.toNat := by
  unfold escape
  split <;> first | exact absurd hlow (by decide) | skip
  dsimp only
  rw [if_neg (by omega), if_pos hhigh]

theorem escape_joinPair {high low : CodePoint} (h : high.Joins low) :
    escape (high.joinPair low) = escape high ++ escape low := by
  have hrange := CodePoint.joins_iff.1 h
  have hjoin := CodePoint.toNat_joinPair h
  rw [escape_large (by omega), escape_surrogate (by omega) (by omega),
    escape_surrogate (by omega) (by omega)]
  have hhigh : highHalf (high.joinPair low).toNat = high.toNat := by
    rw [hjoin, highHalf]
    omega
  have hlow : lowHalf (high.joinPair low).toNat = low.toNat := by
    rw [hjoin, lowHalf]
    omega
  rw [hhigh, hlow]

/-- A text and the text with its pairs joined are written alike. -/
theorem encode_joinPairs (t : Text) : encode t.joinPairs = encode t := by
  have hbody : (t.joinPairs.flatMap fun c => (escape c).toList) =
      t.flatMap fun c => (escape c).toList := by
    fun_induction Text.joinPairs t with
    | case1 high low rest hpair ih =>
        rw [List.flatMap_cons, List.flatMap_cons, List.flatMap_cons, ih, escape_joinPair hpair,
          String.toList_append, List.append_assoc]
    | case2 high low rest hpair ih =>
        rw [List.flatMap_cons, ih]
        rfl
    | case3 t => rfl
  refine String.toList_inj.1 ?_
  rw [encode_toList, encode_toList, hbody]

end Literal

end RollScript

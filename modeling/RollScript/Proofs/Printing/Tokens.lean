import RollScript.Proofs.Grammar.Scanning
import RollScript.Proofs.Printing.Literals

/-!
# The tokens of printed text

Read `scanAt_token` first: a lexeme at the front of a text becomes the first token, and the scan goes on
behind it. The lemmas after it are about the lexemes that printed values are made of. A numeral in
printed text is followed by the end of the text, by a bracket, or by a dot and a blank, and none of these
continues it.
-/

namespace RollScript

/-! ## Scanning step by step -/

/-- The scan of the rest of a source that starts at an offset. -/
def scanAt (pos : Nat) (rest : Text) : Scan :=
  scanFrom rest.length pos rest

/-- Steps that are left over change nothing. -/
theorem scanFrom_eq {steps : Nat} (pos : Nat) {rest : Text} (h : rest.length ≤ steps) :
    scanFrom steps pos rest = scanAt pos rest := by
  unfold scanAt
  induction steps using Nat.strongRecOn generalizing pos rest with
  | ind steps ih =>
      cases rest with
      | nil => cases steps <;> rfl
      | cons c later =>
          obtain ⟨steps, rfl⟩ : ∃ n, steps = n + 1 := ⟨steps - 1, by simp at h; omega⟩
          rw [List.length_cons, scanFrom, scanFrom]
          cases hlexeme : lexeme (c :: later) with
          | none => rfl
          | some p =>
              obtain ⟨found, length⟩ := p
              have hpos := (lexeme_spec hlexeme).1
              have hlater : later.length ≤ steps := Nat.le_of_succ_le_succ h
              have hdrop : ((c :: later).drop length).length ≤ later.length := by
                rw [List.length_drop, List.length_cons]
                omega
              have hshort := ih steps (Nat.lt_succ_self _) (pos + length) (Nat.le_trans hdrop hlater)
              have hlong := ih later.length (Nat.lt_succ_of_le hlater) (pos + length) hdrop
              cases found with
              | trivia => exact hshort.trans hlong.symm
              | token kind => exact congrArg (Scan.cons _) (hshort.trans hlong.symm)

@[simp] theorem scanAt_nil (pos : Nat) : scanAt pos [] = ⟨[.endOfInput pos], none⟩ :=
  rfl

/-- Puts what a lexeme leaves in front of a scan: its token, or nothing. -/
def Lexeme.before (found : Lexeme) (text : Text) (pos : Nat) (later : Scan) : Scan :=
  match found with
  | .trivia => later
  | .token kind => later.cons ⟨kind, text, pos⟩

/-- A lexeme at the front of a text. -/
theorem scanAt_append {text rest : Text} {found : Lexeme} (pos : Nat)
    (h : lexeme (text ++ rest) = some (found, text.length)) :
    scanAt pos (text ++ rest) = found.before text pos (scanAt (pos + text.length) rest) := by
  have hpos := (lexeme_spec h).1
  cases text with
  | nil => cases hpos
  | cons c text =>
      have htake : ((c :: text) ++ rest).take (c :: text).length = c :: text := List.take_left
      have hdrop : ((c :: text) ++ rest).drop (c :: text).length = rest := List.drop_left
      have hlong : rest.length ≤ (text ++ rest).length := by
        rw [List.length_append]
        omega
      have hrest := scanFrom_eq (pos + (c :: text).length) hlong
      rw [scanAt, List.cons_append, List.length_cons, scanFrom, ← List.cons_append, h]
      cases found with
      | trivia =>
          show scanFrom _ _ (((c :: text) ++ rest).drop (c :: text).length) = _
          rw [hdrop, hrest]
          rfl
      | token kind =>
          show Scan.cons ⟨kind, ((c :: text) ++ rest).take (c :: text).length, pos⟩
            (scanFrom _ _ (((c :: text) ++ rest).drop (c :: text).length)) = _
          rw [htake, hdrop, hrest]
          rfl

theorem scanAt_lexeme {cs : List Char} {rest : Text} {found : Lexeme} (pos : Nat)
    (h : lexeme (Text.ofChars cs ++ rest) = some (found, cs.length)) :
    scanAt pos (Text.ofChars cs ++ rest) =
      found.before (Text.ofChars cs) pos (scanAt (pos + cs.length) rest) := by
  rw [← Text.length_ofChars cs] at h ⊢
  exact scanAt_append pos h

/-- A token at the front of a text. -/
theorem scanAt_token {cs : List Char} {rest : Text} {kind : TokenKind} (pos : Nat)
    (h : lexeme (Text.ofChars cs ++ rest) = some (.token kind, cs.length)) :
    scanAt pos (Text.ofChars cs ++ rest) =
      .cons ⟨kind, Text.ofChars cs, pos⟩ (scanAt (pos + cs.length) rest) :=
  scanAt_lexeme pos h

/-- A token of one character at the front of a text. -/
theorem scanAt_mark {c : Char} {rest : Text} {kind : TokenKind} (pos : Nat)
    (h : lexeme (.scalar c :: rest) = some (.token kind, 1)) :
    scanAt pos (.scalar c :: rest) = .cons ⟨kind, Text.ofChars [c], pos⟩ (scanAt (pos + 1) rest) := by
  have hlexeme : lexeme (Text.ofChars [c] ++ rest) = some (.token kind, [c].length) := h
  exact scanAt_token pos hlexeme

/-! ## The lexemes of printed values -/

/-- What follows a value in printed text: nothing, the end of an array, or a separator. -/
inductive EndsValue : Text → Prop where
  | nil : EndsValue []
  | bracket (rest : Text) : EndsValue (.scalar ']' :: rest)
  | separator (rest : Text) : EndsValue (.scalar '.' :: .scalar ' ' :: rest)

theorem EndsValue.closes {rest : Text} (h : EndsValue rest) : Numeral.Closes rest := by
  cases h with
  | nil => exact Numeral.closes_nil
  | bracket rest => exact ⟨Numeral.digitRun_eq_zero rfl _, rfl, rfl⟩
  | separator rest =>
      refine ⟨Numeral.digitRun_eq_zero rfl _, ?_, rfl⟩
      rw [Numeral.fractionLength_cons, if_pos (Numeral.digitRun_eq_zero rfl _)]

theorem mark?_digit {c : Char} (h : c.isDigit = true) (rest : Text) :
    mark? (.scalar c :: rest) = none := by
  unfold mark?
  split
  all_goals first
    | rfl
    | (next heq =>
        cases heq
        exact absurd h (by decide))

/-- A numeral starts with a digit. -/
theorem Spelling.Proper.first {s : Spelling} (hs : s.Proper) :
    ∃ c later, s.chars = c :: later ∧ c.isDigit = true := by
  obtain ⟨hdigits, hne⟩ := hs.whole
  obtain ⟨c, whole, hwhole⟩ := List.exists_cons_of_ne_nil hne
  have hchars : s.chars =
      c :: (whole ++ (Spelling.fractionChars s.fraction ++ Spelling.exponentChars s.exponent)) := by
    rw [Spelling.chars, hwhole, List.cons_append]
  exact ⟨c, _, hchars, hdigits c (hwhole ▸ List.mem_cons_self)⟩

/-- A numeral is one token, as far as it is spelled. -/
theorem lexeme_numeral {s : Spelling} (hs : s.Proper) {rest : Text} (hrest : EndsValue rest) :
    lexeme (Text.ofChars s.chars ++ rest) = some (.token .number, s.chars.length) := by
  have hlength := Numeral.length_eq hs hrest.closes
  obtain ⟨c, later, hchars, hc⟩ := hs.first
  rw [hchars, Text.ofChars_cons, List.cons_append] at hlength ⊢
  rw [lexeme, mark?_digit hc]
  dsimp only
  rw [if_pos (CodePoint.isDigit_scalar hc), hlength]

/-- A string literal is one token. -/
theorem lexeme_literal (t rest : Text) :
    lexeme (Text.ofChars (Literal.encode t).toList ++ rest) =
      some (.token .string, (Literal.encode t).toList.length) := by
  obtain ⟨body, hbody, hlength⟩ := Literal.literalRest_encode t rest
  have hmark : mark? (.scalar '"' :: (Text.ofChars body ++ rest)) = none := rfl
  have hdigit : (CodePoint.scalar '"').isDigit = false := by decide
  rw [hbody, Text.ofChars_cons, List.cons_append, lexeme, hmark]
  dsimp only
  rw [hdigit, if_neg (by decide), if_pos rfl, hlength, Option.map_some, List.length_cons, Nat.add_comm]

/-- A blank before a character that is not one. -/
theorem lexeme_blank {c : CodePoint} (h : c.isSpace = false) (rest : Text) :
    lexeme (.scalar ' ' :: c :: rest) = some (.trivia, 1) := by
  have htake : ((CodePoint.scalar ' ' :: c :: rest).takeWhile CodePoint.isSpace).length = 1 := by
    rw [List.takeWhile_cons_of_pos rfl, List.takeWhile_cons_of_neg (by rw [h]; decide)]
    rfl
  have hlexeme : lexeme (.scalar ' ' :: c :: rest) =
      some (.trivia, ((CodePoint.scalar ' ' :: c :: rest).takeWhile CodePoint.isSpace).length) :=
    rfl
  rw [hlexeme, htake]

/-- A separator is scanned as a dot. -/
theorem scanAt_separator (pos : Nat) {c : CodePoint} (h : c.isSpace = false) (rest : Text) :
    scanAt pos (.scalar '.' :: .scalar ' ' :: c :: rest) =
      .cons ⟨.dot, Text.ofChars ['.'], pos⟩ (scanAt (pos + 2) (c :: rest)) := by
  have hdot : lexeme (.scalar '.' :: .scalar ' ' :: c :: rest) = some (.token .dot, 1) := rfl
  have hblank : lexeme (Text.ofChars [' '] ++ c :: rest) = some (.trivia, [' '].length) :=
    lexeme_blank h rest
  have hskip : scanAt (pos + 1) (.scalar ' ' :: c :: rest) = scanAt (pos + 2) (c :: rest) :=
    scanAt_lexeme (pos + 1) hblank
  rw [scanAt_mark pos hdot, hskip]

theorem isSpace_digit {c : Char} (h : c.isDigit = true) : (CodePoint.scalar c).isSpace = false := by
  have hbounds : 48 ≤ (CodePoint.scalar c).toNat ∧ (CodePoint.scalar c).toNat < 58 := digit_bounds h
  refine Bool.eq_false_iff.2 fun hspace => ?_
  simp only [CodePoint.isSpace, Bool.or_eq_true, Bool.and_eq_true, decide_eq_true_eq,
    beq_iff_eq] at hspace
  omega

end RollScript

import RollScript.Proofs.Grammar.Lexemes

/-!
# Blanks and comments

Tokens do not run into what stands between them. Read `lexeme_detached` first: a token that stands
somewhere in a source is the same token in front of a blank, of a comment, or of nothing. And read
`Trivia.scanAt`: blanks and comments only move what is scanned behind them.
-/

namespace RollScript

/-! ## Characters that start no token -/

namespace CodePoint

variable {c : CodePoint}

/-- The numbers of the blanks. -/
def spaceNumbers : List Nat :=
  [9, 10, 11, 12, 13, 28, 29, 30, 31, 32, 0x85, 0xA0, 0x1680, 0x2000, 0x2001, 0x2002, 0x2003, 0x2004,
    0x2005, 0x2006, 0x2007, 0x2008, 0x2009, 0x200A, 0x2028, 0x2029, 0x202F, 0x205F, 0x3000]

theorem toNat_of_isSpace (h : c.isSpace = true) : c.toNat ∈ spaceNumbers := by
  simp only [isSpace, Bool.or_eq_true, Bool.and_eq_true, decide_eq_true_eq, beq_iff_eq] at h
  generalize c.toNat = n at h
  -- the numbers of the blanks make up three ranges, and the others stand alone
  have hrange : ∀ first last : Nat, List.range' first (last + 1 - first) ⊆ spaceNumbers →
      first ≤ n ∧ n ≤ last → n ∈ spaceNumbers := by
    intro first last hsubset hn
    exact hsubset (List.mem_range'_1.2 (by omega))
  rcases h with (((((((((h | h) | h) | h) | h) | h) | h) | h) | h) | h) | h
  all_goals
    first
      | exact hrange _ _ (by decide) h
      | rw [h]
        decide

theorem isDigit_of_isSpace (h : c.isSpace = true) : c.isDigit = false := by
  have hnumbers : ∀ n ∈ spaceNumbers, ∀ first ∈ digitZeros, ¬(first ≤ n ∧ n < first + 10) := by
    decide +kernel
  rw [isDigit, digit?, Option.isSome_map, Option.isSome_eq_false_iff, Option.isNone_iff_eq_none,
    List.find?_eq_none]
  intro first hfirst hdigit
  simp only [Bool.and_eq_true, decide_eq_true_eq] at hdigit
  exact hnumbers _ (toNat_of_isSpace h) first hfirst hdigit

theorem isNameChar_of_isSpace (h : c.isSpace = true) : c.isNameChar = false := by
  have hnumbers : ∀ n ∈ spaceNumbers, ¬(97 ≤ n ∧ n ≤ 122) ∧ ¬(65 ≤ n ∧ n ≤ 90) ∧ n ≠ 95 := by
    decide
  cases c with
  | surrogate index => rfl
  | scalar c =>
      obtain ⟨hlower, hupper, hline⟩ := hnumbers _ (toNat_of_isSpace h)
      rw [Bool.eq_false_iff]
      intro hname
      simp only [isNameChar, Bool.or_eq_true, Bool.and_eq_true, decide_eq_true_eq, beq_iff_eq,
        Char.le_def, UInt32.le_iff_toNat_le] at hname
      rcases hname with (hletter | hletter) | rfl
      · exact hlower hletter
      · exact hupper hletter
      · exact hline rfl

/-- The characters that start an operator or a punctuation mark. -/
def markStarts : List CodePoint :=
  ['.', '<', '>', '!', '*', '-', '+', '/', '%', '=', '|', '&', '(', ')', '[', ']', ',',
    '@'].map scalar

/-- An operator or a punctuation mark starts with the character. -/
def startsMark (c : CodePoint) : Bool :=
  c ∈ markStarts

end CodePoint

/-- Whether an operator or a punctuation mark starts a text depends on its first character. -/
theorem mark?_eq_none {c : CodePoint} {rest : Text} :
    mark? (c :: rest) = none ↔ c.startsMark = false := by
  constructor
  · intro h
    rw [Bool.eq_false_iff]
    intro hstarts
    simp only [CodePoint.startsMark, CodePoint.markStarts, List.map_cons, List.map_nil,
      decide_eq_true_eq, List.mem_cons, List.not_mem_nil, or_false] at hstarts
    unfold mark? at h
    split at h
    case h_24 =>
      rcases hstarts with rfl | rfl | rfl | rfl | rfl | rfl | rfl | rfl | rfl | rfl | rfl | rfl |
        rfl | rfl | rfl | rfl | rfl | rfl
      all_goals solve_by_elim
    all_goals cases h
  · intro h
    unfold mark?
    split
    all_goals first
      | rfl
      | (next heq =>
          cases heq
          exact absurd h (by decide))

/-! ## What may follow a token -/

/-- A text that does not run into a token in front of it: it is empty, or starts with a blank or with a
comment. -/
def Detached (rest : Text) : Prop :=
  ∀ c ∈ rest.head?, c.isSpace = true ∨ c = .scalar '#'

namespace Detached

variable {rest : Text}

theorem ne_cons (h : Detached rest) {c : CodePoint} (hspace : c.isSpace = false)
    (hcomment : c ≠ .scalar '#') (later : Text) : rest ≠ c :: later := by
  intro hrest
  rcases h c (by rw [hrest]; rfl) with hc | hc
  · rw [hspace] at hc
    cases hc
  · exact hcomment hc

theorem not_digit (h : Detached rest) : ∀ c ∈ rest.head?, c.isDigit = false := by
  intro c hc
  rcases h c hc with hspace | rfl
  · exact CodePoint.isDigit_of_isSpace hspace
  · decide

theorem not_nameChar (h : Detached rest) : ∀ c ∈ rest.head?, c.isNameChar = false := by
  intro c hc
  rcases h c hc with hspace | rfl
  · exact CodePoint.isNameChar_of_isSpace hspace
  · decide

theorem digitRun (h : Detached rest) : Numeral.digitRun rest = 0 := by
  cases rest with
  | nil => rfl
  | cons c later => exact Numeral.digitRun_eq_zero (h.not_digit c rfl) later

/-- A numeral does not go on in a text that is detached from it. -/
theorem closes (h : Detached rest) : Numeral.Closes rest where
  digits := h.digitRun
  fraction := by
    unfold Numeral.fractionLength
    split
    · exact absurd rfl (h.ne_cons (by decide) (by decide) _)
    · rfl
  exponent := by
    unfold Numeral.exponentLength
    split
    · exact absurd rfl (h.ne_cons (by decide) (by decide) _)
    · rfl

end Detached

/-- A run of characters that ends within a text ends there in front of anything that does not continue
it. -/
theorem takeWhile_append_of_le {α : Type} {p : α → Bool} {l after rest : List α}
    (hle : ((l ++ after).takeWhile p).length ≤ l.length) (hrest : ∀ c ∈ rest.head?, p c = false) :
    (l ++ rest).takeWhile p = (l ++ after).takeWhile p := by
  induction l with
  | nil =>
      have hafter : after.takeWhile p = [] := List.length_eq_zero_iff.1 (Nat.le_zero.1 hle)
      rw [List.nil_append, List.nil_append, hafter]
      cases rest with
      | nil => rfl
      | cons c later => exact List.takeWhile_cons_of_neg (by rw [hrest c rfl]; decide)
  | cons c l ih =>
      rw [List.cons_append, List.cons_append] at *
      by_cases hc : p c = true
      · rw [List.takeWhile_cons_of_pos hc, List.length_cons, List.length_cons] at hle
        rw [List.takeWhile_cons_of_pos hc, List.takeWhile_cons_of_pos hc,
          ih (Nat.le_of_succ_le_succ hle)]
      · rw [List.takeWhile_cons_of_neg hc, List.takeWhile_cons_of_neg hc]

namespace Numeral

variable {text after rest : Text}

theorem digitRun_detached (hle : digitRun (text ++ after) ≤ text.length) (hrest : Detached rest) :
    digitRun (text ++ rest) = digitRun (text ++ after) := by
  rw [digitRun, takeWhile_append_of_le hle hrest.not_digit]
  rfl

theorem fractionLength_detached (hle : fractionLength (text ++ after) ≤ text.length)
    (hrest : Detached rest) : fractionLength (text ++ rest) = fractionLength (text ++ after) := by
  cases text with
  | nil =>
      rw [List.nil_append, List.nil_append, hrest.closes.fraction]
      exact (Nat.le_zero.1 hle).symm
  | cons c text =>
      by_cases hc : c = .scalar '.'
      · subst hc
        rw [List.cons_append, fractionLength_cons, List.length_cons] at hle
        have hrun : digitRun (text ++ rest) = digitRun (text ++ after) := by
          refine digitRun_detached ?_ hrest
          split at hle <;> omega
        rw [List.cons_append, List.cons_append, fractionLength_cons, fractionLength_cons, hrun]
      · have hnone : ∀ other : Text, fractionLength (c :: other) = 0 := by
          intro other
          unfold fractionLength
          split
          · next heq =>
              cases heq
              exact absurd rfl hc
          · rfl
        rw [List.cons_append, List.cons_append, hnone, hnone]

/-- An exponent that takes all of a text takes as much of it in front of anything detached. -/
theorem exponentLength_detached (hlength : exponentLength (text ++ after) = text.length)
    (hrest : Detached rest) : exponentLength (text ++ rest) = text.length := by
  match text, hlength with
  | [], _ => exact hrest.closes.exponent
  | [c], hlength =>
      -- an exponent has a digit, so it is longer than one character
      unfold exponentLength at hlength
      split at hlength
      · split at hlength
        · rw [List.length_singleton] at hlength
          omega
        · cases hlength
      · cases hlength
  | c :: d :: digits, hlength =>
      unfold exponentLength at hlength
      split at hlength
      · next sign later heq =>
          simp only [List.cons_append, List.cons.injEq] at heq
          obtain ⟨rfl, rfl, rfl⟩ := heq
          split at hlength
          · next hsign =>
              rw [List.length_cons, List.length_cons] at hlength ⊢
              have hrun : digitRun (digits ++ rest) = digitRun (digits ++ after) :=
                digitRun_detached (by omega) hrest
              rw [List.cons_append, List.cons_append, exponentLength_cons, hrun, if_pos hsign]
              omega
          · cases hlength
      · cases hlength

/-- A numeral that takes all of a text takes as much of it in front of anything detached. -/
theorem length_detached (hlength : length (text ++ after) = text.length) (hrest : Detached rest) :
    length (text ++ rest) = text.length := by
  unfold length at hlength ⊢
  dsimp only at hlength ⊢
  by_cases hwhole : digitRun (text ++ after) = 0
  · rw [if_pos hwhole] at hlength
    obtain rfl : text = [] := List.length_eq_zero_iff.1 hlength.symm
    rw [List.nil_append, if_pos hrest.digitRun]
    rfl
  · -- the digits, the fraction and the exponent in turn end within the text
    rw [if_neg hwhole] at hlength
    have hrun : digitRun (text ++ rest) = digitRun (text ++ after) :=
      digitRun_detached (by omega) hrest
    rw [hrun, if_neg hwhole]
    generalize digitRun (text ++ after) = whole at *
    have hdrop : ∀ other : Text, (text ++ other).drop whole = text.drop whole ++ other :=
      fun other => List.drop_append_of_le_length (by omega)
    rw [hdrop] at hlength ⊢
    have hfraction : fractionLength (text.drop whole ++ rest) =
        fractionLength (text.drop whole ++ after) := by
      refine fractionLength_detached ?_ hrest
      rw [List.length_drop]
      omega
    rw [hfraction]
    generalize fractionLength (text.drop whole ++ after) = fraction at *
    have hpoint : ∀ other : Text,
        (text ++ other).drop (whole + fraction) = text.drop (whole + fraction) ++ other :=
      fun other => List.drop_append_of_le_length (by omega)
    rw [hpoint] at hlength ⊢
    have hexponent : exponentLength (text.drop (whole + fraction) ++ after) =
        (text.drop (whole + fraction)).length := by
      rw [List.length_drop]
      omega
    rw [exponentLength_detached hexponent hrest, List.length_drop]
    omega

end Numeral

set_option linter.unusedSimpArgs false in
/-- A mark that takes all of a text takes as much of it in front of anything detached. -/
theorem mark?_detached {text after rest : Text} {kind : TokenKind}
    (h : mark? (text ++ after) = some (kind, text.length)) (hrest : Detached rest) :
    mark? (text ++ rest) = some (kind, text.length) := by
  have hdot : ∀ later, rest ≠ .scalar '.' :: later := hrest.ne_cons (by decide) (by decide)
  have hequals : ∀ later, rest ≠ .scalar '=' :: later := hrest.ne_cons (by decide) (by decide)
  have hstar : ∀ later, rest ≠ .scalar '*' :: later := hrest.ne_cons (by decide) (by decide)
  -- the text is the mark itself, and only a dot, an equals sign or a star would make it longer
  have htext : text = (text ++ after).take text.length := List.take_left.symm
  unfold mark? at h
  split at h
  case h_24 => cases h
  all_goals
    next heq =>
      simp only [Option.some.injEq, Prod.mk.injEq] at h
      obtain ⟨rfl, hlength⟩ := h
      rw [heq, ← hlength] at htext
      rw [htext]
      simp [mark?, hdot, hequals, hstar]

/-- A token is the same token in front of anything detached. -/
theorem lexeme_detached {text after rest : Text} {kind : TokenKind}
    (h : lexeme (text ++ after) = some (.token kind, text.length)) (hrest : Detached rest) :
    lexeme (text ++ rest) = some (.token kind, text.length) := by
  cases text with
  | nil => exact absurd (lexeme_spec h).1 (Nat.lt_irrefl 0)
  | cons c text =>
      rw [List.cons_append, lexeme] at h ⊢
      cases hmark : mark? (c :: (text ++ after)) with
      | some found =>
          obtain ⟨kind', length⟩ := found
          rw [hmark] at h
          cases h
          rw [← List.cons_append, mark?_detached hmark hrest]
      | none =>
          rw [hmark] at h
          rw [mark?_eq_none.2 (mark?_eq_none.1 hmark)]
          dsimp only at h ⊢
          by_cases hdigit : c.isDigit = true
          · rw [if_pos hdigit] at h ⊢
            simp only [Option.some.injEq, Prod.mk.injEq] at h ⊢
            have hlength : Numeral.length (c :: text ++ after) = (c :: text).length := h.2
            exact ⟨h.1, Numeral.length_detached hlength hrest⟩
          · rw [if_neg hdigit] at h ⊢
            by_cases hquote : c = .scalar '"'
            · rw [if_pos hquote] at h ⊢
              obtain ⟨n, hn, heq⟩ := Option.map_eq_some_iff.1 h
              simp only [Prod.mk.injEq, List.length_cons] at heq
              obtain ⟨hkind, hlength⟩ := heq
              obtain rfl : n = text.length := by omega
              have hsame := (literalRest_spec hn).2 rest
              rw [List.take_left] at hsame
              rw [hsame, Option.map_some, hkind, List.length_cons, Nat.add_comm]
            · rw [if_neg hquote] at h ⊢
              by_cases hname : c.isNameChar = true
              · rw [if_pos hname] at h ⊢
                simp only [Option.some.injEq, Prod.mk.injEq] at h
                have hword : (c :: (text ++ rest)).takeWhile CodePoint.isNameChar =
                    (c :: (text ++ after)).takeWhile CodePoint.isNameChar := by
                  refine takeWhile_append_of_le (l := c :: text) ?_ hrest.not_nameChar
                  rw [List.cons_append, h.2]
                simp only [hword, h.1, h.2]
              · -- blanks and comments are no tokens
                rw [if_neg hname] at h
                split at h
                · cases h
                · split at h <;> cases h

/-! ## Blanks and comments -/

/-- Blanks and comments, each comment with the line feed that ends it. -/
inductive Trivia : Text → Prop where
  | nil : Trivia []
  | blank {c : CodePoint} {rest : Text} : c.isSpace = true → Trivia rest → Trivia (c :: rest)
  | comment {body rest : Text} : .scalar '\n' ∉ body → Trivia rest →
      Trivia (.scalar '#' :: (body ++ .scalar '\n' :: rest))

/-- Blanks and comments at the end of a source, where the last comment may lack its line feed. -/
inductive ClosingTrivia : Text → Prop where
  | full {gap : Text} : Trivia gap → ClosingTrivia gap
  | cut {gap body : Text} : Trivia gap → .scalar '\n' ∉ body →
      ClosingTrivia (gap ++ .scalar '#' :: body)

section Blanks

variable {c : CodePoint}

theorem CodePoint.startsMark_of_isSpace (h : c.isSpace = true) : c.startsMark = false := by
  have hmarks : (markStarts.all fun mark => !mark.isSpace) = true := rfl
  rw [Bool.eq_false_iff]
  intro hstarts
  have hspace := List.all_eq_true.1 hmarks c (of_decide_eq_true hstarts)
  rw [h] at hspace
  cases hspace

theorem lexeme_of_isSpace (h : c.isSpace = true) (rest : Text) :
    lexeme (c :: rest) = some (.trivia, ((c :: rest).takeWhile CodePoint.isSpace).length) := by
  have hquote : c ≠ .scalar '"' := by
    intro hc
    rw [hc] at h
    exact absurd h (by decide)
  rw [lexeme, mark?_eq_none.2 (CodePoint.startsMark_of_isSpace h)]
  dsimp only
  rw [CodePoint.isDigit_of_isSpace h, if_neg (by decide), if_neg hquote,
    CodePoint.isNameChar_of_isSpace h, if_neg (by decide), if_pos h]

/-- A run of blanks is passed over. -/
theorem scanAt_dropWhile (pos : Nat) (rest : Text) :
    scanAt pos rest =
      scanAt (pos + (rest.takeWhile CodePoint.isSpace).length) (rest.dropWhile CodePoint.isSpace) := by
  cases rest with
  | nil => rfl
  | cons c rest =>
      by_cases hc : c.isSpace = true
      · have hlexeme : lexeme ((c :: rest).takeWhile CodePoint.isSpace ++
            (c :: rest).dropWhile CodePoint.isSpace) =
              some (.trivia, ((c :: rest).takeWhile CodePoint.isSpace).length) := by
          rw [List.takeWhile_append_dropWhile]
          exact lexeme_of_isSpace hc rest
        have hscan := scanAt_append pos hlexeme
        rwa [List.takeWhile_append_dropWhile] at hscan
      · rw [List.takeWhile_cons_of_neg hc, List.dropWhile_cons_of_neg hc]
        rfl

theorem scanAt_blank (pos : Nat) (h : c.isSpace = true) (rest : Text) :
    scanAt pos (c :: rest) = scanAt (pos + 1) rest := by
  rw [scanAt_dropWhile pos, scanAt_dropWhile (pos + 1), List.takeWhile_cons_of_pos h,
    List.dropWhile_cons_of_pos h, List.length_cons]
  congr 1
  omega

end Blanks

/-- A comment is passed over up to its line feed, or to the end of the source. -/
theorem scanAt_comment (pos : Nat) {body rest : Text} (hbody : .scalar '\n' ∉ body)
    (hrest : ∀ c ∈ rest.head?, c = .scalar '\n') :
    scanAt pos (.scalar '#' :: (body ++ rest)) = scanAt (pos + (body.length + 1)) rest := by
  have hrest' : rest.takeWhile (· ≠ .scalar '\n') = [] := by
    cases rest with
    | nil => rfl
    | cons c rest => exact List.takeWhile_cons_of_neg (by simp [hrest c rfl])
  have hbody' : ∀ c ∈ body, decide (c ≠ CodePoint.scalar '\n') = true := by
    intro c hc
    refine decide_eq_true ?_
    intro heq
    exact hbody (heq ▸ hc)
  have hrun : (CodePoint.scalar '#' :: (body ++ rest)).takeWhile (· ≠ .scalar '\n') =
      .scalar '#' :: body := by
    rw [List.takeWhile_cons_of_pos (by decide), List.takeWhile_append_of_pos hbody', hrest',
      List.append_nil]
  have hlexeme : lexeme ((CodePoint.scalar '#' :: body) ++ rest) =
      some (.trivia, (CodePoint.scalar '#' :: body).length) := by
    have hcomment : lexeme (.scalar '#' :: (body ++ rest)) = some (.trivia,
        ((CodePoint.scalar '#' :: (body ++ rest)).takeWhile (· ≠ .scalar '\n')).length) := rfl
    rw [hrun] at hcomment
    exact hcomment
  exact scanAt_append pos hlexeme

namespace Trivia

variable {gap : Text}

/-- Blanks and comments only move what is scanned behind them. -/
theorem scanAt (h : Trivia gap) (pos : Nat) (rest : Text) :
    scanAt pos (gap ++ rest) = RollScript.scanAt (pos + gap.length) rest := by
  induction h generalizing pos with
  | nil => rfl
  | blank hc _ ih =>
      rw [List.cons_append, scanAt_blank pos hc, ih, List.length_cons]
      congr 1
      omega
  | @comment body gap hbody _ ih =>
      have hline : ∀ c ∈ (CodePoint.scalar '\n' :: (gap ++ rest)).head?, c = .scalar '\n' :=
        fun c hc => (Option.some.inj hc).symm
      rw [List.cons_append, List.append_assoc, List.cons_append, scanAt_comment pos hbody hline,
        scanAt_blank _ rfl, ih]
      congr 1
      simp only [List.length_cons, List.length_append]
      omega

theorem detached (h : Trivia gap) (hne : gap ≠ []) (rest : Text) : Detached (gap ++ rest) := by
  intro c hc
  cases h with
  | nil => exact absurd rfl hne
  | blank hspace _ =>
      obtain rfl := Option.some.inj hc
      exact Or.inl hspace
  | comment _ _ => exact Or.inr (Option.some.inj hc).symm

end Trivia

namespace ClosingTrivia

variable {closing : Text}

/-- Nothing is scanned in blanks and comments at the end of a source. -/
theorem scanAt (h : ClosingTrivia closing) (pos : Nat) :
    scanAt pos closing = ⟨[.endOfInput (pos + closing.length)], none⟩ := by
  cases h with
  | full hgap =>
      have hscan := hgap.scanAt pos []
      rwa [List.append_nil] at hscan
  | @cut gap body hgap hbody =>
      have hskip := scanAt_comment (pos + gap.length) hbody fun c (hc : c ∈ [].head?) => by cases hc
      rw [List.append_nil] at hskip
      rw [hgap.scanAt, hskip, scanAt_nil, List.length_append, List.length_cons, Nat.add_assoc]

theorem detached (h : ClosingTrivia closing) : Detached closing := by
  cases h with
  | @full gap hgap =>
      by_cases hne : closing = []
      · subst hne
        intro c hc
        cases hc
      · have hdetached := hgap.detached hne []
        rwa [List.append_nil] at hdetached
  | @cut gap body hgap hbody =>
      by_cases hne : gap = []
      · subst hne
        intro c hc
        exact Or.inr (Option.some.inj hc).symm
      · exact hgap.detached hne _

end ClosingTrivia

end RollScript

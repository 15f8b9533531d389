import RollScript.Proofs.Grammar.Trivia

/-!
# The words of the language

What a lexeme can be, said without reference to the scanner. Read `Lexeme.Spelled` first: it lists the
words of each class. `lexeme_spelled` and `lexeme_ne_none` say that the scanner finds a lexeme exactly
where one of these words stands. Then read `lexeme_take`: a lexeme is found again when the text is cut
anywhere behind it, so no lexeme depends on what comes after its end.
-/

namespace RollScript

/-! ## Classes of words -/

/-- One or more digits. -/
def Digits (t : Text) : Prop :=
  t ≠ [] ∧ ∀ c ∈ t, c.isDigit = true

/-- What may stand behind the whole part of a number: nothing, or a point and digits. -/
inductive Fraction : Text → Prop where
  | absent : Fraction []
  | present {digits : Text} : Digits digits → Fraction (.scalar '.' :: digits)

/-- What may stand at the end of a number: nothing, or an exponent with a sign. -/
inductive Exponent : Text → Prop where
  | absent : Exponent []
  | present {sign : Char} {digits : Text} : sign = '+' ∨ sign = '-' → Digits digits →
      Exponent (.scalar 'e' :: .scalar sign :: digits)

/-- What stands behind the opening quote of a string literal: characters and escapes, and the closing
quote. -/
inductive LiteralBody : Text → Prop where
  | close : LiteralBody [.scalar '"']
  | plain {c : CodePoint} {rest : Text} : c ≠ .scalar '"' → c ≠ .scalar '\\' → LiteralBody rest →
      LiteralBody (c :: rest)
  | short {mark : Char} {rest : Text} : mark ∈ ['"', '\\', '/', 'b', 'f', 'n', 'r', 't'] →
      LiteralBody rest → LiteralBody (.scalar '\\' :: .scalar mark :: rest)
  | unit {a b c d : CodePoint} {rest : Text} :
      (∀ digit ∈ [a, b, c, d], digit.hexDigit?.isSome = true) → LiteralBody rest →
      LiteralBody (.scalar '\\' :: .scalar 'u' :: a :: b :: c :: d :: rest)

/-- The words of each class of lexemes. -/
inductive Lexeme.Spelled : Lexeme → Text → Prop where
  | symbol {kind : TokenKind} {text : Text} : kind.symbol? = some text →
      Lexeme.Spelled (.token kind) text
  | ellipsis : Lexeme.Spelled (.token .name) (.ofString "...")
  | number {whole fraction exponent : Text} : Digits whole → Fraction fraction → Exponent exponent →
      Lexeme.Spelled (.token .number) (whole ++ (fraction ++ exponent))
  | string {body : Text} : LiteralBody body → Lexeme.Spelled (.token .string) (.scalar '"' :: body)
  | word {letters : Text} : letters ≠ [] → (∀ c ∈ letters, c.isNameChar = true) →
      Lexeme.Spelled (.token (.ofWord letters)) letters
  | blanks {run : Text} : run ≠ [] → (∀ c ∈ run, c.isSpace = true) → Lexeme.Spelled .trivia run
  | comment {body : Text} : .scalar '\n' ∉ body → Lexeme.Spelled .trivia (.scalar '#' :: body)

/-! ## The scanner finds words -/

theorem takeWhile_all {p : CodePoint → Bool} {t : Text} : ∀ c ∈ t.takeWhile p, p c = true := by
  intro c hc
  exact List.all_eq_true.1 List.all_takeWhile c hc

theorem take_takeWhile_length {p : CodePoint → Bool} (t : Text) :
    t.take (t.takeWhile p).length = t.takeWhile p :=
  (List.prefix_iff_eq_take.1 (List.takeWhile_prefix p)).symm

namespace Numeral

theorem digits_take {t : Text} (h : digitRun t ≠ 0) : Digits (t.take (digitRun t)) := by
  have hrun : t.take (digitRun t) = t.takeWhile CodePoint.isDigit := take_takeWhile_length t
  rw [hrun]
  exact ⟨fun hnil => h (congrArg List.length hnil), takeWhile_all⟩

theorem fraction_take (t : Text) : Fraction (t.take (fractionLength t)) := by
  unfold fractionLength
  split
  · next rest =>
      by_cases hrun : digitRun rest = 0
      · rw [if_pos hrun]
        exact .absent
      · rw [if_neg hrun, Nat.add_comm, List.take_succ_cons]
        exact .present (digits_take hrun)
  · exact .absent

theorem exponent_take (t : Text) : Exponent (t.take (exponentLength t)) := by
  unfold exponentLength
  split
  · next sign rest =>
      by_cases hsign : (sign = '+' ∨ sign = '-') ∧ digitRun rest ≠ 0
      · rw [if_pos hsign, Nat.add_comm, List.take_succ_cons, List.take_succ_cons]
        exact .present hsign.1 (digits_take hsign.2)
      · rw [if_neg hsign]
        exact .absent
  · exact .absent

/-- The numeral at the front of a text has a whole part, a fraction and an exponent. -/
theorem length_spelled {t : Text} (h : digitRun t ≠ 0) :
    Lexeme.Spelled (.token .number) (t.take (length t)) := by
  unfold length
  dsimp only
  rw [if_neg h, List.take_add, List.take_add, List.append_assoc]
  exact .number (digits_take h) (fraction_take _) (exponent_take _)

end Numeral

theorem literalRest_body {t : Text} {length : Nat} (h : literalRest t = some length) :
    LiteralBody (t.take length) := by
  fun_induction literalRest t generalizing length with
  | case1 => cases h
  | case2 rest =>
      cases h
      exact .close
  | case3 a b c d rest hdigits ih =>
      obtain ⟨n, hn, rfl⟩ := Option.map_eq_some_iff.1 h
      rw [Nat.add_comm]
      show LiteralBody (.scalar '\\' :: .scalar 'u' :: a :: b :: c :: d :: rest.take n)
      refine .unit ?_ (ih hn)
      simpa [and_assoc] using hdigits
  | case4 => cases h
  | case5 c rest _ hshort ih =>
      obtain ⟨n, hn, rfl⟩ := Option.map_eq_some_iff.1 h
      rw [Nat.add_comm]
      show LiteralBody (.scalar '\\' :: .scalar c :: rest.take n)
      exact .short hshort (ih hn)
  | case6 => cases h
  | case7 => cases h
  | case8 c rest hquote _ _ hbackslash ih =>
      obtain ⟨n, hn, rfl⟩ := Option.map_eq_some_iff.1 h
      rw [Nat.add_comm]
      exact .plain hquote hbackslash (ih hn)

theorem mark?_spelled {t : Text} {kind : TokenKind} {length : Nat}
    (h : mark? t = some (kind, length)) : Lexeme.Spelled (.token kind) (t.take length) := by
  by_cases hname : kind = .name
  · subst hname
    unfold mark? at h
    split at h
    case h_1 =>
      cases h
      exact .ellipsis
    all_goals cases h
  · exact .symbol (mark?_symbol h hname)

/-- What the scanner finds at the front of a text, by its first character. -/
inductive Lexeme.Finds (c : CodePoint) (rest : Text) : Option (Lexeme × Nat) → Prop where
  | mark {kind : TokenKind} {length : Nat} (h : mark? (c :: rest) = some (kind, length)) :
      Lexeme.Finds c rest (some (.token kind, length))
  | number (hstart : c.startsMark = false) (hdigit : c.isDigit = true) :
      Lexeme.Finds c rest (some (.token .number, Numeral.length (c :: rest)))
  | literal (hquote : c = .scalar '"') :
      Lexeme.Finds c rest ((literalRest rest).map fun length => (.token .string, 1 + length))
  | word (hstart : c.startsMark = false) (hdigit : c.isDigit = false) (hname : c.isNameChar = true) :
      Lexeme.Finds c rest (some (.token (.ofWord ((c :: rest).takeWhile CodePoint.isNameChar)),
        ((c :: rest).takeWhile CodePoint.isNameChar).length))
  | blanks (hspace : c.isSpace = true) :
      Lexeme.Finds c rest (some (.trivia, ((c :: rest).takeWhile CodePoint.isSpace).length))
  | comment (hcomment : c = .scalar '#') :
      Lexeme.Finds c rest (some (.trivia, ((c :: rest).takeWhile (· ≠ .scalar '\n')).length))
  | nothing (hstart : c.startsMark = false) (hdigit : c.isDigit = false) (hquote : c ≠ .scalar '"')
      (hname : c.isNameChar = false) (hspace : c.isSpace = false) (hcomment : c ≠ .scalar '#') :
      Lexeme.Finds c rest none

theorem lexeme_finds (c : CodePoint) (rest : Text) : Lexeme.Finds c rest (lexeme (c :: rest)) := by
  rw [lexeme]
  cases hmark : mark? (c :: rest) with
  | some found => exact .mark hmark
  | none =>
      have hstart := mark?_eq_none.1 hmark
      dsimp only
      by_cases hdigit : c.isDigit = true
      · rw [if_pos hdigit]
        exact .number hstart hdigit
      rw [if_neg hdigit]
      rw [Bool.not_eq_true] at hdigit
      by_cases hquote : c = .scalar '"'
      · rw [if_pos hquote]
        exact .literal hquote
      rw [if_neg hquote]
      by_cases hname : c.isNameChar = true
      · rw [if_pos hname]
        exact .word hstart hdigit hname
      rw [if_neg hname]
      rw [Bool.not_eq_true] at hname
      by_cases hspace : c.isSpace = true
      · rw [if_pos hspace]
        exact .blanks hspace
      rw [if_neg hspace]
      rw [Bool.not_eq_true] at hspace
      by_cases hcomment : c = .scalar '#'
      · rw [if_pos hcomment]
        exact .comment hcomment
      · rw [if_neg hcomment]
        exact .nothing hstart hdigit hquote hname hspace hcomment

theorem Lexeme.Finds.lexeme_eq {c : CodePoint} {rest : Text} {result : Option (Lexeme × Nat)}
    (h : Lexeme.Finds c rest result) : lexeme (c :: rest) = result := by
  cases h with
  | mark hmark => rw [lexeme, hmark]
  | number hstart hdigit =>
      rw [lexeme, mark?_eq_none.2 hstart]
      dsimp only
      rw [if_pos hdigit]
  | literal hquote =>
      subst hquote
      rw [lexeme, mark?_eq_none.2 (by decide)]
      dsimp only
      rw [if_neg (by decide), if_pos rfl]
  | word hstart hdigit hname =>
      have hquote : c ≠ .scalar '"' := by
        intro hc
        rw [hc] at hname
        exact absurd hname (by decide)
      rw [lexeme, mark?_eq_none.2 hstart]
      dsimp only
      rw [hdigit, if_neg (by decide), if_neg hquote, if_pos hname]
  | blanks hspace => exact lexeme_of_isSpace hspace rest
  | comment hcomment =>
      subst hcomment
      rw [lexeme, mark?_eq_none.2 (by decide)]
      dsimp only
      rw [if_neg (by decide), if_neg (by decide), if_neg (by decide), if_neg (by decide), if_pos rfl]
  | nothing hstart hdigit hquote hname hspace hcomment =>
      rw [lexeme, mark?_eq_none.2 hstart]
      dsimp only
      rw [hdigit, if_neg (by decide), if_neg hquote, hname, if_neg (by decide), hspace,
        if_neg (by decide), if_neg hcomment]

/-- The lexeme that the scanner finds at the front of a text is a word of its class. -/
theorem lexeme_spelled {t : Text} {found : Lexeme} {length : Nat}
    (h : lexeme t = some (found, length)) : found.Spelled (t.take length) := by
  cases t with
  | nil => cases h
  | cons c rest =>
      have hrun : ∀ {p : CodePoint → Bool}, p c = true → (c :: rest).takeWhile p ≠ [] :=
        fun hc => List.ne_nil_of_length_pos (takeWhile_length_pos hc)
      have hfinds := lexeme_finds c rest
      generalize hresult : lexeme (c :: rest) = result at h hfinds
      cases hfinds with
      | mark hmark =>
          cases h
          exact mark?_spelled hmark
      | number _ hdigit =>
          cases h
          exact Numeral.length_spelled (Nat.pos_iff_ne_zero.1 (takeWhile_length_pos hdigit))
      | literal hquote =>
          obtain ⟨n, hn, heq⟩ := Option.map_eq_some_iff.1 h
          cases heq
          rw [hquote, Nat.add_comm, List.take_succ_cons]
          exact .string (literalRest_body hn)
      | word _ _ hname =>
          cases h
          rw [take_takeWhile_length]
          exact .word (hrun hname) takeWhile_all
      | blanks hspace =>
          cases h
          rw [take_takeWhile_length]
          exact .blanks (hrun hspace) takeWhile_all
      | comment hcomment =>
          cases h
          rw [take_takeWhile_length, hcomment, List.takeWhile_cons_of_pos (by decide)]
          refine .comment ?_
          intro hline
          exact absurd (takeWhile_all _ hline) (by decide)
      | nothing => cases h

/-- The text of a token that stands in a source is a word of its kind. -/
theorem Token.Stands.spelled {source : Text} {t : Token} (h : t.Stands source) :
    Lexeme.Spelled (.token t.kind) t.text := by
  obtain ⟨-, after, -, -, hlexeme⟩ := h
  have hspelled := lexeme_spelled hlexeme
  rwa [List.take_left] at hspelled

/-! ## Words are found -/

/-- A character that starts a word: one of the characters that start a lexeme by themselves, or a quote
that starts a string literal. -/
def Lexeme.Starts (c : CodePoint) (rest : Text) : Prop :=
  c.startsMark = true ∨ c.isDigit = true ∨ c.isNameChar = true ∨ c.isSpace = true ∨
    c = .scalar '#' ∨ (c = .scalar '"' ∧ LiteralBody rest)

theorem TokenKind.symbol?_starts {kind : TokenKind} {text : Text} (h : kind.symbol? = some text) :
    ∃ c rest, text = c :: rest ∧ c.startsMark = true := by
  cases kind
  all_goals first
    | cases h
      exact ⟨_, _, rfl, by decide⟩
    | cases h

theorem cons_of_all {p : CodePoint → Bool} {t : Text} (hne : t ≠ []) (h : ∀ c ∈ t, p c = true) :
    ∃ c rest, t = c :: rest ∧ p c = true := by
  obtain ⟨c, rest, rfl⟩ := List.exists_cons_of_ne_nil hne
  exact ⟨c, rest, rfl, h c List.mem_cons_self⟩

theorem Lexeme.Spelled.starts {found : Lexeme} {word : Text} (h : found.Spelled word) :
    ∃ c rest, word = c :: rest ∧ Lexeme.Starts c rest := by
  cases h with
  | symbol hsymbol =>
      obtain ⟨c, rest, hword, hc⟩ := TokenKind.symbol?_starts hsymbol
      exact ⟨c, rest, hword, .inl hc⟩
  | ellipsis => exact ⟨_, _, rfl, .inl (by decide)⟩
  | number hwhole _ _ =>
      obtain ⟨c, rest, rfl, hc⟩ := cons_of_all hwhole.1 hwhole.2
      exact ⟨c, _, rfl, .inr (.inl hc)⟩
  | string hbody => exact ⟨_, _, rfl, .inr (.inr (.inr (.inr (.inr ⟨rfl, hbody⟩))))⟩
  | word hne hletters =>
      obtain ⟨c, rest, hword, hc⟩ := cons_of_all hne hletters
      exact ⟨c, rest, hword, .inr (.inr (.inl hc))⟩
  | blanks hne hrun =>
      obtain ⟨c, rest, hword, hc⟩ := cons_of_all hne hrun
      exact ⟨c, rest, hword, .inr (.inr (.inr (.inl hc)))⟩
  | comment => exact ⟨_, _, rfl, .inr (.inr (.inr (.inr (.inl rfl))))⟩

theorem Lexeme.Spelled.ne_nil {found : Lexeme} {word : Text} (h : found.Spelled word) : word ≠ [] := by
  obtain ⟨c, rest, rfl, -⟩ := h.starts
  exact List.cons_ne_nil c rest

theorem LiteralBody.literalRest_eq {body : Text} (h : LiteralBody body) (rest : Text) :
    literalRest (body ++ rest) = some body.length := by
  induction h with
  | close => rfl
  | plain hquote hbackslash _ ih =>
      rw [List.cons_append, Literal.literalRest_plain hquote hbackslash, ih, Option.map_some,
        List.length_cons, Nat.add_comm]
  | short hmark _ ih =>
      rw [List.cons_append, List.cons_append, Literal.literalRest_short hmark, ih, Option.map_some,
        List.length_cons, List.length_cons, Nat.add_comm]
  | @unit a b c d body hdigits _ ih =>
      have hall : (a.hexDigit?.isSome && b.hexDigit?.isSome && c.hexDigit?.isSome &&
          d.hexDigit?.isSome) = true := by
        simpa [and_assoc] using hdigits
      show literalRest (.scalar '\\' :: .scalar 'u' :: a :: b :: c :: d :: (body ++ rest)) = _
      rw [literalRest, if_pos hall, ih, Option.map_some, Nat.add_comm]
      rfl

/-- Where a word stands the scanner finds a lexeme. -/
theorem Lexeme.Spelled.lexeme_ne_none {found : Lexeme} {word : Text} (h : found.Spelled word)
    (rest : Text) : lexeme (word ++ rest) ≠ none := by
  obtain ⟨c, later, rfl, hstarts⟩ := h.starts
  have hfinds := lexeme_finds c (later ++ rest)
  intro hnone
  rw [List.cons_append] at hnone
  rw [hnone] at hfinds
  generalize hresult : (none : Option (Lexeme × Nat)) = result at hfinds
  cases hfinds with
  | mark | number | word | blanks | comment => cases hresult
  | literal hquote =>
      -- a quote that starts a literal is followed by the rest of one
      subst hquote
      have hbody : LiteralBody later := by
        rcases hstarts with h | h | h | h | h | h
        · exact absurd h (by decide)
        · exact absurd h (by decide)
        · exact absurd h (by decide)
        · exact absurd h (by decide)
        · exact absurd h (by decide)
        · exact h.2
      rw [hbody.literalRest_eq rest] at hresult
      cases hresult
  | nothing hstart hdigit hquote hname hspace hcomment =>
      rw [Lexeme.Starts, hstart, hdigit, hname, hspace] at hstarts
      simp [hquote, hcomment] at hstarts

/-! ## Cuts behind a lexeme -/

theorem takeWhile_take {p : CodePoint → Bool} {t : Text} {n : Nat} (h : (t.takeWhile p).length ≤ n) :
    (t.take n).takeWhile p = t.takeWhile p := by
  rw [← List.take_takeWhile, List.take_of_length_le h]

namespace Numeral

variable {t : Text} {n : Nat}

theorem digitRun_take (h : digitRun t ≤ n) : digitRun (t.take n) = digitRun t :=
  congrArg List.length (takeWhile_take h)

theorem digitRun_take_eq_zero (h : digitRun t = 0) : digitRun (t.take n) = 0 :=
  (digitRun_take (h.trans_le (Nat.zero_le n))).trans h

theorem fractionLength_take (h : fractionLength t ≤ n) :
    fractionLength (t.take n) = fractionLength t := by
  match t, n with
  | [], n => rw [List.take_nil]
  | c :: rest, 0 => exact (Nat.le_zero.1 h).symm
  | c :: rest, n + 1 =>
      rw [List.take_succ_cons]
      by_cases hpoint : c = .scalar '.'
      · subst hpoint
        rw [fractionLength_cons] at h
        rw [fractionLength_cons, fractionLength_cons]
        by_cases hrun : digitRun rest = 0
        · rw [if_pos hrun, if_pos (digitRun_take_eq_zero hrun)]
        · rw [if_neg hrun] at h
          rw [digitRun_take (by omega)]
      · simp [fractionLength, hpoint]

theorem exponentLength_of_le_one (h : exponentLength t ≤ 1) : exponentLength t = 0 := by
  unfold exponentLength at h ⊢
  split at h
  · split at h
    · omega
    · next hsign => exact if_neg hsign
  · rfl

theorem exponentLength_eq_zero {c d : CodePoint} (h : ¬(c = .scalar 'e' ∧ ∃ sign, d = .scalar sign))
    (rest : Text) : exponentLength (c :: d :: rest) = 0 := by
  unfold exponentLength
  split
  · next sign digits heq =>
      cases heq
      exact absurd ⟨rfl, sign, rfl⟩ h
  · rfl

theorem exponentLength_take (h : exponentLength t ≤ n) :
    exponentLength (t.take n) = exponentLength t := by
  match t, n with
  | [], n => rw [List.take_nil]
  | c :: rest, 0 => exact (Nat.le_zero.1 h).symm
  | c :: rest, 1 =>
      -- an exponent has a sign and a digit, so neither text has one
      rw [exponentLength_of_le_one h, exponentLength_of_le_one (exponentLength_le _)]
  | [c], n + 2 => rfl
  | c :: d :: rest, n + 2 =>
      rw [List.take_succ_cons, List.take_succ_cons]
      by_cases hmarks : c = .scalar 'e' ∧ ∃ sign, d = .scalar sign
      · obtain ⟨rfl, sign, rfl⟩ := hmarks
        rw [exponentLength_cons] at h
        rw [exponentLength_cons, exponentLength_cons]
        by_cases hsign : (sign = '+' ∨ sign = '-') ∧ digitRun rest ≠ 0
        · rw [if_pos hsign] at h
          rw [digitRun_take (by omega)]
        · by_cases hrun : digitRun rest = 0
          · rw [digitRun_take_eq_zero hrun, hrun]
          · rw [if_neg hsign, if_neg fun hcut => hsign ⟨hcut.1, hrun⟩]
      · rw [exponentLength_eq_zero hmarks, exponentLength_eq_zero hmarks]

theorem length_take (h : length t ≤ n) : length (t.take n) = length t := by
  unfold length at h ⊢
  dsimp only at h ⊢
  by_cases hwhole : digitRun t = 0
  · rw [if_pos hwhole, if_pos (digitRun_take_eq_zero hwhole)]
  · rw [if_neg hwhole] at h
    rw [digitRun_take (by omega), List.drop_take, fractionLength_take (by omega), List.drop_take,
      exponentLength_take (by omega)]

end Numeral

theorem take_ne_append {rest : Text} (front : Text) (hrest : ∀ later, rest = front ++ later → False)
    (m : Nat) : ∀ later, rest.take m ≠ front ++ later := by
  intro later hlater
  refine hrest (later ++ rest.drop m) ?_
  rw [← List.append_assoc, ← hlater, List.take_append_drop]

set_option linter.unusedSimpArgs false in
theorem mark?_take {t : Text} {kind : TokenKind} {length n : Nat}
    (h : mark? t = some (kind, length)) (hn : length ≤ n) :
    mark? (t.take n) = some (kind, length) := by
  unfold mark? at h
  split at h
  case h_24 => cases h
  all_goals
    simp only [Option.some.injEq, Prod.mk.injEq] at h
    obtain ⟨rfl, rfl⟩ := h
    obtain ⟨m, rfl⟩ := Nat.exists_eq_add_of_le' hn
    simp only [List.take_succ_cons]
  -- what would make a short mark longer does not follow in the cut text either
  case h_8 rest hother =>
    have hcut : ∀ later, rest.take m ≠ .scalar '*' :: later := take_ne_append [.scalar '*'] hother m
    simp [mark?, hcut]
  case h_22 rest hother =>
    have hcut : ∀ later, rest.take m ≠ .scalar '.' :: .scalar '.' :: later :=
      take_ne_append [.scalar '.', .scalar '.'] hother m
    simp [mark?, hcut]
  case h_11 | h_12 | h_14 =>
    next rest hother =>
      have hcut : ∀ later, rest.take m ≠ .scalar '=' :: later := take_ne_append [.scalar '='] hother m
      simp [mark?, hcut]
  all_goals rfl

theorem literalRest_take {t : Text} {length n : Nat} (h : literalRest t = some length)
    (hn : length ≤ n) : literalRest (t.take n) = some length := by
  have hcut := (literalRest_spec h).2 ((t.take n).drop length)
  have hfront : (t.take n).take length = t.take length := by
    rw [List.take_take, Nat.min_eq_left hn]
  rwa [← hfront, List.take_append_drop] at hcut

/-- A lexeme is found again when the text is cut behind it. -/
theorem lexeme_take {t : Text} {found : Lexeme} {length n : Nat}
    (h : lexeme t = some (found, length)) (hn : length ≤ n) :
    lexeme (t.take n) = some (found, length) := by
  cases t with
  | nil => cases h
  | cons c rest =>
      obtain ⟨n, rfl⟩ : ∃ m, n = m + 1 := ⟨n - 1, by have := (lexeme_spec h).1; omega⟩
      have hfinds := lexeme_finds c rest
      generalize hresult : lexeme (c :: rest) = result at h hfinds
      rw [List.take_succ_cons]
      cases hfinds with
      | mark hmark =>
          cases h
          exact (Lexeme.Finds.mark (mark?_take hmark hn)).lexeme_eq
      | number hstart hdigit =>
          cases h
          rw [(Lexeme.Finds.number hstart hdigit).lexeme_eq, ← List.take_succ_cons,
            Numeral.length_take hn]
      | literal hquote =>
          obtain ⟨m, hm, heq⟩ := Option.map_eq_some_iff.1 h
          cases heq
          rw [(Lexeme.Finds.literal hquote).lexeme_eq, literalRest_take hm (by omega), Option.map_some]
      | word hstart hdigit hname =>
          cases h
          rw [(Lexeme.Finds.word hstart hdigit hname).lexeme_eq, ← List.take_succ_cons,
            takeWhile_take hn]
      | blanks hspace =>
          cases h
          rw [(Lexeme.Finds.blanks hspace).lexeme_eq, ← List.take_succ_cons, takeWhile_take hn]
      | comment hcomment =>
          cases h
          rw [(Lexeme.Finds.comment hcomment).lexeme_eq, ← List.take_succ_cons, takeWhile_take hn]
      | nothing => cases h

end RollScript

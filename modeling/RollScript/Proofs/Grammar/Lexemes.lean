import RollScript.Proofs.Printing.Tokens

/-!
# Tokens in their places

A token of a scan stands in the source at its offset, and it is the lexeme that starts there. Read
`Token.Stands` and `scan_stands` first. The lemmas before them bound lexemes: none is longer than the
text in front of which it stands. Those after them say what the text of a token is: a mark is written in
one way, and a string is a literal that has a value.
-/

namespace RollScript

/-! ## The length of lexemes -/

theorem length_takeWhile_le {α : Type} (p : α → Bool) (l : List α) :
    (l.takeWhile p).length ≤ l.length :=
  (List.takeWhile_sublist p).length_le

namespace Numeral

theorem fractionLength_le (t : Text) : fractionLength t ≤ t.length := by
  unfold fractionLength
  split
  · next rest =>
      have hrun : digitRun rest ≤ rest.length := length_takeWhile_le _ _
      rw [List.length_cons]
      split <;> omega
  · exact Nat.zero_le _

theorem exponentLength_le (t : Text) : exponentLength t ≤ t.length := by
  unfold exponentLength
  split
  · next sign rest =>
      have hrun : digitRun rest ≤ rest.length := length_takeWhile_le _ _
      rw [List.length_cons, List.length_cons]
      split <;> omega
  · exact Nat.zero_le _

theorem length_le (t : Text) : length t ≤ t.length := by
  unfold length
  dsimp only
  split
  · exact Nat.zero_le _
  · have hwhole : digitRun t ≤ t.length := length_takeWhile_le _ _
    have hfraction := fractionLength_le (t.drop (digitRun t))
    have hexponent :=
      exponentLength_le (t.drop (digitRun t + fractionLength (t.drop (digitRun t))))
    rw [List.length_drop] at hfraction hexponent
    omega

end Numeral

theorem mark?_le {t : Text} {kind : TokenKind} {length : Nat} (h : mark? t = some (kind, length)) :
    length ≤ t.length := by
  unfold mark? at h
  split at h <;> cases h <;> simp only [List.length_cons] <;> omega

/-- The rest of a string literal ends at its closing quote, whatever comes after it. -/
theorem literalRest_spec {t : Text} {length : Nat} (h : literalRest t = some length) :
    length ≤ t.length ∧ ∀ other, literalRest (t.take length ++ other) = some length := by
  fun_induction literalRest t generalizing length with
  | case1 => cases h
  | case2 rest =>
      cases h
      exact ⟨by simp, fun other => rfl⟩
  | case3 a b c d rest hdigits ih =>
      obtain ⟨n, hn, rfl⟩ := Option.map_eq_some_iff.1 h
      obtain ⟨hle, hother⟩ := ih hn
      refine ⟨by simp only [List.length_cons]; omega, ?_⟩
      intro other
      rw [Nat.add_comm]
      show literalRest (.scalar '\\' :: .scalar 'u' :: a :: b :: c :: d :: (rest.take n ++ other)) = _
      rw [literalRest, if_pos hdigits, hother, Option.map_some, Nat.add_comm]
  | case4 => cases h
  | case5 c rest _ hshort ih =>
      obtain ⟨n, hn, rfl⟩ := Option.map_eq_some_iff.1 h
      obtain ⟨hle, hother⟩ := ih hn
      refine ⟨by simp only [List.length_cons]; omega, ?_⟩
      intro other
      rw [Nat.add_comm]
      show literalRest (.scalar '\\' :: .scalar c :: (rest.take n ++ other)) = _
      rw [Literal.literalRest_short hshort, hother, Option.map_some, Nat.add_comm]
  | case6 => cases h
  | case7 => cases h
  | case8 c rest hquote _ _ hbackslash ih =>
      obtain ⟨n, hn, rfl⟩ := Option.map_eq_some_iff.1 h
      obtain ⟨hle, hother⟩ := ih hn
      refine ⟨by simp only [List.length_cons]; omega, ?_⟩
      intro other
      rw [Nat.add_comm]
      show literalRest (c :: (rest.take n ++ other)) = _
      rw [Literal.literalRest_plain hquote hbackslash, hother, Option.map_some, Nat.add_comm]

/-- What a lexeme can be that opens a text: a mark, a number, a string, a word, or a run of blanks or of
the characters of a comment. -/
inductive Lexeme.Opens : Text → Lexeme → Nat → Prop where
  | mark {t : Text} {kind : TokenKind} {length : Nat} (h : mark? t = some (kind, length)) :
      Lexeme.Opens t (.token kind) length
  | number {t : Text} : Lexeme.Opens t (.token .number) (Numeral.length t)
  | string {rest : Text} {length : Nat} (h : literalRest rest = some length) :
      Lexeme.Opens (.scalar '"' :: rest) (.token .string) (1 + length)
  | word {t : Text} :
      Lexeme.Opens t (.token (.ofWord (t.takeWhile CodePoint.isNameChar)))
        (t.takeWhile CodePoint.isNameChar).length
  | run {t : Text} {p : CodePoint → Bool} : Lexeme.Opens t .trivia (t.takeWhile p).length

theorem lexeme_opens {t : Text} {found : Lexeme} {length : Nat}
    (h : lexeme t = some (found, length)) : Lexeme.Opens t found length := by
  unfold lexeme at h
  split at h
  · cases h
  · next c rest =>
      split at h
      · next hmark =>
          cases h
          exact .mark hmark
      · split at h
        · cases h
          exact .number
        · split at h
          · next hquote =>
              obtain ⟨n, hn, heq⟩ := Option.map_eq_some_iff.1 h
              cases heq
              rw [hquote]
              exact .string hn
          · split at h
            · cases h
              exact .word
            · split at h
              · cases h
                exact .run
              · split at h
                · cases h
                  exact .run
                · cases h

/-- A lexeme is no longer than the text in front of which it stands. -/
theorem lexeme_le {t : Text} {found : Lexeme} {length : Nat} (h : lexeme t = some (found, length)) :
    length ≤ t.length := by
  cases lexeme_opens h with
  | mark hmark => exact mark?_le hmark
  | number => exact Numeral.length_le t
  | string hrest =>
      have hle := (literalRest_spec hrest).1
      rw [List.length_cons]
      omega
  | word => exact length_takeWhile_le _ t
  | run => exact length_takeWhile_le _ t

/-! ## Tokens in the source -/

/-- A token stands in a source at its offset, and is the lexeme that starts there. -/
def Token.Stands (source : Text) (t : Token) : Prop :=
  ∃ before after, source = before ++ (t.text ++ after) ∧ before.length = t.pos ∧
    lexeme (t.text ++ after) = some (.token t.kind, t.text.length)

theorem scanFrom_stands (steps : Nat) (before rest : Text) :
    ∀ t ∈ (scanFrom steps before.length rest).tokens, t.kind ≠ .eof →
      t.Stands (before ++ rest) := by
  induction steps generalizing before rest with
  | zero =>
      intro t ht hkind
      rw [List.mem_singleton.1 ht] at hkind
      exact absurd rfl hkind
  | succ steps ih =>
      -- what a lexeme leaves is scanned behind its text
      have hafter : ∀ length ≤ rest.length,
          ∀ t ∈ (scanFrom steps (before.length + length) (rest.drop length)).tokens, t.kind ≠ .eof →
            t.Stands (before ++ rest) := by
        intro length hlength
        have hstands := ih (before ++ rest.take length) (rest.drop length)
        rw [List.append_assoc, List.take_append_drop, List.length_append, List.length_take,
          Nat.min_eq_left hlength] at hstands
        exact hstands
      intro t ht hkind
      unfold scanFrom at ht
      split at ht
      · rw [List.mem_singleton.1 ht] at hkind
        exact absurd rfl hkind
      · next c later =>
          split at ht
          · exact absurd ht List.not_mem_nil
          · next length hlexeme => exact hafter length (lexeme_le hlexeme) t ht hkind
          · next kind length hlexeme =>
              have hlength := lexeme_le hlexeme
              rcases List.mem_cons.1 ht with rfl | ht
              · refine ⟨before, (c :: later).drop length, ?_, rfl, ?_⟩
                · rw [List.take_append_drop]
                · rw [List.take_append_drop, List.length_take, Nat.min_eq_left hlength, hlexeme]
              · exact hafter length hlength t ht hkind

/-- The tokens of a scan stand in the source. -/
theorem scan_stands {source : Text} {t : Token} (ht : t ∈ (scan source).tokens)
    (hkind : t.kind ≠ .eof) : t.Stands source :=
  scanFrom_stands source.length [] source t ht hkind

/-! ## Operators and punctuation marks -/

/-- The text of a token of a kind that is written in one way only. -/
def TokenKind.symbol? : TokenKind → Option Text
  | .plus => some (.ofString "+")
  | .minus => some (.ofString "-")
  | .star => some (.ofString "*")
  | .slash => some (.ofString "/")
  | .percent => some (.ofString "%")
  | .power => some (.ofString "**")
  | .eq => some (.ofString "=")
  | .ne => some (.ofString "!=")
  | .lt => some (.ofString "<")
  | .gt => some (.ofString ">")
  | .le => some (.ofString "<=")
  | .ge => some (.ofString ">=")
  | .bar => some (.ofString "|")
  | .amp => some (.ofString "&")
  | .bang => some (.ofString "!")
  | .lparen => some (.ofString "(")
  | .rparen => some (.ofString ")")
  | .lbracket => some (.ofString "[")
  | .rbracket => some (.ofString "]")
  | .comma => some (.ofString ",")
  | .dot => some (.ofString ".")
  | .atSign => some (.ofString "@")
  | _ => none

theorem mark?_symbol {t : Text} {kind : TokenKind} {length : Nat}
    (h : mark? t = some (kind, length)) (hname : kind ≠ .name) :
    kind.symbol? = some (t.take length) := by
  unfold mark? at h
  split at h
  case h_24 => cases h
  all_goals
    cases h
    first
      | rfl
      | exact absurd rfl hname

theorem TokenKind.symbol?_ofWord (word : Text) : (ofWord word).symbol? = none := by
  unfold ofWord
  split <;> rfl

/-- A lexeme that is an operator or a punctuation mark is written in the one way. -/
theorem lexeme_symbol {t symbol : Text} {kind : TokenKind} {length : Nat}
    (h : lexeme t = some (.token kind, length)) (hsymbol : kind.symbol? = some symbol) :
    t.take length = symbol := by
  cases lexeme_opens h with
  | mark hmark =>
      have hname : kind ≠ .name := by
        rintro rfl
        cases hsymbol
      exact Option.some.inj ((mark?_symbol hmark hname).symm.trans hsymbol)
  | number => cases hsymbol
  | string => cases hsymbol
  | word =>
      rw [TokenKind.symbol?_ofWord] at hsymbol
      cases hsymbol

/-- A token of an operator or of a punctuation mark is that mark. -/
theorem Token.Stands.text_eq {source : Text} {t : Token} (h : t.Stands source) {symbol : Text}
    (hsymbol : t.kind.symbol? = some symbol) : t.text = symbol := by
  obtain ⟨-, after, -, -, hlexeme⟩ := h
  have htake := lexeme_symbol hlexeme hsymbol
  rwa [List.take_left] at htake

/-! ## Values of strings -/

/-- A literal that the scanner accepts has a piece for each of its characters and escapes. -/
theorem literalRest_pieces {t : Text} {length : Nat} (h : literalRest t = some length) :
    ∃ found, Literal.pieces (t.take length) = some found := by
  fun_induction literalRest t generalizing length with
  | case1 => cases h
  | case2 rest =>
      cases h
      exact ⟨[], rfl⟩
  | case3 a b c d rest hdigits ih =>
      obtain ⟨n, hn, rfl⟩ := Option.map_eq_some_iff.1 h
      obtain ⟨found, hfound⟩ := ih hn
      simp only [Bool.and_eq_true, Option.isSome_iff_exists] at hdigits
      obtain ⟨⟨⟨⟨i, hi⟩, j, hj⟩, k, hk⟩, l, hl⟩ := hdigits
      refine ⟨.escaped (((i * 16 + j) * 16 + k) * 16 + l) :: found, ?_⟩
      rw [Nat.add_comm]
      show Literal.pieces (.scalar '\\' :: .scalar 'u' :: a :: b :: c :: d :: rest.take n) = _
      rw [Literal.pieces, Literal.unit?, hi, hj, hk, hl, hfound]
      rfl
  | case4 => cases h
  | case5 c rest _ hshort ih =>
      obtain ⟨n, hn, rfl⟩ := Option.map_eq_some_iff.1 h
      obtain ⟨found, hfound⟩ := ih hn
      obtain ⟨meant, hmeant⟩ : ∃ meant, Literal.shortEscape? (.scalar c) = some meant := by
        simp only [List.mem_cons, List.not_mem_nil, or_false] at hshort
        rcases hshort with rfl | rfl | rfl | rfl | rfl | rfl | rfl | rfl <;> exact ⟨_, rfl⟩
      refine ⟨.plain meant :: found, ?_⟩
      rw [Nat.add_comm]
      exact Literal.pieces_short hmeant hfound
  | case6 => cases h
  | case7 => cases h
  | case8 c rest hquote _ _ hbackslash ih =>
      obtain ⟨n, hn, rfl⟩ := Option.map_eq_some_iff.1 h
      obtain ⟨found, hfound⟩ := ih hn
      refine ⟨.plain c :: found, ?_⟩
      rw [Nat.add_comm]
      exact Literal.pieces_plain hquote hbackslash hfound

theorem mark?_ne_string (t : Text) (length : Nat) : mark? t ≠ some (.string, length) := by
  unfold mark?
  split <;> simp

theorem TokenKind.ofWord_ne_string (word : Text) : ofWord word ≠ .string := by
  unfold ofWord
  split <;> simp

/-- A lexeme that is a string has a value. -/
theorem Lexeme.Opens.decode_eq {t : Text} {length : Nat}
    (h : Lexeme.Opens t (.token .string) length) :
    ∃ value, Literal.decode (t.take length) = some value := by
  generalize hfound : Lexeme.token .string = found at h
  cases h with
  | mark hmark =>
      cases hfound
      exact absurd hmark (mark?_ne_string t length)
  | number => cases hfound
  | string hrest =>
      obtain ⟨pieces, hpieces⟩ := literalRest_pieces hrest
      refine ⟨Literal.joinPieces pieces, ?_⟩
      rw [Nat.add_comm, List.take_succ_cons, Literal.decode, hpieces, Option.map_some]
  | word => exact absurd (Lexeme.token.inj hfound).symm (TokenKind.ofWord_ne_string _)
  | run => cases hfound

/-- Every string of a source has a value. -/
theorem Token.Stands.decode_eq {source : Text} {t : Token} (h : t.Stands source)
    (hkind : t.kind = .string) : ∃ value, Literal.decode t.text = some value := by
  obtain ⟨-, after, -, -, hlexeme⟩ := h
  rw [hkind] at hlexeme
  have hvalue := (lexeme_opens hlexeme).decode_eq
  rwa [List.take_left] at hvalue

end RollScript

import RollScript.Token.Scan

/-!
# The tokens of a source

Read `scan_shape` first: a scan ends with the end of the input or with a lexical error, no token
before that marks the end of the input, and the tokens stand at increasing offsets.
-/

namespace RollScript

theorem mark?_spec {t : Text} {kind : TokenKind} {length : Nat} (h : mark? t = some (kind, length)) :
    0 < length ∧ kind ≠ .eof := by
  unfold mark? at h
  split at h <;> cases h <;> exact ⟨by decide, by decide⟩

theorem TokenKind.ofWord_ne_eof (word : Text) : TokenKind.ofWord word ≠ .eof := by
  unfold TokenKind.ofWord
  split <;> decide

theorem takeWhile_length_pos {p : CodePoint → Bool} {c : CodePoint} {rest : Text} (h : p c = true) :
    0 < ((c :: rest).takeWhile p).length := by
  rw [List.takeWhile_cons_of_pos h]
  exact Nat.succ_pos _

theorem Numeral.length_pos {c : CodePoint} {rest : Text} (h : c.isDigit = true) :
    0 < Numeral.length (c :: rest) := by
  have hrun : 0 < Numeral.digitRun (c :: rest) := takeWhile_length_pos h
  unfold Numeral.length
  simp only
  rw [if_neg (by omega)]
  omega

/-- A lexeme has a character, and no token is taken for the end of the input. -/
theorem lexeme_spec {t : Text} {found : Lexeme} {length : Nat} (h : lexeme t = some (found, length)) :
    0 < length ∧ found ≠ .token .eof := by
  unfold lexeme at h
  split at h
  · cases h
  · next c rest =>
      split at h
      · next hmark =>
          cases h
          obtain ⟨hlength, hkind⟩ := mark?_spec hmark
          exact ⟨hlength, by simpa using hkind⟩
      · split at h
        · next hdigit =>
            cases h
            exact ⟨Numeral.length_pos hdigit, by decide⟩
        · split at h
          · obtain ⟨n, -, hn⟩ := Option.map_eq_some_iff.1 h
            cases hn
            exact ⟨by omega, by decide⟩
          · split at h
            · next hname =>
                cases h
                exact ⟨takeWhile_length_pos hname, by simpa using TokenKind.ofWord_ne_eof _⟩
            · split at h
              · next hspace =>
                  cases h
                  exact ⟨takeWhile_length_pos hspace, by decide⟩
              · split at h
                · next hcomment =>
                    cases h
                    exact ⟨takeWhile_length_pos (by rw [hcomment]; decide), by decide⟩
                · cases h

/-- The tokens of a scan: some that do not mark the end of the input, and then that mark, unless the
scan failed. -/
def Scan.Shaped (s : Scan) : Prop :=
  ∃ tokens : List Token, (∀ t ∈ tokens, t.kind ≠ .eof) ∧
    ((s.failure = none ∧ ∃ stop, s.tokens = tokens ++ [.endOfInput stop]) ∨
      (s.failure ≠ none ∧ s.tokens = tokens))

theorem Scan.Shaped.cons {s : Scan} (h : s.Shaped) {token : Token} (htoken : token.kind ≠ .eof) :
    (s.cons token).Shaped := by
  obtain ⟨tokens, htokens, hs⟩ := h
  refine ⟨token :: tokens, ?_, ?_⟩
  · intro t ht
    rcases List.mem_cons.1 ht with rfl | ht
    · exact htoken
    · exact htokens t ht
  · rcases hs with ⟨hfailure, stop, hs⟩ | ⟨hfailure, hs⟩
    · exact .inl ⟨hfailure, stop, by rw [Scan.cons, hs, List.cons_append]⟩
    · exact .inr ⟨hfailure, by rw [Scan.cons, hs]⟩

theorem scanFrom_shape (steps pos : Nat) (rest : Text) :
    (scanFrom steps pos rest).Shaped ∧ (∀ t ∈ (scanFrom steps pos rest).tokens, pos ≤ t.pos) ∧
      (scanFrom steps pos rest).tokens.Pairwise (fun t t' => t.pos < t'.pos) := by
  have hend : ∀ pos, (⟨[.endOfInput pos], none⟩ : Scan).Shaped :=
    fun pos => ⟨[], by simp, .inl ⟨rfl, pos, rfl⟩⟩
  induction steps generalizing pos rest with
  | zero => exact ⟨hend pos, by simp [scanFrom, Token.endOfInput], by simp [scanFrom]⟩
  | succ steps ih =>
      unfold scanFrom
      split
      · exact ⟨hend pos, by simp [Token.endOfInput], by simp⟩
      · split
        · exact ⟨⟨[], by simp, .inr ⟨by simp, rfl⟩⟩, by simp, by simp⟩
        · next length hlexeme =>
            obtain ⟨hshape, hpos, hsorted⟩ := ih (pos + length) (List.drop length _)
            exact ⟨hshape, fun t ht => Nat.le_trans (Nat.le_add_right _ _) (hpos t ht), hsorted⟩
        · next kind length hlexeme =>
            obtain ⟨hlength, hkind⟩ := lexeme_spec hlexeme
            obtain ⟨hshape, hpos, hsorted⟩ := ih (pos + length) (List.drop length _)
            refine ⟨hshape.cons (by simpa using hkind), ?_, ?_⟩
            · intro t ht
              rcases List.mem_cons.1 ht with rfl | ht
              · exact Nat.le_refl _
              · exact Nat.le_trans (Nat.le_add_right _ _) (hpos t ht)
            · refine List.pairwise_cons.2 ⟨fun t ht => ?_, hsorted⟩
              exact Nat.lt_of_lt_of_le (Nat.lt_add_of_pos_right hlength) (hpos t ht)

/-- The tokens of a source stand at increasing offsets, and only the last one can mark the end of the
input, which it does unless the scan failed. -/
theorem scan_shape (source : Text) :
    (scan source).Shaped ∧ (scan source).tokens.Pairwise (fun t t' => t.pos < t'.pos) := by
  obtain ⟨hshape, -, hsorted⟩ := scanFrom_shape source.length 0 source
  exact ⟨hshape, hsorted⟩

end RollScript

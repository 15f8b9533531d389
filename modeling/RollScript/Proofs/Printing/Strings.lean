import RollScript.Proofs.Grammar.Words
import RollScript.Proofs.Printing.Values

/-!
# Strings and their literals

Writing a string, scanning a literal and reading its value are three definitions of one language. Read
`decode_isSome_iff` first: the texts that have a value as a literal are exactly those that the scanner
takes for one string. So a written string is one string for the scanner, because it has a value
(`Literal.decode_encode`), and that value is the string itself up to its surrogate pairs.
-/

namespace RollScript

/-- What tokenizing a text finds when the whole text is one string literal. -/
def Text.oneString (t : Text) : List Token :=
  [⟨.string, t, 0⟩, Token.endOfInput t.length]

namespace Literal

theorem mark_of_shortEscape? {c meant : CodePoint} (h : shortEscape? c = some meant) :
    ∃ mark, c = .scalar mark ∧ mark ∈ ['"', '\\', '/', 'b', 'f', 'n', 'r', 't'] := by
  unfold shortEscape? at h
  split at h
  all_goals first
    | exact ⟨_, rfl, by decide⟩
    | cases h

/-- What has pieces is the body of a literal. -/
theorem body_of_pieces {t : Text} {found : List Piece} (h : pieces t = some found) : LiteralBody t := by
  fun_induction pieces t generalizing found with
  | case1 => cases h
  | case2 => exact .close
  | case3 => cases h
  | case4 a b c d rest ih =>
      simp only [bind, Option.bind_eq_some_iff] at h
      obtain ⟨unit, hunit, later, hlater, -⟩ := h
      have hdigits := hexDigit?_of_unit? hunit
      simp only [Bool.and_eq_true] at hdigits
      refine .unit ?_ (ih hlater)
      simpa [and_assoc] using hdigits
  | case5 c rest hunit ih =>
      simp only [bind, Option.bind_eq_some_iff] at h
      obtain ⟨meant, hmeant, later, hlater, -⟩ := h
      obtain ⟨mark, rfl, hmark⟩ := mark_of_shortEscape? hmeant
      exact .short hmark (ih hlater)
  | case6 => cases h
  | case7 c rest _ hquote _ hshort hlast ih =>
      simp only [bind, Option.bind_eq_some_iff] at h
      obtain ⟨later, hlater, -⟩ := h
      have hbackslash : c ≠ .scalar '\\' := by
        intro hc
        cases rest with
        | nil => exact hlast hc rfl
        | cons d rest => exact hshort d rest hc rfl
      exact .plain hquote hbackslash (ih hlater)

/-- What has a value is a quoted body. -/
theorem quoted_of_decode {t s : Text} (h : decode t = some s) :
    ∃ body, t = .scalar '"' :: body ∧ LiteralBody body := by
  unfold decode at h
  split at h
  · next body =>
      obtain ⟨found, hfound, -⟩ := Option.map_eq_some_iff.1 h
      exact ⟨body, rfl, body_of_pieces hfound⟩
  · cases h

end Literal

theorem LiteralBody.lexeme_eq {body : Text} (h : LiteralBody body) (rest : Text) :
    lexeme ((.scalar '"' :: body) ++ rest) = some (.token .string, (CodePoint.scalar '"' :: body).length) := by
  have hquote : lexeme (.scalar '"' :: (body ++ rest)) =
      (literalRest (body ++ rest)).map fun length => (.token .string, 1 + length) := rfl
  rw [List.cons_append, hquote, h.literalRest_eq, Option.map_some, List.length_cons, Nat.add_comm]

/-- A quoted body is scanned as one string. -/
theorem LiteralBody.tokenize_eq {body : Text} (h : LiteralBody body) :
    tokenize (.scalar '"' :: body) = .ok (Text.oneString (.scalar '"' :: body)) := by
  have hscan : scan (.scalar '"' :: body) = ⟨Text.oneString (.scalar '"' :: body), none⟩ := by
    have htoken := scanAt_append 0 (h.lexeme_eq [])
    rw [List.append_nil, scanAt_nil, Nat.zero_add] at htoken
    exact htoken
  rw [tokenize, hscan]

/-- A string of a source has a value. -/
theorem decode_of_mem_scan {source : Text} {t : Token} (ht : t ∈ (scan source).tokens)
    (hkind : t.kind = .string) : ∃ s, Literal.decode t.text = some s := by
  have hend : t.kind ≠ .eof := by
    rw [hkind]
    decide
  exact (scan_stands ht hend).decode_eq hkind

/-- The texts that have a value as a literal are those that the scanner takes for one string. -/
theorem decode_isSome_iff (t : Text) :
    (∃ s, Literal.decode t = some s) ↔ tokenize t = .ok t.oneString := by
  constructor
  · rintro ⟨s, hs⟩
    obtain ⟨body, rfl, hbody⟩ := Literal.quoted_of_decode hs
    exact hbody.tokenize_eq
  · intro h
    have hmem : (⟨.string, t, 0⟩ : Token) ∈ (scan t).tokens := by
      unfold tokenize at h
      split at h
      · rw [Except.ok.inj h]
        exact List.mem_cons_self
      · cases h
    exact decode_of_mem_scan hmem rfl

/-- The written form of a string is scanned as one string, and the value of that literal is the string with
each high surrogate and a low one directly behind it joined; without such a pair it is the string itself.
Every string that is scanned in any source has a value, and a text has a value exactly if it is scanned as
one string. -/
theorem strings_read_back :
    (∀ s : Text,
      tokenize (.ofString (Value.string s).print) =
        .ok (Text.oneString (.ofString (Value.string s).print)) ∧
      Literal.decode (.ofString (Value.string s).print) = some s.joinPairs ∧
      (s.Unpaired → Literal.decode (.ofString (Value.string s).print) = some s)) ∧
    (∀ source, ∀ t ∈ (scan source).tokens, t.kind = .string → ∃ s, Literal.decode t.text = some s) ∧
    ∀ t, (∃ s, Literal.decode t = some s) ↔ tokenize t = .ok t.oneString := by
  refine ⟨fun s => ?_, fun source t ht hkind => decode_of_mem_scan ht hkind, decode_isSome_iff⟩
  have hprint : (Value.string s).print = Literal.encode s := (Value.string s).print_eq_render
  have hvalue := Literal.decode_encode s
  rw [hprint]
  refine ⟨(decode_isSome_iff _).1 ⟨_, hvalue⟩, hvalue, fun hunpaired => ?_⟩
  rw [hvalue, Text.joinPairs_eq_self hunpaired]

end RollScript

import Mathlib.Data.List.Chain
import RollScript.Proofs.Printing.Strings

/-!
# Strings of a text without surrogates

A literal can name the halves of a surrogate pair by escapes, and two that follow each other are read as one
character. So the value of a literal has no pair in it, unless the text of the literal has surrogates itself:
`decode_unpaired`.
-/

namespace RollScript

namespace Literal

/-- The characters of a literal that are not escaped are no surrogates. -/
def PlainScalars (found : List Piece) : Prop :=
  ∀ c, Piece.plain c ∈ found → ∃ d, c = .scalar d

theorem PlainScalars.tail {piece : Piece} {found : List Piece} (h : PlainScalars (piece :: found)) :
    PlainScalars found :=
  fun c hc => h c (List.mem_cons_of_mem piece hc)

theorem plainScalars_plain {d : Char} {found : List Piece} (h : PlainScalars found) :
    PlainScalars (.plain (.scalar d) :: found) := by
  intro c hc
  rcases List.mem_cons.1 hc with heq | hc
  · exact ⟨d, Piece.plain.inj heq⟩
  · exact h c hc

theorem plainScalars_escaped {unit : Nat} {found : List Piece} (h : PlainScalars found) :
    PlainScalars (.escaped unit :: found) := by
  intro c hc
  rcases List.mem_cons.1 hc with heq | hc
  · cases heq
  · exact h c hc

theorem exists_scalar_of_shortEscape? {c meant : CodePoint} (h : shortEscape? c = some meant) :
    ∃ d, meant = .scalar d := by
  unfold shortEscape? at h
  split at h
  all_goals first
    | exact ⟨_, (Option.some.inj h).symm⟩
    | cases h

theorem plainScalars_of_pieces {t : Text} {found : List Piece} (ht : ∀ c ∈ t, ∃ d, c = .scalar d)
    (h : pieces t = some found) : PlainScalars found := by
  fun_induction pieces t generalizing found with
  | case1 => cases h
  | case2 =>
      cases h
      exact fun c hc => absurd hc List.not_mem_nil
  | case3 => cases h
  | case4 a b c d rest ih =>
      simp only [bind, Option.bind_eq_some_iff] at h
      obtain ⟨unit, -, later, hlater, hfound⟩ := h
      cases hfound
      exact plainScalars_escaped (ih (fun e he => ht e (by simp [he])) hlater)
  | case5 c rest hunit ih =>
      simp only [bind, Option.bind_eq_some_iff] at h
      obtain ⟨meant, hmeant, later, hlater, hfound⟩ := h
      cases hfound
      obtain ⟨d, rfl⟩ := exists_scalar_of_shortEscape? hmeant
      exact plainScalars_plain (ih (fun e he => ht e (by simp [he])) hlater)
  | case6 => cases h
  | case7 c rest _ hquote _ hshort hlast ih =>
      simp only [bind, Option.bind_eq_some_iff] at h
      obtain ⟨later, hlater, hfound⟩ := h
      cases hfound
      obtain ⟨d, rfl⟩ := ht c List.mem_cons_self
      exact plainScalars_plain (ih (fun e he => ht e (List.mem_cons_of_mem _ he)) hlater)

theorem toNat_joinPair_of_pair {high low : Nat}
    (h : ((CodePoint.ofNat high).isHighSurrogate && (CodePoint.ofNat low).isLowSurrogate) = true) :
    0x10000 ≤ ((CodePoint.ofNat high).joinPair (.ofNat low)).toNat := by
  rw [Bool.and_eq_true] at h
  rw [CodePoint.toNat_joinPair h]
  omega

/-- An escape is read as the character of its unit, or with the next escape as one that is no surrogate. -/
theorem joinPieces_escaped (unit : Nat) (later : List Piece) :
    ∃ c after, joinPieces (.escaped unit :: later) = c :: after ∧
      (c = .ofNat unit ∨ 0x10000 ≤ c.toNat) := by
  match later with
  | [] => exact ⟨_, _, rfl, .inl rfl⟩
  | .plain c :: rest => exact ⟨_, _, rfl, .inl rfl⟩
  | .escaped low :: rest =>
      rw [joinPieces]
      split
      · next hpair => exact ⟨_, _, rfl, .inr (toNat_joinPair_of_pair hpair)⟩
      · exact ⟨_, _, rfl, .inl rfl⟩

theorem joinPieces_unpaired {found : List Piece} (h : PlainScalars found) :
    (joinPieces found).Unpaired := by
  fun_induction joinPieces found with
  | case1 high low rest first second hpair ih =>
      refine List.isChain_cons.2 ⟨fun c _ hjoins => ?_, ih h.tail.tail⟩
      have hlarge : 0x10000 ≤ (first.joinPair second).toNat := toNat_joinPair_of_pair hpair
      have hrange := CodePoint.joins_iff.1 hjoins
      omega
  | case2 high low rest first second hpair ih =>
      refine List.isChain_cons.2 ⟨fun c hc hjoins => ?_, ih h.tail⟩
      obtain ⟨d, after, hd, hcases⟩ := joinPieces_escaped low rest
      rw [hd] at hc
      cases hc
      rcases hcases with rfl | hlarge
      · exact hpair (by rwa [Bool.and_eq_true])
      · have hrange := CodePoint.joins_iff.1 hjoins
        omega
  | case3 unit rest hrest ih =>
      refine List.isChain_cons.2 ⟨fun c hc hjoins => ?_, ih h.tail⟩
      match rest, hrest, h with
      | [], _, _ => cases hc
      | .escaped low :: rest, hrest, _ => exact hrest low rest rfl
      | .plain d :: rest, _, h =>
          cases hc
          obtain ⟨e, rfl⟩ := h c (by simp)
          simp [CodePoint.Joins] at hjoins
  | case4 c rest ih =>
      refine List.isChain_cons.2 ⟨fun d _ hjoins => ?_, ih h.tail⟩
      obtain ⟨e, rfl⟩ := h c List.mem_cons_self
      simp [CodePoint.Joins] at hjoins
  | case5 => exact .nil

/-- The value of a literal without surrogates has no surrogate pair in it. -/
theorem decode_unpaired {t s : Text} (ht : ∀ c ∈ t, ∃ d, c = .scalar d) (h : decode t = some s) :
    s.Unpaired := by
  unfold decode at h
  split at h
  · obtain ⟨found, hfound, rfl⟩ := Option.map_eq_some_iff.1 h
    exact joinPieces_unpaired (plainScalars_of_pieces (fun c hc => ht c (List.mem_cons_of_mem _ hc)) hfound)
  · cases h

end Literal

end RollScript

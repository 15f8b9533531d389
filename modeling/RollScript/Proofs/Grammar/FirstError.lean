import Mathlib.Data.List.Nodup
import RollScript.Proofs.Grammar.Correspondence
import RollScript.Proofs.Grammar.Scanning
import RollScript.Proofs.Grammar.Viability

/-!
# The first error of a source

Read `first_error_reported` first: an error of syntax stands at the first token that no program can
have in its place, and a lexical error is reported exactly when a program can start with all the tokens
before it. The limit to nesting is left aside: it is never reached by a source with fewer tokens.
-/

namespace RollScript

open RollScript.Parser
open RollScript.Stream

/-- A sequence of tokens that is a program, whatever the limit to nesting. -/
def Parses (tokens : List Token) : Prop :=
  ∃ depth e, Parse.ofScan depth ⟨tokens, none⟩ = .ok e

/-- A sequence of tokens with which a program can start. -/
def Completable (tokens : List Token) : Prop :=
  ∃ more, Parses (tokens ++ more)

theorem Viable.completable {power : Nat} {tokens : List Token} (h : Viable power tokens) :
    Completable tokens := by
  obtain ⟨tree, rest, hvalid, -, hyield⟩ := h
  have hparse := ofScan_of_valid hvalid (Nat.le_refl _) 0
  rw [hyield, List.append_assoc] at hparse
  exact ⟨rest ++ [.endOfInput 0], tree.height, tree.desugar, hparse⟩

/-! ## Reading whole programs -/

/-- The tree of a whole program. -/
def Read.program (size depth : Nat) : Parser Tree := do
  let tree ← Read.expression size depth 0
  let token ← current
  if token.kind = .eof then return tree else throw (.trailing token)

theorem parse_program_eq (size depth : Nat) :
    Parse.program size depth = Tree.desugar <$> Read.program size depth := by
  rw [Parse.program, parse_expression_eq, bind_map_left, Read.program, map_bind]
  refine bind_congr fun tree => ?_
  rw [map_bind]
  refine bind_congr fun token => ?_
  split <;> rfl

theorem program_agree (size size' depth depth' : Nat) {s : Stream} (hproper : s.Proper) :
    AgreesOn s (Read.program size depth) (Read.program size' depth') := by
  refine (expression_agree size size' depth depth' 0 s hproper).bind fun tree later _ hlater => ?_
  refine .current_bind ?_
  split
  · exact .pure hlater _
  · exact .throw rfl

theorem program_fails {size depth : Nat} {s : Stream} {e : SyntaxError} (hproper : s.Proper)
    (hsize : s.tokens.length ≤ size) (h : Read.program size depth s = .error e) :
    Fails depth s e (Viable 0) := by
  rcases bind_eq_error.1 h with hread | ⟨tree, later, hread, h⟩
  · exact (expression_fails size depth 0 s e hproper hsize hread).imp fun taken htaken => htaken.1
  · -- A complete expression was read, so nothing is needed to complete what was taken.
    obtain ⟨htaken, hbinds, -⟩ := expression_derives size depth _ _ _ _ hproper hread
    rw [Parser.current_bind] at h
    split at h
    · cases h
    · cases h
      exact .inr ⟨tree.yield, .inl ⟨later, htaken.source, rfl⟩, tree, [], htaken.valid, hbinds,
        (List.append_nil _).symm⟩

theorem program_ok {size depth : Nat} {s later : Stream} {tree : Tree}
    (h : Read.program size depth s = .ok (tree, later)) (hproper : s.Proper) :
    ∃ t ∈ s.tokens, t.kind = .eof := by
  obtain ⟨tree, between, hread, h⟩ := bind_eq_ok.1 h
  obtain ⟨htaken, -, -⟩ := expression_derives size depth _ _ _ _ hproper hread
  rw [Parser.current_bind] at h
  split at h
  · next hkind =>
      refine ⟨between.current, ?_, hkind⟩
      rw [htaken.source, tokens_prepend]
      exact List.mem_append_right _ List.mem_cons_self
  · cases h

/-! ## Scanned programs -/

theorem ofScan_run (depth : Nat) {s : Stream} {scan : Scan} (h : Stream.ofScan scan = .ok s) :
    Parse.ofScan depth scan =
      (Read.program (scan.tokens.length + 1) depth s).map fun p => p.1.desugar := by
  rw [Parse.ofScan, h, parse_program_eq]
  show ((Tree.desugar <$> Read.program _ depth) s >>= fun p => Except.ok p.1) = _
  rw [run_map]
  cases Read.program (scan.tokens.length + 1) depth s <;> rfl

theorem ofScan_eq_error {depth : Nat} {s : Stream} {scan : Scan} {e : SyntaxError}
    (h : Stream.ofScan scan = .ok s) :
    Parse.ofScan depth scan = .error e ↔
      Read.program (scan.tokens.length + 1) depth s = .error e := by
  rw [ofScan_run depth h]
  cases Read.program (scan.tokens.length + 1) depth s <;> simp [Except.map]

theorem Stream.ofScan_prepend (taken : List Token) (token : Token) (more : List Token) :
    Stream.ofScan ⟨taken ++ token :: more, none⟩ = .ok (prepend taken ⟨token, more, none⟩) := by
  cases taken <;> rfl

/-- A scan of the usual shape is a stream, unless it failed before its first token. -/
theorem Scan.Shaped.stream {scan : Scan} (h : scan.Shaped) :
    (∃ s, Stream.ofScan scan = .ok s ∧ s.tokens = scan.tokens ∧ s.failure = scan.failure ∧
      s.Proper) ∨
    ∃ error, scan = ⟨[], some error⟩ ∧ Stream.ofScan scan = .error (.lexical error) := by
  obtain ⟨found, failure⟩ := scan
  obtain ⟨tokens, -, ⟨hfailure, stop, htokens⟩ | ⟨hfailure, htokens⟩⟩ := h
  · obtain rfl : failure = none := hfailure
    obtain rfl : found = tokens ++ [.endOfInput stop] := htokens
    have hproper : (prepend tokens (.ended stop)).Proper := by
      refine fun _ => ⟨.endOfInput stop, ?_, rfl⟩
      rw [tokens_prepend]
      exact List.mem_append_right _ List.mem_cons_self
    exact .inl ⟨_, Stream.ofScan_append tokens stop, tokens_prepend _ _, failure_prepend _ _, hproper⟩
  · obtain ⟨error, rfl⟩ : ∃ error, failure = some error := Option.ne_none_iff_exists'.1 hfailure
    cases found with
    | nil => exact .inr ⟨error, rfl, rfl⟩
    | cons token later => exact .inl ⟨⟨token, later, some error⟩, rfl, rfl, rfl, fun h => by cases h⟩

/-- A failed scan has no token for the end of the input. -/
theorem Scan.Shaped.kind_ne {scan : Scan} (h : scan.Shaped) (hfailure : scan.failure ≠ none) :
    ∀ t ∈ scan.tokens, t.kind ≠ .eof := by
  obtain ⟨tokens, hkinds, ⟨hnone, -⟩ | ⟨-, htokens⟩⟩ := h
  · exact absurd hnone hfailure
  · rwa [htokens]

/-- Tokens at increasing offsets are split at a token in one way. -/
theorem split_unique {tokens before before' after after' : List Token} {token : Token}
    (hsorted : tokens.Pairwise fun t t' => t.pos < t'.pos) (h : tokens = before ++ token :: after)
    (h' : tokens = before' ++ token :: after') : before = before' := by
  have hnodup : tokens.Nodup := hsorted.imp fun {t t'} hlt heq => by
    rw [heq] at hlt
    exact Nat.lt_irrefl _ hlt
  rw [h] at hnodup h'
  have hbefore : token ∉ before := (List.nodup_middle.1 hnodup).notMem ∘ List.mem_append_left _
  have hafter : token ∉ after := (List.nodup_middle.1 hnodup).notMem ∘ List.mem_append_right _
  exact (List.append_cons_inj_of_notMem hbefore hafter).1 h' |>.1

section Errors

variable {scan : Scan} {depth : Nat} {e : SyntaxError}

/-- The parser fails at a token because of its limit to nesting, at a token that cannot stand there, or at
the lexical error of the scan, and in the last two cases what it has taken before can be completed. -/
theorem ofScan_fails (hshaped : scan.Shaped) (h : Parse.ofScan depth scan = .error e) :
    (∃ found ∈ scan.tokens, e = .tooDeep found ∧ depth ≤ scan.tokens.length) ∨
    (∃ before token after, scan.tokens = before ++ token :: after ∧ e.found? = some token ∧
      Completable before) ∨
    ∃ error, e = .lexical error ∧ scan.failure = some error ∧ Completable scan.tokens := by
  rcases hshaped.stream with ⟨s, hstream, htokens, hfailure, hproper⟩ | ⟨error, rfl, hstream⟩
  · have hread := (ofScan_eq_error hstream).1 h
    have hsize : s.tokens.length ≤ scan.tokens.length + 1 := by
      rw [htokens]
      exact Nat.le_succ _
    rw [← htokens, ← hfailure]
    rcases program_fails hproper hsize hread with hdeep | ⟨taken, hstops, hviable⟩
    · exact .inl hdeep
    · rcases hstops with ⟨later, hs, hfound⟩ | ⟨error, hfound, herror, htaken⟩
      · rw [hs, tokens_prepend]
        exact .inr (.inl ⟨taken, later.current, later.later, rfl, hfound, hviable.completable⟩)
      · rw [htaken]
        exact .inr (.inr ⟨error, herror, hfound, hviable.completable⟩)
  · rw [Parse.ofScan, hstream] at h
    cases h
    have hviable : Viable 0 [] := ⟨.sample, _, rfl, Tree.sample.binds_zero, rfl⟩
    exact .inr (.inr ⟨error, rfl, rfl, hviable.completable⟩)

/-- Another run goes the same way up to the token that an error is about, and fails there. -/
theorem fails_alike (hshaped : scan.Shaped) (h : Parse.ofScan depth scan = .error e)
    {token : Token} (hfound : e.found? = some token) (size limit : Nat) :
    ∃ before after, scan.tokens = before ++ token :: after ∧
      ∀ other : Stream, other.current = token →
        ∀ result, Read.program size limit (prepend before other) ≠ .ok result := by
  rcases hshaped.stream with ⟨s, hstream, htokens, -, hproper⟩ | ⟨error, rfl, hstream⟩
  · have hread := (ofScan_eq_error hstream).1 h
    obtain ⟨before, later, hs, rfl, hother⟩ :=
      (program_agree _ size depth limit hproper).error e token hread hfound
    refine ⟨before, later.later, ?_, fun other hcurrent result hresult => ?_⟩
    · rw [← htokens, hs, tokens_prepend]
      rfl
    · rcases hother other hcurrent with hother | ⟨_, hother⟩ <;>
        · rw [hother] at hresult
          cases hresult
  · rw [Parse.ofScan, hstream] at h
    cases h
    cases hfound

/-- An error about a token: what comes before it can be completed, and what goes on with it cannot. -/
theorem syntax_error_first (hshaped : scan.Shaped)
    (hsorted : scan.tokens.Pairwise fun t t' => t.pos < t'.pos)
    (h : Parse.ofScan depth scan = .error e) {token : Token} (hfound : e.found? = some token) :
    ∃ before after, scan.tokens = before ++ token :: after ∧ Completable before ∧
      ∀ more, ¬ Parses (before ++ token :: more) := by
  rcases ofScan_fails hshaped h with ⟨_, -, rfl, -⟩ | ⟨before, found, after, hsplit, hfound', hbefore⟩ |
    ⟨error, rfl, -⟩
  · cases hfound
  · obtain rfl : found = token := Option.some.inj (hfound'.symm.trans hfound)
    refine ⟨before, after, hsplit, hbefore, ?_⟩
    rintro more ⟨limit, tree, hparse⟩
    rw [ofScan_run limit (Stream.ofScan_prepend before found more)] at hparse
    cases hread : Read.program ((before ++ found :: more).length + 1) limit
        (prepend before ⟨found, more, none⟩) with
    | error error =>
        rw [hread] at hparse
        cases hparse
    | ok result =>
        obtain ⟨taken, rest, hsplit', hother⟩ := fails_alike hshaped h hfound _ limit
        -- The offsets tell the tokens apart, so both runs have taken the same ones.
        obtain rfl : taken = before := split_unique hsorted hsplit' hsplit
        exact hother ⟨found, more, none⟩ rfl result hread
  · cases hfound

/-- A source that cannot be scanned is no program. -/
theorem failure_ne_ok (hshaped : scan.Shaped) (hfailure : scan.failure ≠ none) (tree : Expr) :
    Parse.ofScan depth scan ≠ .ok tree := by
  intro h
  rcases hshaped.stream with ⟨s, hstream, htokens, -, hproper⟩ | ⟨error, rfl, hstream⟩
  · rw [ofScan_run depth hstream] at h
    cases hread : Read.program (scan.tokens.length + 1) depth s with
    | error error =>
        rw [hread] at h
        cases h
    | ok p =>
        obtain ⟨t, ht, heof⟩ := program_ok hread hproper
        rw [htokens] at ht
        exact hshaped.kind_ne hfailure t ht heof
  · rw [Parse.ofScan, hstream] at h
    cases h

theorem SyntaxError.found?_of_ne (hdeep : ∀ found, e ≠ .tooDeep found)
    (hlexical : ∀ error, e ≠ .lexical error) :
    ∃ token, e.found? = some token ∧ e.span = token.span := by
  cases e with
  | expected what token => exact ⟨token, rfl, rfl⟩
  | noExpression token => exact ⟨token, rfl, rfl⟩
  | trailing token => exact ⟨token, rfl, rfl⟩
  | tooDeep found => exact absurd rfl (hdeep found)
  | lexical error => exact absurd rfl (hlexical error)

/-- A lexical error is reported if the tokens before it can be completed. -/
theorem lexical_error_of_completable (hshaped : scan.Shaped)
    (hsorted : scan.tokens.Pairwise fun t t' => t.pos < t'.pos)
    (hdeep : ¬ AtLimit (Parse.ofScan depth scan)) {error : LexError}
    (hfailure : scan.failure = some error) (hcompletable : Completable scan.tokens) :
    Parse.ofScan depth scan = .error (.lexical error) := by
  cases h : Parse.ofScan depth scan with
  | ok tree => exact absurd h (failure_ne_ok hshaped (by simp [hfailure]) tree)
  | error e =>
      rcases ofScan_fails hshaped h with ⟨found, -, rfl, -⟩ | ⟨_, token, _, -, hfound, -⟩ |
        ⟨found, rfl, hfound, -⟩
      · exact absurd ⟨found, h⟩ hdeep
      · -- No program goes on with the token, but one starts with all the tokens.
        obtain ⟨before, after, hsplit, -, hnone⟩ := syntax_error_first hshaped hsorted h hfound
        obtain ⟨more, hmore⟩ := hcompletable
        rw [hsplit, List.append_assoc, List.cons_append] at hmore
        exact absurd hmore (hnone _)
      · rw [Option.some.inj (hfound.symm.trans hfailure)]

end Errors

/-- The parser reports the first error of a source, the limit to nesting left aside. That limit is
reached only by a source with as many tokens, and at one of them. Any other error of syntax has the span
of a token; the tokens before it can be completed to a program, and no program starts with them and that
token. A lexical error is reported exactly when the scan fails with it and the tokens before it can be
completed. The result of `parse` is the case of `nestingLimit`. -/
theorem first_error_reported (source : Text) (depth : Nat) :
    (∀ found, Parse.ofScan depth (scan source) = .error (.tooDeep found) →
      found ∈ (scan source).tokens ∧ depth ≤ (scan source).tokens.length) ∧
    (∀ e, Parse.ofScan depth (scan source) = .error e → (∀ found, e ≠ .tooDeep found) →
      (∀ error, e ≠ .lexical error) →
      ∃ before token after, (scan source).tokens = before ++ token :: after ∧
        e.span = token.span ∧ Completable before ∧
        ∀ more, ¬ Parses (before ++ token :: more)) ∧
    (¬ AtLimit (Parse.ofScan depth (scan source)) → ∀ error,
      (Parse.ofScan depth (scan source) = .error (.lexical error) ↔
        (scan source).failure = some error ∧ Completable (scan source).tokens)) := by
  obtain ⟨hshaped, hsorted⟩ := scan_shape source
  refine ⟨fun found h => ?_, fun e h hdeep hlexical => ?_, fun hdeep error => ⟨fun h => ?_, ?_⟩⟩
  · rcases ofScan_fails hshaped h with ⟨_, hfound, ⟨⟩, hdepth⟩ | ⟨_, _, _, -, hfound, -⟩ |
      ⟨_, hlexical, -⟩
    · exact ⟨hfound, hdepth⟩
    · cases hfound
    · cases hlexical
  · obtain ⟨token, hfound, hspan⟩ := SyntaxError.found?_of_ne hdeep hlexical
    obtain ⟨before, after, hsplit, hbefore, hnone⟩ := syntax_error_first hshaped hsorted h hfound
    exact ⟨before, token, after, hsplit, hspan, hbefore, hnone⟩
  · rcases ofScan_fails hshaped h with ⟨_, -, hdeep, -⟩ | ⟨_, _, _, -, hfound, -⟩ | ⟨found, hfound, hscan⟩
    · cases hdeep
    · cases hfound
    · cases hfound
      exact hscan
  · rintro ⟨hfailure, hcompletable⟩
    exact lexical_error_of_completable hshaped hsorted hdeep hfailure hcompletable

end RollScript

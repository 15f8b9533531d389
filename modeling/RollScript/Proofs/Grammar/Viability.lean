import RollScript.Proofs.Grammar.Derivation
import RollScript.Proofs.Grammar.Locality

/-!
# What was read before an error can be completed

Read `expression_fails` first: when the reader of expressions fails, either its limit to nesting is
reached, or the tokens that it has taken are the first tokens of a valid tree. One lemma for each form
of term and each loop says how what has been read so far is completed.
-/

namespace RollScript

open RollScript.Parser
open RollScript.Stream

/-- The reader stops with an error after some tokens: at the token that the error is about, or at the
lexical error that follows the last token. -/
def StopsAt (s : Stream) (e : SyntaxError) (taken : List Token) : Prop :=
  (∃ later, s = prepend taken later ∧ e.found? = some later.current) ∨
    ∃ error, s.failure = some error ∧ e = .lexical error ∧ s.tokens = taken

/-- The reader fails: at one of the tokens because of its limit to nesting, which is no higher than the
number of tokens, or after tokens of which `P` holds. -/
def Fails (limit : Nat) (s : Stream) (e : SyntaxError) (P : List Token → Prop) : Prop :=
  (∃ found ∈ s.tokens, e = .tooDeep found ∧ limit ≤ s.tokens.length) ∨
    ∃ taken, StopsAt s e taken ∧ P taken

section Fails

variable {limit limit' : Nat} {s later : Stream} {e : SyntaxError} {P Q : List Token → Prop}

/-- The first of the tokens before an error is the present one. -/
theorem StopsAt.current {token : Token} {taken : List Token} (h : StopsAt s e (token :: taken)) :
    token = s.current := by
  rcases h with ⟨later, rfl, -⟩ | ⟨error, -, -, htokens⟩
  · rfl
  · exact (List.cons.inj htokens).1.symm

theorem Fails.imp_stops (h : Fails limit s e P)
    (hPQ : ∀ taken, StopsAt s e taken → P taken → Q taken) : Fails limit s e Q := by
  rcases h with h | ⟨taken, hstops, htaken⟩
  · exact .inl h
  · exact .inr ⟨taken, hstops, hPQ taken hstops htaken⟩

theorem Fails.imp (h : Fails limit s e P) (hPQ : ∀ taken, P taken → Q taken) :
    Fails limit s e Q :=
  h.imp_stops fun taken _ htaken => hPQ taken htaken

/-- A failure after some tokens is a failure of what began before them. -/
theorem Fails.after {u : List Token} (hs : s = prepend u later)
    (hlimit : limit' ≤ limit + u.length) (h : Fails limit later e fun taken => P (u ++ taken)) :
    Fails limit' s e P := by
  subst hs
  rcases h with ⟨found, hfound, rfl, h⟩ | ⟨taken, hstops, htaken⟩
  · refine .inl ⟨found, ?_, rfl, ?_⟩
    · rw [tokens_prepend]
      exact List.mem_append_right _ hfound
    · rw [tokens_prepend, List.length_append]
      omega
  · refine .inr ⟨u ++ taken, ?_, htaken⟩
    rcases hstops with ⟨rest, rfl, hfound⟩ | ⟨error, hfailure, rfl, htokens⟩
    · exact .inl ⟨rest, (prepend_append u taken rest).symm, hfound⟩
    · exact .inr ⟨error, by rwa [failure_prepend], rfl, by rw [tokens_prepend, htokens]⟩

theorem advance_fails (h : advance s = .error e) (hP : P [s.current]) : Fails limit s e P := by
  obtain ⟨hlater, -, error, hfailure, rfl⟩ := next_eq_error (advance_eq_error.1 h)
  exact .inr ⟨[s.current], .inr ⟨error, hfailure, rfl, by rw [tokens, hlater]⟩, hP⟩

theorem expect_fails {kind : TokenKind} {what : Expectation} (h : expect kind what s = .error e)
    (hnone : P []) (hone : s.current.kind = kind → P [s.current]) : Fails limit s e P := by
  rw [run_expect] at h
  split at h
  · next hkind => exact advance_fails h (hone hkind)
  · cases h
    exact .inr ⟨[], .inl ⟨s, rfl, rfl⟩, hnone⟩

end Fails

/-! ### Failures of the parts of a reader -/

section Parts

variable {α : Type} {limit limit' : Nat} {s : Stream} {e : SyntaxError} {P : List Token → Prop}

theorem pure_fails {a : α} (h : (pure a : Parser α) s = .error e) : Fails limit s e P := by
  cases h

/-- A reader that takes the present token fails there or after it. -/
theorem advance_bind_fails {next : Token → Parser α} (h : (advance >>= next) s = .error e)
    (hproper : s.Proper) (heof : s.current.kind ≠ .eof) (hlimit : limit ≤ limit' + 1)
    (hone : P [s.current])
    (hrest : ∀ later : Stream, later.Proper → s.tokens.length = 1 + later.tokens.length →
      next s.current later = .error e → Fails limit' later e fun taken => P (s.current :: taken)) :
    Fails limit s e P := by
  rcases bind_eq_error.1 h with hadvance | ⟨token, later, hadvance, h⟩
  · exact advance_fails hadvance hone
  · obtain ⟨rfl, hs, hlater⟩ := advance_inv hproper heof hadvance
    exact .after hs hlimit (hrest later hlater (length_tokens hs) h)

/-- A reader that takes a token of some kind fails before it, there or after it. -/
theorem expect_bind_fails {kind : TokenKind} {what : Expectation} {next : Token → Parser α}
    (h : (expect kind what >>= next) s = .error e) (hproper : s.Proper) (heof : kind ≠ .eof)
    (hnone : P []) (hone : s.current.kind = kind → P [s.current])
    (hrest : ∀ (token : Token) (later : Stream), token.kind = kind → later.Proper →
      s.tokens.length = 1 + later.tokens.length → next token later = .error e →
      Fails limit later e fun taken => P (token :: taken)) : Fails limit s e P := by
  rcases bind_eq_error.1 h with hexpect | ⟨token, later, hexpect, h⟩
  · exact expect_fails hexpect hnone hone
  · obtain ⟨hkind, hs, hlater⟩ := expect_inv hproper heof hexpect
    exact .after hs (Nat.le_add_right _ _) (hrest token later hkind hlater (length_tokens hs) h)

end Parts

/-! ## Completions -/

/-- A token of a kind, for a place where any will do. -/
def TokenKind.sample : TokenKind → Token
  | .name => ⟨.name, .ofString "x", 0⟩
  | .rparen => ⟨.rparen, .ofString ")", 0⟩
  | .rbracket => ⟨.rbracket, .ofString "]", 0⟩
  | .inWord => ⟨.inWord, .ofString "in", 0⟩
  | .thenWord => ⟨.thenWord, .ofString "then", 0⟩
  | .elseWord => ⟨.elseWord, .ofString "else", 0⟩
  | kind => ⟨kind, [], 0⟩

/-- An expression, for a place where any will do. -/
def Tree.sample : Tree :=
  .name TokenKind.name.sample

@[simp] theorem Tree.yield_sample : Tree.sample.yield = [TokenKind.name.sample] :=
  rfl

theorem Tree.binds_of_nil {tree : Tree} (h : tree.leftPowers = []) (power : Nat) :
    tree.Binds power := by
  intro left hleft
  rw [h] at hleft
  cases hleft

/-- Tokens with which a valid tree starts that binds as strongly as a bound. -/
def Viable (power : Nat) (taken : List Token) : Prop :=
  ∃ (tree : Tree) (rest : List Token),
    tree.Valid ∧ tree.Binds power ∧ tree.yield = taken ++ rest

/-- Tokens with which a valid term starts. -/
def ViableTerm (taken : List Token) : Prop :=
  taken ≠ [] ∧ ∃ (tree : Tree) (rest : List Token),
    tree.Valid ∧ tree.leftPowers = [] ∧ tree.yield = taken ++ rest

theorem viableTerm_of (tree : Tree) (rest : List Token) {token : Token} {taken : List Token}
    (hvalid : tree.Valid) (hpowers : tree.leftPowers = [])
    (hyield : tree.yield = token :: taken ++ rest) : ViableTerm (token :: taken) :=
  ⟨List.cons_ne_nil _ _, tree, rest, hvalid, hpowers, hyield⟩

/-- A reader of expressions fails only after tokens that can be completed, and has taken the first
token if a term starts with it. -/
def FailsWell (size depth : Nat) (sub : Nat → Parser Tree) : Prop :=
  ∀ power s e, s.Proper → s.tokens.length ≤ size → sub power s = .error e →
    Fails depth s e fun taken =>
      Viable power taken ∧ (taken = [] → Parse.startsTerm s.current.kind = false)

section FailsWell

variable {size depth : Nat} {sub : Nat → Parser Tree} {s later : Stream} {e : SyntaxError}

/-- Tokens with which valid arguments, elements or definitions start. -/
def ViableArguments (taken : List Token) : Prop :=
  ∃ (items : Items) (rest : List Token), items.ValidArguments ∧ items.yield = taken ++ rest

def ViableElements (taken : List Token) : Prop :=
  ∃ (items : Items) (rest : List Token), items.ValidElements ∧ items.yield = taken ++ rest

def ViableBindings (taken : List Token) : Prop :=
  ∃ (bindings : Bindings) (rest : List Token), bindings.Valid ∧ bindings.yield = taken ++ rest

/-- A reader that reads an expression fails in it or after it. -/
theorem sub_bind_fails {α : Type} {P : List Token → Prop} {power : Nat} {next : Tree → Parser α}
    (h : (sub power >>= next) s = .error e) (hsub : FailsWell size depth sub)
    (hderives : Derives depth sub) (hproper : s.Proper) (hsize : s.tokens.length ≤ size)
    (htree : ∀ taken, Viable power taken → P taken)
    (hrest : ∀ (tree : Tree) (later : Stream), Taken depth s tree later → tree.Binds power →
      s.tokens.length = tree.yield.length + later.tokens.length → next tree later = .error e →
      Fails depth later e fun taken => P (tree.yield ++ taken)) : Fails depth s e P := by
  rcases bind_eq_error.1 h with hfails | ⟨tree, later, htaken, h⟩
  · exact (hsub power s e hproper hsize hfails).imp fun taken htaken => htree taken htaken.1
  · obtain ⟨htaken, hbinds, -⟩ := hderives _ _ _ _ hproper htaken
    exact .after htaken.source (Nat.le_add_right _ _)
      (hrest tree later htaken hbinds (length_tokens htaken.source) h)

theorem arguments_fail (hsub : FailsWell size depth sub) (hderives : Derives depth sub)
    (hproper : s.Proper) (hsize : s.tokens.length ≤ size) {rounds : Nat}
    (hrounds : s.tokens.length ≤ rounds) (h : Read.arguments sub rounds s = .error e) :
    Fails depth s e ViableArguments := by
  induction rounds generalizing s with
  | zero => simp [tokens] at hrounds
  | succ rounds ih =>
      rw [Read.arguments] at h
      refine sub_bind_fails h hsub hderives hproper hsize ?_
        fun item between htaken hbinds hlength h => ?_
      · rintro taken ⟨tree, rest, hvalid, hbinds, hyield⟩
        exact ⟨.last tree, rest, ⟨hvalid, hbinds⟩, hyield⟩
      rw [current_bind] at h
      split at h
      · next hkind =>
          have hyields : item.Yields 1 :=
            fun right hright => htaken.leaves right hright 1 (by rw [hkind]; rfl)
          refine advance_bind_fails h htaken.proper (by rw [hkind]; decide) (Nat.le_add_right _ _) ?_
            fun after hafter hlength' h => ?_
          · refine ⟨.more item between.current (.last .sample), [TokenKind.name.sample], ?_, ?_⟩
            · exact ⟨htaken.valid, hbinds, hkind, hyields, rfl, Tree.binds_of_nil rfl 2⟩
            · simp [Items.yield]
          rcases bind_eq_error.1 h with hrest | ⟨_, _, _, h⟩
          · refine (ih hafter (by omega) (by omega) hrest).imp ?_
            rintro taken ⟨items, rest, hvalid, hyield⟩
            refine ⟨.more item between.current items, rest,
              ⟨htaken.valid, hbinds, hkind, hyields, hvalid⟩, ?_⟩
            simp [Items.yield, hyield]
          · cases h
      · exact pure_fails h

theorem elements_fail (hsub : FailsWell size depth sub) (hderives : Derives depth sub)
    (hproper : s.Proper) (hsize : s.tokens.length ≤ size) {rounds : Nat}
    (hrounds : s.tokens.length ≤ rounds) (h : Read.elements sub rounds s = .error e) :
    Fails depth s e ViableElements := by
  induction rounds generalizing s with
  | zero => simp [tokens] at hrounds
  | succ rounds ih =>
      rw [Read.elements, current_bind] at h
      split at h
      · exact pure_fails h
      refine sub_bind_fails h hsub hderives hproper hsize ?_
        fun item between htaken _ hlength h => ?_
      · rintro taken ⟨tree, rest, hvalid, -, hyield⟩
        exact ⟨.last tree, rest, hvalid, hyield⟩
      rw [current_bind] at h
      split at h
      · next hkind =>
          refine advance_bind_fails h htaken.proper (by rw [hkind]; decide) (Nat.le_add_right _ _) ?_
            fun after hafter hlength' h => ?_
          · refine ⟨.more item between.current .none, [], ⟨htaken.valid, hkind, trivial⟩, ?_⟩
            simp [Items.yield]
          rcases bind_eq_error.1 h with hrest | ⟨_, _, _, h⟩
          · refine (ih hafter (by omega) (by omega) hrest).imp ?_
            rintro taken ⟨items, rest, hvalid, hyield⟩
            refine ⟨.more item between.current items, rest, ⟨htaken.valid, hkind, hvalid⟩, ?_⟩
            simp [Items.yield, hyield]
          · cases h
      · exact pure_fails h

theorem bindings_fail (hsub : FailsWell size depth sub) (hderives : Derives depth sub)
    (hproper : s.Proper) (hsize : s.tokens.length ≤ size) {rounds : Nat}
    (hrounds : s.tokens.length ≤ rounds) (h : Read.bindings sub rounds s = .error e) :
    Fails depth s e ViableBindings := by
  induction rounds generalizing s with
  | zero => simp [tokens] at hrounds
  | succ rounds ih =>
      rw [Read.bindings] at h
      refine expect_bind_fails h hproper (by decide) ?_ (fun hkind => ?_)
        fun name named hkindName hnamed hlength h => ?_
      · exact ⟨.last TokenKind.name.sample .sample, _, ⟨rfl, rfl⟩, rfl⟩
      · exact ⟨.last s.current .sample, _, ⟨hkind, rfl⟩, rfl⟩
      refine sub_bind_fails h hsub hderives hnamed (by omega) ?_
        fun value between htaken _ hlength' h => ?_
      · rintro taken ⟨tree, rest, hvalid, -, hyield⟩
        exact ⟨.last name tree, rest, ⟨hkindName, hvalid⟩, by simp [Bindings.yield, hyield]⟩
      rw [current_bind] at h
      split at h
      · next hkind =>
          refine advance_bind_fails h htaken.proper (by rw [hkind]; decide) (Nat.le_add_right _ _) ?_
            fun after hafter hlength'' h => ?_
          · refine ⟨.more name value between.current (.last TokenKind.name.sample .sample),
              [TokenKind.name.sample, TokenKind.name.sample], ?_, ?_⟩
            · exact ⟨hkindName, htaken.valid, hkind, rfl, rfl⟩
            · simp [Bindings.yield]
          rcases bind_eq_error.1 h with hrest | ⟨_, _, _, h⟩
          · refine (ih hafter (by omega) (by omega) hrest).imp ?_
            rintro taken ⟨bindings, rest, hvalid, hyield⟩
            refine ⟨.more name value between.current bindings, rest,
              ⟨hkindName, htaken.valid, hkind, hvalid⟩, ?_⟩
            simp [Bindings.yield, hyield]
          · cases h
      · exact pure_fails h

/-! ## Terms -/

theorem parenthesized_fails (hsub : FailsWell size depth sub) (hderives : Derives depth sub)
    (hproper : s.Proper) (hsize : s.tokens.length ≤ size) (hkind : s.current.kind = .lparen)
    (h : Read.parenthesized sub s = .error e) : Fails (depth + 1) s e ViableTerm := by
  rw [Read.parenthesized] at h
  refine advance_bind_fails h hproper (by rw [hkind]; decide) (Nat.le_refl _) ?_
    fun inside hinside hlength h => ?_
  · exact viableTerm_of (.unit s.current TokenKind.rparen.sample) _ ⟨hkind, rfl⟩ rfl rfl
  rw [current_bind] at h
  split at h
  · next hclosing =>
      refine advance_bind_fails h hinside (by rw [hclosing]; decide) (Nat.le_add_right _ _) ?_
        fun _ _ _ h => pure_fails h
      exact viableTerm_of (.unit s.current inside.current) [] ⟨hkind, hclosing⟩ rfl rfl
  · refine sub_bind_fails h hsub hderives hinside (by omega) ?_
      fun inner between htaken _ hlength' h => ?_
    · rintro taken ⟨tree, rest, hvalid, -, hyield⟩
      refine viableTerm_of (.parens s.current tree TokenKind.rparen.sample)
        (rest ++ [TokenKind.rparen.sample]) ⟨hkind, hvalid, rfl⟩ rfl ?_
      simp [Tree.yield, hyield]
    refine expect_bind_fails h htaken.proper (by decide) ?_ (fun hclosing => ?_)
      fun _ _ _ _ _ h => pure_fails h
    · refine viableTerm_of (.parens s.current inner TokenKind.rparen.sample)
        [TokenKind.rparen.sample] ⟨hkind, htaken.valid, rfl⟩ rfl ?_
      simp [Tree.yield]
    · refine viableTerm_of (.parens s.current inner between.current) []
        ⟨hkind, htaken.valid, hclosing⟩ rfl ?_
      simp [Tree.yield]

theorem array_fails (hsub : FailsWell size depth sub) (hderives : Derives depth sub)
    (hproper : s.Proper) (hsize : s.tokens.length ≤ size) (hkind : s.current.kind = .lbracket)
    (h : Read.array sub size s = .error e) : Fails (depth + 1) s e ViableTerm := by
  rw [Read.array] at h
  refine advance_bind_fails h hproper (by rw [hkind]; decide) (Nat.le_refl _) ?_
    fun inside hinside hlength h => ?_
  · exact viableTerm_of (.array s.current .none TokenKind.rbracket.sample) _
      ⟨hkind, trivial, rfl⟩ rfl rfl
  rcases bind_eq_error.1 h with hitems | ⟨items, between, hitems, h⟩
  · refine (elements_fail hsub hderives hinside (by omega) (by omega) hitems).imp ?_
    rintro taken ⟨items, rest, hvalid, hyield⟩
    refine viableTerm_of (.array s.current items TokenKind.rbracket.sample)
      (rest ++ [TokenKind.rbracket.sample]) ⟨hkind, hvalid, rfl⟩ rfl ?_
    simp [Tree.yield, hyield]
  · obtain ⟨hsource, hproper', hvalid, -⟩ := elements_derives hderives hinside hitems
    refine .after hsource (Nat.le_add_right _ _) ?_
    refine expect_bind_fails h hproper' (by decide) ?_ (fun hclosing => ?_)
      fun _ _ _ _ _ h => pure_fails h
    · refine viableTerm_of (.array s.current items TokenKind.rbracket.sample)
        [TokenKind.rbracket.sample] ⟨hkind, hvalid, rfl⟩ rfl ?_
      simp [Tree.yield]
    · refine viableTerm_of (.array s.current items between.current) []
        ⟨hkind, hvalid, hclosing⟩ rfl ?_
      simp [Tree.yield]

theorem function_fails (hsub : FailsWell size depth sub) (hderives : Derives depth sub)
    (hproper : s.Proper) (hsize : s.tokens.length ≤ size) (hkind : s.current.kind = .atSign)
    (h : Read.function sub s = .error e) : Fails (depth + 1) s e ViableTerm := by
  rw [Read.function] at h
  refine advance_bind_fails h hproper (by rw [hkind]; decide) (Nat.le_refl _) ?_
    fun inside hinside hlength h => ?_
  · exact viableTerm_of (.function s.current TokenKind.name.sample .sample) _
      ⟨hkind, rfl, rfl⟩ rfl rfl
  refine expect_bind_fails h hinside (by decide) ?_ (fun hparameter => ?_)
    fun parameter between hparameter hbetween hlength' h => ?_
  · exact viableTerm_of (.function s.current TokenKind.name.sample .sample) _
      ⟨hkind, rfl, rfl⟩ rfl rfl
  · exact viableTerm_of (.function s.current inside.current .sample) _
      ⟨hkind, hparameter, rfl⟩ rfl rfl
  refine sub_bind_fails h hsub hderives hbetween (by omega) ?_ fun _ _ _ _ _ h => pure_fails h
  rintro taken ⟨tree, rest, hvalid, -, hyield⟩
  refine viableTerm_of (.function s.current parameter tree) rest ⟨hkind, hparameter, hvalid⟩ rfl ?_
  simp [Tree.yield, hyield]

theorem block_fails (hsub : FailsWell size depth sub) (hderives : Derives depth sub)
    (hproper : s.Proper) (hsize : s.tokens.length ≤ size) (hkind : s.current.kind = .letWord)
    (h : Read.block sub size s = .error e) : Fails (depth + 1) s e ViableTerm := by
  rw [Read.block] at h
  refine advance_bind_fails h hproper (by rw [hkind]; decide) (Nat.le_refl _) ?_
    fun inside hinside hlength h => ?_
  · exact viableTerm_of (.block s.current (.last TokenKind.name.sample .sample)
      TokenKind.inWord.sample .sample) _ ⟨hkind, ⟨rfl, rfl⟩, rfl, rfl⟩ rfl rfl
  rcases bind_eq_error.1 h with hbindings | ⟨bindings, between, hbindings, h⟩
  · refine (bindings_fail hsub hderives hinside (by omega) (by omega) hbindings).imp ?_
    rintro taken ⟨bindings, rest, hvalid, hyield⟩
    refine viableTerm_of (.block s.current bindings TokenKind.inWord.sample .sample)
      (rest ++ [TokenKind.inWord.sample, TokenKind.name.sample]) ⟨hkind, hvalid, rfl, rfl⟩ rfl ?_
    simp [Tree.yield, hyield]
  · obtain ⟨hsource, hproper', hvalid, -⟩ := bindings_derives hderives hinside hbindings
    have hlength' := length_tokens hsource
    refine .after hsource (Nat.le_add_right _ _) ?_
    refine expect_bind_fails h hproper' (by decide) ?_ (fun hjoint => ?_)
      fun joint joined hjoint hjoined hlength'' h => ?_
    · refine viableTerm_of (.block s.current bindings TokenKind.inWord.sample .sample)
        [TokenKind.inWord.sample, TokenKind.name.sample] ⟨hkind, hvalid, rfl, rfl⟩ rfl ?_
      simp [Tree.yield]
    · refine viableTerm_of (.block s.current bindings between.current .sample)
        [TokenKind.name.sample] ⟨hkind, hvalid, hjoint, rfl⟩ rfl ?_
      simp [Tree.yield]
    refine sub_bind_fails h hsub hderives hjoined (by omega) ?_ fun _ _ _ _ _ h => pure_fails h
    rintro taken ⟨tree, rest, hbody, -, hyield⟩
    refine viableTerm_of (.block s.current bindings joint tree) rest
      ⟨hkind, hvalid, hjoint, hbody⟩ rfl ?_
    simp [Tree.yield, hyield]

theorem choice_fails (hsub : FailsWell size depth sub) (hderives : Derives depth sub)
    (hproper : s.Proper) (hsize : s.tokens.length ≤ size) (hkind : s.current.kind = .ifWord)
    (h : Read.choice sub s = .error e) : Fails (depth + 1) s e ViableTerm := by
  rw [Read.choice] at h
  refine advance_bind_fails h hproper (by rw [hkind]; decide) (Nat.le_refl _) ?_
    fun inside hinside hlength h => ?_
  · exact viableTerm_of (.choice s.current .sample TokenKind.thenWord.sample .sample
      TokenKind.elseWord.sample .sample) _ ⟨hkind, rfl, rfl, rfl, rfl, rfl⟩ rfl rfl
  refine sub_bind_fails h hsub hderives hinside (by omega) ?_
    fun condition s₁ htaken₁ _ hlength₁ h => ?_
  · rintro taken ⟨tree, rest, hvalid, -, hyield⟩
    refine viableTerm_of (.choice s.current tree TokenKind.thenWord.sample .sample
      TokenKind.elseWord.sample .sample) (rest ++ [TokenKind.thenWord.sample,
      TokenKind.name.sample, TokenKind.elseWord.sample, TokenKind.name.sample])
      ⟨hkind, hvalid, rfl, rfl, rfl, rfl⟩ rfl ?_
    simp [Tree.yield, hyield]
  refine expect_bind_fails h htaken₁.proper (by decide) ?_ (fun hfirst => ?_)
    fun first s₂ hfirst hproper₂ hlength₂ h => ?_
  · refine viableTerm_of (.choice s.current condition TokenKind.thenWord.sample .sample
      TokenKind.elseWord.sample .sample) [TokenKind.thenWord.sample, TokenKind.name.sample,
      TokenKind.elseWord.sample, TokenKind.name.sample]
      ⟨hkind, htaken₁.valid, rfl, rfl, rfl, rfl⟩ rfl ?_
    simp [Tree.yield]
  · refine viableTerm_of (.choice s.current condition s₁.current .sample
      TokenKind.elseWord.sample .sample) [TokenKind.name.sample, TokenKind.elseWord.sample,
      TokenKind.name.sample] ⟨hkind, htaken₁.valid, hfirst, rfl, rfl, rfl⟩ rfl ?_
    simp [Tree.yield]
  refine sub_bind_fails h hsub hderives hproper₂ (by omega) ?_
    fun whenTrue s₃ htaken₂ _ hlength₃ h => ?_
  · rintro taken ⟨tree, rest, hvalid, -, hyield⟩
    refine viableTerm_of (.choice s.current condition first tree TokenKind.elseWord.sample .sample)
      (rest ++ [TokenKind.elseWord.sample, TokenKind.name.sample])
      ⟨hkind, htaken₁.valid, hfirst, hvalid, rfl, rfl⟩ rfl ?_
    simp [Tree.yield, hyield]
  refine expect_bind_fails h htaken₂.proper (by decide) ?_ (fun hsecond => ?_)
    fun second s₄ hsecond hproper₄ hlength₄ h => ?_
  · refine viableTerm_of (.choice s.current condition first whenTrue TokenKind.elseWord.sample
      .sample) [TokenKind.elseWord.sample, TokenKind.name.sample]
      ⟨hkind, htaken₁.valid, hfirst, htaken₂.valid, rfl, rfl⟩ rfl ?_
    simp [Tree.yield]
  · refine viableTerm_of (.choice s.current condition first whenTrue s₃.current .sample)
      [TokenKind.name.sample] ⟨hkind, htaken₁.valid, hfirst, htaken₂.valid, hsecond, rfl⟩ rfl ?_
    simp [Tree.yield]
  refine sub_bind_fails h hsub hderives hproper₄ (by omega) ?_ fun _ _ _ _ _ h => pure_fails h
  rintro taken ⟨tree, rest, hvalid, -, hyield⟩
  refine viableTerm_of (.choice s.current condition first whenTrue second tree) rest
    ⟨hkind, htaken₁.valid, hfirst, htaken₂.valid, hsecond, hvalid⟩ rfl ?_
  simp [Tree.yield, hyield]

theorem sign_fails (hsub : FailsWell size depth sub) (hderives : Derives depth sub)
    (hproper : s.Proper) (hsize : s.tokens.length ≤ size)
    (hkind : (Parse.signName s.current.kind).isSome) (h : Read.sign sub s = .error e) :
    Fails (depth + 1) s e ViableTerm := by
  have heof : s.current.kind ≠ .eof := by
    intro heof
    rw [heof] at hkind
    cases hkind
  rw [Read.sign] at h
  refine advance_bind_fails h hproper heof (Nat.le_refl _) ?_ fun inside hinside hlength h => ?_
  · exact viableTerm_of (.sign s.current .sample) _ ⟨hkind, rfl, Tree.binds_of_nil rfl 17⟩ rfl rfl
  refine sub_bind_fails h hsub hderives hinside (by omega) ?_ fun _ _ _ _ _ h => pure_fails h
  rintro taken ⟨tree, rest, hvalid, hbinds, hyield⟩
  refine viableTerm_of (.sign s.current tree) rest ⟨hkind, hvalid, hbinds⟩ rfl ?_
  simp [Tree.yield, hyield]

/-- A term fails after its first token, or at a token that starts no term. -/
theorem term_fails (hsub : FailsWell size depth sub) (hderives : Derives depth sub)
    (hproper : s.Proper) (hsize : s.tokens.length ≤ size) (h : Read.term sub size s = .error e) :
    Fails (depth + 1) s e fun taken =>
      ViableTerm taken ∨ taken = [] ∧ Parse.startsTerm s.current.kind = false := by
  rw [Read.term, current_bind] at h
  cases hkind : s.current.kind <;> rw [hkind] at h
  case number =>
      rcases bind_eq_error.1 h with hadvance | ⟨_, _, _, h⟩
      · exact advance_fails hadvance (.inl (viableTerm_of (.number s.current) [] hkind rfl rfl))
      · cases h
  case string =>
      rcases bind_eq_error.1 h with hadvance | ⟨_, _, _, h⟩
      · exact advance_fails hadvance (.inl (viableTerm_of (.string s.current) [] hkind rfl rfl))
      · cases h
  case name =>
      rcases bind_eq_error.1 h with hadvance | ⟨_, _, _, h⟩
      · exact advance_fails hadvance (.inl (viableTerm_of (.name s.current) [] hkind rfl rfl))
      · cases h
  case lparen =>
      exact (parenthesized_fails hsub hderives hproper hsize hkind h).imp fun _ h => .inl h
  case lbracket => exact (array_fails hsub hderives hproper hsize hkind h).imp fun _ h => .inl h
  case atSign => exact (function_fails hsub hderives hproper hsize hkind h).imp fun _ h => .inl h
  case letWord => exact (block_fails hsub hderives hproper hsize hkind h).imp fun _ h => .inl h
  case ifWord => exact (choice_fails hsub hderives hproper hsize hkind h).imp fun _ h => .inl h
  case plus | minus | bang =>
      exact (sign_fails hsub hderives hproper hsize (by rw [hkind]; rfl) h).imp fun _ h => .inl h
  all_goals
    cases h
    exact .inr ⟨[], .inl ⟨s, rfl, rfl⟩, .inr ⟨rfl, rfl⟩⟩

/-! ## Extensions and expressions -/

/-- Tokens with which a valid tree goes on after a left part. -/
def ViableAfter (power : Nat) (left : Tree) (taken : List Token) : Prop :=
  Viable power (left.yield ++ taken)

theorem call_fails (hsub : FailsWell size depth sub) (hderives : Derives depth sub) {power : Nat}
    {callee : Tree} (hcallee : Extends depth power callee s) (hpower : power ≤ 21)
    (hsize : s.tokens.length ≤ size) (hkind : s.current.kind = .lparen)
    (h : Read.call sub size callee s = .error e) : Fails depth s e (ViableAfter power callee) := by
  have hyields : callee.Yields 21 := hcallee.yields (by rw [hkind]; rfl)
  rw [Read.call] at h
  refine expect_bind_fails h hcallee.proper (by decide) ?_ (fun hopening => ?_)
    fun opening inside hopening hinside hlength h => ?_
  · exact ⟨callee, [], hcallee.valid, hcallee.binds, by simp⟩
  · exact ⟨.emptyCall callee s.current TokenKind.rparen.sample, [TokenKind.rparen.sample],
      ⟨hcallee.valid, hyields, hopening, rfl⟩, hcallee.binds_cons hpower rfl, by simp [Tree.yield]⟩
  rw [current_bind] at h
  split at h
  · next hclosing =>
      refine advance_bind_fails h hinside (by rw [hclosing]; decide) (Nat.le_add_right _ _) ?_
        fun _ _ _ h => pure_fails h
      exact ⟨.emptyCall callee opening inside.current, [],
        ⟨hcallee.valid, hyields, hopening, hclosing⟩, hcallee.binds_cons hpower rfl,
        by simp [Tree.yield]⟩
  · rcases bind_eq_error.1 h with hitems | ⟨items, between, hitems, h⟩
    · refine (arguments_fail hsub hderives hinside (by omega) (by omega) hitems).imp ?_
      rintro taken ⟨items, rest, hvalid, hyield⟩
      exact ⟨.call callee opening items TokenKind.rparen.sample,
        rest ++ [TokenKind.rparen.sample], ⟨hcallee.valid, hyields, hopening, hvalid, rfl⟩,
        hcallee.binds_cons hpower rfl, by simp [Tree.yield, hyield]⟩
    · obtain ⟨hsource, hproper', hvalid, -⟩ := arguments_derives hderives hinside hitems
      refine .after hsource (Nat.le_add_right _ _) ?_
      refine expect_bind_fails h hproper' (by decide) ?_ (fun hclosing => ?_)
        fun _ _ _ _ _ h => pure_fails h
      · exact ⟨.call callee opening items TokenKind.rparen.sample, [TokenKind.rparen.sample],
          ⟨hcallee.valid, hyields, hopening, hvalid, rfl⟩, hcallee.binds_cons hpower rfl,
          by simp [Tree.yield]⟩
      · exact ⟨.call callee opening items between.current, [],
          ⟨hcallee.valid, hyields, hopening, hvalid, hclosing⟩, hcallee.binds_cons hpower rfl,
          by simp [Tree.yield]⟩

/-- A failure in the right operand of an operator. -/
theorem operand_fails (node : Tree → Tree) (hsub : FailsWell size depth sub) {power l q : Nat}
    {left : Tree} {between : Stream} {token : Token} (hleft : Extends depth power left s)
    (hpower : power ≤ l) (hsize : s.tokens.length ≤ size) (heof : s.current.kind ≠ .eof)
    (hadvance : advance s = .ok (token, between)) (hright : sub q between = .error e)
    (hvalid : ∀ right : Tree, right.Valid → right.Binds q → (node right).Valid)
    (hpowers : ∀ right, (node right).leftPowers = l :: left.leftPowers)
    (hyield : ∀ right : Tree, (node right).yield = left.yield ++ s.current :: right.yield) :
    Fails depth s e (ViableAfter power left) := by
  obtain ⟨rfl, hs, hbetween⟩ := advance_inv hleft.proper heof hadvance
  have hlength : s.tokens.length = 1 + between.tokens.length := length_tokens hs
  refine .after hs (Nat.le_add_right _ _) ?_
  refine (hsub q between e hbetween (by omega) hright).imp ?_
  rintro taken ⟨⟨tree, rest, htree, hbinds, htaken⟩, -⟩
  refine ⟨node tree, rest, hvalid tree htree hbinds, hleft.binds_cons hpower (hpowers tree), ?_⟩
  simp [hyield, htaken]

theorem climb_fails (hsub : FailsWell size depth sub) (hderives : Derives depth sub)
    {power rounds : Nat} {left : Tree} (hleft : Extends depth power left s)
    (hsize : s.tokens.length ≤ size) (hrounds : s.tokens.length ≤ rounds)
    (h : Read.climb sub size power rounds left s = .error e) :
    Fails depth s e (ViableAfter power left) := by
  induction rounds generalizing s left with
  | zero => simp [tokens] at hrounds
  | succ rounds ih =>
      have hrest : ∀ {node : Tree} {after : Stream}, Grows depth power left s node after →
          left.yield.length < node.yield.length →
          Read.climb sub size power rounds node after = .error e →
          Fails depth s e (ViableAfter power left) := by
        intro node after hgrows hnode hclimb
        have hlength := hgrows.shorter hnode
        obtain ⟨taken, hs, hyield, hnode⟩ := hgrows
        refine .after hs (Nat.le_add_right _ _) ?_
        refine (ih hnode (by omega) (by omega) hclimb).imp fun more hmore => ?_
        rw [ViableAfter, ← List.append_assoc, ← hyield]
        exact hmore
      rcases climb_cases h with ⟨-, h⟩ | ⟨hkind, hpower, h⟩ | ⟨hkind, hpower, h⟩ |
        ⟨l, q, hpowers, hpower, h⟩ | ⟨hstarts, hparen, hpower, h⟩
      · cases h
      · rcases bind_eq_error.1 h with hcall | ⟨node, after, hcall, h⟩
        · exact call_fails hsub hderives hleft hpower hsize hkind hcall
        · obtain ⟨hgrows, hlength⟩ := grows_call hderives hleft hpower hcall
          exact hrest hgrows hlength h
      · rcases bind_eq_error.1 h with hadvance | ⟨operator, between, hadvance, h⟩
        · refine advance_fails hadvance ⟨.comma left s.current .sample, [TokenKind.name.sample],
            ⟨hleft.valid, rfl, hkind, hleft.yields (by rw [hkind]; rfl), Tree.binds_of_nil rfl 2⟩,
            hleft.binds_cons hpower rfl, by simp [Tree.yield]⟩
        · rcases bind_eq_error.1 h with hright | ⟨right, after, hright, h⟩
          · refine operand_fails (.comma left s.current) hsub hleft hpower hsize
              (by rw [hkind]; decide) hadvance hright ?_ (fun _ => rfl) (fun _ => rfl)
            exact fun right hvalid hbinds =>
              ⟨hleft.valid, hvalid, hkind, hleft.yields (by rw [hkind]; rfl), hbinds⟩
          · exact hrest (grows_comma hderives hleft hkind hpower hadvance hright)
              (by simp [Tree.yield]) h
      · have hyields := hleft.yields (TokenKind.leftPower?_operator hpowers)
        have hleftPowers : ∀ right, (Tree.binary left s.current right).leftPowers =
            l :: left.leftPowers := by
          intro right
          rw [Tree.leftPowers, hpowers]
          rfl
        rcases bind_eq_error.1 h with hadvance | ⟨operator, between, hadvance, h⟩
        · refine advance_fails hadvance ⟨.binary left s.current .sample, [TokenKind.name.sample],
            ⟨hleft.valid, rfl, l, q, hpowers, hyields, Tree.binds_of_nil rfl q⟩,
            hleft.binds_cons hpower (hleftPowers _), by simp [Tree.yield]⟩
        · rcases bind_eq_error.1 h with hright | ⟨right, after, hright, h⟩
          · refine operand_fails (.binary left s.current) hsub hleft hpower hsize ?_ hadvance hright
              ?_ hleftPowers (fun _ => rfl)
            · intro heof
              rw [heof] at hpowers
              cases hpowers
            · exact fun right hvalid hbinds =>
                ⟨hleft.valid, hvalid, l, q, hpowers, hyields, hbinds⟩
          · exact hrest (grows_binary hderives hleft hpowers hpower hadvance hright)
              (by simp [Tree.yield]) h
      · rcases bind_eq_error.1 h with hright | ⟨right, after, hright, h⟩
        · refine (hsub 19 s e hleft.proper hsize hright).imp_stops ?_
          rintro taken hstops ⟨⟨tree, rest, hvalid, hbinds, hyield⟩, hnone⟩
          have hyields := hleft.yields (TokenKind.leftPower?_juxtaposed hstarts hparen)
          cases taken with
          | nil =>
              rw [hnone rfl] at hstarts
              cases hstarts
          | cons token taken =>
              obtain rfl := hstops.current
              exact ⟨.juxtaposition left tree, rest, ⟨hleft.valid, hvalid, hyields, hbinds,
                s.current, taken ++ rest, hyield, hstarts, hparen⟩,
                hleft.binds_cons hpower rfl, by simp [Tree.yield, hyield]⟩
        · refine hrest (grows_juxtaposition hderives hleft hstarts hparen hpower hright) ?_ h
          rw [Tree.yield, List.length_append]
          exact Nat.lt_add_of_pos_right right.yield_length_pos

end FailsWell

/-- When the reader of expressions fails, its limit to nesting is reached, or what it has taken can be
completed. -/
theorem expression_fails (size depth : Nat) :
    FailsWell size depth (Read.expression size depth) := by
  induction depth with
  | zero =>
      intro power s e _ _ h
      cases h
      exact .inl ⟨s.current, List.mem_cons_self, rfl, Nat.zero_le _⟩
  | succ depth ih =>
      intro power s e hproper hsize h
      have hderives := expression_derives size depth
      rw [Read.expression] at h
      rcases bind_eq_error.1 h with hterm | ⟨left, between, hterm, h⟩
      · refine (term_fails ih hderives hproper hsize hterm).imp ?_
        rintro taken (⟨htaken, tree, rest, hvalid, hpowers, hyield⟩ | ⟨rfl, hstarts⟩)
        · exact ⟨⟨tree, rest, hvalid, Tree.binds_of_nil hpowers power, hyield⟩,
            fun hnone => absurd hnone htaken⟩
        · exact ⟨⟨.sample, _, rfl, Tree.binds_of_nil rfl power, rfl⟩, fun _ => hstarts⟩
      · obtain ⟨htaken, hpowers⟩ := term_derives hderives hproper hterm
        have hleft : Extends depth power left between :=
          ⟨htaken.proper, htaken.valid, Tree.binds_of_nil hpowers power, htaken.leaves,
            htaken.height⟩
        have hlength := length_tokens htaken.source
        have hpos := left.yield_length_pos
        have hfails := climb_fails ih hderives hleft (by omega) (by omega) h
        refine .after htaken.source (by omega) (hfails.imp fun taken hviable => ?_)
        refine ⟨hviable, fun hnone => ?_⟩
        rw [(List.append_eq_nil_iff.1 hnone).1] at hpos
        cases hpos

end RollScript

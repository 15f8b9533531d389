import RollScript.Proofs.Grammar.Relocation
import RollScript.Proofs.Grammar.Trivia

/-!
# Layout

Between tokens there may be any blanks and comments. Read `LaidOut` first: it says of a source that it
writes some texts in order, with blanks or comments between any two of them. Then read
`layout_irrelevant`: if the texts are those of the tokens of another source, then the two sources have
the same tokens but for their places, and they are parsed to the same tree but for its spans, or to the
same error.
-/

namespace RollScript

/-! ## Sources with the same tokens -/

/-- What comes after a token of a layout: the remaining texts, each with something between it and the
token before. -/
inductive Trailing : List Text → Text → Prop where
  | last {closing : Text} : ClosingTrivia closing → Trailing [] closing
  | next {gap text rest : Text} {texts : List Text} : Trivia gap → gap ≠ [] → Trailing texts rest →
      Trailing (text :: texts) (gap ++ (text ++ rest))

/-- A source writes some texts in order, with blanks and comments before, between and after them. -/
inductive LaidOut : List Text → Text → Prop where
  | empty {closing : Text} : ClosingTrivia closing → LaidOut [] closing
  | tokens {gap text rest : Text} {texts : List Text} : Trivia gap → Trailing texts rest →
      LaidOut (text :: texts) (gap ++ (text ++ rest))

theorem Trailing.detached {texts : List Text} {rest : Text} (h : Trailing texts rest) :
    Detached rest := by
  cases h with
  | last hclosing => exact hclosing.detached
  | next hgap hne _ => exact hgap.detached hne _

/-- A token is the lexeme that starts where it stands, in front of some text. -/
def Token.Lexes (t : Token) : Prop :=
  ∃ after, lexeme (t.text ++ after) = some (.token t.kind, t.text.length)

/-- A token is found again in front of what may follow it in a layout. -/
theorem Token.Lexes.scanAt {t : Token} (h : t.Lexes) {rest : Text} (hrest : Detached rest)
    (pos : Nat) :
    scanAt pos (t.text ++ rest) =
      .cons ⟨t.kind, t.text, pos⟩ (scanAt (pos + t.text.length) rest) := by
  obtain ⟨after, hlexeme⟩ := h
  exact scanAt_append pos (lexeme_detached hlexeme hrest)

/-- What follows a token in a layout is scanned to tokens of the same kinds and texts. -/
theorem Trailing.scanAt {tokens : List Token} {rest : Text}
    (h : Trailing (tokens.map Token.text) rest) (htokens : ∀ t ∈ tokens, t.Lexes) (pos : Nat) :
    ∃ tokens' stop, scanAt pos rest = ⟨tokens' ++ [Token.endOfInput stop], none⟩ ∧
      List.Forall₂ Token.SameWord tokens tokens' := by
  induction tokens generalizing rest pos with
  | nil =>
      cases h with
      | last hclosing => exact ⟨[], _, hclosing.scanAt pos, .nil⟩
  | cons t tokens ih =>
      cases h with
      | @next gap _ rest _ hgap hne hrest =>
          obtain ⟨ht, htokens⟩ := List.forall_mem_cons.1 htokens
          obtain ⟨tokens', stop, hscan, hsame⟩ := ih hrest htokens (pos + gap.length + t.text.length)
          refine ⟨⟨t.kind, t.text, pos + gap.length⟩ :: tokens', stop, ?_, .cons ⟨rfl, rfl⟩ hsame⟩
          rw [hgap.scanAt, ht.scanAt hrest.detached, hscan]
          rfl

theorem LaidOut.scan {tokens : List Token} {source : Text}
    (h : LaidOut (tokens.map Token.text) source) (htokens : ∀ t ∈ tokens, t.Lexes) :
    ∃ tokens' stop, scan source = ⟨tokens' ++ [Token.endOfInput stop], none⟩ ∧
      List.Forall₂ Token.SameWord tokens tokens' := by
  cases tokens with
  | nil =>
      cases h with
      | empty hclosing => exact ⟨[], _, hclosing.scanAt 0, .nil⟩
  | cons t tokens =>
      cases h with
      | @tokens gap _ rest _ hgap hrest =>
          obtain ⟨ht, htokens⟩ := List.forall_mem_cons.1 htokens
          obtain ⟨tokens', stop, hscan, hsame⟩ := hrest.scanAt htokens (0 + gap.length + t.text.length)
          refine ⟨⟨t.kind, t.text, 0 + gap.length⟩ :: tokens', stop, ?_, .cons ⟨rfl, rfl⟩ hsame⟩
          show RollScript.scanAt 0 (gap ++ (t.text ++ rest)) = _
          rw [hgap.scanAt, ht.scanAt hrest.detached, hscan]
          rfl

/-- A source without lexical errors has tokens that stand in it, and then the end of the input. -/
theorem scan_of_tokenize {source : Text} {tokens : List Token} {stop : Nat}
    (h : tokenize source = .ok (tokens ++ [Token.endOfInput stop])) :
    scan source = ⟨tokens ++ [Token.endOfInput stop], none⟩ ∧
      ∀ t ∈ tokens, t.kind ≠ .eof ∧ t.Stands source := by
  unfold tokenize at h
  split at h
  · next hfailure =>
      have hscan := Except.ok.inj h
      obtain ⟨found, hfound, ⟨-, stop', hshape⟩ | ⟨hfails, -⟩⟩ := (scan_shape source).1
      · rw [hshape] at hscan
        obtain ⟨rfl, -⟩ := List.append_inj' hscan rfl
        refine ⟨?_, ?_⟩
        · rw [← hscan, ← hshape, ← hfailure]
        · intro t ht
          refine ⟨hfound t ht, scan_stands ?_ (hfound t ht)⟩
          rw [hshape]
          exact List.mem_append_left _ ht
      · exact absurd hfailure hfails
  · cases h

theorem Token.Stands.lexes {source : Text} {t : Token} (h : t.Stands source) : t.Lexes := by
  obtain ⟨-, after, -, -, hlexeme⟩ := h
  exact ⟨after, hlexeme⟩

/-! ## Tokens of the same index -/

/-- Two tokens are the same word, at the same place of two lists. -/
structure SamePlace (tokens tokens' : List Token) (t t' : Token) : Prop where
  word : t.SameWord t'
  index : ∃ i : Nat, tokens[i]? = some t ∧ tokens'[i]? = some t'

theorem forall₂_samePlace {tokens tokens' : List Token}
    (h : List.Forall₂ Token.SameWord tokens tokens') :
    List.Forall₂ (SamePlace tokens tokens') tokens tokens' := by
  induction h with
  | nil => exact .nil
  | cons ht _ ih =>
      refine .cons ⟨ht, 0, rfl, rfl⟩ (ih.imp ?_)
      intro t t' hplace
      obtain ⟨i, hi, hi'⟩ := hplace.index
      exact ⟨hplace.word, i + 1, hi, hi'⟩

theorem map_eq_of_sameWord {tokens tokens' : List Token}
    (h : List.Forall₂ Token.SameWord tokens tokens') :
    tokens.map (fun t => (t.kind, t.text)) = tokens'.map (fun t => (t.kind, t.text)) := by
  induction h with
  | nil => rfl
  | cons ht _ ih => rw [List.map_cons, List.map_cons, ht.kind, ht.text, ih]

theorem Token.SameWord.describe_eq {t t' : Token} (h : t.SameWord t') : t.describe = t'.describe := by
  rw [describe, describe, h.kind, h.text]

/-- Two sources are read alike: to the same tree up to spans, or to errors of syntax, and not of the
scanner, with the same message and the spans of the tokens of the same index. -/
inductive ReadAlike (tokens tokens' : List Token) :
    Except SyntaxError Expr → Except SyntaxError Expr → Prop where
  | tree {e e' : Expr} : e.bare = e'.bare → ReadAlike tokens tokens' (.ok e) (.ok e')
  | blamed {error error' : SyntaxError} {i : Nat} {t t' : Token} :
      tokens[i]? = some t → tokens'[i]? = some t' → error.message = error'.message →
      error.span = t.span → error'.span = t'.span →
      (∀ e, error ≠ .lexical e) → (∀ e, error' ≠ .lexical e) →
      ReadAlike tokens tokens' (.error error) (.error error')

/-- The same error about tokens of the same kind and text has one message. -/
theorem SyntaxError.Alike.message_eq {R : Token → Token → Prop} {e e' : SyntaxError}
    (hR : ∀ t t', R t t' → t.SameWord t') (h : e.Alike R e') : e.message = e'.message := by
  cases h with
  | expected what ht =>
      exact congrArg ("Expected " ++ what.describe ++ ", got " ++ ·) (hR _ _ ht).describe_eq
  | noExpression ht => exact congrArg ("Expected expression, got " ++ ·) (hR _ _ ht).describe_eq
  | trailing ht =>
      exact congrArg ("Unexpected token after expression: " ++ ·) (hR _ _ ht).describe_eq
  | tooDeep _ => rfl

theorem ParsesAlike.read {tokens tokens' : List Token} {read read' : Except SyntaxError Expr}
    (h : ParsesAlike (SamePlace tokens tokens') read read') : ReadAlike tokens tokens' read read' := by
  cases h with
  | tree he => exact .tree he
  | error he =>
      have hmessage := he.message_eq fun _ _ hplace => hplace.word
      cases he with
      | expected what hplace | noExpression hplace | trailing hplace | tooDeep hplace =>
          obtain ⟨i, hi, hi'⟩ := hplace.index
          exact .blamed hi hi' hmessage rfl rfl (fun _ => nofun) fun _ => nofun

/-! ## Layout does not matter -/

/-- However the tokens of a source are laid out anew, they are scanned to the same kinds and texts, and
parsed to the same tree up to spans, or to the same error about the token of the same index. Too much
nesting is such an error too. -/
theorem layout_irrelevant {source source' : Text} {tokens : List Token} {stop : Nat}
    (hsource : tokenize source = .ok (tokens ++ [Token.endOfInput stop]))
    (hlayout : LaidOut (tokens.map Token.text) source') :
    ∃ tokens' stop', tokenize source' = .ok (tokens' ++ [Token.endOfInput stop']) ∧
      tokens.map (fun t => (t.kind, t.text)) = tokens'.map (fun t => (t.kind, t.text)) ∧
      ReadAlike (tokens ++ [Token.endOfInput stop]) (tokens' ++ [Token.endOfInput stop']) (parse source)
        (parse source') := by
  obtain ⟨hscan, htokens⟩ := scan_of_tokenize hsource
  obtain ⟨tokens', stop', hscan', hsame⟩ := hlayout.scan fun t ht => (htokens t ht).2.lexes
  refine ⟨tokens', stop', ?_, ?_, ?_⟩
  · rw [tokenize, hscan']
  · exact map_eq_of_sameWord hsame
  · have hends : List.Forall₂ Token.SameWord (tokens ++ [Token.endOfInput stop])
        (tokens' ++ [Token.endOfInput stop']) := List.rel_append hsame (.cons ⟨rfl, rfl⟩ .nil)
    rw [parse, parse, hscan, hscan']
    refine (parse_ofScan_alike (fun _ _ hplace => hplace.word) nestingLimit (by simp) ?_).read
    exact forall₂_samePlace hends

/-- Five dice, written without a blank. -/
def fiveDice : Text :=
  .ofString "5d20"

/-- The tokens of the five dice. -/
def fiveDiceTokens : List Token :=
  [⟨.number, .ofString "5", 0⟩, ⟨.name, .ofString "d", 1⟩, ⟨.number, .ofString "20", 2⟩]

/-- The five dice with a comment in between, and one that is cut off by the end of the source. -/
def spacedDice : Text :=
  .ofString " 5\td# dice\n20#"

theorem fiveDice_spaced :
    tokenize fiveDice = .ok (fiveDiceTokens ++ [Token.endOfInput 4]) ∧
      LaidOut (fiveDiceTokens.map Token.text) spacedDice ∧
      ∃ tokens' stop', tokenize spacedDice = .ok (tokens' ++ [Token.endOfInput stop']) ∧
        fiveDiceTokens.map (fun t => (t.kind, t.text)) = tokens'.map (fun t => (t.kind, t.text)) ∧
        ReadAlike (fiveDiceTokens ++ [Token.endOfInput 4]) (tokens' ++ [Token.endOfInput stop']) (parse fiveDice)
          (parse spacedDice) := by
  have htokens : tokenize fiveDice = .ok (fiveDiceTokens ++ [Token.endOfInput 4]) := rfl
  have hblank : Trivia (.ofString " ") := .blank rfl .nil
  have htab : Trivia (.ofString "\t") := .blank rfl .nil
  have hcomment : Trivia (.ofString "# dice\n") :=
    .comment (show .scalar '\n' ∉ Text.ofString " dice" by decide) .nil
  have hclosing : ClosingTrivia (.ofString "#") := .cut .nil List.not_mem_nil
  have hwritten : spacedDice = .ofString " " ++ (.ofString "5" ++ (.ofString "\t" ++ (.ofString "d" ++
      (.ofString "# dice\n" ++ (.ofString "20" ++ .ofString "#"))))) := rfl
  have hspaced : LaidOut (fiveDiceTokens.map Token.text) spacedDice := by
    rw [hwritten]
    exact .tokens hblank (.next htab (by decide) (.next hcomment (by decide) (.last hclosing)))
  exact ⟨htokens, hspaced, layout_irrelevant htokens hspaced⟩

end RollScript

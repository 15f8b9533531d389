import Mathlib.Data.List.Forall2
import RollScript.Proofs.Grammar.Streams

/-!
# Parsers use positions for spans only

Read `parse_ofScan_alike` first: the parser takes two lists of tokens with the same kinds and texts to
the same tree up to spans, or to the same error about corresponding tokens. `R` is any relation between
tokens of the same kind and text, so it can also say which of them correspond: `Parser.Alike` relates two
runs, and one lemma for each function of the parser says that it keeps to the relation.
-/

namespace RollScript

open RollScript.Parser

/-! ## Trees without spans -/

namespace Expr

mutual

/-- A tree with all its spans forgotten. -/
def bare : Expr → Expr
  | number _ x => number default x
  | string _ s => string default s
  | unit _ => unit default
  | name _ x => name default x
  | array _ elements => array default (bareElements elements)
  | apply _ callee argument => apply default callee.bare argument.bare
  | function _ parameter body => function default parameter body.bare
  | block _ bindings body => block default (bareBindings bindings) body.bare
  | choice _ condition whenTrue whenFalse =>
    choice default condition.bare whenTrue.bare whenFalse.bare

/-- Several trees with all their spans forgotten. -/
def bareElements : List Expr → List Expr
  | [] => []
  | e :: rest => e.bare :: bareElements rest

/-- Definitions with all their spans forgotten. -/
def bareBindings : List (Text × Expr) → List (Text × Expr)
  | [] => []
  | (x, e) :: rest => (x, e.bare) :: bareBindings rest

end

theorem bare_withStop (stop : Nat) (e : Expr) : (e.withStop stop).bare = e.bare := by
  cases e <;> rfl

/-- Two trees are the same up to spans. -/
def SameBare (e e' : Expr) : Prop :=
  e.bare = e'.bare

theorem SameBare.apply {callee callee' argument argument' : Expr} (hcallee : callee.SameBare callee')
    (hargument : argument.SameBare argument') (span span' : Span) :
    (Expr.apply span callee argument).SameBare (.apply span' callee' argument') := by
  rw [SameBare, bare, bare, hcallee, hargument]

theorem bareElements_eq {elements elements' : List Expr}
    (h : List.Forall₂ SameBare elements elements') : bareElements elements = bareElements elements' := by
  induction h with
  | nil => rfl
  | cons he _ ih => rw [bareElements, bareElements, he, ih]

theorem bareBindings_eq {bindings bindings' : List (Text × Expr)}
    (h : List.Forall₂ (fun binding binding' =>
      binding.1 = binding'.1 ∧ binding.2.SameBare binding'.2) bindings bindings') :
    bareBindings bindings = bareBindings bindings' := by
  induction h with
  | nil => rfl
  | @cons binding binding' _ _ hbinding _ ih =>
      obtain ⟨x, e⟩ := binding
      obtain ⟨x', e'⟩ := binding'
      obtain ⟨rfl, he⟩ : x = x' ∧ e.SameBare e' := hbinding
      rw [bareBindings, bareBindings, he, ih]

end Expr

open RollScript.Expr (SameBare)

/-! ## Runs that correspond -/

/-- Two tokens of the same kind and text. -/
structure Token.SameWord (t t' : Token) : Prop where
  kind : t.kind = t'.kind
  text : t.text = t'.text

/-- Streams of corresponding tokens up to the end of the input. -/
structure Stream.Alike (R : Token → Token → Prop) (s s' : Stream) : Prop where
  current : R s.current s'.current
  later : List.Forall₂ R s.later s'.later
  failure : s.failure = none ∧ s'.failure = none

/-- The same error about corresponding tokens. -/
inductive SyntaxError.Alike (R : Token → Token → Prop) : SyntaxError → SyntaxError → Prop where
  | expected {t t' : Token} (what : Expectation) : R t t' →
      Alike R (.expected what t) (.expected what t')
  | noExpression {t t' : Token} : R t t' → Alike R (.noExpression t) (.noExpression t')
  | trailing {t t' : Token} : R t t' → Alike R (.trailing t) (.trailing t')
  | tooDeep {t t' : Token} : R t t' → Alike R (.tooDeep t) (.tooDeep t')

/-- Two runs have results that `Q` relates and leave corresponding streams, or fail with the same error
about corresponding tokens. -/
inductive ReadsAlike {α : Type} (R : Token → Token → Prop) (Q : α → α → Prop) :
    Except SyntaxError (α × Stream) → Except SyntaxError (α × Stream) → Prop where
  | ok {a b : α} {s s' : Stream} : Q a b → s.Alike R s' → ReadsAlike R Q (.ok (a, s)) (.ok (b, s'))
  | error {e e' : SyntaxError} : e.Alike R e' → ReadsAlike R Q (.error e) (.error e')

/-- Two parsers run alike on corresponding streams. -/
def Parser.Alike {α : Type} (R : Token → Token → Prop) (Q : α → α → Prop) (x y : Parser α) : Prop :=
  ∀ s s' : Stream, s.Alike R s' → ReadsAlike R Q (x s) (y s')

variable {R : Token → Token → Prop}

namespace Parser.Alike

variable {α β : Type} {Q : α → α → Prop} {Q' : β → β → Prop} {x y x' y' : Parser α}

theorem pure {a b : α} (h : Q a b) : Alike R Q (Pure.pure a) (Pure.pure b) := by
  intro s s' hs
  exact .ok h hs

theorem throw {e e' : SyntaxError} (h : e.Alike R e') :
    Alike R Q (MonadExcept.throw e) (MonadExcept.throw e') := by
  intro s s' hs
  exact .error h

theorem bind {f g : α → Parser β} (h : Alike R Q x y)
    (hfg : ∀ a b, Q a b → Alike R Q' (f a) (g b)) : Alike R Q' (x >>= f) (y >>= g) := by
  intro s s' hs
  have hfirst := h s s' hs
  rw [run_bind, run_bind]
  revert hfirst
  generalize x s = result
  generalize y s' = result'
  intro hfirst
  cases hfirst with
  | ok hab hlater => exact hfg _ _ hab _ _ hlater
  | error he => exact .error he

theorem ite {c : Prop} [Decidable c] (hthen : c → Alike R Q x y) (helse : ¬c → Alike R Q x' y') :
    Alike R Q (if c then x else x') (if c then y else y') := by
  by_cases hc : c
  · rw [if_pos hc, if_pos hc]
    exact hthen hc
  · rw [if_neg hc, if_neg hc]
    exact helse hc

theorem current : Alike R R Parser.current Parser.current := by
  intro s s' hs
  exact .ok hs.current hs

theorem tooDeep : Alike R Q (Parser.tooDeep : Parser α) Parser.tooDeep :=
  bind current fun _ _ ht => throw (.tooDeep ht)

variable (hR : ∀ t t', R t t' → t.SameWord t')

include hR

theorem advance : Alike R R Parser.advance Parser.advance := by
  intro s s' hs
  rw [run_advance, run_advance]
  obtain ⟨current, later, failure⟩ := s
  obtain ⟨current', later', failure'⟩ := s'
  obtain ⟨hcurrent, hlater, hfailure⟩ := id hs
  obtain ⟨rfl, rfl⟩ : failure = none ∧ failure' = none := hfailure
  have hkind : current.kind = current'.kind := (hR _ _ hcurrent).kind
  by_cases heof : current.kind = .eof
  · rw [Stream.next, Stream.next, if_pos heof, if_pos (hkind ▸ heof)]
    exact .ok hcurrent hs
  · rw [Stream.next, Stream.next, if_neg heof, if_neg (hkind ▸ heof)]
    cases hlater with
    | nil => exact .ok hcurrent hs
    | cons hfirst hrest => exact .ok hcurrent ⟨hfirst, hrest, ⟨rfl, rfl⟩⟩

theorem expect (kind : TokenKind) (what : Expectation) :
    Alike R R (Parser.expect kind what) (Parser.expect kind what) := by
  refine bind current ?_
  intro t t' ht
  rw [(hR t t' ht).kind]
  exact ite (fun _ => advance hR) fun _ => throw (.expected what ht)

/-- A token that is taken if it is of some kind is taken on both sides, or on neither. -/
theorem accept (kind : TokenKind) :
    Alike R Eq (Parser.accept kind) (Parser.accept kind) := by
  refine bind current ?_
  intro t t' ht
  rw [(hR t t' ht).kind]
  refine ite (fun _ => ?_) fun _ => pure rfl
  exact bind (advance hR) fun _ _ _ => pure rfl

end Parser.Alike

/-! ## The functions of the parser -/

namespace Parse

section Functions

variable (hR : ∀ t t', R t t' → t.SameWord t') {sub : Nat → Parser Expr}
  (hsub : ∀ power, Parser.Alike R SameBare (sub power) (sub power))

include hR hsub

theorem arguments_alike (start start' rounds : Nat) {callee callee' : Expr}
    (hcallee : callee.SameBare callee') :
    Parser.Alike R SameBare (arguments sub start rounds callee) (arguments sub start' rounds callee') := by
  induction rounds generalizing callee callee' with
  | zero => exact .tooDeep
  | succ rounds ih =>
      refine .bind (hsub 2) ?_
      intro argument argument' hargument
      have happlied := hcallee.apply hargument ⟨start, argument.span.stop⟩ ⟨start', argument'.span.stop⟩
      refine .bind (.accept hR .comma) ?_
      rintro more _ rfl
      exact .ite (fun _ => ih happlied) fun _ => .pure happlied

theorem call_alike (rounds : Nat) {callee callee' : Expr} (hcallee : callee.SameBare callee') :
    Parser.Alike R SameBare (call sub rounds callee) (call sub rounds callee') := by
  refine .bind (.expect hR .lparen .openParen) ?_
  intro opening opening' _
  refine .bind .current ?_
  intro t t' ht
  rw [(hR t t' ht).kind]
  refine .ite (fun _ => ?_) fun _ => ?_
  · refine .bind (.advance hR) ?_
    intro closing closing' _
    have hunit : SameBare (.unit ⟨opening.pos, closing.stop⟩) (.unit ⟨opening'.pos, closing'.stop⟩) :=
      rfl
    exact .pure (hcallee.apply hunit _ _)
  · refine .bind (arguments_alike hR hsub _ _ rounds hcallee) ?_
    intro result result' hresult
    refine .bind (.expect hR .rparen .closeCall) ?_
    intro closing closing' _
    refine .pure ?_
    rw [SameBare, Expr.bare_withStop, Expr.bare_withStop]
    exact hresult

theorem climb_alike (size power rounds : Nat) {left left' : Expr} (hleft : left.SameBare left') :
    Parser.Alike R SameBare (climb sub size power rounds left) (climb sub size power rounds left') := by
  induction rounds generalizing left left' with
  | zero => exact .tooDeep
  | succ rounds ih =>
      refine .bind .current ?_
      intro t t' ht
      obtain ⟨hkind, htext⟩ := hR t t' ht
      -- how to go on depends on the kind of the present token alone
      simp only [hkind]
      refine .ite (fun _ => ?_) fun _ => .ite (fun _ => ?_) fun _ => ?_
      · refine .ite (fun _ => .pure hleft) fun _ => ?_
        exact .bind (call_alike hR hsub size hleft) fun _ _ hcall => ih hcall
      · refine .ite (fun _ => .pure hleft) fun _ => ?_
        refine .bind (.advance hR) fun _ _ _ => ?_
        exact .bind (hsub 2) fun _ _ hright => ih (hleft.apply hright _ _)
      · cases hpowers : operatorPowers t'.kind with
        | some powers =>
            obtain ⟨leftPower, rightPower⟩ := powers
            refine .ite (fun _ => .pure hleft) fun _ => ?_
            refine .bind (.advance hR) fun _ _ _ => ?_
            refine .bind (hsub rightPower) ?_
            intro right right' hright
            refine ih ?_
            have hhead : SameBare (.name t.span t.text) (.name t'.span t'.text) := by
              rw [SameBare, Expr.bare, Expr.bare, htext]
            exact (hhead.apply hleft _ _).apply hright _ _
        | none =>
            refine .ite (fun _ => ?_) fun _ => .pure hleft
            refine .ite (fun _ => .pure hleft) fun _ => ?_
            exact .bind (hsub 19) fun _ _ hright => ih (hleft.apply hright _ _)

theorem elements_alike (rounds : Nat) :
    Parser.Alike R (List.Forall₂ SameBare) (elements sub rounds) (elements sub rounds) := by
  induction rounds with
  | zero => exact .tooDeep
  | succ rounds ih =>
      refine .bind .current ?_
      intro t t' ht
      rw [(hR t t' ht).kind]
      refine .ite (fun _ => .pure .nil) fun _ => ?_
      refine .bind (hsub 0) ?_
      intro element element' helement
      refine .bind (.accept hR .dot) ?_
      rintro more _ rfl
      refine .ite (fun _ => ?_) fun _ => .pure (.cons helement .nil)
      exact .bind ih fun _ _ hrest => .pure (.cons helement hrest)

theorem definitions_alike (rounds : Nat) :
    Parser.Alike R (List.Forall₂ fun binding binding' =>
        binding.1 = binding'.1 ∧ binding.2.SameBare binding'.2)
      (definitions sub rounds) (definitions sub rounds) := by
  induction rounds with
  | zero => exact .tooDeep
  | succ rounds ih =>
      refine .bind (.expect hR .name .variableName) ?_
      intro name name' hname
      refine .bind (hsub 0) ?_
      intro value value' hvalue
      have hfirst := And.intro (hR name name' hname).text hvalue
      refine .bind (.accept hR .andWord) ?_
      rintro more _ rfl
      refine .ite (fun _ => ?_) fun _ => .pure (.cons hfirst .nil)
      exact .bind ih fun _ _ hrest => .pure (.cons hfirst hrest)

theorem parenthesized_alike : Parser.Alike R SameBare (parenthesized sub) (parenthesized sub) := by
  refine .bind (.advance hR) ?_
  intro opening opening' _
  refine .bind .current ?_
  intro t t' ht
  rw [(hR t t' ht).kind]
  refine .ite (fun _ => ?_) fun _ => ?_
  · exact .bind (.advance hR) fun _ _ _ => .pure rfl
  · refine .bind (hsub 0) ?_
    intro inner inner' hinner
    exact .bind (.expect hR .rparen .closeParen) fun _ _ _ => .pure hinner

theorem array_alike (size : Nat) : Parser.Alike R SameBare (array sub size) (array sub size) := by
  refine .bind (.advance hR) ?_
  intro opening opening' _
  refine .bind (elements_alike hR hsub size) ?_
  intro items items' hitems
  refine .bind (.expect hR .rbracket .closeBracket) ?_
  intro closing closing' _
  refine .pure ?_
  rw [SameBare, Expr.bare, Expr.bare, Expr.bareElements_eq hitems]

theorem function_alike : Parser.Alike R SameBare (function sub) (function sub) := by
  refine .bind (.advance hR) ?_
  intro opening opening' _
  refine .bind (.expect hR .name .parameter) ?_
  intro parameter parameter' hparameter
  refine .bind (hsub 0) ?_
  intro body body' hbody
  refine .pure ?_
  rw [SameBare, Expr.bare, Expr.bare, (hR _ _ hparameter).text, hbody]

theorem block_alike (size : Nat) : Parser.Alike R SameBare (block sub size) (block sub size) := by
  refine .bind (.advance hR) ?_
  intro opening opening' _
  refine .bind (definitions_alike hR hsub size) ?_
  intro bindings bindings' hbindings
  refine .bind (.expect hR .inWord .andOrIn) ?_
  intro joint joint' _
  refine .bind (hsub 0) ?_
  intro body body' hbody
  refine .pure ?_
  rw [SameBare, Expr.bare, Expr.bare, Expr.bareBindings_eq hbindings, hbody]

theorem choice_alike : Parser.Alike R SameBare (choice sub) (choice sub) := by
  refine .bind (.advance hR) ?_
  intro opening opening' _
  refine .bind (hsub 0) ?_
  intro condition condition' hcondition
  refine .bind (.expect hR .thenWord .thenWord) ?_
  intro first first' _
  refine .bind (hsub 0) ?_
  intro whenTrue whenTrue' htrue
  refine .bind (.expect hR .elseWord .elseWord) ?_
  intro second second' _
  refine .bind (hsub 0) ?_
  intro whenFalse whenFalse' hfalse
  refine .pure ?_
  rw [SameBare, Expr.bare, Expr.bare, hcondition, htrue, hfalse]

theorem sign_alike (meaning : Text) :
    Parser.Alike R SameBare (sign sub meaning) (sign sub meaning) := by
  refine .bind (.advance hR) ?_
  intro operator operator' _
  refine .bind (hsub 17) ?_
  intro operand operand' hoperand
  have hhead : SameBare (.name operator.span meaning) (.name operator'.span meaning) := rfl
  exact .pure (hhead.apply hoperand _ _)

theorem term_alike (size : Nat) : Parser.Alike R SameBare (term sub size) (term sub size) := by
  refine .bind .current ?_
  intro t t' ht
  obtain ⟨hkind, htext⟩ := hR t t' ht
  simp only [hkind, htext]
  cases hword : t'.kind with
  | number => exact .bind (.advance hR) fun _ _ _ => .pure rfl
  | string => exact .bind (.advance hR) fun _ _ _ => .pure rfl
  | name => exact .bind (.advance hR) fun _ _ _ => .pure rfl
  | lparen => exact parenthesized_alike hR hsub
  | lbracket => exact array_alike hR hsub size
  | atSign => exact function_alike hR hsub
  | letWord => exact block_alike hR hsub size
  | ifWord => exact choice_alike hR hsub
  | plus => exact sign_alike hR hsub (.ofString "+x")
  | minus => exact sign_alike hR hsub (.ofString "-x")
  | bang => exact sign_alike hR hsub (.ofString "!")
  | _ => exact .throw (.noExpression ht)

end Functions

variable (hR : ∀ t t', R t t' → t.SameWord t')

include hR

theorem expression_alike (size depth power : Nat) :
    Parser.Alike R SameBare (expression size depth power) (expression size depth power) := by
  induction depth generalizing power with
  | zero => exact .tooDeep
  | succ depth ih =>
      exact .bind (term_alike hR ih size) fun _ _ hleft => climb_alike hR ih size power size hleft

theorem program_alike (size depth : Nat) :
    Parser.Alike R SameBare (program size depth) (program size depth) := by
  refine .bind (expression_alike hR size depth 0) ?_
  intro tree tree' htree
  refine .bind .current ?_
  intro t t' ht
  rw [(hR t t' ht).kind]
  exact .ite (fun _ => .pure htree) fun _ => .throw (.trailing ht)

end Parse

/-! ## Scans -/

/-- What two scans are parsed to: trees that are the same up to spans, or the same error about
corresponding tokens. -/
inductive ParsesAlike (R : Token → Token → Prop) :
    Except SyntaxError Expr → Except SyntaxError Expr → Prop where
  | tree {e e' : Expr} : e.SameBare e' → ParsesAlike R (.ok e) (.ok e')
  | error {e e' : SyntaxError} : e.Alike R e' → ParsesAlike R (.error e) (.error e')

theorem ofScan_cons (depth : Nat) (t : Token) (later : List Token) :
    Parse.ofScan depth ⟨t :: later, none⟩ =
      (Parse.program ((t :: later).length + 1) depth ⟨t, later, none⟩).map Prod.fst := by
  show (Parse.program _ depth ⟨t, later, none⟩ >>= fun p => Except.ok p.1) = _
  cases Parse.program ((t :: later).length + 1) depth ⟨t, later, none⟩ <;> rfl

/-- Scans of corresponding tokens are parsed alike. -/
theorem parse_ofScan_alike (hR : ∀ t t', R t t' → t.SameWord t') (depth : Nat)
    {tokens tokens' : List Token} (hne : tokens ≠ []) (h : List.Forall₂ R tokens tokens') :
    ParsesAlike R (Parse.ofScan depth ⟨tokens, none⟩) (Parse.ofScan depth ⟨tokens', none⟩) := by
  cases h with
  | nil => exact absurd rfl hne
  | @cons t t' later later' ht hlater =>
      have hsize : (t :: later).length = (t' :: later').length := by
        rw [List.length_cons, List.length_cons, hlater.length_eq]
      rw [ofScan_cons, ofScan_cons, ← hsize]
      have hprogram := Parse.program_alike hR ((t :: later).length + 1) depth ⟨t, later, none⟩
        ⟨t', later', none⟩ ⟨ht, hlater, rfl, rfl⟩
      revert hprogram
      generalize Parse.program _ depth (⟨t, later, none⟩ : Stream) = result
      generalize Parse.program _ depth (⟨t', later', none⟩ : Stream) = result'
      intro hprogram
      cases hprogram with
      | ok htree _ => exact .tree htree
      | error he => exact .error he

end RollScript

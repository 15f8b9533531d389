import RollScript.Proofs.Grammar.Spans
import RollScript.Proofs.Grammar.Words

/-!
# Names in parsed trees

A source can bind identifiers only, and it can mention an operator only by applying it. Read
`Expr.WellNamed` first, which says so for a tree; `parse_wellNamed` is the main result. It rests on what
the tokens of a source can be written like: a name is an identifier, since no operator is spelled with
letters (`Lexeme.Spelled.identifier`).
-/

namespace RollScript

/-! ## Identifiers and operators -/

/-- The words that are no names. -/
def keywords : List Text :=
  ["let", "and", "in", "if", "then", "else"].map .ofString

/-- A name that a program can bind: letters and underscores that make up no keyword, or three dots. -/
def IsIdentifier (x : Text) : Prop :=
  x = .ofString "..." ∨ (x ≠ [] ∧ (∀ c ∈ x, c.isNameChar = true) ∧ x ∉ keywords)

/-- The names of the operators between two terms. -/
def infixNames : List Text :=
  ["=", "!=", "<", "<=", ">", ">=", "|", "&", "+", "-", "*", "/", "%", "**"].map .ofString

/-- The names of the operators before a term. -/
def signNames : List Text :=
  ["+x", "-x", "!"].map .ofString

/-- The name of an operator. -/
def IsOperator (x : Text) : Prop :=
  x ∈ infixNames ∨ x ∈ signNames

/-- No operator is named like an identifier. -/
theorem IsOperator.not_identifier {x : Text} (h : IsOperator x) : ¬ IsIdentifier x := by
  have hnames : ∀ name ∈ infixNames ++ signNames,
      name ≠ .ofString "..." ∧ ∃ c ∈ name, c.isNameChar = false := by
    decide
  obtain ⟨hdots, c, hc, hother⟩ := hnames x (List.mem_append.2 h)
  rintro (hx | ⟨-, hletters, -⟩)
  · exact hdots hx
  · rw [hletters c hc] at hother
    cases hother

/-! ## The texts of tokens -/

theorem TokenKind.ofWord_keyword {word : Text} (h : word ∈ keywords) : ofWord word ≠ .name := by
  simp only [keywords, List.map_cons, List.map_nil, List.mem_cons, List.not_mem_nil, or_false] at h
  rcases h with rfl | rfl | rfl | rfl | rfl | rfl <;> decide

/-- A word that is a name is an identifier. -/
theorem Lexeme.Spelled.identifier {word : Text} (h : Lexeme.Spelled (.token .name) word) :
    IsIdentifier word := by
  generalize hfound : Lexeme.token .name = found at h
  cases h with
  | symbol hsymbol =>
      cases hfound
      cases hsymbol
  | ellipsis => exact .inl rfl
  | number | string | blanks | comment => cases hfound
  | word hne hletters =>
      refine .inr ⟨hne, hletters, ?_⟩
      intro hkeyword
      exact TokenKind.ofWord_keyword hkeyword (Lexeme.token.inj hfound).symm

namespace Token.Stands

variable {source : Text} {t : Token}

theorem identifier (h : t.Stands source) (hkind : t.kind = .name) : IsIdentifier t.text := by
  have hspelled := h.spelled
  rw [hkind] at hspelled
  exact hspelled.identifier

/-- A token between two terms is written like the operator it names. -/
theorem infix_name (h : t.Stands source) {powers : Nat × Nat}
    (hpowers : Parse.operatorPowers t.kind = some powers) : IsOperator t.text := by
  -- a kind with binding powers has one spelling
  have hsymbol : ∃ name ∈ infixNames, t.kind.symbol? = some name := by
    cases hkind : t.kind
    all_goals
      rw [hkind] at hpowers
      first
        | exact ⟨_, by decide, rfl⟩
        | cases hpowers
  obtain ⟨name, hname, hsymbol⟩ := hsymbol
  rw [h.text_eq hsymbol]
  exact .inl hname

end Token.Stands

theorem signName_operator {kind : TokenKind} (h : (Parse.signName kind).isSome) :
    IsOperator ((Parse.signName kind).getD []) := by
  cases kind
  all_goals first
    | exact .inr (by decide)
    | cases h

/-! ## Trees -/

/-- A tree binds identifiers only and has the name of an operator only where it applies the operator to
an argument. Any other name is an identifier. -/
inductive Expr.WellNamed : Expr → Prop where
  | number (span : Span) (value : Float) : WellNamed (.number span value)
  | string (span : Span) (value : Text) : WellNamed (.string span value)
  | unit (span : Span) : WellNamed (.unit span)
  | name {span : Span} {x : Text} : IsIdentifier x → WellNamed (.name span x)
  | array {span : Span} {elements : List Expr} : (∀ e ∈ elements, WellNamed e) →
      WellNamed (.array span elements)
  | apply {span : Span} {callee argument : Expr} : WellNamed callee → WellNamed argument →
      WellNamed (.apply span callee argument)
  | operator {span place : Span} {x : Text} {argument : Expr} : IsOperator x → WellNamed argument →
      WellNamed (.apply span (.name place x) argument)
  | function {span : Span} {parameter : Text} {body : Expr} : IsIdentifier parameter → WellNamed body →
      WellNamed (.function span parameter body)
  | block {span : Span} {bindings : List (Text × Expr)} {body : Expr} :
      (∀ binding ∈ bindings, IsIdentifier binding.1) → (∀ binding ∈ bindings, WellNamed binding.2) →
      WellNamed body → WellNamed (.block span bindings body)
  | choice {span : Span} {condition whenTrue whenFalse : Expr} : WellNamed condition →
      WellNamed whenTrue → WellNamed whenFalse → WellNamed (.choice span condition whenTrue whenFalse)

/-- Names do not depend on where a tree ends. -/
theorem Expr.WellNamed.withStop {e : Expr} (h : e.WellNamed) (stop : Nat) :
    (e.withStop stop).WellNamed := by
  cases h with
  | number => exact .number _ _
  | string => exact .string _ _
  | unit => exact .unit _
  | name hx => exact .name hx
  | array helements => exact .array helements
  | apply hcallee hargument => exact .apply hcallee hargument
  | operator hx hargument => exact .operator hx hargument
  | function hparameter hbody => exact .function hparameter hbody
  | block hnames hvalues hbody => exact .block hnames hvalues hbody
  | choice hcondition htrue hfalse => exact .choice hcondition htrue hfalse

section

variable {source : Text}

/-- The tokens stand in the source. -/
def AllStand (source : Text) (tokens : List Token) : Prop :=
  ∀ t ∈ tokens, t.Stands source

theorem allStand_cons {t : Token} {tokens : List Token} :
    AllStand source (t :: tokens) ↔ t.Stands source ∧ AllStand source tokens :=
  List.forall_mem_cons

theorem allStand_append {tokens later : List Token} :
    AllStand source (tokens ++ later) ↔ AllStand source tokens ∧ AllStand source later :=
  List.forall_mem_append

mutual

/-- The expression of a tree whose tokens stand in a source is well named. -/
theorem Tree.wellNamed (tree : Tree) (hvalid : tree.Valid) (h : AllStand source tree.yield) :
    tree.desugar.WellNamed := by
  match tree, hvalid, h with
  | .number token, _, _ => exact .number _ _
  | .string token, _, _ => exact .string _ _
  | .name token, hkind, h => exact .name ((allStand_cons.1 h).1.identifier hkind)
  | .unit opening closing, _, _ => exact .unit _
  | .parens opening inner closing, ⟨_, hinner, _⟩, h =>
      exact inner.wellNamed hinner (allStand_append.1 (allStand_cons.1 h).2).1
  | .array opening items closing, ⟨_, hitems, _⟩, h =>
      exact .array (items.wellNamed_elements hitems (allStand_append.1 (allStand_cons.1 h).2).1)
  | .function opening parameter body, ⟨_, hparameter, hbody⟩, h =>
      obtain ⟨hstands, hlater⟩ := allStand_cons.1 (allStand_cons.1 h).2
      exact .function (hstands.identifier hparameter) (body.wellNamed hbody hlater)
  | .sign operator operand, ⟨hsign, hoperand, _⟩, h =>
      exact .operator (signName_operator hsign) (operand.wellNamed hoperand (allStand_cons.1 h).2)
  | .block opening bindings joint body, ⟨_, hbindings, _, hbody⟩, h =>
      obtain ⟨hfront, hback⟩ := allStand_append.1 (allStand_cons.1 h).2
      have hall := bindings.wellNamed hbindings hfront
      exact .block (fun binding hbinding => (hall binding hbinding).1)
        (fun binding hbinding => (hall binding hbinding).2) (body.wellNamed hbody (allStand_cons.1 hback).2)
  | .choice opening condition first whenTrue second whenFalse, ⟨_, hcondition, _, htrue, _, hfalse⟩, h =>
      obtain ⟨hfront, hback⟩ := allStand_append.1 (allStand_cons.1 h).2
      obtain ⟨hmiddle, hlast⟩ := allStand_append.1 (allStand_cons.1 hback).2
      exact .choice (condition.wellNamed hcondition hfront) (whenTrue.wellNamed htrue hmiddle)
        (whenFalse.wellNamed hfalse (allStand_cons.1 hlast).2)
  | .binary left operator right, ⟨hleft, hright, hpowers⟩, h =>
      obtain ⟨l, r, hpowers, -⟩ := hpowers
      obtain ⟨hfront, hback⟩ := allStand_append.1 h
      obtain ⟨hoperator, hback⟩ := allStand_cons.1 hback
      exact .apply (.operator (hoperator.infix_name hpowers) (left.wellNamed hleft hfront))
        (right.wellNamed hright hback)
  | .comma left operator right, ⟨hleft, hright, _⟩, h =>
      obtain ⟨hfront, hback⟩ := allStand_append.1 h
      exact .apply (left.wellNamed hleft hfront) (right.wellNamed hright (allStand_cons.1 hback).2)
  | .juxtaposition left right, ⟨hleft, hright, _⟩, h =>
      obtain ⟨hfront, hback⟩ := allStand_append.1 h
      exact .apply (left.wellNamed hleft hfront) (right.wellNamed hright hback)
  | .emptyCall callee opening closing, ⟨hcallee, _⟩, h =>
      exact .apply (callee.wellNamed hcallee (allStand_append.1 h).1) (.unit _)
  | .call callee opening arguments closing, ⟨hcallee, _, _, harguments, _⟩, h =>
      obtain ⟨hfront, hback⟩ := allStand_append.1 h
      -- the applications start at the callee, and the last of them ends at the bracket
      have happlied := arguments.wellNamed_applied callee.desugar.span.start harguments
        (callee.wellNamed hcallee hfront) (allStand_append.1 (allStand_cons.1 hback).2).1
      exact happlied.withStop _

theorem Items.wellNamed_elements (items : Items) (hvalid : items.ValidElements)
    (h : AllStand source items.yield) : ∀ e ∈ items.desugar, e.WellNamed := by
  match items, hvalid, h with
  | .none, _, _ => exact fun e he => absurd he List.not_mem_nil
  | .last item, hitem, h =>
      intro e he
      rw [List.mem_singleton.1 he]
      exact item.wellNamed hitem h
  | .more item separator rest, ⟨hitem, _, hrest⟩, h =>
      obtain ⟨hfront, hback⟩ := allStand_append.1 h
      exact List.forall_mem_cons.2
        ⟨item.wellNamed hitem hfront, rest.wellNamed_elements hrest (allStand_cons.1 hback).2⟩

theorem Items.wellNamed_applied (items : Items) (start : Nat) (hvalid : items.ValidArguments)
    {callee : Expr} (hcallee : callee.WellNamed) (h : AllStand source items.yield) :
    (items.applied start callee).WellNamed := by
  match items, hvalid, h with
  | .last item, ⟨hitem, _⟩, h => exact .apply hcallee (item.wellNamed hitem h)
  | .more item separator rest, ⟨hitem, _, _, _, hrest⟩, h =>
      obtain ⟨hfront, hback⟩ := allStand_append.1 h
      exact rest.wellNamed_applied start hrest (.apply hcallee (item.wellNamed hitem hfront))
        (allStand_cons.1 hback).2

theorem Bindings.wellNamed (bindings : Bindings) (hvalid : bindings.Valid)
    (h : AllStand source bindings.yield) :
    ∀ binding ∈ bindings.desugar, IsIdentifier binding.1 ∧ binding.2.WellNamed := by
  match bindings, hvalid, h with
  | .last name value, ⟨hname, hvalue⟩, h =>
      obtain ⟨hstands, hlater⟩ := allStand_cons.1 h
      intro binding hbinding
      rw [List.mem_singleton.1 hbinding]
      exact ⟨hstands.identifier hname, value.wellNamed hvalue hlater⟩
  | .more name value joint rest, ⟨hname, hvalue, _, hrest⟩, h =>
      obtain ⟨hstands, hlater⟩ := allStand_cons.1 h
      obtain ⟨hfront, hback⟩ := allStand_append.1 hlater
      exact List.forall_mem_cons.2
        ⟨⟨hstands.identifier hname, value.wellNamed hvalue hfront⟩,
          rest.wellNamed hrest (allStand_cons.1 hback).2⟩

end

end

/-- A parsed tree is well named. -/
theorem parse_wellNamed {source : Text} {tree : Expr} (h : parse source = .ok tree) :
    tree.WellNamed := by
  obtain ⟨concrete, stop, hvalid, hscan, hkinds, rfl⟩ := parse_yield h
  have hstand : AllStand source concrete.yield := by
    intro t ht
    refine scan_stands ?_ (hkinds t ht)
    rw [hscan]
    exact List.mem_append_left _ ht
  exact concrete.wellNamed hvalid hstand

end RollScript

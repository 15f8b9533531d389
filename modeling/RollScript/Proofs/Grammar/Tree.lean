import RollScript.Expr.Parse

/-!
# Concrete trees

A `Tree` keeps every token of an expression in its place, parentheses and dots included. Read
`Tree.Valid` first: it says by the binding powers alone, without a parser, which trees are allowed.
`Tree.yield` lists a tree's tokens in order, `Tree.desugar` is the expression that a tree stands for,
and `Tree.height` counts how many expressions are nested in each other.
-/

namespace RollScript

mutual

/-- An expression with all its tokens. -/
inductive Tree where
  | number (token : Token)
  | string (token : Token)
  | name (token : Token)
  | unit (opening closing : Token)
  | parens (opening : Token) (inner : Tree) (closing : Token)
  | array (opening : Token) (items : Items) (closing : Token)
  | function (opening parameter : Token) (body : Tree)
  | sign (operator : Token) (operand : Tree)
  | block (opening : Token) (bindings : Bindings) (joint : Token) (body : Tree)
  | choice (opening : Token) (condition : Tree) (first : Token) (whenTrue : Tree) (second : Token)
      (whenFalse : Tree)
  | binary (left : Tree) (operator : Token) (right : Tree)
  | comma (left : Tree) (operator : Token) (right : Tree)
  | juxtaposition (left right : Tree)
  | emptyCall (callee : Tree) (opening closing : Token)
  | call (callee : Tree) (opening : Token) (arguments : Items) (closing : Token)

/-- Expressions in a row with a separator between any two of them. A separator may follow the last one
too, in which case nothing comes after it. -/
inductive Items where
  | none
  | last (item : Tree)
  | more (item : Tree) (separator : Token) (rest : Items)

/-- Definitions joined to each other. -/
inductive Bindings where
  | last (name : Token) (value : Tree)
  | more (name : Token) (value : Tree) (joint : Token) (rest : Bindings)

end

/-- The left binding power of a token after an expression, if it can follow one: that of a call, of the
comma, of an operator, or of a juxtaposition with what the token starts. -/
def TokenKind.leftPower? (kind : TokenKind) : Option Nat :=
  if kind = .lparen then some 21
  else if kind = .comma then some 1
  else
    match Parse.operatorPowers kind with
    | some (left, _) => some left
    | none => if Parse.startsTerm kind then some 20 else none

mutual

/-- The tokens of a tree in order. -/
def Tree.yield : Tree → List Token
  | .number token => [token]
  | .string token => [token]
  | .name token => [token]
  | .unit opening closing => [opening, closing]
  | .parens opening inner closing => opening :: (inner.yield ++ [closing])
  | .array opening items closing => opening :: (items.yield ++ [closing])
  | .function opening parameter body => opening :: parameter :: body.yield
  | .sign operator operand => operator :: operand.yield
  | .block opening bindings joint body => opening :: (bindings.yield ++ joint :: body.yield)
  | .choice opening condition first whenTrue second whenFalse =>
    opening :: (condition.yield ++ first :: (whenTrue.yield ++ second :: whenFalse.yield))
  | .binary left operator right => left.yield ++ operator :: right.yield
  | .comma left operator right => left.yield ++ operator :: right.yield
  | .juxtaposition left right => left.yield ++ right.yield
  | .emptyCall callee opening closing => callee.yield ++ [opening, closing]
  | .call callee opening arguments closing =>
    callee.yield ++ opening :: (arguments.yield ++ [closing])

def Items.yield : Items → List Token
  | .none => []
  | .last item => item.yield
  | .more item separator rest => item.yield ++ separator :: rest.yield

def Bindings.yield : Bindings → List Token
  | .last name value => name :: value.yield
  | .more name value joint rest => name :: (value.yield ++ joint :: rest.yield)

end

mutual

/-- The expression that a tree stands for. -/
def Tree.desugar : Tree → Expr
  | .number token => .number token.span (Numeral.value token.text)
  | .string token => .string token.span ((Literal.decode token.text).getD [])
  | .name token => .name token.span token.text
  | .unit opening closing => .unit ⟨opening.pos, closing.stop⟩
  | .parens _ inner _ => inner.desugar
  | .array opening items closing => .array ⟨opening.pos, closing.stop⟩ items.desugar
  | .function opening parameter body =>
    .function ⟨opening.pos, body.desugar.span.stop⟩ parameter.text body.desugar
  | .sign operator operand =>
    .apply ⟨operator.pos, operand.desugar.span.stop⟩
      (.name operator.span ((Parse.signName operator.kind).getD [])) operand.desugar
  | .block opening bindings _ body =>
    .block ⟨opening.pos, body.desugar.span.stop⟩ bindings.desugar body.desugar
  | .choice opening condition _ whenTrue _ whenFalse =>
    .choice ⟨opening.pos, whenFalse.desugar.span.stop⟩ condition.desugar whenTrue.desugar
      whenFalse.desugar
  | .binary left operator right => Parse.binary operator left.desugar right.desugar
  | .comma left _ right =>
    .apply (Parse.across left.desugar right.desugar) left.desugar right.desugar
  | .juxtaposition left right =>
    .apply (Parse.across left.desugar right.desugar) left.desugar right.desugar
  | .emptyCall callee opening closing =>
    .apply ⟨callee.desugar.span.start, closing.stop⟩ callee.desugar
      (.unit ⟨opening.pos, closing.stop⟩)
  | .call callee _ arguments closing =>
    (arguments.applied callee.desugar.span.start callee.desugar).withStop closing.stop

def Items.desugar : Items → List Expr
  | .none => []
  | .last item => [item.desugar]
  | .more item _ rest => item.desugar :: rest.desugar

/-- A callee applied to arguments one by one, where the call starts at an offset. -/
def Items.applied (start : Nat) (callee : Expr) : Items → Expr
  | .none => callee
  | .last item => .apply ⟨start, item.desugar.span.stop⟩ callee item.desugar
  | .more item _ rest =>
    rest.applied start (.apply ⟨start, item.desugar.span.stop⟩ callee item.desugar)

def Bindings.desugar : Bindings → List (Text × Expr)
  | .last name value => [(name.text, value.desugar)]
  | .more name value _ rest => (name.text, value.desugar) :: rest.desugar

end

mutual

/-- How many expressions are nested in each other. The left operand of an operator is not nested in
the operator's expression, but the right one is. -/
def Tree.height : Tree → Nat
  | .number _ | .string _ | .name _ | .unit _ _ => 1
  | .parens _ inner _ => inner.height + 1
  | .array _ items _ => items.height + 1
  | .function _ _ body => body.height + 1
  | .sign _ operand => operand.height + 1
  | .block _ bindings _ body => max bindings.height body.height + 1
  | .choice _ condition _ whenTrue _ whenFalse =>
    max condition.height (max whenTrue.height whenFalse.height) + 1
  | .binary left _ right => max left.height (right.height + 1)
  | .comma left _ right => max left.height (right.height + 1)
  | .juxtaposition left right => max left.height (right.height + 1)
  | .emptyCall callee _ _ => callee.height
  | .call callee _ arguments _ => max callee.height (arguments.height + 1)

def Items.height : Items → Nat
  | .none => 0
  | .last item => item.height
  | .more item _ rest => max item.height rest.height

def Bindings.height : Bindings → Nat
  | .last _ value => value.height
  | .more _ value _ rest => max value.height rest.height

end

namespace Tree

/-- The left powers of the operators, juxtapositions and calls on the left spine of a tree. -/
def leftPowers : Tree → List Nat
  | .binary left operator _ =>
    ((Parse.operatorPowers operator.kind).map Prod.fst).toList ++ left.leftPowers
  | .comma left _ _ => 1 :: left.leftPowers
  | .juxtaposition left _ => 20 :: left.leftPowers
  | .emptyCall callee _ _ => 21 :: callee.leftPowers
  | .call callee _ _ _ => 21 :: callee.leftPowers
  | _ => []

/-- The right powers of the nodes on the right spine of a tree that are open on the right. -/
def rightPowers : Tree → List Nat
  | .binary _ operator right =>
    ((Parse.operatorPowers operator.kind).map Prod.snd).toList ++ right.rightPowers
  | .comma _ _ right => 2 :: right.rightPowers
  | .juxtaposition _ right => 19 :: right.rightPowers
  | .sign _ operand => 17 :: operand.rightPowers
  | .function _ _ body => 0 :: body.rightPowers
  | .block _ _ _ body => 0 :: body.rightPowers
  | .choice _ _ _ _ _ whenFalse => 0 :: whenFalse.rightPowers
  | _ => []

/-- Every operator on the left spine binds at least as strongly as a bound. -/
def Binds (power : Nat) (tree : Tree) : Prop :=
  ∀ left ∈ tree.leftPowers, power ≤ left

/-- No node that is open on the right takes an operator of some left power for itself. -/
def Yields (power : Nat) (tree : Tree) : Prop :=
  ∀ right ∈ tree.rightPowers, power < right

end Tree

mutual

/-- A tree is valid if its tokens are of the right kinds; if a right operand, an operand of a sign or
an argument binds at least as strongly as the right power before it; if a left operand, or an argument
with a comma after it, has nothing open on the right that would take what comes next; and if a
juxtaposed operand starts with a token that starts a term, other than a parenthesis. -/
def Tree.Valid : Tree → Prop
  | .number token => token.kind = .number
  | .string token => token.kind = .string
  | .name token => token.kind = .name
  | .unit opening closing => opening.kind = .lparen ∧ closing.kind = .rparen
  | .parens opening inner closing =>
    opening.kind = .lparen ∧ inner.Valid ∧ closing.kind = .rparen
  | .array opening items closing =>
    opening.kind = .lbracket ∧ items.ValidElements ∧ closing.kind = .rbracket
  | .function opening parameter body =>
    opening.kind = .atSign ∧ parameter.kind = .name ∧ body.Valid
  | .sign operator operand =>
    (Parse.signName operator.kind).isSome ∧ operand.Valid ∧ operand.Binds 17
  | .block opening bindings joint body =>
    opening.kind = .letWord ∧ bindings.Valid ∧ joint.kind = .inWord ∧ body.Valid
  | .choice opening condition first whenTrue second whenFalse =>
    opening.kind = .ifWord ∧ condition.Valid ∧ first.kind = .thenWord ∧ whenTrue.Valid ∧
      second.kind = .elseWord ∧ whenFalse.Valid
  | .binary left operator right =>
    left.Valid ∧ right.Valid ∧
      ∃ l r, Parse.operatorPowers operator.kind = some (l, r) ∧ left.Yields l ∧ right.Binds r
  | .comma left operator right =>
    left.Valid ∧ right.Valid ∧ operator.kind = .comma ∧ left.Yields 1 ∧ right.Binds 2
  | .juxtaposition left right =>
    left.Valid ∧ right.Valid ∧ left.Yields 20 ∧ right.Binds 19 ∧
      ∃ first later, right.yield = first :: later ∧ Parse.startsTerm first.kind = true ∧
        first.kind ≠ .lparen
  | .emptyCall callee opening closing =>
    callee.Valid ∧ callee.Yields 21 ∧ opening.kind = .lparen ∧ closing.kind = .rparen
  | .call callee opening arguments closing =>
    callee.Valid ∧ callee.Yields 21 ∧ opening.kind = .lparen ∧ arguments.ValidArguments ∧
      closing.kind = .rparen

def Items.ValidElements : Items → Prop
  | .none => True
  | .last item => item.Valid
  | .more item separator rest => item.Valid ∧ separator.kind = .dot ∧ rest.ValidElements

/-- There is an argument, and no comma after the last one. -/
def Items.ValidArguments : Items → Prop
  | .none => False
  | .last item => item.Valid ∧ item.Binds 2
  | .more item separator rest =>
    item.Valid ∧ item.Binds 2 ∧ separator.kind = .comma ∧ item.Yields 1 ∧ rest.ValidArguments

def Bindings.Valid : Bindings → Prop
  | .last name value => name.kind = .name ∧ value.Valid
  | .more name value joint rest =>
    name.kind = .name ∧ value.Valid ∧ joint.kind = .andWord ∧ rest.Valid

end

end RollScript

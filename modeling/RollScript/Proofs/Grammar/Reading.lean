import RollScript.Proofs.Grammar.Streams
import RollScript.Proofs.Grammar.Tree

/-!
# Reading concrete trees

Read `parse_expression_eq` last: the parser's result is the expression that a concrete tree stands
for, where the tree is what `Read.expression` reads. That function makes the parser's decisions and
keeps the tokens that the parser drops, so that statements about trees can be made of it.
-/

namespace RollScript

namespace Read

open RollScript.Parser

/-- The arguments of a call, joined by commas. -/
def arguments (sub : Nat → Parser Tree) : Nat → Parser Items
  | 0 => tooDeep
  | rounds + 1 => do
    let item ← sub 2
    if (← current).kind = .comma then
      let separator ← advance
      return .more item separator (← arguments sub rounds)
    else return .last item

/-- The parentheses of a call and what stands between them. -/
def call (sub : Nat → Parser Tree) (rounds : Nat) (callee : Tree) : Parser Tree := do
  let opening ← expect .lparen .openParen
  if (← current).kind = .rparen then
    let closing ← advance
    return .emptyCall callee opening closing
  else
    let items ← arguments sub rounds
    let closing ← expect .rparen .closeCall
    return .call callee opening items closing

/-- Extends a tree by calls, operators and arguments. -/
def climb (sub : Nat → Parser Tree) (size power : Nat) : Nat → Tree → Parser Tree
  | 0, _ => tooDeep
  | rounds + 1, left => do
    let token ← current
    if token.kind = .lparen then
      if 21 < power then return left
      else climb sub size power rounds (← call sub size left)
    else if token.kind = .comma then
      if 1 < power then return left
      else
        let _ ← advance
        let right ← sub 2
        climb sub size power rounds (.comma left token right)
    else if let some (leftPower, rightPower) := Parse.operatorPowers token.kind then
      if leftPower < power then return left
      else
        let _ ← advance
        let right ← sub rightPower
        climb sub size power rounds (.binary left token right)
    else if Parse.startsTerm token.kind then
      if 20 < power then return left
      else
        let right ← sub 19
        climb sub size power rounds (.juxtaposition left right)
    else
      return left

/-- The elements of an array after its opening bracket. -/
def elements (sub : Nat → Parser Tree) : Nat → Parser Items
  | 0 => tooDeep
  | rounds + 1 => do
    if (← current).kind = .rbracket then return .none
    else
      let item ← sub 0
      if (← current).kind = .dot then
        let separator ← advance
        return .more item separator (← elements sub rounds)
      else return .last item

/-- The definitions of a block, joined by `and`. -/
def bindings (sub : Nat → Parser Tree) : Nat → Parser Bindings
  | 0 => tooDeep
  | rounds + 1 => do
    let variableName ← expect .name .variableName
    let value ← sub 0
    if (← current).kind = .andWord then
      let joint ← advance
      return .more variableName value joint (← bindings sub rounds)
    else return .last variableName value

/-- An expression in parentheses, or the value without content. -/
def parenthesized (sub : Nat → Parser Tree) : Parser Tree := do
  let opening ← advance
  if (← current).kind = .rparen then
    let closing ← advance
    return .unit opening closing
  else
    let inner ← sub 0
    let closing ← expect .rparen .closeParen
    return .parens opening inner closing

/-- An array literal. -/
def array (sub : Nat → Parser Tree) (size : Nat) : Parser Tree := do
  let opening ← advance
  let items ← elements sub size
  let closing ← expect .rbracket .closeBracket
  return .array opening items closing

/-- A function literal. -/
def function (sub : Nat → Parser Tree) : Parser Tree := do
  let opening ← advance
  let parameter ← expect .name .parameter
  let body ← sub 0
  return .function opening parameter body

/-- A block of definitions with its body. -/
def block (sub : Nat → Parser Tree) (size : Nat) : Parser Tree := do
  let opening ← advance
  let definitions ← bindings sub size
  let joint ← expect .inWord .andOrIn
  let body ← sub 0
  return .block opening definitions joint body

/-- A choice. -/
def choice (sub : Nat → Parser Tree) : Parser Tree := do
  let opening ← advance
  let condition ← sub 0
  let first ← expect .thenWord .thenWord
  let whenTrue ← sub 0
  let second ← expect .elseWord .elseWord
  let whenFalse ← sub 0
  return .choice opening condition first whenTrue second whenFalse

/-- An operator before its operand. -/
def sign (sub : Nat → Parser Tree) : Parser Tree := do
  let operator ← advance
  let operand ← sub 17
  return .sign operator operand

/-- A term. -/
def term (sub : Nat → Parser Tree) (size : Nat) : Parser Tree := do
  let token ← current
  match token.kind with
  | .number =>
    let _ ← advance
    return .number token
  | .string =>
    let _ ← advance
    return .string token
  | .name =>
    let _ ← advance
    return .name token
  | .lparen => parenthesized sub
  | .lbracket => array sub size
  | .atSign => function sub
  | .letWord => block sub size
  | .ifWord => choice sub
  | kind =>
    match Parse.signName kind with
    | some _ => sign sub
    | none => throw (.noExpression token)

/-- The tree of an expression. -/
def expression (size : Nat) : Nat → Nat → Parser Tree
  | 0, _ => tooDeep
  | depth + 1, power => do
    let left ← term (expression size depth) size
    climb (expression size depth) size power size left

end Read

/-! ## The parser reads trees -/

section Equality

variable (sub : Nat → Parser Tree)

/-- What a reader of trees gives to the parser. -/
def desugared (power : Nat) : Parser Expr :=
  Tree.desugar <$> sub power

theorem parse_arguments_eq (start rounds : Nat) (callee : Expr) :
    Parse.arguments (desugared sub) start rounds callee =
      Items.applied start callee <$> Read.arguments sub rounds := by
  induction rounds generalizing callee with
  | zero => rfl
  | succ rounds ih =>
      simp only [Parse.arguments, Read.arguments, desugared, Parser.accept_bind, ih, map_bind,
        bind_map_left]
      refine bind_congr fun item => bind_congr fun token => ?_
      split
      · simp only [map_bind, map_pure, Items.applied]
        rfl
      · simp only [map_pure, Items.applied]

theorem parse_call_eq (rounds : Nat) (callee : Tree) :
    Parse.call (desugared sub) rounds callee.desugar =
      Tree.desugar <$> Read.call sub rounds callee := by
  simp only [Parse.call, Read.call, parse_arguments_eq, map_bind, bind_map_left]
  refine bind_congr fun opening => bind_congr fun token => ?_
  split
  · simp only [map_bind, map_pure, Tree.desugar]
  · simp only [map_bind, map_pure, Tree.desugar]

theorem parse_climb_eq (size power rounds : Nat) (left : Tree) :
    Parse.climb (desugared sub) size power rounds left.desugar =
      Tree.desugar <$> Read.climb sub size power rounds left := by
  induction rounds generalizing left with
  | zero => rfl
  | succ rounds ih =>
      simp only [Parse.climb, Read.climb, map_bind]
      refine bind_congr fun token => ?_
      split
      · split
        · rfl
        · simp only [parse_call_eq, ih, map_bind, bind_map_left]
      · split
        · split
          · rfl
          · simp only [desugared, map_bind, bind_map_left, ← ih, Tree.desugar]
        · cases Parse.operatorPowers token.kind with
          | some powers =>
              obtain ⟨leftPower, rightPower⟩ := powers
              simp only
              split
              · rfl
              · simp only [desugared, map_bind, bind_map_left, ← ih, Tree.desugar]
          | none =>
              simp only
              split
              · split
                · rfl
                · simp only [desugared, map_bind, bind_map_left, ← ih, Tree.desugar]
              · rfl

theorem parse_elements_eq (rounds : Nat) :
    Parse.elements (desugared sub) rounds = Items.desugar <$> Read.elements sub rounds := by
  induction rounds with
  | zero => rfl
  | succ rounds ih =>
      simp only [Parse.elements, Read.elements, desugared, Parser.accept_bind, ih, map_bind,
        bind_map_left]
      refine bind_congr fun token => ?_
      split
      · rfl
      · simp only [map_bind]
        refine bind_congr fun item => bind_congr fun token => ?_
        split
        · simp only [map_bind, map_pure, Items.desugar]
        · rfl

theorem parse_definitions_eq (rounds : Nat) :
    Parse.definitions (desugared sub) rounds = Bindings.desugar <$> Read.bindings sub rounds := by
  induction rounds with
  | zero => rfl
  | succ rounds ih =>
      simp only [Parse.definitions, Read.bindings, desugared, Parser.accept_bind, ih, map_bind,
        bind_map_left]
      refine bind_congr fun name => bind_congr fun value => bind_congr fun token => ?_
      split
      · simp only [map_bind, map_pure, Bindings.desugar]
      · rfl

theorem parse_sign_eq {s : Stream} {meaning : Text}
    (hsign : Parse.signName s.current.kind = some meaning) :
    Parse.sign (desugared sub) meaning s = (Tree.desugar <$> Read.sign sub) s := by
  simp only [Parse.sign, Read.sign, desugared, map_bind, bind_map_left, Parser.run_bind]
  cases hadvance : Parser.advance s with
  | error e => rfl
  | ok taken =>
      obtain ⟨operator, later⟩ := taken
      obtain ⟨rfl, -⟩ := Parser.advance_eq_ok.1 hadvance
      simp only [map_pure, Tree.desugar, hsign, Option.getD_some]

theorem parse_parenthesized_eq :
    Parse.parenthesized (desugared sub) = Tree.desugar <$> Read.parenthesized sub := by
  simp only [Parse.parenthesized, Read.parenthesized, desugared, map_bind, bind_map_left]
  refine bind_congr fun opening => bind_congr fun token => ?_
  split <;> simp only [map_bind, map_pure, Tree.desugar]

theorem parse_array_eq (size : Nat) :
    Parse.array (desugared sub) size = Tree.desugar <$> Read.array sub size := by
  simp only [Parse.array, Read.array, parse_elements_eq, map_bind, bind_map_left, map_pure,
    Tree.desugar]

theorem parse_function_eq :
    Parse.function (desugared sub) = Tree.desugar <$> Read.function sub := by
  simp only [Parse.function, Read.function, desugared, map_bind, bind_map_left, map_pure,
    Tree.desugar]

theorem parse_block_eq (size : Nat) :
    Parse.block (desugared sub) size = Tree.desugar <$> Read.block sub size := by
  simp only [Parse.block, Read.block, parse_definitions_eq, desugared, map_bind, bind_map_left,
    map_pure, Tree.desugar]

theorem parse_choice_eq :
    Parse.choice (desugared sub) = Tree.desugar <$> Read.choice sub := by
  simp only [Parse.choice, Read.choice, desugared, map_bind, bind_map_left, map_pure,
    Tree.desugar]

theorem parse_term_eq (size : Nat) :
    Parse.term (desugared sub) size = Tree.desugar <$> Read.term sub size := by
  simp only [Parse.term, Read.term, map_bind]
  refine Parser.current_bind_congr fun s => ?_
  cases hkind : s.current.kind with
  | number | string | name => simp only [map_bind, map_pure, Tree.desugar]
  | lparen => simp only [parse_parenthesized_eq]
  | lbracket => simp only [parse_array_eq]
  | atSign => simp only [parse_function_eq]
  | letWord => simp only [parse_block_eq]
  | ifWord => simp only [parse_choice_eq]
  | plus | minus | bang => exact parse_sign_eq sub (by rw [hkind]; rfl)
  | _ => rfl

end Equality

theorem parse_expression_eq (size depth power : Nat) :
    Parse.expression size depth power = Tree.desugar <$> Read.expression size depth power := by
  induction depth generalizing power with
  | zero => rfl
  | succ depth ih =>
      have hsub : Parse.expression size depth = desugared (Read.expression size depth) :=
        funext ih
      simp only [Parse.expression, Read.expression, hsub, parse_term_eq, bind_map_left,
        parse_climb_eq, map_bind]

end RollScript

import RollScript.Expr.Basic
import RollScript.Text.Literal
import RollScript.Token.Scan

/-!
# Parsing by binding powers

Read `expression` first: it reads one term and then goes on with operators as long as their left
binding power is not below a given bound. A right power above the left one makes an operator group
to the left, one below it to the right. From weak to strong:

    ,                  1   2
    = !=               3   4
    < <= > >=          5   6
    |                  7   8
    &                  9  10
    + -               11  12
    * / %             13  14
    **                16  15
    + - ! before a term   17
    juxtaposition     20  19
    call              21

A parser reads from a `Stream` of scanned tokens. A lexical error counts only once the parser
advances to it, so an error of syntax before it comes first. Expressions may be nested up to a
limit, and one level more is an error at the present token; the loops of the parser are bounded by the
number of tokens, since each round takes one.
-/

namespace RollScript

/-- What a parser was looking for when it met another token. -/
inductive Expectation where
  | openParen | closeCall | closeParen | closeBracket
  | parameter | variableName | andOrIn | thenWord | elseWord
deriving DecidableEq, Repr

/-- How a message names what was expected. -/
def Expectation.describe : Expectation → String
  | openParen => "'('"
  | closeCall => "')' after arguments"
  | closeParen => "closing parenthesis"
  | closeBracket => "'.' or closing bracket"
  | parameter => "parameter name after '@'"
  | variableName => "variable name"
  | andOrIn => "'and' or 'in'"
  | thenWord => "'then'"
  | elseWord => "'else'"

/-- Why a source has no tree. -/
inductive SyntaxError where
  /-- A particular token was expected. -/
  | expected (what : Expectation) (found : Token)
  /-- No expression starts with the token. -/
  | noExpression (found : Token)
  /-- The token follows a complete expression. -/
  | trailing (found : Token)
  /-- The nesting limit was reached at the token. -/
  | tooDeep (found : Token)
  /-- The source could not be scanned. -/
  | lexical (error : LexError)
deriving DecidableEq

namespace SyntaxError

/-- The message of an error, without its location. -/
def message : SyntaxError → String
  | expected what found => "Expected " ++ what.describe ++ ", got " ++ found.describe
  | noExpression found => "Expected expression, got " ++ found.describe
  | trailing found => "Unexpected token after expression: " ++ found.describe
  | tooDeep _ => "Expression is nested too deeply"
  | lexical error => error.message

/-- The span of an error. -/
def span : SyntaxError → Span
  | expected _ found => found.span
  | noExpression found => found.span
  | trailing found => found.span
  | tooDeep found => found.span
  | lexical error => error.span

/-- The message of an error with its location in the source. -/
def render (source : Text) (e : SyntaxError) : Text :=
  Location.render ⟨source, e.span⟩ (.ofString e.message)

end SyntaxError

/-- The tokens not yet read: the present one, those after it, and the lexical error that follows
the last of them, if there is one. -/
structure Stream where
  current : Token
  later : List Token
  failure : Option LexError

/-- A parser takes tokens off a stream or fails. -/
abbrev Parser := StateT Stream (Except SyntaxError)

namespace Stream

/-- The stream of a scan; a scan that failed before its first token has none. -/
def ofScan (s : Scan) : Except SyntaxError Stream :=
  match s.tokens, s.failure with
  | t :: later, failure => .ok ⟨t, later, failure⟩
  | [], some error => .error (.lexical error)
  | [], none => .ok ⟨.endOfInput 0, [], none⟩

/-- The stream after its present token. The end of the input is never passed. -/
def next (s : Stream) : Except SyntaxError Stream :=
  if s.current.kind = .eof then .ok s
  else
    match s.later, s.failure with
    | t :: later, failure => .ok ⟨t, later, failure⟩
    | [], some error => .error (.lexical error)
    | [], none => .ok s

end Stream

namespace Parser

/-- The present token. -/
def current : Parser Token := do
  return (← get).current

/-- Takes the present token. -/
def advance : Parser Token := do
  let stream ← get
  let later ← stream.next
  set later
  return stream.current

/-- Takes a token of the given kind, or fails. -/
def expect (kind : TokenKind) (what : Expectation) : Parser Token := do
  let token ← current
  if token.kind = kind then advance else throw (.expected what token)

/-- Takes the present token if it is of the given kind, and says whether it was. -/
def accept (kind : TokenKind) : Parser Bool := do
  let token ← current
  if token.kind = kind then
    let _ ← advance
    return true
  else
    return false

/-- Fails at the present token for too much nesting. -/
def tooDeep {α : Type} : Parser α := do
  throw (.tooDeep (← current))

end Parser

namespace Parse

open RollScript.Parser

/-- The left and right binding powers of a binary operator other than the comma. -/
def operatorPowers : TokenKind → Option (Nat × Nat)
  | .eq => some (3, 4)
  | .ne => some (3, 4)
  | .lt => some (5, 6)
  | .le => some (5, 6)
  | .gt => some (5, 6)
  | .ge => some (5, 6)
  | .bar => some (7, 8)
  | .amp => some (9, 10)
  | .plus => some (11, 12)
  | .minus => some (11, 12)
  | .star => some (13, 14)
  | .slash => some (13, 14)
  | .percent => some (13, 14)
  | .power => some (16, 15)
  | _ => none

/-- The name that an operator before a term stands for. -/
def signName : TokenKind → Option Text
  | .plus => some (.ofString "+x")
  | .minus => some (.ofString "-x")
  | .bang => some (.ofString "!")
  | _ => none

/-- The tokens that start a term right after another term. -/
def startsTerm : TokenKind → Bool
  | .number | .string | .name | .lparen | .lbracket | .atSign | .bang | .letWord | .ifWord => true
  | _ => false

/-- The span from the start of one node to the end of another. -/
def across (first last : Expr) : Span :=
  ⟨first.span.start, last.span.stop⟩

/-- A binary operator applied to its two operands. -/
def binary (operator : Token) (left right : Expr) : Expr :=
  let head := Expr.name operator.span operator.text
  .apply (across left right) (.apply ⟨left.span.start, operator.stop⟩ head left) right

/-- The arguments of a call after its first parenthesis or comma, applied one by one. -/
def arguments (sub : Nat → Parser Expr) (start : Nat) : Nat → Expr → Parser Expr
  | 0, _ => tooDeep
  | rounds + 1, result => do
    let argument ← sub 2
    let applied := Expr.apply ⟨start, argument.span.stop⟩ result argument
    if ← accept .comma then arguments sub start rounds applied else return applied

/-- The parentheses of a call and what stands between them. -/
def call (sub : Nat → Parser Expr) (rounds : Nat) (callee : Expr) : Parser Expr := do
  let opening ← expect .lparen .openParen
  if (← current).kind = .rparen then
    let closing ← advance
    return .apply ⟨callee.span.start, closing.stop⟩ callee (.unit ⟨opening.pos, closing.stop⟩)
  else
    let result ← arguments sub callee.span.start rounds callee
    let closing ← expect .rparen .closeCall
    return result.withStop closing.stop

/-- Extends an expression by calls, operators and arguments, as long as their left powers are at
least `power`. -/
def climb (sub : Nat → Parser Expr) (size power : Nat) : Nat → Expr → Parser Expr
  | 0, _ => tooDeep
  | rounds + 1, left => do
    let token ← current
    if token.kind = .lparen then
      if 21 < power then return left
      else climb sub size power rounds (← call sub size left)
    else if token.kind = .comma then
      if 1 < power then return left
      else
        let _ ← advance
        let right ← sub 2
        climb sub size power rounds (.apply (across left right) left right)
    else if let some (leftPower, rightPower) := operatorPowers token.kind then
      if leftPower < power then return left
      else
        let _ ← advance
        let right ← sub rightPower
        climb sub size power rounds (binary token left right)
    else if startsTerm token.kind then
      if 20 < power then return left
      else
        let right ← sub 19
        climb sub size power rounds (.apply (across left right) left right)
    else
      return left

/-- The elements of an array after its opening bracket, each but the last followed by a dot; a dot
may follow the last one too. -/
def elements (sub : Nat → Parser Expr) : Nat → Parser (List Expr)
  | 0 => tooDeep
  | rounds + 1 => do
    if (← current).kind = .rbracket then return []
    else
      let element ← sub 0
      if ← accept .dot then return element :: (← elements sub rounds) else return [element]

/-- The definitions of a block, joined by `and`. -/
def definitions (sub : Nat → Parser Expr) : Nat → Parser (List (Text × Expr))
  | 0 => tooDeep
  | rounds + 1 => do
    let variableName ← expect .name .variableName
    let value ← sub 0
    let definition := (variableName.text, value)
    if ← accept .andWord then return definition :: (← definitions sub rounds)
    else return [definition]

/-- An expression in parentheses, or the value without content. -/
def parenthesized (sub : Nat → Parser Expr) : Parser Expr := do
  let opening ← advance
  if (← current).kind = .rparen then
    let closing ← advance
    return .unit ⟨opening.pos, closing.stop⟩
  else
    let inner ← sub 0
    let _ ← expect .rparen .closeParen
    return inner

/-- An array literal. -/
def array (sub : Nat → Parser Expr) (size : Nat) : Parser Expr := do
  let opening ← advance
  let items ← elements sub size
  let closing ← expect .rbracket .closeBracket
  return .array ⟨opening.pos, closing.stop⟩ items

/-- A function literal. -/
def function (sub : Nat → Parser Expr) : Parser Expr := do
  let opening ← advance
  let parameter ← expect .name .parameter
  let body ← sub 0
  return .function ⟨opening.pos, body.span.stop⟩ parameter.text body

/-- A block of definitions with its body. -/
def block (sub : Nat → Parser Expr) (size : Nat) : Parser Expr := do
  let opening ← advance
  let bindings ← definitions sub size
  let _ ← expect .inWord .andOrIn
  let body ← sub 0
  return .block ⟨opening.pos, body.span.stop⟩ bindings body

/-- A choice. -/
def choice (sub : Nat → Parser Expr) : Parser Expr := do
  let opening ← advance
  let condition ← sub 0
  let _ ← expect .thenWord .thenWord
  let whenTrue ← sub 0
  let _ ← expect .elseWord .elseWord
  let whenFalse ← sub 0
  return .choice ⟨opening.pos, whenFalse.span.stop⟩ condition whenTrue whenFalse

/-- An operator before its operand. -/
def sign (sub : Nat → Parser Expr) (meaning : Text) : Parser Expr := do
  let operator ← advance
  let operand ← sub 17
  return .apply ⟨operator.pos, operand.span.stop⟩ (.name operator.span meaning) operand

/-- A term: an expression that does not start with another expression. -/
def term (sub : Nat → Parser Expr) (size : Nat) : Parser Expr := do
  let token ← current
  match token.kind with
  | .number =>
    let _ ← advance
    return .number token.span (Numeral.value token.text)
  | .string =>
    let _ ← advance
    return .string token.span ((Literal.decode token.text).getD [])
  | .name =>
    let _ ← advance
    return .name token.span token.text
  | .lparen => parenthesized sub
  | .lbracket => array sub size
  | .atSign => function sub
  | .letWord => block sub size
  | .ifWord => choice sub
  | kind =>
    match signName kind with
    | some meaning => sign sub meaning
    | none => throw (.noExpression token)

/-- An expression whose operators have left powers of at least `power`, with at most `depth`
expressions nested in each other. -/
def expression (size : Nat) : Nat → Nat → Parser Expr
  | 0, _ => tooDeep
  | depth + 1, power => do
    let left ← term (expression size depth) size
    climb (expression size depth) size power size left

/-- A whole program: one expression up to the end of the input. -/
def program (size depth : Nat) : Parser Expr := do
  let tree ← expression size depth 0
  let token ← current
  if token.kind = .eof then return tree else throw (.trailing token)

/-- The tree of a scanned source, with a given limit to nesting. -/
def ofScan (depth : Nat) (s : Scan) : Except SyntaxError Expr := do
  let stream ← Stream.ofScan s
  let (tree, _) ← (program (s.tokens.length + 1) depth).run stream
  return tree

end Parse

/-- How many expressions may be nested in each other. -/
def nestingLimit : Nat := 1000

/-- The tree of a source. -/
def parse (source : Text) : Except SyntaxError Expr :=
  Parse.ofScan nestingLimit (scan source)

end RollScript

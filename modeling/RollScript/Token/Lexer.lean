import RollScript.Token.Scan

/-!
# Reading tokens one at a time

A `Lexer` holds the rest of a source and one token of lookahead. `Lexer.peek` shows that token and
`Lexer.next` takes it, after which the following token is the lookahead; at the end of the input the
lookahead stays. When the following token cannot be scanned, taking the present one fails and leaves
the lexer as it was.
-/

namespace RollScript

/-- A source read up to the lookahead token. -/
structure Lexer where
  lookahead : Token
  pos : Nat
  rest : Text

namespace Lexer

/-- The first token of the rest of a source, with the offset and the text after it. -/
def scanToken : Nat → Nat → Text → Except LexError Lexer
  | 0, pos, rest => .ok ⟨.endOfInput pos, pos, rest⟩
  | steps + 1, pos, rest =>
    match rest with
    | [] => .ok ⟨.endOfInput pos, pos, []⟩
    | c :: _ =>
      match lexeme rest with
      | none => .error ⟨pos, c⟩
      | some (.trivia, length) => scanToken steps (pos + length) (rest.drop length)
      | some (.token kind, length) =>
        .ok ⟨⟨kind, rest.take length, pos⟩, pos + length, rest.drop length⟩

/-- Starts reading a source; fails when its first token cannot be scanned. -/
def start (source : Text) : Except LexError Lexer :=
  scanToken source.length 0 source

/-- The next token, which stays the next one. -/
def peek (l : Lexer) : Token :=
  l.lookahead

/-- Takes the next token. -/
def next (l : Lexer) : Except LexError (Token × Lexer) :=
  if l.lookahead.kind = .eof then .ok (l.lookahead, l)
  else (scanToken l.rest.length l.pos l.rest).map fun later => (l.lookahead, later)

end Lexer

end RollScript

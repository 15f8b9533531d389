import RollScript.Number.Numeral
import RollScript.Token.Basic

/-!
# Scanning a source into tokens

Read `lexeme` first: it finds the lexeme at the front of a text, which is a token, a run of blanks
or a comment. Where several could start at one place the order of the cases decides, and each takes
as many characters as it can. `scan` repeats it from the start of a source to its end or to the
first place where no lexeme starts, and returns the tokens before that place together with the
error, if there is one. `tokenize` is the scan of a source without errors.
-/

namespace RollScript

/-- What stands at the front of a text: a token of some kind, or blanks and comments. -/
inductive Lexeme where
  | token (kind : TokenKind)
  | trivia
deriving DecidableEq, Inhabited

/-- Scanning failed at an offset where no lexeme starts; `found` is the character there. -/
structure LexError where
  pos : Nat
  found : CodePoint
deriving DecidableEq

namespace LexError

/-- The offending character's span. -/
def span (e : LexError) : Span :=
  ⟨e.pos, e.pos + 1⟩

/-- The message of a lexical error. -/
def message (e : LexError) : String :=
  if e.found = .scalar '"' then "Unterminated or malformed string literal"
  else "Unexpected character: " ++ Quoted.encode [e.found]

end LexError

/-- The operator or punctuation mark at the front of a text, with its length. -/
def mark? : Text → Option (TokenKind × Nat)
  | .scalar '.' :: .scalar '.' :: .scalar '.' :: _ => some (.name, 3)
  | .scalar '<' :: .scalar '=' :: _ => some (.le, 2)
  | .scalar '>' :: .scalar '=' :: _ => some (.ge, 2)
  | .scalar '!' :: .scalar '=' :: _ => some (.ne, 2)
  | .scalar '*' :: .scalar '*' :: _ => some (.power, 2)
  | .scalar '-' :: _ => some (.minus, 1)
  | .scalar '+' :: _ => some (.plus, 1)
  | .scalar '*' :: _ => some (.star, 1)
  | .scalar '/' :: _ => some (.slash, 1)
  | .scalar '%' :: _ => some (.percent, 1)
  | .scalar '<' :: _ => some (.lt, 1)
  | .scalar '>' :: _ => some (.gt, 1)
  | .scalar '=' :: _ => some (.eq, 1)
  | .scalar '!' :: _ => some (.bang, 1)
  | .scalar '|' :: _ => some (.bar, 1)
  | .scalar '&' :: _ => some (.amp, 1)
  | .scalar '(' :: _ => some (.lparen, 1)
  | .scalar ')' :: _ => some (.rparen, 1)
  | .scalar '[' :: _ => some (.lbracket, 1)
  | .scalar ']' :: _ => some (.rbracket, 1)
  | .scalar ',' :: _ => some (.comma, 1)
  | .scalar '.' :: _ => some (.dot, 1)
  | .scalar '@' :: _ => some (.atSign, 1)
  | _ => none

/-- The number of characters of a string literal after its opening quote, the closing quote
included. Between the quotes stand characters other than quotes and backslashes, and escapes. -/
def literalRest : Text → Option Nat
  | [] => none
  | .scalar '"' :: _ => some 1
  | .scalar '\\' :: .scalar 'u' :: a :: b :: c :: d :: rest =>
    if a.hexDigit?.isSome && b.hexDigit?.isSome && c.hexDigit?.isSome && d.hexDigit?.isSome then
      (literalRest rest).map (6 + ·)
    else
      none
  | .scalar '\\' :: .scalar c :: rest =>
    if c ∈ ['"', '\\', '/', 'b', 'f', 'n', 'r', 't'] then (literalRest rest).map (2 + ·) else none
  | .scalar '\\' :: _ => none
  | _ :: rest => (literalRest rest).map (1 + ·)

/-- The lexeme at the front of a text, with its length, which is positive. -/
def lexeme (t : Text) : Option (Lexeme × Nat) :=
  match t with
  | [] => none
  | c :: rest =>
    match mark? t with
    | some (kind, length) => some (.token kind, length)
    | none =>
      if c.isDigit then some (.token .number, Numeral.length t)
      else if c = .scalar '"' then (literalRest rest).map fun length => (.token .string, 1 + length)
      else if c.isNameChar then
        let word := t.takeWhile CodePoint.isNameChar
        some (.token (.ofWord word), word.length)
      else if c.isSpace then some (.trivia, (t.takeWhile CodePoint.isSpace).length)
      else if c = .scalar '#' then some (.trivia, (t.takeWhile (· ≠ .scalar '\n')).length)
      else none

/-- The tokens of a source in order, up to and including the end of the input, or up to the first
lexical error. -/
structure Scan where
  tokens : List Token
  failure : Option LexError

/-- Puts a token in front of a scan. -/
def Scan.cons (t : Token) (s : Scan) : Scan :=
  { s with tokens := t :: s.tokens }

/-- Scans the rest of a source that starts at offset `pos`. Every lexeme has a character, so as many
steps as there are characters reach the end. -/
def scanFrom : Nat → Nat → Text → Scan
  | 0, pos, _ => ⟨[.endOfInput pos], none⟩
  | steps + 1, pos, rest =>
    match rest with
    | [] => ⟨[.endOfInput pos], none⟩
    | c :: _ =>
      match lexeme rest with
      | none => ⟨[], some ⟨pos, c⟩⟩
      | some (.trivia, length) => scanFrom steps (pos + length) (rest.drop length)
      | some (.token kind, length) =>
        .cons ⟨kind, rest.take length, pos⟩ (scanFrom steps (pos + length) (rest.drop length))

/-- Scans a whole source. -/
def scan (source : Text) : Scan :=
  scanFrom source.length 0 source

/-- The tokens of a source, ending with the end of the input. -/
def tokenize (source : Text) : Except LexError (List Token) :=
  match (scan source).failure with
  | none => .ok (scan source).tokens
  | some error => .error error

end RollScript

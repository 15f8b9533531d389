import RollScript.Span
import RollScript.Text.Quoted

/-!
# Tokens

A token is a kind, its text as it stands in the source, and its offset. The end of the input is a
token with empty text.
-/

namespace RollScript

/-- The kinds of tokens. -/
inductive TokenKind where
  | number | string | name
  | letWord | andWord | inWord | ifWord | thenWord | elseWord
  | plus | minus | star | slash | percent | power
  | eq | ne | lt | gt | le | ge | bar | amp | bang
  | lparen | rparen | lbracket | rbracket | comma | dot | atSign
  | eof
deriving DecidableEq, Repr, Inhabited

namespace TokenKind

/-- The name of a kind in the display of a token. -/
def label : TokenKind → String
  | number => "number"
  | string => "string"
  | name => "name"
  | letWord => "let"
  | andWord => "and"
  | inWord => "in"
  | ifWord => "if"
  | thenWord => "then"
  | elseWord => "else"
  | plus => "plus"
  | minus => "minus"
  | star => "star"
  | slash => "slash"
  | percent => "percent"
  | power => "power"
  | eq => "eq"
  | ne => "ne"
  | lt => "lt"
  | gt => "gt"
  | le => "le"
  | ge => "ge"
  | bar => "or"
  | amp => "amp"
  | bang => "bang"
  | lparen => "lparen"
  | rparen => "rparen"
  | lbracket => "lbracket"
  | rbracket => "rbracket"
  | comma => "comma"
  | dot => "dot"
  | atSign => "at"
  | eof => "eof"

/-- The kind of a word: one of the six keywords, or a name. -/
def ofWord (word : Text) : TokenKind :=
  match word.toString with
  | "let" => letWord
  | "and" => andWord
  | "in" => inWord
  | "if" => ifWord
  | "then" => thenWord
  | "else" => elseWord
  | _ => name

end TokenKind

/-- A token of the source: its kind, its text and the offset of its first character. -/
structure Token where
  kind : TokenKind
  text : Text
  pos : Nat
deriving DecidableEq, Inhabited

namespace Token

/-- The token that marks the end of a source of the given length. -/
def endOfInput (length : Nat) : Token :=
  ⟨.eof, [], length⟩

/-- The offset just after the token. -/
def stop (t : Token) : Nat :=
  t.pos + t.text.length

/-- The stretch of source that the token covers. -/
def span (t : Token) : Span :=
  ⟨t.pos, t.stop⟩

/-- How a message refers to the token. -/
def describe (t : Token) : String :=
  if t.kind = .eof then "end of input" else Quoted.encode t.text

/-- The display of a token with its kind, text and offset. -/
def display (t : Token) : String :=
  "Token(" ++ t.kind.label ++ ", " ++ Quoted.encode t.text ++ ", pos=" ++ toString t.pos ++ ")"

end Token

end RollScript

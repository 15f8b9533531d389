import RollScript.Text.CodePoint
import RollScript.Text.Hex

/-!
# String literals

`Literal.encode` writes a text as a string literal in printable ASCII: quotes, backslashes and the
common controls get their short escapes, every other character outside the printable range is
written as one or two four-digit escapes. `Literal.decode` reads the quoted text of a literal back.
Two adjacent escapes that name the halves of a surrogate pair are read as the one character they
encode; halves that stand alone stay as they are.
-/

namespace RollScript.Literal

/-- A four-digit escape of a 16-bit unit. -/
def unitEscape (unit : Nat) : String :=
  "\\u" ++ hex 4 unit

/-- How one character is written between the quotes. -/
def escape (c : CodePoint) : String :=
  match c with
  | .scalar '"' => "\\\""
  | .scalar '\\' => "\\\\"
  | .scalar '\n' => "\\n"
  | .scalar '\r' => "\\r"
  | .scalar '\t' => "\\t"
  | .scalar '\x08' => "\\b"
  | .scalar '\x0c' => "\\f"
  | c =>
    let n := c.toNat
    if 0x20 ≤ n ∧ n ≤ 0x7E then
      String.singleton (Char.ofNat n)
    else if n < 0x10000 then
      unitEscape n
    else
      unitEscape (0xD800 + (n - 0x10000) / 0x400) ++ unitEscape (0xDC00 + (n - 0x10000) % 0x400)

/-- A text as a string literal. -/
def encode (t : Text) : String :=
  "\"" ++ String.join (t.map escape) ++ "\""

/-- The characters that may follow a backslash, with what they stand for. -/
def shortEscape? : CodePoint → Option CodePoint
  | .scalar '"' => some (.scalar '"')
  | .scalar '\\' => some (.scalar '\\')
  | .scalar '/' => some (.scalar '/')
  | .scalar 'b' => some (.scalar '\x08')
  | .scalar 'f' => some (.scalar '\x0c')
  | .scalar 'n' => some (.scalar '\n')
  | .scalar 'r' => some (.scalar '\r')
  | .scalar 't' => some (.scalar '\t')
  | _ => none

/-- The 16-bit unit written by four hexadecimal digits. -/
def unit? (a b c d : CodePoint) : Option Nat := do
  let a ← a.hexDigit?
  let b ← b.hexDigit?
  let c ← c.hexDigit?
  let d ← d.hexDigit?
  return ((a * 16 + b) * 16 + c) * 16 + d

/-- One character of a literal. A four-digit escape is kept apart from the character it names,
because only escapes join to pairs. -/
inductive Piece where
  | plain (c : CodePoint)
  | escaped (unit : Nat)

/-- The characters of a literal after its opening quote, up to the closing quote, which must end
the text. -/
def pieces : Text → Option (List Piece)
  | [] => none
  | [.scalar '"'] => some []
  | .scalar '"' :: _ => none
  | .scalar '\\' :: .scalar 'u' :: a :: b :: c :: d :: rest => do
    let unit ← unit? a b c d
    let later ← pieces rest
    return .escaped unit :: later
  | .scalar '\\' :: c :: rest => do
    let meant ← shortEscape? c
    let later ← pieces rest
    return .plain meant :: later
  | [.scalar '\\'] => none
  | c :: rest => do
    let later ← pieces rest
    return .plain c :: later

/-- Joins each high surrogate with a low one that follows it directly, both written as escapes. -/
def joinPieces : List Piece → Text
  | .escaped high :: .escaped low :: rest =>
    let first := CodePoint.ofNat high
    let second := CodePoint.ofNat low
    if first.isHighSurrogate && second.isLowSurrogate then
      first.joinPair second :: joinPieces rest
    else
      first :: joinPieces (.escaped low :: rest)
  | .escaped unit :: rest => .ofNat unit :: joinPieces rest
  | .plain c :: rest => c :: joinPieces rest
  | [] => []

/-- The value of a string literal, given with its quotes. -/
def decode : Text → Option Text
  | .scalar '"' :: rest => (pieces rest).map joinPieces
  | _ => none

end RollScript.Literal

/-!
# Code points and text

Program text and string values are sequences of Unicode code points. A string literal may name one
half of a surrogate pair by an escape, so a code point is either a scalar value or a surrogate that
stands alone. `Text` is a list of code points; offsets and lengths count code points.
-/

namespace RollScript

/-- A Unicode code point: a scalar value, or a surrogate that stands alone. -/
inductive CodePoint where
  | scalar (c : Char)
  | surrogate (index : Fin 0x800)
deriving DecidableEq, Inhabited

namespace CodePoint

/-- The number of the code point. -/
def toNat : CodePoint → Nat
  | .scalar c => c.toNat
  | .surrogate index => 0xD800 + index.val

/-- The code point with the given number; a number past the last code point gives the replacement
character. -/
def ofNat (n : Nat) : CodePoint :=
  if h : n.isValidChar then
    .scalar (Char.ofNatAux n h)
  else if h : n - 0xD800 < 0x800 then
    .surrogate ⟨n - 0xD800, h⟩
  else
    .scalar (Char.ofNat 0xFFFD)

/-- The first half of a surrogate pair. -/
def isHighSurrogate (c : CodePoint) : Bool :=
  0xD800 ≤ c.toNat && c.toNat < 0xDC00

/-- The second half of a surrogate pair. -/
def isLowSurrogate (c : CodePoint) : Bool :=
  0xDC00 ≤ c.toNat && c.toNat < 0xE000

/-- The character that a surrogate pair encodes. -/
def joinPair (high low : CodePoint) : CodePoint :=
  ofNat (0x10000 + (high.toNat - 0xD800) * 0x400 + (low.toNat - 0xDC00))

/-- A letter of the ASCII alphabet or an underscore. -/
def isNameChar : CodePoint → Bool
  | .scalar c => ('a' ≤ c && c ≤ 'z') || ('A' ≤ c && c ≤ 'Z') || c == '_'
  | .surrogate _ => false

/-- The characters that separate tokens and that make a line blank. -/
def isSpace (c : CodePoint) : Bool :=
  let n := c.toNat
  (0x09 ≤ n && n ≤ 0x0D) || (0x1C ≤ n && n ≤ 0x20) || n == 0x85 || n == 0xA0 || n == 0x1680 ||
    (0x2000 ≤ n && n ≤ 0x200A) || n == 0x2028 || n == 0x2029 || n == 0x202F || n == 0x205F ||
    n == 0x3000

/-- The value of a hexadecimal digit in either case. -/
def hexDigit? : CodePoint → Option Nat
  | .scalar c =>
    if '0' ≤ c ∧ c ≤ '9' then some (c.toNat - 0x30)
    else if 'a' ≤ c ∧ c ≤ 'f' then some (c.toNat - 0x61 + 10)
    else if 'A' ≤ c ∧ c ≤ 'F' then some (c.toNat - 0x41 + 10)
    else none
  | .surrogate _ => none

end CodePoint

/-- A sequence of code points. -/
abbrev Text := List CodePoint

namespace Text

/-- The text of a string. -/
def ofString (s : String) : Text :=
  s.toList.map .scalar

/-- The string of a text, with the replacement character for a surrogate that stands alone. -/
def toString (t : Text) : String :=
  String.ofList (t.map fun
    | .scalar c => c
    | .surrogate _ => Char.ofNat 0xFFFD)

/-- Whether one text stands before another or is the same, in the order of code points. -/
def atMost : Text → Text → Bool
  | [], _ => true
  | _ :: _, [] => false
  | c :: s, d :: t => c.toNat < d.toNat || (c.toNat == d.toNat && atMost s t)

/-- Whether no surrogate stands alone in the text. -/
def isUnicode (t : Text) : Bool :=
  t.all fun
    | .scalar _ => true
    | .surrogate _ => false

/-- Whether the text is empty or has blanks only. -/
def isBlank (t : Text) : Bool :=
  t.all CodePoint.isSpace

/-- The text without the blanks at its two ends. -/
def trim (t : Text) : Text :=
  ((t.dropWhile CodePoint.isSpace).reverse.dropWhile CodePoint.isSpace).reverse

/-- Line ends written as carriage return and line feed, or as carriage return alone, become line
feeds. -/
def unifyLineEnds : Text → Text
  | [] => []
  | .scalar '\r' :: .scalar '\n' :: rest => .scalar '\n' :: unifyLineEnds rest
  | .scalar '\r' :: rest => .scalar '\n' :: unifyLineEnds rest
  | c :: rest => c :: unifyLineEnds rest

/-- The lines of a text, each without its line feed; a line feed at the very end starts no further
line. -/
def lines : Text → List Text
  | [] => []
  | c :: rest =>
    if c = .scalar '\n' then
      [] :: lines rest
    else
      match lines rest with
      | [] => [[c]]
      | line :: later => (c :: line) :: later

end Text

end RollScript

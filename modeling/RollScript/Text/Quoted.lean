import RollScript.Text.Hex
import RollScript.Text.Visible

/-!
# Quoted text in messages

A message quotes a piece of text in single quotes, or in double quotes when the text has a single
quote and no double one. Backslashes, the chosen quote, line feeds, carriage returns and tabs get a
short escape; every other character that is not visible is written by its number.
-/

namespace RollScript.Quoted

/-- The quote that surrounds a text. -/
def quote (t : Text) : Char :=
  if t.contains (.scalar '\'') && !t.contains (.scalar '"') then '"' else '\''

/-- A character that is not visible, by its number in the shortest of the three forms. -/
def numbered (n : Nat) : String :=
  if n < 0x100 then "\\x" ++ hex 2 n
  else if n < 0x10000 then "\\u" ++ hex 4 n
  else "\\U" ++ hex 8 n

/-- How one character is written between quotes. -/
def escape (quote : Char) (c : CodePoint) : String :=
  match c with
  | .scalar '\\' => "\\\\"
  | .scalar '\n' => "\\n"
  | .scalar '\r' => "\\r"
  | .scalar '\t' => "\\t"
  | .scalar c =>
    if c = quote then "\\" ++ String.singleton c
    else if (CodePoint.scalar c).isVisible then String.singleton c
    else numbered c.toNat
  | c => numbered c.toNat

/-- A text as a message shows it. -/
def encode (t : Text) : String :=
  let mark := quote t
  String.singleton mark ++ String.join (t.map (escape mark)) ++ String.singleton mark

end RollScript.Quoted

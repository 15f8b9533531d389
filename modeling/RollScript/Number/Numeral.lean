import RollScript.Text.Digit

/-!
# Numerals

A numeral is a run of decimal digits, then perhaps a point and more digits, then perhaps an exponent
with a sign. `Numeral.length` measures the numeral at the front of a text and `Numeral.value` reads
one as the nearest double. The digits may be of any script.
-/

namespace RollScript.Numeral

/-- The number of digits at the front of a text. -/
def digitRun (t : Text) : Nat :=
  (t.takeWhile CodePoint.isDigit).length

/-- The length of a fraction at the front of a text: a point and at least one digit. -/
def fractionLength : Text → Nat
  | .scalar '.' :: rest => if digitRun rest = 0 then 0 else 1 + digitRun rest
  | _ => 0

/-- The length of an exponent at the front of a text: the letter, a sign and at least one digit. -/
def exponentLength : Text → Nat
  | .scalar 'e' :: .scalar sign :: rest =>
    if (sign = '+' ∨ sign = '-') ∧ digitRun rest ≠ 0 then 2 + digitRun rest else 0
  | _ => 0

/-- The length of the numeral at the front of a text; zero when there is none. -/
def length (t : Text) : Nat :=
  let whole := digitRun t
  if whole = 0 then 0
  else
    let fraction := fractionLength (t.drop whole)
    whole + fraction + exponentLength (t.drop (whole + fraction))

/-- The natural number that a run of digits writes. -/
def natural (t : Text) : Nat :=
  t.foldl (fun n c => 10 * n + c.digit?.getD 0) 0

/-- Whether a character is one of the ten digits of ASCII. -/
def isDecimal : CodePoint → Bool
  | .scalar c => c.isDigit
  | .surrogate _ => false

/-- Further digits, each perhaps after an underscore, and the text after them. -/
def laterDigits (isDigit : CodePoint → Bool) : Text → Text × Text
  | [] => ([], [])
  | [c] => if isDigit c then ([c], []) else ([], [c])
  | c :: d :: rest =>
    if isDigit c then
      let (run, rest) := laterDigits isDigit (d :: rest)
      (c :: run, rest)
    else if c = .scalar '_' && isDigit d then
      let (run, rest) := laterDigits isDigit rest
      (d :: run, rest)
    else ([], c :: d :: rest)

/-- The digits at the front of a text, with single underscores between them, and the text after them.
The underscores do not count. -/
def separated (isDigit : CodePoint → Bool) : Text → Option (Text × Text)
  | [] => none
  | c :: rest =>
    if isDigit c then
      let (run, rest) := laterDigits isDigit rest
      some (c :: run, rest)
    else none

/-- A sign at the front of a text: whether it is a minus, and the text after it. -/
def sign : Text → Bool × Text
  | .scalar '-' :: rest => (true, rest)
  | .scalar '+' :: rest => (false, rest)
  | t => (false, t)

/-- The integer of a sign and a run of digits. -/
def signed (negative : Bool) (t : Text) : Int :=
  if negative then -(natural t : Int) else natural t

/-- The signed exponent at the front of a text; zero when there is none. -/
def exponent : Text → Int
  | .scalar 'e' :: .scalar '-' :: rest => -(natural rest : Int)
  | .scalar 'e' :: _ :: rest => natural rest
  | _ => 0

/-- The double nearest to `digits · 10 ^ exponent`. -/
def nearest (digits : Nat) (exponent : Int) : Float :=
  Float.ofScientific digits (exponent < 0) exponent.natAbs

/-- The double that a numeral writes. -/
def value (t : Text) : Float :=
  let whole := digitRun t
  let fraction := fractionLength (t.drop whole)
  let digits := t.take whole ++ (t.drop (whole + 1)).take (fraction - 1)
  nearest (natural digits) (exponent (t.drop (whole + fraction)) - (fraction - 1 : Nat))

end RollScript.Numeral

import RollScript.Config.Problem
import RollScript.Number.Numeral

/-!
# Integers in texts

A field of a configuration or an option of a command may give an integer as a text. Blanks around it,
a plus sign, leading zeros with underscores among them, a point with zeros after it, and single
underscores do not count. After leading zeros a minus sign may still follow. `IntegerText.read` reads
such a text; what is left after the cleaning must be a plain integer without leading zeros, of at most
`digitLimit` digits.
-/

namespace RollScript.IntegerText

/-- The blanks that may stand around an integer. The four separators among the controls are not among
them. -/
def isBlank (c : CodePoint) : Bool :=
  c.isSpace && !(0x1C ≤ c.toNat && c.toNat ≤ 0x1F)

/-- The text without the blanks at its two ends. -/
def trim (t : Text) : Text :=
  ((t.dropWhile isBlank).reverse.dropWhile isBlank).reverse

/-- Whether a plain integer without leading zeros may start with a character. -/
def startsPlain (c : CodePoint) : Bool :=
  (Numeral.isDecimal c && c != .scalar '0') || c = .scalar '-'

/-- Skips the zeros and underscores after a leading zero. The last of them stays in front of a point and
at the end of the text. -/
def skipZeros (last : CodePoint) : Text → Option Text
  | [] => some [last]
  | c :: rest =>
    if c = .scalar '0' || c = .scalar '_' then skipZeros c rest
    else if startsPlain c then some (c :: rest)
    else if c = .scalar '.' then some (last :: c :: rest)
    else none

/-- The text without leading zeros, if it starts like a number. -/
def dropZeros : Text → Option Text
  | [] => none
  | c :: rest =>
    if c = .scalar '0' then skipZeros c rest
    else if startsPlain c then some (c :: rest)
    else none

/-- The text without a point that has zeros after it, at least one, up to the end. -/
def dropPoint (t : Text) : Text :=
  let whole := t.takeWhile (· ≠ .scalar '.')
  match t.drop (whole.length + 1) with
  | [] => t
  | part => if part.all (· = .scalar '0') then whole else t

/-- Whether every underscore of a text stands between other characters. -/
def isSeparated : Text → Bool
  | [] => true
  | [c] => c != .scalar '_'
  | c :: d :: rest => !(c = .scalar '_' && d = .scalar '_') && isSeparated (d :: rest)

/-- The text without underscores, if each of them stands between other characters. -/
def dropUnderscores (t : Text) : Text :=
  if t.head? ≠ some (.scalar '_') ∧ isSeparated t then t.filter (· ≠ .scalar '_') else t

/-- The longest integer, in digits. -/
def digitLimit : Nat := 4300

/-- The integer that digits without leading zeros write, after its sign. -/
def plain (negative : Bool) (t : Text) : Except FieldProblem Int :=
  let run := t.takeWhile Numeral.isDecimal
  let isZero := run.head? = some (.scalar '0')
  if !isZero ∧ digitLimit < run.length then .error .tooLarge
  else if run = [] ∨ run.length < t.length ∨ (isZero ∧ 1 < run.length) then .error .unreadable
  else .ok (Numeral.signed negative run)

/-- The text of an integer without all that does not count. -/
def clean (t : Text) : Option Text :=
  (dropZeros t).map fun t => dropUnderscores (dropPoint t)

/-- The integer that a text writes. -/
def read (t : Text) : Except FieldProblem Int :=
  match trim t with
  | .scalar '+' :: .scalar '-' :: _ => .error .unreadable
  | .scalar '+' :: rest => unsigned rest
  | .scalar '-' :: rest =>
    match clean rest with
    | some digits => plain true digits
    | none => .error .unreadable
  | t => unsigned t
where
  /-- The integer of a text that starts without a sign, although zeros may hide one. -/
  unsigned (t : Text) : Except FieldProblem Int :=
    match clean t with
    | some (.scalar '-' :: digits) => plain true digits
    | some digits => plain false digits
    | none => .error .unreadable

end RollScript.IntegerText

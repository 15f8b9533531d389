/-!
# Hexadecimal numerals

Escapes write a code point as a fixed number of lower-case hexadecimal digits.
-/

namespace RollScript

/-- The lower-case digit for a value below sixteen. -/
def hexDigit (value : Nat) : Char :=
  if value < 10 then Char.ofNat (0x30 + value) else Char.ofNat (0x61 + (value - 10))

/-- The last `width` hexadecimal digits of a number, in order. -/
def hexDigits (n : Nat) : Nat → List Char
  | 0 => []
  | width + 1 => hexDigits (n / 16) width ++ [hexDigit (n % 16)]

/-- A number with exactly `width` hexadecimal digits. -/
def hex (width n : Nat) : String :=
  String.ofList (hexDigits n width)

end RollScript

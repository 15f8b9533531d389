import RollScript.Number.Shortest

/-!
# The text of a number

A number is written with its shortest digits, positionally or with an exponent. A `Layout` says
where positional notation ends and how an exponent is written; `Number.printed` and `Number.dumped`
are the two layouts in use, for printed values and for the dump of a parsed tree. A whole number
below a layout's bound is written with all its digits.
-/

namespace RollScript

/-- The decisions of a number format. -/
structure Layout where
  /-- Whole numbers of a smaller magnitude are written out; without a bound all are. -/
  wholeBelow : Option Nat
  /-- The least decimal exponent of the leading digit that is still written positionally. -/
  leastPositional : Int
  /-- The least number of digits of an exponent. -/
  exponentWidth : Nat
  nan : String
  infinity : String

namespace Layout

/-- A natural number padded with zeros to a least width. -/
def padded (width n : Nat) : String :=
  let digits := Nat.toDigits 10 n
  String.ofList (List.replicate (width - digits.length) '0' ++ digits)

/-- Digits with a point somewhere among or before them. -/
def positional (digits : List Char) (point : Int) : String :=
  if point ≤ 0 then
    String.ofList ('0' :: '.' :: List.replicate (-point).toNat '0' ++ digits)
  else
    String.ofList (digits.take point.toNat ++
      List.replicate (point.toNat - digits.length) '0' ++
      if digits.length ≤ point.toNat then [] else '.' :: digits.drop point.toNat)

/-- The first digit, a point and the other digits if there are any, and the exponent. -/
def scientific (layout : Layout) (digits : List Char) (exponent : Int) : String :=
  let fraction := if digits.length ≤ 1 then [] else '.' :: digits.drop 1
  String.ofList (digits.take 1 ++ fraction) ++ (if exponent < 0 then "e-" else "e+") ++
    padded layout.exponentWidth exponent.natAbs

/-- The text of a positive finite number. -/
def magnitude (layout : Layout) (significand : Nat) (exponent : Int) : String :=
  let decimal := Shortest.digits significand exponent
  let digits := Nat.toDigits 10 decimal.digits
  let leading := decimal.point - 1
  if layout.leastPositional ≤ leading ∧ leading < 16 then
    positional digits decimal.point
  else
    layout.scientific digits leading

/-- Whether a whole number is written out. -/
def writesOut (layout : Layout) (n : Int) : Bool :=
  match layout.wholeBelow with
  | none => true
  | some bound => n.natAbs < bound

/-- The text of a number in a layout. -/
def write (layout : Layout) (x : Float) : String :=
  match Binary.decode x with
  | .nan => layout.nan
  | .infinite negative => (if negative then "-" else "") ++ layout.infinity
  | .finite negative significand exponent =>
    match (Binary.integer? x).filter layout.writesOut with
    | some n => if n < 0 then "-" ++ padded 1 n.natAbs else padded 1 n.natAbs
    | none => (if negative then "-" else "") ++ layout.magnitude significand exponent

end Layout

namespace Number

/-- Printed values write whole numbers below `10 ^ 21` out, go positional down to `10 ^ -6`, and do
not pad exponents. -/
def printed : Layout where
  wholeBelow := some 1000000000000000000000
  leastPositional := -6
  exponentWidth := 1
  nan := "NaN"
  infinity := "Infinity"

/-- Tree dumps write every whole number out, go positional down to `10 ^ -4`, and give exponents two
digits. -/
def dumped : Layout where
  wholeBelow := none
  leastPositional := -4
  exponentWidth := 2
  nan := "nan"
  infinity := "inf"

/-- The text of a number as a printed value. -/
def print (x : Float) : String :=
  printed.write x

/-- The text of a number in a tree dump. -/
def dump (x : Float) : String :=
  dumped.write x

end Number

end RollScript

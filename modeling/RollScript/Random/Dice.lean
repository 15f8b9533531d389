import RollScript.Random.Sample
import RollScript.Random.Twister

/-!
# Sources of random bits

Dice are thrown with bits from a seeded generator or from a prepared list of numbers.
-/

namespace RollScript.Random

/-- The state of a source of random bits. -/
inductive Dice where
  | seeded (t : Twister)
  | prepared (numbers : List Nat)

namespace Dice

/-- Dice seeded by an integer. -/
def ofSeed (seed : Int) : Dice :=
  seeded (Twister.ofSeed seed)

/-- The next number of `width` bits. A prepared number gives its low bits. -/
def draw : BitSource Dice
  | width, seeded t =>
    let (n, t) := t.bits width
    some (n, seeded t)
  | _, prepared [] => none
  | width, prepared (n :: rest) => some (n % Nat.pow 2 width, prepared rest)

end Dice

end RollScript.Random

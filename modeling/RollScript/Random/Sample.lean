import RollScript.Cause

/-!
# Uniform samples from random bits

A source of random bits gives a number of a wanted width, or has none left. `Random.below` makes a
uniform sample below a bound of it: it draws as many bits as the bound has until they make a number
below the bound. No number of draws is certain to be enough, so `patience` limits them.
-/

namespace RollScript.Random

/-- A source of random bits over states of type `ω`: the next number of the given width. -/
abbrev BitSource (ω : Type) := Nat → ω → Option (Nat × ω)

/-- The number of binary digits of a positive number. -/
def bitLength (n : Nat) : Nat :=
  n.log2 + 1

/-- A sample below a positive bound. -/
def below {ω : Type} (draw : BitSource ω) (bound : Nat) : Nat → ω → Except Stop Nat × ω
  | 0, state => (.error .unfinished, state)
  | patience + 1, state =>
    match draw (bitLength bound) state with
    | none => (.error (.aborted .exhausted), state)
    | some (n, later) => if n < bound then (.ok n, later) else below draw bound patience later

/-- An element of a nonempty list, each with the same chance. -/
def choose {ω α : Type} (draw : BitSource ω) (patience : Nat) (head : α) (tail : List α)
    (state : ω) : Except Stop α × ω :=
  match below draw (tail.length + 1) patience state with
  | (.ok index, later) => (.ok ((head :: tail).getD index head), later)
  | (.error stop, later) => (.error stop, later)

end RollScript.Random

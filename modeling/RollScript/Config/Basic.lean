/-!
# Configuration

A configuration limits how often `reroll` rolls, says what it does when every roll was refused, and
may fix the seed of the dice.
-/

namespace RollScript

/-- What `reroll` does when every allowed roll was refused. -/
inductive Exhausted where
  /-- It returns the last roll. -/
  | last
  /-- It fails. -/
  | error
deriving DecidableEq, Repr

/-- The word for a policy. -/
def Exhausted.label : Exhausted → String
  | last => "last"
  | error => "error"

/-- The limits and policies of an evaluation. -/
structure Config where
  maxRerolls : Nat
  whenExhausted : Exhausted
  seed : Option Int
  maxRerolls_pos : 0 < maxRerolls
deriving DecidableEq

/-- The configuration of an evaluation that is given none: a hundred rolls, the last of which counts,
and no seed. -/
def Config.standard : Config :=
  ⟨100, .last, none, Nat.succ_pos 99⟩

instance : Inhabited Config := ⟨.standard⟩

end RollScript

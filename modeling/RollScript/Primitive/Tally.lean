import RollScript.Value.Equal

/-!
# Removing values from a sequence

`Tally.remove` takes each of some selected values out of a sequence once: the earliest elements
equal to it go. Selected values are tallied by equality first; a value that is not equal to itself
never goes.
-/

namespace RollScript

/-- Values with how many of them are still to be removed. -/
abbrev Tally := List (Value × Nat)

namespace Tally

/-- Counts one more of a value. -/
def insert (v : Value) : Tally → Tally
  | [] => [(v, 1)]
  | (w, count) :: rest => if w.equal v then (w, count + 1) :: rest else (w, count) :: insert v rest

/-- Counts one less of a value, if any is left. -/
def take? (v : Value) : Tally → Option Tally
  | [] => none
  | (w, count) :: rest =>
    if 0 < count ∧ w.equal v then some ((w, count - 1) :: rest)
    else (take? v rest).map ((w, count) :: ·)

/-- The tally of a list of values. -/
def ofList (selected : List Value) : Tally :=
  selected.foldl (fun counted v => insert v counted) []

/-- The elements of a sequence that are not removed. -/
def keep (remaining : Tally) : List Value → List Value
  | [] => []
  | v :: rest =>
    match take? v remaining with
    | some fewer => keep fewer rest
    | none => v :: keep remaining rest

/-- A sequence without the selected values, one element for each. -/
def remove (selected items : List Value) : List Value :=
  keep (ofList selected) items

end Tally

end RollScript

import RollScript.Config.Basic
import RollScript.Machine.Request
import RollScript.Primitive.Operation
import RollScript.Primitive.Tally

/-!
# Functions that call functions

`Combinator.start` begins a combinator with its arguments. Whenever one of them needs the result of
a call it asks for the call with a frame; the functions below say what each frame does with the
result.
-/

namespace RollScript.Combinator

/-- The next step of `map`. -/
def mapNext (f : Function) (done : List Value) : List Value → List Request
  | [] => [.produce (.array done.reverse)]
  | v :: rest => [.call f v (.mapped f done rest)]

/-- The next step of `reduce`. -/
def reduceNext (f : Function) (acc : Value) : List Value → List Request
  | [] => [.produce acc]
  | v :: rest => [.call f acc (.combining f v rest)]

/-- The function that `reduce` has for the present accumulated value takes the next item. -/
def reduceItem (f : Function) (item : Value) (rest : List Value) (partially : Value) :
    Except Stop (List Request) :=
  match partially with
  | .function g => .ok [.call g item (.combined f rest)]
  | v => .error (.mismatch .function v)

/-- `drop` removes the selected values. -/
def dropSelected (items : List Value) : Value → Except Stop (List Request)
  | .array selected => .ok [.produce (.array (Tally.remove selected items))]
  | v => .error (.mismatch .array v)

/-- `reroll` rolls, for the `attempts`-th time. -/
def rollAgain (roll accept : Function) (attempts : Nat) : List Request :=
  [.call roll .unit (.rolled roll accept attempts)]

/-- `reroll` decides on a roll. -/
def decideReroll (config : Config) (roll accept : Function) (attempts : Nat) (result verdict : Value) :
    Except Stop (List Request) :=
  if verdict.truthy then .ok [.produce result]
  else if config.maxRerolls ≤ attempts then
    match config.whenExhausted with
    | .last => .ok [.produce result]
    | .error => .error (.domain .rerollsExhausted)
  else .ok (rollAgain roll accept (attempts + 1))

/-- `explode` makes the next of its base rolls. -/
def nextBase (roll again : Function) (done : List Value) : Nat → List Request
  | 0 => [.produce (.array done.reverse)]
  | left + 1 => [.call roll .unit (.exploded roll again done left)]

/-- `explode` decides on a roll, which is the last one recorded. -/
def decideExplode (roll again : Function) (done : List Value) (left : Nat) (verdict : Value) :
    List Request :=
  if verdict.truthy then [.call roll .unit (.exploded roll again done left)]
  else nextBase roll again done left

/-- Begins a combinator with the arguments that its guards have let pass. -/
def start : Combinator → List Value → Except Stop (List Request)
  | map, [.array items, .function f] => .ok (mapNext f [] items)
  | reduce, [.array items, .function f, initial] => .ok (reduceNext f initial items)
  | drop, [.function f, .array items] => .ok [.call f (.array items) (.selected items)]
  | reroll, [.function roll, .function accept] => .ok (rollAgain roll accept 1)
  | explode, [.number x, .function roll, .function again] =>
    (Number.repetitions x).map fun count => nextBase roll again [] count
  | _, _ => .error (.aborted .misapplied)

end RollScript.Combinator

import RollScript.Host.Compare
import RollScript.Host.Value
import RollScript.Machine.Request
import RollScript.Random.Dice

/-!
# Functions of the host

A small stock of functions for hosts, kept in a table by number: functions that return a fixed value,
return prepared values one by one, record their arguments, gather or compare them, throw dice, or
call a function that they were given. `Host.world` is the world that has them.
-/

namespace RollScript

/-- A function of the host. -/
inductive HostFunction where
  /-- Returns a fixed value. -/
  | constant (v : HostValue)
  /-- Returns the next of its values. -/
  | queue (values : List HostValue)
  /-- Records its argument under a label and returns it. -/
  | record (label : Text)
  /-- Returns the array of its arguments, followed by fixed values. -/
  | gather (extra : List Value)
  /-- Returns the first of its arguments that none exceeds. -/
  | greatest
  /-- Returns its argument with a roll of a die of a hundred sides. -/
  | percentile
  /-- Answers twice with its argument. -/
  | twice
  /-- Calls its first argument with its second, and returns the second with the result. -/
  | apply
  /-- Converts what another function returns. -/
  | converted (f : HostFunction)

/-- The state of a host: its dice, its functions by number, and its records, the latest first. -/
structure Host where
  dice : Random.Dice
  functions : List HostFunction := []
  records : List (Text × String) := []

namespace Host

/-- Adds a function, and gives it a number. -/
def add (h : Host) (f : HostFunction) : Nat × Host :=
  (h.functions.length, { h with functions := h.functions ++ [f] })

/-- The records in the order in which they were made. -/
def trace (h : Host) : List (Text × String) :=
  h.records.reverse

/-- How often a throw of dice is repeated at most. -/
def patience : Nat := 4611686018427387904

/-- Draws random bits. -/
def draw : Random.BitSource Host := fun width h =>
  (h.dice.draw width).map fun (n, dice) => (n, { h with dice })

/-- Answers with a value. -/
def answer (v : Value) : Except Stop (List Request) :=
  .ok [.produce v]

/-- Answers with a value that is converted first. -/
def convertedAnswer (v : HostValue) : Except Stop (List Request) :=
  v.toValue.bind answer

/-- Converts the values of an answer. -/
def convertRequests : List Request → Except Stop (List Request)
  | [.produce v] => convertedAnswer (.value v)
  | requests => .ok requests

/-- Calls a function that has the given number. -/
def callFunction (id : Nat) (args : List Value) (h : Host) :
    HostFunction → Except Stop (List Request) × Host
  | .constant v => (convertedAnswer v, h)
  | .queue [] => (.error (.aborted .exhausted), h)
  | .queue (v :: rest) =>
    (convertedAnswer v, { h with functions := h.functions.set id (.queue rest) })
  | .record label =>
    match args with
    | [v] => (convertedAnswer (.value v), { h with records := (label, v.print) :: h.records })
    | _ => (.error (.aborted .misapplied), h)
  | .gather extra => (answer (.array (args ++ extra)), h)
  | .greatest =>
    match greatest args with
    | .ok v => (answer v, h)
    | .error failure => (.error (.aborted (.failed failure)), h)
  | .percentile =>
    match args, Random.below draw 100 patience h with
    | [v], (.ok n, h) => (answer (.array [v, .number (Float.ofNat (n + 1))]), h)
    | [_], (.error stop, h) => (.error stop, h)
    | _, _ => (.error (.aborted .misapplied), h)
  | .twice =>
    match args with
    | [v] => (.ok [.produce v, .produce v], h)
    | _ => (.error (.aborted .misapplied), h)
  | .apply =>
    match args with
    | [.function f, v] => (.ok [.call f v (.host id [v])], h)
    | [callee, _] => (.error (.aborted (.failed (.notCallable (kindOf callee)))), h)
    | _ => (.error (.aborted .misapplied), h)
  | .converted f =>
    let (requests, h) := callFunction id args h f
    (requests.bind convertRequests, h)

/-- Calls a function by its number. -/
def call (id : Nat) (args : List Value) (h : Host) : Except Stop (List Request) × Host :=
  match h.functions[id]? with
  | some f => callFunction id args h f
  | none => (.error (.aborted .misapplied), h)

/-- Goes on with a function that has called another. -/
def resume (id : Nat) (saved : List Value) (v : Value) (h : Host) :
    Except Stop (List Request) × Host :=
  match h.functions[id]?, saved with
  | some .apply, [x] => (answer (.array [x, v]), h)
  | _, _ => (.error (.aborted .misapplied), h)

/-- The world with the host's dice and functions. -/
def world : World Host where
  draw := draw
  call := call
  resume := resume
  room := 988

end Host

end RollScript

import RollScript.Primitive.Operation
import RollScript.Random.Sample

/-!
# Dice

A die with a number of sides shows one of `1` up to that number, rounded. A die with given faces
shows one of them; a face that is itself an array is rolled in its turn, until a face comes up that
is none.
-/

namespace RollScript.Die

variable {ω : Type}

/-- A roll of a die with `sides` sides, at least one. -/
def numbered (draw : Random.BitSource ω) (patience sides : Nat) (state : ω) :
    Except Stop Value × ω :=
  match Random.below draw sides patience state with
  | (.ok n, later) => (.ok (.number (Float.ofNat (n + 1))), later)
  | (.error stop, later) => (.error stop, later)

/-- A face of a die, rolled again as long as it is an array. -/
def face (draw : Random.BitSource ω) : Nat → Value → ω → Except Stop Value × ω
  | 0, _, state => (.error .unfinished, state)
  | patience + 1, .array items, state =>
    match items with
    | [] => (.error (.domain .noFaces), state)
    | first :: rest =>
      match Random.choose draw patience first rest state with
      | (.ok chosen, later) => face draw patience chosen later
      | (.error stop, later) => (.error stop, later)
  | _ + 1, v, state => (.ok v, state)

/-- Rolls a die described by a value. -/
def rollFaces (draw : Random.BitSource ω) (patience : Nat) (faces : Value) (state : ω) :
    Except Stop Value × ω :=
  match faces with
  | .number x =>
    match Number.rounded x with
    | .error stop => (.error stop, state)
    | .ok sides =>
      if sides < 1 then (.error (.domain (.noSides x)), state)
      else numbered draw patience sides.toNat state
  | .array _ => face draw patience faces state
  | v => (.error (.mismatch .faces v), state)

/-- Rolls a die with the arguments that its guards have let pass. -/
def roll (draw : Random.BitSource ω) (patience : Nat) (die : Die) (args : List Value) (state : ω) :
    Except Stop Value × ω :=
  match die, args with
  | .faces, [v] => rollFaces draw patience v state
  | .fudge, [.unit] => Random.choose draw patience (.number (-1)) [.number 0, .number 1] state
  | _, _ => (.error (.aborted .misapplied), state)

end RollScript.Die

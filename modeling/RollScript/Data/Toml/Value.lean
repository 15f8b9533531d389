import RollScript.Data.Toml.Lexeme
import RollScript.Data.Toml.Table

/-!
# Values of TOML

A value is a scalar, a list or a record. Lists may run over several lines and have comments in them; a
record stands on one line, and its keys may be dotted. How deeply values may be nested is limited by
`nestingRoom`, of which a list takes two units and a record three.
-/

namespace RollScript.Toml

/-- The units that nested lists and records may take together. -/
def nestingRoom : Nat := 980

/-- The items of a list, of which there is at least one, and its closing bracket. A comma may follow
the last item. -/
def items (sub : Text → Except Problem (Data × Text)) :
    Nat → Text → Except Problem (List Data × Text)
  | 0, _ => .error .malformed
  | rounds + 1, t => do
    let (item, t) ← sub t
    match ← require (skipFiller (t.length + 1) t) with
    | .scalar ',' :: rest =>
      match ← require (skipFiller (rest.length + 1) rest) with
      | .scalar ']' :: rest => return ([item], rest)
      | rest =>
        let (later, rest) ← items sub rounds rest
        return (item :: later, rest)
    | .scalar ']' :: rest => return ([item], rest)
    | _ => .error .malformed

/-- A list after its opening bracket. -/
def list (sub : Text → Except Problem (Data × Text)) (t : Text) : Except Problem (Data × Text) := do
  match ← require (skipFiller (t.length + 1) t) with
  | .scalar ']' :: rest => return (.list [], rest)
  | rest =>
    let (list, rest) ← items sub (rest.length + 1) rest
    return (.list list, rest)

/-- A key with its value. -/
def pair (sub : Text → Except Problem (Data × Text)) (t : Text) :
    Except Problem ((Path × Data) × Text) := do
  match ← require (key (t.length + 1) t) with
  | (path, .scalar '=' :: rest) =>
    let (d, rest) ← sub (skipBlanks rest)
    return ((path, d), rest)
  | _ => .error .malformed

/-- Whether data has parts, to which no further ones may be added. -/
def isCompound : Data → Bool
  | .list _ => true
  | .record _ => true
  | _ => false

/-- The fields of a record, of which there is at least one, after those read, and its closing
brace. -/
def members (sub : Text → Except Problem (Data × Text)) :
    Nat → Fields → Marks → Text → Except Problem (Fields × Text)
  | 0, _, _, _ => .error .malformed
  | rounds + 1, fields, marks, t => do
    let ((path, d), t) ← pair sub t
    if marks.isFrozen path then .error .malformed
    else
      let fields ← require (put false d path fields)
      match skipBlanks t with
      | .scalar ',' :: rest =>
        let marks := if isCompound d then marks.freeze path else marks
        members sub rounds fields marks (skipBlanks rest)
      | .scalar '\x7d' :: rest => return (fields, rest)
      | _ => .error .malformed

/-- A record after its opening brace. -/
def record (sub : Text → Except Problem (Data × Text)) (t : Text) : Except Problem (Data × Text) :=
  match skipBlanks t with
  | .scalar '\x7d' :: rest => .ok (.record [], rest)
  | t => (members sub (t.length + 1) [] {} t).map fun (fields, rest) => (.record fields, rest)

/-- A value at the front of a text, in which lists and records are nested at most `levels` deep and
take at most `room` units. -/
def value : Nat → Nat → Text → Except Problem (Data × Text)
  | 0, _, _ => .error .tooDeep
  | levels + 1, room, t =>
    match t with
    | .scalar '[' :: rest =>
      if room < 2 then .error .tooDeep else list (value levels (room - 2)) rest
    | .scalar '\x7b' :: rest =>
      if room < 3 then .error .tooDeep else record (value levels (room - 3)) rest
    | _ => scalar t

end RollScript.Toml

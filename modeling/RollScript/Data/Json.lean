import RollScript.Data.Basic
import RollScript.Number.Numeral
import RollScript.Text.Literal
import RollScript.Token.Scan

/-!
# JSON

`Json.read` reads a JSON document as data. Its `Rules` say how deeply lists and records may be
nested, how many digits the whole part of a number may have, whether an escape may name half of a
surrogate pair, and whether numbers that are not finite may be written as words. Whole numbers are
read as integers. `Json.quote` writes a text as a JSON string in which only quotes, backslashes and
controls are escaped.
-/

namespace RollScript.Json

/-- What a reader accepts beyond the common core. -/
structure Rules where
  depth : Nat
  wholeDigits : Nat
  loneSurrogates : Bool
  nonFinite : Bool

/-- Requests are read strictly, with at most two hundred nested lists and records that are not
empty. -/
def requests : Rules := ⟨200, 4300, false, true⟩

/-- The most liberal rules, for data that was written by a program. -/
def liberal : Rules := ⟨100000, 1000000, true, true⟩

/-- Skips the four kinds of blanks. -/
def skipBlanks (t : Text) : Text :=
  t.dropWhile fun
    | .scalar c => c = ' ' || c = '\t' || c = '\n' || c = '\r'
    | .surrogate _ => false

/-- Reads a word that must stand at the front. -/
def word (w : String) (meaning : Data) (t : Text) : Option (Data × Text) :=
  let expected := Text.ofString w
  if t.take expected.length = expected then some (meaning, t.drop expected.length) else none

/-- Reads a string after its opening quote. -/
def string (rules : Rules) (t : Text) : Option (Text × Text) := do
  let length ← literalRest t
  let body := t.take length
  if body.any fun c => c.toNat < 0x20 then none
  else
    let decoded ← Literal.decode (.scalar '"' :: body)
    if !rules.loneSurrogates && !decoded.isUnicode then none
    else some (decoded, t.drop length)

/-- The digits at the front of a text, and the text after them. -/
def digits (t : Text) : Text × Text :=
  (t.takeWhile Numeral.isDecimal, t.dropWhile Numeral.isDecimal)

/-- The whole part of a number: a single zero, or digits that do not start with one. -/
def wholePart (t : Text) : Option (Text × Text) :=
  match digits t with
  | ([], _) => none
  | ([d], rest) => some ([d], rest)
  | (.scalar '0' :: _, _) => none
  | (run, rest) => some (run, rest)

/-- A fraction, if one starts here; a point without digits after it is an error. -/
def fraction : Text → Option (Text × Text)
  | .scalar '.' :: t =>
    match digits t with
    | ([], _) => none
    | (run, rest) => some (run, rest)
  | t => some ([], t)

/-- The digits of an exponent. -/
def exponentDigits (negative : Bool) (t : Text) : Option (Option Int × Text) :=
  match digits t with
  | ([], _) => none
  | (run, rest) => some (some (Numeral.signed negative run), rest)

/-- An exponent, if one starts here; a mark without digits after it is an error. -/
def exponent : Text → Option (Option Int × Text)
  | .scalar 'e' :: rest => signedExponent rest
  | .scalar 'E' :: rest => signedExponent rest
  | t => some (none, t)
where
  /-- An exponent after its mark. -/
  signedExponent : Text → Option (Option Int × Text)
    | .scalar '-' :: rest => exponentDigits true rest
    | .scalar '+' :: rest => exponentDigits false rest
    | rest => exponentDigits false rest

/-- Reads a number after its sign. A number without fraction and exponent is an integer. -/
def number (rules : Rules) (negative : Bool) (t : Text) : Option (Data × Text) := do
  let (whole, t) ← wholePart t
  let (part, t) ← fraction t
  let (power, t) ← exponent t
  if rules.wholeDigits < whole.length then none
  else if part = [] && power.isNone then
    return (.integer (Numeral.signed negative whole), t)
  else
    let x := Numeral.nearest (Numeral.natural (whole ++ part)) (power.getD 0 - part.length)
    return (.number (if negative then -x else x), t)

/-- Reads data without parts. -/
def scalar (rules : Rules) (t : Text) : Option (Data × Text) :=
  match t with
  | .scalar '"' :: rest => (string rules rest).map fun (s, rest) => (.text s, rest)
  | .scalar 't' :: _ => word "true" (.boolean true) t
  | .scalar 'f' :: _ => word "false" (.boolean false) t
  | .scalar 'n' :: _ => word "null" .null t
  | .scalar 'N' :: _ => if rules.nonFinite then word "NaN" (.number (0.0 / 0.0)) t else none
  | .scalar 'I' :: _ => if rules.nonFinite then word "Infinity" (.number (1.0 / 0.0)) t else none
  | .scalar '-' :: .scalar 'I' :: _ =>
    if rules.nonFinite then word "-Infinity" (.number (-1.0 / 0.0)) t else none
  | .scalar '-' :: rest => number rules true rest
  | _ => number rules false t

/-- Reads the items of a list, of which there is at least one, and its closing bracket. -/
def items (sub : Text → Option (Data × Text)) : Nat → Text → Option (List Data × Text)
  | 0, _ => none
  | rounds + 1, t => do
    let (item, t) ← sub (skipBlanks t)
    match skipBlanks t with
    | .scalar ',' :: rest =>
      let (later, t) ← items sub rounds rest
      return (item :: later, t)
    | .scalar ']' :: rest => return ([item], rest)
    | _ => none

/-- Reads the fields of a record, of which there is at least one, and its closing brace. -/
def fields (rules : Rules) (sub : Text → Option (Data × Text)) : Nat → Text → Option (List (Text × Data) × Text)
  | 0, _ => none
  | rounds + 1, t => do
    match skipBlanks t with
    | .scalar '"' :: rest =>
      let (name, t) ← string rules rest
      match skipBlanks t with
      | .scalar ':' :: rest =>
        let (value, t) ← sub (skipBlanks rest)
        match skipBlanks t with
        | .scalar ',' :: rest =>
          let (later, t) ← fields rules sub rounds rest
          return ((name, value) :: later, t)
        | .scalar '\x7d' :: rest => return ([(name, value)], rest)
        | _ => none
      | _ => none
    | _ => none

/-- An empty list or record, if one stands at the front of a text. -/
def emptyCompound (t : Text) : Option (Data × Text) :=
  match t with
  | .scalar '[' :: rest =>
    match skipBlanks rest with
    | .scalar ']' :: rest => some (.list [], rest)
    | _ => none
  | .scalar '\x7b' :: rest =>
    match skipBlanks rest with
    | .scalar '\x7d' :: rest => some (.record [], rest)
    | _ => none
  | _ => none

/-- Reads data at the front of a text, with at most `depth` nested lists and records that are not
empty. The length of the whole document bounds the number of items. -/
def value (rules : Rules) (size : Nat) : Nat → Text → Option (Data × Text)
  | 0, t =>
    match t with
    | .scalar '[' :: _ => emptyCompound t
    | .scalar '\x7b' :: _ => emptyCompound t
    | _ => scalar rules t
  | depth + 1, t =>
    match t with
    | .scalar '[' :: rest =>
      match skipBlanks rest with
      | .scalar ']' :: rest => some (.list [], rest)
      | rest => (items (value rules size depth) size rest).map fun (list, t) => (.list list, t)
    | .scalar '\x7b' :: rest =>
      match skipBlanks rest with
      | .scalar '\x7d' :: rest => some (.record [], rest)
      | rest =>
        (fields rules (value rules size depth) size rest).map fun (list, t) => (.record list, t)
    | _ => scalar rules t

/-- Reads a document: one piece of data with blanks around it. -/
def read (rules : Rules) (t : Text) : Option Data := do
  let (data, rest) ← value rules (t.length + 1) rules.depth (skipBlanks t)
  if skipBlanks rest = [] then some data else none

/-- How one character is written in a string. -/
def escape : CodePoint → Text
  | .scalar '"' => .ofString "\\\""
  | .scalar '\\' => .ofString "\\\\"
  | .scalar '\n' => .ofString "\\n"
  | .scalar '\r' => .ofString "\\r"
  | .scalar '\t' => .ofString "\\t"
  | .scalar '\x08' => .ofString "\\b"
  | .scalar '\x0c' => .ofString "\\f"
  | c => if c.toNat < 0x20 then .ofString ("\\u" ++ hex 4 c.toNat) else [c]

/-- A text as a JSON string. -/
def quote (t : Text) : Text :=
  .scalar '"' :: t.flatMap escape ++ [.scalar '"']

end RollScript.Json

import RollScript.Data.Basic
import RollScript.Number.Numeral

/-!
# The parts of TOML without parts

Blanks, comments, strings, keys and numbers of TOML. Each reader takes what stands at the front of a
text and returns what follows it. Controls other than tabs may not stand in comments and strings, and
line feeds only in strings with three quotes.
-/

namespace RollScript.Toml

/-- Why a document cannot be read. -/
inductive Problem where
  /-- The text is no document. -/
  | malformed
  /-- An integer has too many decimal digits. -/
  | oversized (digits : Nat)
  /-- Lists and records are nested too deeply. -/
  | tooDeep
deriving DecidableEq

/-- A part that is malformed if it is not there. -/
def require {α : Type} : Option α → Except Problem α
  | some a => .ok a
  | none => .error .malformed

/-- Blanks and tabs. -/
def isBlank (c : CodePoint) : Bool :=
  c = .scalar ' ' || c = .scalar '\t'

/-- Skips blanks and tabs. -/
def skipBlanks (t : Text) : Text :=
  t.dropWhile isBlank

/-- Skips blanks, tabs and line feeds. -/
def skipLines (t : Text) : Text :=
  t.dropWhile fun c => isBlank c || c = .scalar '\n'

/-- The controls that may stand nowhere. -/
def isControl (c : CodePoint) : Bool :=
  (c.toNat < 0x20 && c != .scalar '\t') || c.toNat == 0x7F

/-- Skips a comment, if one starts here, up to the end of its line. -/
def skipComment : Text → Option Text
  | .scalar '#' :: rest =>
    let comment := rest.takeWhile (· ≠ .scalar '\n')
    if comment.any isControl then none else some (rest.drop comment.length)
  | t => some t

/-- Skips blanks, line feeds and comments. -/
def skipFiller : Nat → Text → Option Text
  | 0, t => some t
  | rounds + 1, t =>
    match skipLines t with
    | .scalar '#' :: rest => (skipComment (.scalar '#' :: rest)).bind (skipFiller rounds)
    | t => some t

/-! ## Strings -/

/-- The scalar value that an escape of the given number of hexadecimal digits names. -/
def numbered (count : Nat) (t : Text) : Option (Text × Text) := do
  let digits ← (t.take count).mapM CodePoint.hexDigit?
  let n := digits.foldl (16 * · + ·) 0
  if digits.length = count ∧ n.isValidChar then some ([.ofNat n], t.drop count) else none

/-- What a letter after a backslash stands for. -/
def shortEscape? : CodePoint → Option Char
  | .scalar 'b' => some '\x08'
  | .scalar 't' => some '\t'
  | .scalar 'n' => some '\n'
  | .scalar 'f' => some '\x0c'
  | .scalar 'r' => some '\r'
  | .scalar '"' => some '"'
  | .scalar '\\' => some '\\'
  | _ => none

/-- What follows a backslash. In a string of several lines the end of a line may follow, which is
skipped with the blanks after it. -/
def escape (several : Bool) : Text → Option (Text × Text)
  | [] => none
  | .scalar 'u' :: rest => numbered 4 rest
  | .scalar 'U' :: rest => numbered 8 rest
  | c :: rest =>
    match shortEscape? c, skipBlanks (c :: rest) with
    | some meant, _ => some ([.scalar meant], rest)
    | none, .scalar '\n' :: rest => if several then some ([], skipLines rest) else none
    | none, _ => none

/-- A string in double quotes, after the opening ones. -/
def basicString (several : Bool) : Nat → Text → Option (Text × Text)
  | 0, _ => none
  | _, [] => none
  | rounds + 1, .scalar '"' :: rest =>
    match several, rest with
    | false, rest => some ([], rest)
    | true, .scalar '"' :: .scalar '"' :: rest => some ([], rest)
    | true, rest => do
      let (later, rest) ← basicString several rounds rest
      return (.scalar '"' :: later, rest)
  | rounds + 1, .scalar '\\' :: rest => do
    let (meant, rest) ← escape several rest
    let (later, rest) ← basicString several rounds rest
    return (meant ++ later, rest)
  | rounds + 1, c :: rest =>
    if isControl c && !(several && c = .scalar '\n') then none
    else do
      let (later, rest) ← basicString several rounds rest
      return (c :: later, rest)

/-- A string in single quotes, after the opening one; it has no escapes. -/
def literalString (t : Text) : Option (Text × Text) :=
  let body := t.takeWhile (· ≠ .scalar '\'')
  match t.drop body.length with
  | _ :: rest => if body.any isControl then none else some (body, rest)
  | [] => none

/-- A string in three single quotes, after the opening ones. -/
def literalLines : Text → Option (Text × Text)
  | [] => none
  | .scalar '\'' :: .scalar '\'' :: .scalar '\'' :: rest => some ([], rest)
  | c :: rest =>
    if isControl c && c != .scalar '\n' then none
    else do
      let (later, rest) ← literalLines rest
      return (c :: later, rest)

/-- One line feed at the start of a string of several lines does not count. -/
def skipFirstLine : Text → Text
  | .scalar '\n' :: rest => rest
  | t => t

/-- One or two quotes in front of the three closing ones belong to the string. -/
def withQuotes (quote : Char) (body : Text) (t : Text) : Text × Text :=
  let extra := (t.take 2).takeWhile (· = .scalar quote)
  (body ++ extra, t.drop extra.length)

/-- A string of a value, after its first quote. -/
def string (quote : Char) (t : Text) : Option (Text × Text) :=
  let several := t.take 2 = [.scalar quote, .scalar quote]
  let lines := skipFirstLine (t.drop 2)
  if quote = '"' then
    if several then
      (basicString true (t.length + 1) lines).map fun (body, rest) => withQuotes quote body rest
    else basicString false (t.length + 1) t
  else if several then
    (literalLines lines).map fun (body, rest) => withQuotes quote body rest
  else literalString t

/-! ## Keys -/

/-- Whether a character may stand in a key without quotes. -/
def isBare : CodePoint → Bool
  | .scalar c => c.isAlphanum || c = '_' || c = '-'
  | .surrogate _ => false

/-- One part of a key. -/
def keyPart (t : Text) : Option (Text × Text) :=
  match t with
  | .scalar '"' :: rest => basicString false (rest.length + 1) rest
  | .scalar '\'' :: rest => literalString rest
  | _ =>
    match t.takeWhile isBare with
    | [] => none
    | part => some (part, t.drop part.length)

/-- A key: parts with dots between them, and the blanks after it. -/
def key : Nat → Text → Option (List Text × Text)
  | 0, _ => none
  | rounds + 1, t => do
    let (part, t) ← keyPart t
    match skipBlanks t with
    | .scalar '.' :: rest =>
      let (later, t) ← key rounds (skipBlanks rest)
      return (part :: later, t)
    | rest => return ([part], rest)

/-! ## Numbers -/

/-- A natural number in a base with a mark in front. -/
def based : Text → Option (Nat × Text)
  | .scalar '0' :: .scalar mark :: rest => do
    let base ← match mark with
      | 'x' => some 16
      | 'o' => some 8
      | 'b' => some 2
      | _ => none
    let (run, rest) ← Numeral.separated (fun c => c.hexDigit?.any (· < base)) rest
    return (run.foldl (fun n c => base * n + c.hexDigit?.getD 0) 0, rest)
  | _ => none

/-- The whole part of a number: a single zero, or digits that do not start with one. -/
def whole : Text → Option (Text × Text)
  | .scalar '0' :: rest => some ([.scalar '0'], rest)
  | t => Numeral.separated Numeral.isDecimal t

/-- A fraction, if one starts here. -/
def fraction : Text → Text × Text
  | .scalar '.' :: rest =>
    match Numeral.separated Numeral.isDecimal rest with
    | some (run, rest) => (run, rest)
    | none => ([], .scalar '.' :: rest)
  | t => ([], t)

/-- An exponent, if one starts here. -/
def exponent (t : Text) : Option Int × Text :=
  match t with
  | .scalar c :: rest =>
    let (negative, rest) := Numeral.sign rest
    match Numeral.separated Numeral.isDecimal rest with
    | some (run, rest) =>
      if c = 'e' ∨ c = 'E' then (some (Numeral.signed negative run), rest) else (none, t)
    | none => (none, t)
  | _ => (none, t)

/-- The longest decimal integer, in digits. -/
def digitLimit : Nat := 4300

/-- A decimal number. One without fraction and exponent is an integer. -/
def decimal (t : Text) : Option (Except Problem (Data × Text)) := do
  let (negative, t) := Numeral.sign t
  let (whole, t) ← whole t
  let (part, t) := fraction t
  let (power, t) := exponent t
  if part = [] && power.isNone then
    if digitLimit < whole.length then return .error (.oversized whole.length)
    else return .ok (.integer (Numeral.signed negative whole), t)
  else
    let x := Numeral.nearest (Numeral.natural (whole ++ part)) (power.getD 0 - part.length)
    return .ok (.number (if negative then -x else x), t)

/-- A word that must stand at the front. -/
def word (w : String) (meaning : Data) (t : Text) : Option (Data × Text) :=
  let expected := Text.ofString w
  if t.take expected.length = expected then some (meaning, t.drop expected.length) else none

/-- A number that is written as a word. -/
def specialNumber (t : Text) : Option (Data × Text) :=
  let (negative, t) := Numeral.sign t
  word "inf" (.number (if negative then -1.0 / 0.0 else 1.0 / 0.0)) t <|>
    word "nan" (.number (0.0 / 0.0)) t

/-- A number at the front of a text. -/
def number (t : Text) : Except Problem (Data × Text) :=
  match based t with
  | some (n, rest) => .ok (.integer n, rest)
  | none =>
    match decimal t with
    | some reading => reading
    | none => require (specialNumber t)

/-- A value without parts. -/
def scalar (t : Text) : Except Problem (Data × Text) :=
  match t with
  | .scalar '"' :: rest => (require (string '"' rest)).map fun (s, rest) => (.text s, rest)
  | .scalar '\'' :: rest => (require (string '\'' rest)).map fun (s, rest) => (.text s, rest)
  | .scalar 't' :: _ => require (word "true" (.boolean true) t)
  | .scalar 'f' :: _ => require (word "false" (.boolean false) t)
  | _ =>
    match Moment.read t with
    | some (m, rest) => if m.exists? then .ok (.moment m, rest) else .error .malformed
    | none => number t

end RollScript.Toml

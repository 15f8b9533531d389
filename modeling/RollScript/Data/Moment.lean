import RollScript.Text.CodePoint

/-!
# Moments

A moment is a day, a time of day, or both together, the last perhaps with its distance from universal
time. `Moment.read` reads one at the front of a text; the parts lie in the ranges that their digits
allow, and `Moment.exists?` says whether the calendar has the day.
-/

namespace RollScript

/-- A day of the calendar. -/
structure Day where
  year : Nat
  month : Nat
  day : Nat
deriving DecidableEq

/-- A time of day. -/
structure Clock where
  hour : Nat
  minute : Nat
  second : Nat
  microsecond : Nat
deriving DecidableEq

/-- A day, a time of day, or both, with the minutes by which a clock is ahead of universal time. -/
inductive Moment where
  | day (d : Day)
  | time (c : Clock)
  | dayTime (d : Day) (c : Clock) (ahead : Option Int)
deriving DecidableEq

namespace Day

/-- Whether a year has a leap day. -/
def isLeap (year : Nat) : Bool :=
  year % 4 == 0 && (year % 100 != 0 || year % 400 == 0)

/-- The number of days of a month. -/
def monthLength (year month : Nat) : Nat :=
  if month == 2 then (if isLeap year then 29 else 28)
  else if [4, 6, 9, 11].contains month then 30
  else 31

/-- Whether the calendar, which starts with the year one, has the day. -/
def exists? (d : Day) : Bool :=
  0 < d.year && d.day ≤ monthLength d.year d.month

end Day

namespace Moment

/-- Whether the calendar has the moment's day. -/
def exists? : Moment → Bool
  | day d => d.exists?
  | time _ => true
  | dayTime d _ _ => d.exists?

/-- The value of a decimal digit of ASCII. -/
def digit? : CodePoint → Option Nat
  | .scalar c => if c.isDigit then some (c.toNat - 0x30) else none
  | .surrogate _ => none

/-- The number that the given number of digits writes. -/
def digits : Nat → Nat → Text → Option (Nat × Text)
  | 0, n, t => some (n, t)
  | _ + 1, _, [] => none
  | count + 1, n, c :: t => do
    let d ← digit? c
    digits count (10 * n + d) t

/-- A number of two digits between two bounds. -/
def part (low high : Nat) (t : Text) : Option (Nat × Text) := do
  let (n, t) ← digits 2 0 t
  if low ≤ n ∧ n ≤ high then some (n, t) else none

/-- A character that must stand at the front. -/
def mark (c : Char) : Text → Option Text
  | d :: t => if d = .scalar c then some t else none
  | [] => none

/-- The millionths that the digits after a point write; those after the sixth do not count. -/
def millionths (t : Text) : Nat :=
  let run := (t.filterMap digit?).take 6
  run.foldl (10 * · + ·) 0 * Nat.pow 10 (6 - run.length)

/-- A fraction of a second, if one starts here. -/
def fraction : Text → Nat × Text
  | .scalar '.' :: t =>
    let run := t.takeWhile fun c => (digit? c).isSome
    if run = [] then (0, .scalar '.' :: t) else (millionths run, t.drop run.length)
  | t => (0, t)

/-- A time of day at the front of a text. -/
def readClock (t : Text) : Option (Clock × Text) := do
  let (hour, t) ← part 0 23 t
  let (minute, t) ← part 0 59 (← mark ':' t)
  let (second, t) ← part 0 59 (← mark ':' t)
  let (microsecond, t) := fraction t
  return (⟨hour, minute, second, microsecond⟩, t)

/-- A day at the front of a text. -/
def readDay (t : Text) : Option (Day × Text) := do
  let (year, t) ← digits 4 0 t
  let (month, t) ← part 1 12 (← mark '-' t)
  let (date, t) ← part 1 31 (← mark '-' t)
  return (⟨year, month, date⟩, t)

/-- The hours and minutes of a distance from universal time. -/
def readDistance (t : Text) : Option (Nat × Text) := do
  let (hours, t) ← part 0 23 t
  let (minutes, t) ← part 0 59 (← mark ':' t)
  return (60 * hours + minutes, t)

/-- The distance from universal time, if one starts here. -/
def readAhead (t : Text) : Option Int × Text :=
  match t with
  | .scalar 'Z' :: rest => (some 0, rest)
  | .scalar 'z' :: rest => (some 0, rest)
  | .scalar '+' :: rest =>
    match readDistance rest with
    | some (minutes, rest) => (some minutes, rest)
    | none => (none, t)
  | .scalar '-' :: rest =>
    match readDistance rest with
    | some (minutes, rest) => (some (-minutes), rest)
    | none => (none, t)
  | _ => (none, t)

/-- The time that may follow a day, after a letter or a blank. -/
def readTime : Text → Option (Clock × Text)
  | .scalar c :: rest => if c = 'T' ∨ c = 't' ∨ c = ' ' then readClock rest else none
  | _ => none

/-- A moment at the front of a text. -/
def read (t : Text) : Option (Moment × Text) :=
  match readDay t with
  | some (d, t) =>
    match readTime t with
    | some (c, t) =>
      let (ahead, t) := readAhead t
      some (.dayTime d c ahead, t)
    | none => some (.day d, t)
  | none => (readClock t).map fun (c, t) => (.time c, t)

end Moment

end RollScript

/-!
# Searching a run

The elements of a run that satisfy `front` are expected to stand before the others. `boundary` looks
for where they end, starting from a hint: it walks away from the hint by steps that double, and then
halves the stretch between the last two steps. It tests few elements, so when the expectation is
wrong its answer depends on which elements it tests; it is never past the end of the run.
-/

namespace RollScript.Sorting

variable {α : Type}

/-- Whether there is an element at an index, and it is in front. -/
def isFront (front : α → Bool) (run : Array α) (index : Nat) : Bool :=
  match run[index]? with
  | some x => front x
  | none => false

/-- Doubles a step for as long as `more` holds at it. The last step at which it held, and the step
after that, which is at most the limit. -/
def stride (more : Nat → Bool) (limit : Nat) : Nat → Nat → Nat → Nat × Nat
  | 0, last, next => (last, min next limit)
  | rounds + 1, last, next =>
    if next < limit && more next then stride more limit rounds next (2 * next + 1)
    else (last, min next limit)

/-- Halves the stretch from `low` up to `high`. -/
def halve (front : Nat → Bool) : Nat → Nat → Nat → Nat
  | 0, _, high => high
  | rounds + 1, low, high =>
    if low < high then
      let middle := low + (high - low) / 2
      if front middle then halve front rounds (middle + 1) high else halve front rounds low middle
    else high

/-- How many elements of a run are in front, as far as a search from the hint can tell. -/
def boundary (front : α → Bool) (run : Array α) (hint : Nat) : Nat :=
  let test := isFront front run
  if test hint then
    let (last, next) := stride (fun step => test (hint + step)) (run.size - hint) run.size 0 1
    halve test run.size (hint + last + 1) (hint + next)
  else
    let (last, next) := stride (fun step => !test (hint - step)) (hint + 1) run.size 0 1
    halve test run.size (hint + 1 - next) (hint - last)

end RollScript.Sorting

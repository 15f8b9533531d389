import RollScript.Sorting.Merge

/-!
# Sorting by runs

`sortByRuns` sorts a list by finding runs in it and merging them. A run that is strictly descending
is reversed, and a short one is extended by inserting further elements where a search by halving
leads. Runs wait on a stack. Two neighbours are merged once the boundary between them is deeper in
the halving of the whole list than the next boundary, and at the end the shorter neighbours first.

The order need not be total: `sortByRuns` says exactly which elements are compared.
-/

namespace RollScript.Sorting

variable {α : Type}

/-- The ascending run at the front of a list that continues after `last`, and the rest. -/
def ascendingRun (below : α → α → Bool) (last : α) : List α → List α × List α
  | [] => ([], [])
  | x :: rest =>
    if below x last then ([], x :: rest)
    else
      let (run, later) := ascendingRun below x rest
      (x :: run, later)

/-- The strictly descending run at the front of a list that continues after `last`, and the rest. -/
def descendingRun (below : α → α → Bool) (last : α) : List α → List α × List α
  | [] => ([], [])
  | x :: rest =>
    if below x last then
      let (run, later) := descendingRun below x rest
      (x :: run, later)
    else ([], x :: rest)

/-- The run at the front of a list, in ascending order, and the rest. -/
def firstRun (below : α → α → Bool) : List α → List α × List α
  | [] => ([], [])
  | [x] => ([x], [])
  | x :: y :: rest =>
    if below y x then
      let (run, later) := descendingRun below y rest
      ((x :: y :: run).reverse, later)
    else
      let (run, later) := ascendingRun below y rest
      (x :: y :: run, later)

/-- An element put into a run where a search by halving leads. -/
def insertByHalving (below : α → α → Bool) (run : List α) (x : α) : List α :=
  let index := halve (isFront (fun z => !below x z) run.toArray) run.length 0 run.length
  run.take index ++ x :: run.drop index

/-- The run at the front of a list, extended to at least `minimum` elements if there are as many. -/
def nextRun (below : α → α → Bool) (minimum : Nat) (xs : List α) : List α × List α :=
  let (run, later) := firstRun below xs
  let missing := minimum - run.length
  ((later.take missing).foldl (insertByHalving below) run, later.drop missing)

/-- The least length of a run in a list of `size` elements: the leading six bits of the size, one
more if any bit after them is set. -/
def minimumRun : Nat → Nat → Nat → Nat
  | 0, size, carry => size + carry
  | rounds + 1, size, carry =>
    if size < 64 then size + carry else minimumRun rounds (size / 2) (max carry (size % 2))

/-- How often the list has to be halved until the middles of two neighbouring runs fall into different
parts. The middles are given as fractions of `size`. -/
def halvings (size : Nat) : Nat → Nat → Nat → Nat
  | 0, _, _ => 0
  | rounds + 1, first, second =>
    if size ≤ first then halvings size rounds (2 * (first - size)) (2 * (second - size)) + 1
    else if size ≤ second then 1
    else halvings size rounds (2 * first) (2 * second) + 1

/-- A run on the stack, with the depth of the boundary after it. -/
structure Pending (α : Type) where
  run : List α
  depth : Nat

/-- Where the run on top of a stack starts. -/
def startAfter (stack : List (Pending α)) : Nat :=
  stack.foldl (fun total p => total + p.run.length) 0

/-- Merges a run with those below it on the stack whose boundaries are deeper than `depth`. -/
def absorb (below : α → α → Bool) (depth : Nat) :
    List α → List (Pending α) → Nat → List α × List (Pending α) × Nat
  | run, [], patience => (run, [], patience)
  | run, p :: stack, patience =>
    if depth < p.depth then
      let (merged, patience) := mergeRuns below patience p.run run
      absorb below depth merged stack patience
    else (run, p :: stack, patience)

/-- Puts a run on the stack, after the merges that its boundary calls for. -/
def pushRun (below : α → α → Bool) (size : Nat) (run : List α) :
    List (Pending α) → Nat → List (Pending α) × Nat
  | [], patience => ([⟨run, 0⟩], patience)
  | top :: stack, patience =>
    let first := 2 * startAfter stack + top.run.length
    let depth := halvings size (size + 1) first (first + top.run.length + run.length)
    let (merged, stack, patience) := absorb below depth top.run stack patience
    (⟨run, 0⟩ :: ⟨merged, depth⟩ :: stack, patience)

/-- Puts all runs of a list on the stack. -/
def pushRuns (below : α → α → Bool) (size minimum : Nat) :
    Nat → List α → List (Pending α) → Nat → List (Pending α) × Nat
  | 0, xs, stack, patience => (⟨xs, 0⟩ :: stack, patience)
  | _ + 1, [], stack, patience => (stack, patience)
  | rounds + 1, xs, stack, patience =>
    let (run, later) := nextRun below minimum xs
    let (stack, patience) := pushRun below size run stack patience
    pushRuns below size minimum rounds later stack patience

/-- Merges all runs on the stack: the two topmost, or the second and the third if the third is shorter
than the topmost. -/
def collapse (below : α → α → Bool) : Nat → List (Pending α) → Nat → List α
  | rounds + 1, p :: q :: r :: stack, patience =>
    if r.run.length < p.run.length then
      let (merged, patience) := mergeRuns below patience r.run q.run
      collapse below rounds (p :: ⟨merged, 0⟩ :: stack) patience
    else
      let (merged, patience) := mergeRuns below patience q.run p.run
      collapse below rounds (⟨merged, 0⟩ :: r :: stack) patience
  | _ + 1, [p, q], patience => (mergeRuns below patience q.run p.run).1
  | _, stack, _ => (stack.reverse.map Pending.run).flatten

/-- A list sorted by finding runs and merging them. -/
def sortByRuns (below : α → α → Bool) (xs : List α) : List α :=
  let size := xs.length
  let (stack, patience) :=
    pushRuns below size (minimumRun size size 0) (size + 1) xs [] worthwhile
  collapse below stack.length stack patience

end RollScript.Sorting

import RollScript.Sorting.Search

/-!
# Merging two runs

Two neighbouring runs are merged from the front or from the back, whichever is shorter first. The
merge takes elements one by one until one run has won `patience` times in a row; from then on it
searches how many elements of a run can be taken together, and goes back to single elements when
that no longer pays. The patience falls while searching pays and rises when it does not, and is
handed on from one merge to the next.

With an order under which the runs are sorted all this decides only how much work is done. Without
one it decides the result.
-/

namespace RollScript.Sorting

variable {α : Type}

/-- How a merge goes on: element by element, with how often each run has won in a row, or by searching,
with whether it has just begun to. -/
inductive Pace where
  | single (leftWins rightWins : Nat)
  | searching (fresh : Bool)

/-- From how many elements on searching has paid. -/
def worthwhile : Nat := 7

/-- The patience of a merge that goes on searching. -/
def lowered (fresh : Bool) (patience : Nat) : Nat :=
  if fresh then patience else max 1 (patience - 1)

/-- The pace after a run has won `wins` times in a row. -/
def paceAfter (patience wins : Nat) (single : Pace) : Pace :=
  if patience ≤ wins then .searching true else single

/-- The order of what is left of two runs when a merge from the front is over: one of them is used
up, or the last element of the left one goes to the end. -/
def forwardRest : List α → List α → Option (List α)
  | left, [] => some left
  | [], right => some right
  | [x], right => some (right ++ [x])
  | _, _ => none

/-- Merges what is left of two runs from the front, after the elements done in reverse. -/
def mergeForward (below : α → α → Bool) :
    Nat → Nat → Pace → List α → List α → List α → List α × Nat
  | 0, patience, _, done, left, right => (done.reverse ++ left ++ right, patience)
  | rounds + 1, patience, pace, done, left, right =>
    match forwardRest left right, left, right with
    | some rest, _, _ => (done.reverse ++ rest, patience)
    | none, x :: left', y :: right' =>
      match pace with
      | .single leftWins rightWins =>
        if below y x then
          mergeForward below rounds patience
            (paceAfter patience (rightWins + 1) (.single 0 (rightWins + 1))) (y :: done) left right'
        else
          mergeForward below rounds patience
            (paceAfter patience (leftWins + 1) (.single (leftWins + 1) 0)) (x :: done) left' right
      | .searching fresh =>
        let patience := lowered fresh patience
        let count := boundary (fun z => !below y z) left.toArray 0
        let done := (left.take count).reverse ++ done
        let left := left.drop count
        match forwardRest left right with
        | some rest => (done.reverse ++ rest, patience)
        | none =>
          let done := y :: done
          match forwardRest left right', left with
          | some rest, _ => (done.reverse ++ rest, patience)
          | none, [] => (done.reverse ++ right', patience)
          | none, x :: left =>
            let count' := boundary (fun z => below z x) right'.toArray 0
            let done := (right'.take count').reverse ++ done
            let right := right'.drop count'
            match forwardRest (x :: left) right, forwardRest left right with
            | some rest, _ => (done.reverse ++ rest, patience)
            | none, some rest => ((x :: done).reverse ++ rest, patience)
            | none, none =>
              if worthwhile ≤ count ∨ worthwhile ≤ count' then
                mergeForward below rounds patience (.searching false) (x :: done) left right
              else
                mergeForward below rounds (patience + 1) (.single 0 0) (x :: done) left right
    | none, _, _ => (done.reverse ++ left ++ right, patience)

/-- The order of what is left of two runs when a merge from the back is over. The runs are given in
reverse: one of them is used up, or the first element of the right one goes to the front. -/
def backwardRest : List α → List α → Option (List α)
  | [], right => some right.reverse
  | left, [] => some left.reverse
  | left, [y] => some (y :: left.reverse)
  | _, _ => none

/-- Merges what is left of two runs, given in reverse, from the back, before the elements done. -/
def mergeBackward (below : α → α → Bool) :
    Nat → Nat → Pace → List α → List α → List α → List α × Nat
  | 0, patience, _, done, left, right => (left.reverse ++ right.reverse ++ done, patience)
  | rounds + 1, patience, pace, done, left, right =>
    match backwardRest left right, left, right with
    | some rest, _, _ => (rest ++ done, patience)
    | none, x :: left', y :: right' =>
      match pace with
      | .single leftWins rightWins =>
        if below y x then
          mergeBackward below rounds patience
            (paceAfter patience (leftWins + 1) (.single (leftWins + 1) 0)) (x :: done) left' right
        else
          mergeBackward below rounds patience
            (paceAfter patience (rightWins + 1) (.single 0 (rightWins + 1))) (y :: done) left right'
      | .searching fresh =>
        let patience := lowered fresh patience
        let count := left.length -
          boundary (fun z => !below y z) left.reverse.toArray (left.length - 1)
        let done := (left.take count).reverse ++ done
        let left := left.drop count
        match backwardRest left right with
        | some rest => (rest ++ done, patience)
        | none =>
          let done := y :: done
          match backwardRest left right', left with
          | some rest, _ => (rest ++ done, patience)
          | none, [] => (right'.reverse ++ done, patience)
          | none, x :: left =>
            let count' := right'.length -
              boundary (fun z => below z x) right'.reverse.toArray (right'.length - 1)
            let done := (right'.take count').reverse ++ done
            let right := right'.drop count'
            match backwardRest (x :: left) right, backwardRest left right with
            | some rest, _ => (rest ++ done, patience)
            | none, some rest => (rest ++ x :: done, patience)
            | none, none =>
              if worthwhile ≤ count ∨ worthwhile ≤ count' then
                mergeBackward below rounds patience (.searching false) (x :: done) left right
              else
                mergeBackward below rounds (patience + 1) (.single 0 0) (x :: done) left right
    | none, _, _ => (left.reverse ++ right.reverse ++ done, patience)

/-- Merges what is left of two runs, of which neither is in place already. The first element of the right
run goes before all of the left one, the last element of the left one after all of the right one. -/
def mergeOverlap (below : α → α → Bool) (patience : Nat) (left right : List α) : List α × Nat :=
  let rounds := left.length + right.length
  if left.length ≤ right.length then
    mergeForward below rounds patience (.single 0 0) (right.take 1) left (right.drop 1)
  else
    mergeBackward below rounds patience (.single 0 0) (left.reverse.take 1) (left.reverse.drop 1)
      right.reverse

/-- Merges two neighbouring runs. Elements at the far ends that are in place already stay there. -/
def mergeRuns (below : α → α → Bool) (patience : Nat) (left right : List α) : List α × Nat :=
  match right.head?, left.getLast? with
  | some y, some x =>
    let kept := boundary (fun z => !below y z) left.toArray 0
    let moved := boundary (fun z => below z x) right.toArray (right.length - 1)
    if kept = left.length ∨ moved = 0 then (left ++ right, patience)
    else
      let (merged, patience) := mergeOverlap below patience (left.drop kept) (right.take moved)
      (left.take kept ++ merged ++ right.drop moved, patience)
  | _, _ => (left ++ right, patience)

end RollScript.Sorting

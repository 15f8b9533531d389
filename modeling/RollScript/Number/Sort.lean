import RollScript.Sorting.Runs

/-!
# Sorting numbers

Numbers without a NaN among them are put in ascending order by a stable sort. A NaN is neither below
nor above anything, so with one among the numbers there is no ascending order; then the numbers are
sorted by runs, which is the same for numbers without a NaN and does what it says for all.
-/

namespace RollScript.Number

/-- Numbers in ascending order. -/
def sort (xs : List Float) : List Float :=
  if xs.any Float.isNaN then Sorting.sortByRuns (fun x y => x < y) xs
  else xs.mergeSort fun x y => !(y < x)

/-- Numbers in descending order; equal ones keep their order. -/
def sortDescending (xs : List Float) : List Float :=
  (sort xs.reverse).reverse

end RollScript.Number

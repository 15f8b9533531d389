import Mathlib.Data.List.Sort
import RollScript.Number.Sort
import RollScript.Primitive.Operation
import RollScript.Proofs.Numbers.Order
import RollScript.Proofs.Sorting.Permutation

/-!
# Sorted numbers

Sorting only changes the order of the numbers, with a NaN among them too (`sort_perm`). Without a NaN the
numbers are ascending afterwards. Numbers of one place are equal but need not be the same, so lists are
compared by the places of their elements: `places_sort_eq` says that there is one way for sorted places to
be. Read `Outermost` for what the highest and the lowest numbers of a list are.
-/

namespace RollScript.Number

/-- Numbers without a NaN among them. -/
def NanFree (xs : List Float) : Prop :=
  ∀ x ∈ xs, x.isNaN = false

theorem NanFree.perm {xs ys : List Float} (h : NanFree xs) (hperm : ys.Perm xs) : NanFree ys :=
  fun x hx => h x (hperm.mem_iff.1 hx)

theorem NanFree.sublist {xs ys : List Float} (h : NanFree xs) (hsub : ys.Sublist xs) : NanFree ys :=
  fun x hx => h x (hsub.mem hx)

/-! ## Permutations -/

theorem sort_perm (xs : List Float) : (sort xs).Perm xs := by
  unfold sort
  split
  · exact Sorting.sortByRuns_perm _ xs
  · exact List.mergeSort_perm xs _

theorem sortDescending_perm (xs : List Float) : (sortDescending xs).Perm xs :=
  ((List.reverse_perm _).trans (sort_perm _)).trans (List.reverse_perm xs)

/-! ## Places in order -/

/-- The places of numbers. -/
def places (xs : List Float) : List (ℤ ×ₗ ℤ ×ₗ ℤ) :=
  xs.map place

theorem not_lt_eq_place_le {x y : Float} (hx : x.isNaN = false) (hy : y.isNaN = false) :
    (!decide (y < x)) = decide (place x ≤ place y) := by
  have hlt : y < x ↔ place y < place x := lt_iff.trans ⟨fun h => h.2.2, fun h => ⟨hy, hx, h⟩⟩
  rw [← decide_not]
  exact decide_eq_decide.2 ((not_congr hlt).trans not_lt)

/-- Sorting numbers without a NaN sorts their places. -/
theorem places_sort {xs : List Float} (h : NanFree xs) :
    places (sort xs) = (places xs).mergeSort fun p q => decide (p ≤ q) := by
  have hnan : xs.any Float.isNaN = false :=
    List.any_eq_false.2 fun x hx => by rw [h x hx]; exact Bool.false_ne_true
  rw [places, sort, hnan, if_neg Bool.false_ne_true]
  exact List.map_mergeSort fun x hx y hy => not_lt_eq_place_le (h x hx) (h y hy)

theorem places_sort_pairwise {xs : List Float} (h : NanFree xs) :
    (places (sort xs)).Pairwise (· ≤ ·) := by
  rw [places_sort h]
  refine (List.pairwise_mergeSort (fun p q r hpq hqr => ?_) (fun p q => ?_) _).imp
    fun hle => of_decide_eq_true hle
  · exact decide_eq_true ((of_decide_eq_true hpq).trans (of_decide_eq_true hqr))
  · rw [← Bool.decide_or]
    exact decide_eq_true (le_total p q)

/-- Sorted places are those of the sorted numbers. -/
theorem places_sort_eq {xs : List Float} (h : NanFree xs) {ps : List (ℤ ×ₗ ℤ ×ₗ ℤ)}
    (hperm : ps.Perm (places xs)) (hsorted : ps.Pairwise (· ≤ ·)) : places (sort xs) = ps :=
  List.Perm.eq_of_pairwise (fun _ _ _ _ hle hge => le_antisymm hle hge) (places_sort_pairwise h) hsorted
    (((sort_perm xs).map place).trans hperm.symm)

theorem places_sort_congr {xs ys : List Float} (hx : NanFree xs) (hy : NanFree ys)
    (h : (places xs).Perm (places ys)) : places (sort xs) = places (sort ys) :=
  places_sort_eq hx (((sort_perm ys).map place).trans h.symm) (places_sort_pairwise hy)

/-- Sorting leaves the places of ascending numbers as they are. -/
theorem places_sort_of_pairwise {xs : List Float} (h : NanFree xs) (hsorted : xs.Pairwise (· ≤ ·)) :
    places (sort xs) = places xs :=
  places_sort_eq h (.refl _) (List.pairwise_map.2 (hsorted.imp fun hle => (le_iff.1 hle).2.2))

/-- In descending order the places are those of the ascending order in reverse. -/
theorem places_sortDescending {xs : List Float} (h : NanFree xs) :
    places (sortDescending xs) = (places (sort xs)).reverse := by
  have hreverse : NanFree xs.reverse := h.perm (List.reverse_perm xs)
  rw [sortDescending, places, List.map_reverse, List.reverse_inj]
  exact places_sort_congr hreverse h ((List.reverse_perm xs).map place)

theorem sort_pairwise {xs : List Float} (h : NanFree xs) : (sort xs).Pairwise (· ≤ ·) := by
  have hsorted : NanFree (sort xs) := h.perm (sort_perm xs)
  refine (List.pairwise_map.1 (places_sort_pairwise h)).imp_of_mem fun hx hy hle => ?_
  exact le_iff.2 ⟨hsorted _ hx, hsorted _ hy, hle⟩

theorem sortDescending_pairwise {xs : List Float} (h : NanFree xs) :
    (sortDescending xs).Pairwise (· ≥ ·) :=
  List.pairwise_reverse.2 (sort_pairwise (h.perm (List.reverse_perm xs)))

/-! ## The highest and the lowest numbers -/

/-- `chosen` are `count` numbers of `xs`, or all if there are fewer, in order and with none before them:
every number that is left out comes before every chosen one, or is equal to it. -/
structure Outermost (before : Float → Float → Prop) (count : Nat) (xs chosen : List Float) : Prop where
  ordered : chosen.Pairwise before
  length : chosen.length = min count xs.length
  others : ∃ rest, (rest ++ chosen).Perm xs ∧ ∀ x ∈ rest, ∀ y ∈ chosen, before x y

/-- The last elements of a list in order are its outermost ones. -/
theorem outermost_takeLast {before : Float → Float → Prop} {sorted xs : List Float}
    (hperm : sorted.Perm xs) (hordered : sorted.Pairwise before) (count : Nat) :
    Outermost before count xs (takeLast count sorted) := by
  have happend := List.take_append_drop (sorted.length - count) sorted
  rw [← happend] at hordered
  obtain ⟨-, hlast, hbetween⟩ := List.pairwise_append.1 hordered
  refine ⟨hlast, ?_, sorted.take (sorted.length - count), by rwa [takeLast, happend], hbetween⟩
  rw [takeLast, List.length_drop, ← hperm.length_eq]
  omega

end RollScript.Number

import RollScript.Proofs.Numbers.Sorting
import RollScript.Proofs.Values.Difference

/-!
# Arrays of numbers

Without a NaN two arrays of numbers are equal if their elements have the same places in turn, and removing
some of the numbers of an array leaves numbers with the places of the others (`exists_removed`). Which of
several equal numbers are left is not said: the two zeros are equal, and removing one of them may leave the
other.
-/

namespace RollScript

open Number

namespace Value

theorem mapM_number?_numbers (xs : List Float) : (xs.map number).mapM number? = some xs := by
  induction xs with
  | nil => rfl
  | cons x xs ih =>
      rw [List.map_cons, List.mapM_cons, ih]
      rfl

theorem equal_number (x y : Float) : (number x).equal (number y) = (x == y) := by
  simp [equal_eq_same, same, sameScalar]

theorem equal_number_iff {x y : Float} (hx : x.isNaN = false) (hy : y.isNaN = false) :
    (number x).equal (number y) = true ↔ place x = place y := by
  rw [equal_number]
  exact beq_iff.trans ⟨fun h => h.2.2, fun h => ⟨hx, hy, h⟩⟩

theorem sameItems_numbers {xs ys : List Float} (hx : NanFree xs) (hy : NanFree ys)
    (h : places xs = places ys) : sameItems (xs.map number) (ys.map number) = true := by
  induction xs generalizing ys with
  | nil =>
      cases ys with
      | nil => rfl
      | cons y ys => cases h
  | cons x xs ih =>
      cases ys with
      | nil => cases h
      | cons y ys =>
          obtain ⟨hplace, hplaces⟩ := List.cons.inj h
          obtain ⟨hhead, htail⟩ := List.forall_mem_cons.1 hx
          obtain ⟨hhead', htail'⟩ := List.forall_mem_cons.1 hy
          refine sameItems_cons.2 ⟨?_, ih htail htail' hplaces⟩
          rw [← equal_eq_same]
          exact (equal_number_iff hhead hhead').2 hplace

/-- Numbers of the same places make equal arrays. -/
theorem equal_ofNumbers {xs ys : List Float} (hx : NanFree xs) (hy : NanFree ys)
    (h : places xs = places ys) : (ofNumbers xs).equal (ofNumbers ys) = true := by
  rw [equal_eq_same]
  exact same_iff.2 (.inl ⟨_, _, rfl, rfl, sameItems_numbers hx hy h⟩)

end Value

/-- Numbers are alike if they have the same place. -/
theorem alike_number {x : Float} (hx : x.isNaN = false) {ys : List Float} (hy : NanFree ys) :
    alike (.number x) (ys.map .number) = (places ys).count (place x) := by
  rw [alike, List.countP_map, places, List.count, List.countP_map]
  refine List.countP_congr fun y hmem => ?_
  simp only [Function.comp_apply, beq_iff_eq]
  exact Value.equal_number_iff (hy y hmem) hx

theorem sift_map {α β : Type} (f : α → β) (stays : Nat → Bool) (items : List α) :
    sift stays (items.map f) = (sift stays items).map f := by
  induction items generalizing stays with
  | nil => rfl
  | cons v rest ih =>
      rw [List.map_cons, sift, sift, ih]
      split <;> rfl

/-- Removing some numbers of an array leaves numbers with the places of the others. -/
theorem exists_removed {xs chosen rest : List Float} (h : NanFree xs) (hperm : (rest ++ chosen).Perm xs) :
    ∃ kept, Tally.remove (chosen.map .number) (xs.map .number) = kept.map .number ∧
      NanFree kept ∧ (places kept).Perm (places rest) := by
  obtain ⟨hremoves, hsift⟩ := Tally.remove_removes (chosen.map .number) (xs.map .number)
  generalize Tally.stays (Tally.ofList (chosen.map .number)) (xs.map .number) = stays at hremoves hsift
  have hall : NanFree (rest ++ chosen) := h.perm hperm
  have hkept : NanFree (sift stays xs) := h.sublist (sift_sublist stays xs)
  have hrest : NanFree rest := hall.sublist (List.sublist_append_left rest chosen)
  have hchosen : NanFree chosen := hall.sublist (List.sublist_append_right rest chosen)
  refine ⟨sift stays xs, by rw [hsift, sift_map], hkept, List.perm_iff_count.2 fun q => ?_⟩
  by_cases hq : ∃ x ∈ xs, place x = q
  · obtain ⟨x, hmem, rfl⟩ := hq
    have hcount := hremoves.count (.number x)
    have hplaces := (hperm.map place).count_eq (place x)
    rw [sift_map, alike_number (h x hmem) hkept, alike_number (h x hmem) h,
      alike_number (h x hmem) hchosen] at hcount
    rw [List.map_append, List.count_append] at hplaces
    rw [hcount, places, ← hplaces]
    exact Nat.add_sub_cancel _ _
  · -- A place of no number of the array has no number to count its class by.
    have hzero : ∀ ys : List Float, (∀ y ∈ ys, y ∈ xs) → (places ys).count q = 0 := by
      intro ys hys
      refine List.count_eq_zero.2 fun hmem => ?_
      obtain ⟨y, hy, rfl⟩ := List.mem_map.1 hmem
      exact hq ⟨y, hys y hy, rfl⟩
    rw [hzero _ fun y hy => (sift_sublist stays xs).mem hy,
      hzero rest fun y hy => hperm.mem_iff.1 (List.mem_append_left _ hy)]

end RollScript

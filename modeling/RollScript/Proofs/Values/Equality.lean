import RollScript.Value.Equal

/-!
# Equality with a list of pairs

Read `equal_eq_same` first: comparing two values with a list of pairs still to be compared gives what the
recursion on the values gives. The order in which the pairs are compared does not matter, because every
pair has to be equal.
-/

namespace RollScript.Value

/-- Two sequences are the same if they are equally long and the same element by element. -/
theorem sameItems_eq (items others : List Value) :
    sameItems items others =
      (decide (items.length = others.length) && (items.zip others).all fun p => p.1.same p.2) := by
  induction items generalizing others with
  | nil => cases others <;> simp [sameItems]
  | cons v items ih =>
      cases others with
      | nil => simp [sameItems]
      | cons w others =>
          rw [sameItems, ih, List.zip_cons_cons, List.all_cons, List.length_cons, List.length_cons,
            Bool.and_left_comm]
          simp only [Nat.add_right_cancel_iff]

/-- All pairs are equal exactly if each is the same by recursion. -/
theorem equalPairs_eq (pairs : List (Value × Value)) :
    equalPairs pairs = pairs.all fun p => p.1.same p.2 := by
  fun_induction equalPairs pairs with
  | case1 => rfl
  | case2 items others rest hlength ih =>
      rw [ih, List.all_append, List.all_reverse, List.all_cons, same, sameItems_eq,
        decide_eq_true hlength, Bool.true_and]
  | case3 items others rest hlength =>
      rw [List.all_cons, same, sameItems_eq, decide_eq_false hlength, Bool.false_and, Bool.false_and]
  | case4 v w rest hscalar hsame ih =>
      rw [ih, List.all_cons, same, hsame, Bool.true_and]
      exact hscalar
  | case5 v w rest hscalar hsame =>
      rw [List.all_cons, same, Bool.eq_false_iff.2 hsame, Bool.false_and]
      exact hscalar

/-- Comparing with a list of pairs is comparing by recursion. -/
theorem equal_eq_same (v w : Value) : equal v w = same v w := by
  rw [equal, equalPairs_eq, List.all_cons, List.all_nil, Bool.and_true]

end RollScript.Value

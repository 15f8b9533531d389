import RollScript.Primitive.Tally
import RollScript.Proofs.Values.Equivalence

/-!
# Removing values as a difference of multisets

Read `Removes` first: it says which positions of a sequence stay when selected values are removed from
it. Equality of values is no identity, so elements are counted up to equality throughout; that it is
symmetric and transitive is what makes the counts independent of the representative. A tally is described
by how many values it still has to remove from each class of equal values, and `keep_eq_sift` says which
positions stay under a tally.
-/

namespace RollScript

open Value

/-! ## What is to be removed -/

/-- How many values of a list are equal to a value. -/
def alike (v : Value) (items : List Value) : Nat :=
  items.countP (·.equal v)

theorem alike_cons (v w : Value) (items : List Value) :
    alike v (w :: items) = alike v items + if w.equal v then 1 else 0 :=
  List.countP_cons

/-- As many values are equal to one of two equal values as to the other. -/
theorem alike_congr {v w : Value} (h : v.equal w = true) (items : List Value) :
    alike v items = alike w items := by
  refine List.countP_congr fun u _ => ?_
  rw [u.equal_comm v, u.equal_comm w, equal_congr h]

theorem alike_incomparable {v : Value} (h : Incomparable v) (items : List Value) :
    alike v items = 0 := by
  refine List.countP_eq_zero.2 fun u _ heq => ?_
  exact equal_self_iff.1 (equal_self_of_equal (equal_symm heq)) h

/-- The elements of a list at the positions that stay, in order. -/
def sift {α : Type} (stays : Nat → Bool) : List α → List α
  | [] => []
  | v :: rest => if stays 0 then v :: sift (fun i => stays (i + 1)) rest
      else sift (fun i => stays (i + 1)) rest

theorem sift_sublist {α : Type} (stays : Nat → Bool) (items : List α) :
    (sift stays items).Sublist items := by
  fun_induction sift stays items with
  | case1 => exact .slnil
  | case2 stays v rest hstays ih => exact ih.cons_cons v
  | case3 stays v rest hstays ih => exact ih.cons v

theorem sift_congr {α : Type} {stays others : Nat → Bool} {items : List α}
    (h : ∀ i < items.length, stays i = others i) : sift stays items = sift others items := by
  induction items generalizing stays others with
  | nil => rfl
  | cons v rest ih =>
      rw [sift, sift, h 0 (Nat.zero_lt_succ _),
        ih fun i hi => h (i + 1) (Nat.succ_lt_succ hi)]

/-- Which positions of `items` stay when each of `selected` is taken out once: of each class of equal
values the earliest go, as many as are selected and there are, and an incomparable value never goes. -/
structure Removes (selected items : List Value) (stays : Nat → Bool) : Prop where
  count (v : Value) : alike v (sift stays items) = alike v items - alike v selected
  earliest {i j : Nat} (hij : i < j) (hj : j < items.length)
    (heq : items[i].equal items[j] = true) (hi : stays i = true) : stays j = true
  incomparable {i : Nat} (hi : i < items.length) (h : Incomparable items[i]) : stays i = true

namespace Tally

/-- How many values equal to a value a tally still has to remove. -/
def left (v : Value) : Tally → Nat
  | [] => 0
  | (w, count) :: rest => left v rest + if w.equal v then count else 0

theorem left_congr {v w : Value} (h : v.equal w = true) (t : Tally) : left v t = left w t := by
  induction t with
  | nil => rfl
  | cons entry rest ih =>
      rw [left, left, ih, entry.1.equal_comm v, entry.1.equal_comm w, equal_congr h]

theorem left_insert (x v : Value) (t : Tally) :
    left v (insert x t) = left v t + if x.equal v then 1 else 0 := by
  fun_induction insert x t with
  | case1 => rfl
  | case2 w count rest heq =>
      rw [left, left, equal_congr heq]
      split <;> omega
  | case3 w count rest hne ih =>
      rw [left, left, ih]
      omega

/-- A tally of a list has to remove what is in the list. -/
theorem left_ofList (v : Value) (selected : List Value) :
    left v (ofList selected) = alike v selected := by
  have hfold : ∀ t : Tally,
      left v (selected.foldl (fun counted x => insert x counted) t) = left v t + alike v selected := by
    induction selected with
    | nil => exact fun _ => rfl
    | cons x rest ih =>
        intro t
        rw [List.foldl_cons, ih, left_insert, alike_cons]
        omega
  rw [ofList, hfold, left, Nat.zero_add]

/-! ## One element -/

/-- A tally takes one value equal to `x`, and has no other to remove less. -/
theorem left_of_take? {x : Value} {t fewer : Tally} (h : take? x t = some fewer) (v : Value) :
    left v t = left v fewer + if x.equal v then 1 else 0 := by
  fun_induction take? x t generalizing fewer with
  | case1 => cases h
  | case2 w count rest hentry =>
      obtain ⟨hpos, heq⟩ := hentry
      obtain rfl := Option.some.inj h
      rw [left, left, equal_congr heq]
      split <;> omega
  | case3 w count rest hentry ih =>
      obtain ⟨others, hothers, rfl⟩ := Option.map_eq_some_iff.1 h
      rw [left, left, ih hothers]
      omega

/-- A tally takes a value as long as it has an equal one to remove. -/
theorem take?_eq_none_iff {x : Value} {t : Tally} : take? x t = none ↔ left x t = 0 := by
  fun_induction take? x t with
  | case1 => exact iff_of_true rfl rfl
  | case2 w count rest hentry =>
      refine iff_of_false (Option.some_ne_none _) ?_
      rw [left, if_pos hentry.2]
      omega
  | case3 w count rest hentry ih =>
      have hcount : (if w.equal x = true then count else 0) = 0 := by
        split
        · next heq => exact Nat.eq_zero_of_not_pos fun hpos => hentry ⟨hpos, heq⟩
        · rfl
      rw [Option.map_eq_none_iff, ih, left, hcount, Nat.add_zero]

/-! ## All elements -/

/-- Whether a position stays under a tally: those before it have used up what the tally has to remove
from its class. -/
def stays (t : Tally) (items : List Value) (i : Nat) : Bool :=
  match items[i]? with
  | some v => left v t ≤ alike v (items.take i)
  | none => true

theorem stays_eq {t : Tally} {items : List Value} {i : Nat} (hi : i < items.length) :
    stays t items i = decide (left items[i] t ≤ alike items[i] (items.take i)) := by
  rw [stays, List.getElem?_eq_getElem hi]

theorem stays_zero (t : Tally) (v : Value) (items : List Value) :
    stays t (v :: items) 0 = decide (left v t = 0) := by
  rw [stays_eq (Nat.zero_lt_succ _)]
  exact decide_eq_decide.2 Nat.le_zero

theorem stays_succ {t : Tally} {v : Value} {items : List Value} {i : Nat} (hi : i < items.length) :
    stays t (v :: items) (i + 1) =
      decide (left items[i] t ≤ alike items[i] (items.take i) + if v.equal items[i] then 1 else 0) := by
  rw [stays_eq (Nat.succ_lt_succ hi), List.getElem_cons_succ, List.take_succ_cons, alike_cons]

/-- What is kept is what stands at the positions that stay. -/
theorem keep_eq_sift (t : Tally) (items : List Value) : keep t items = sift (stays t items) items := by
  fun_induction keep t items with
  | case1 => rfl
  | case2 t v rest fewer htake ih =>
      have hpos : ¬ left v t = 0 := fun h => by rw [take?_eq_none_iff.2 h] at htake; cases htake
      rw [sift, stays_zero, if_neg (by simpa using hpos), ih]
      refine sift_congr fun i hi => ?_
      -- The class of `v` has one less to lose, and one more has been seen.
      rw [stays_eq hi, stays_succ hi, left_of_take? htake]
      exact decide_eq_decide.2 (Nat.add_le_add_iff_right).symm
  | case3 t v rest htake ih =>
      have hzero := take?_eq_none_iff.1 htake
      rw [sift, stays_zero, if_pos (by simpa using hzero), ih]
      refine congrArg (v :: ·) (sift_congr fun i hi => ?_)
      rw [stays_eq hi, stays_succ hi]
      split
      · -- Seeing one more of a class that has nothing to lose changes nothing.
        next heq =>
          rw [← left_congr heq, hzero]
          simp
      · rfl

/-- Of each class as many values are kept as there are more of them than the tally has to remove. -/
theorem alike_keep (v : Value) (t : Tally) (items : List Value) :
    alike v (keep t items) = alike v items - left v t := by
  fun_induction keep t items with
  | case1 => exact (Nat.zero_sub _).symm
  | case2 t x rest fewer htake ih =>
      rw [ih, alike_cons, left_of_take? htake, Nat.add_sub_add_right]
  | case3 t x rest htake ih =>
      rw [alike_cons, alike_cons, ih]
      split
      · next heq =>
          have hzero : left v t = 0 := by rw [← left_congr heq, take?_eq_none_iff.1 htake]
          rw [hzero, Nat.sub_zero, Nat.sub_zero]
      · rfl

/-- Removing selected values is a difference of multisets that takes the earliest of equal values. -/
theorem remove_removes (selected items : List Value) :
    Removes selected items (stays (ofList selected) items) ∧
      remove selected items = sift (stays (ofList selected) items) items := by
  have hremove : remove selected items = sift (stays (ofList selected) items) items :=
    keep_eq_sift _ _
  refine ⟨⟨fun v => ?_, fun {i j} hij hj heq hi => ?_, fun {i} hi h => ?_⟩, hremove⟩
  · rw [← hremove, remove, alike_keep, left_ofList]
  · -- Values before the earlier position stand before the later one too.
    have hi' : i < items.length := hij.trans hj
    rw [stays_eq hi', decide_eq_true_iff] at hi
    rw [stays_eq hj, decide_eq_true_iff, ← left_congr heq, ← alike_congr heq]
    exact hi.trans ((List.take_sublist_take_left hij.le).countP_le)
  · rw [stays_eq hi, left_ofList, alike_incomparable h]
    exact decide_eq_true (Nat.zero_le _)

example : remove [.unit, .unit, .string (.ofString "a")] [.unit, .array [], .unit, .unit] =
    [.array [], .unit] := by cbv

end Tally

end RollScript

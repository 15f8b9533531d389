import RollScript.Proofs.Evaluation.Applications
import RollScript.Proofs.Numbers.Overflow
import RollScript.Proofs.Values.Numbers

/-!
# The highest, the lowest and the dropped

Read `selections_complement` first. `highest` and `lowest` take numbers from the two ends of the same
order, so what `drop` leaves when one of them selects is what the other takes, up to the order and up to
which of several equal numbers is left. The two functions are treated as one with a `Side`.
-/

namespace RollScript

open Number

/-- From which end of the order numbers are taken. -/
inductive Side where
  | highest
  | lowest

namespace Side

/-- The other end. -/
def other : Side → Side
  | highest => lowest
  | lowest => highest

/-- All numbers, the ones to be taken last. -/
def arranged : Side → List Float → List Float
  | highest, xs => sort xs
  | lowest, xs => sortDescending xs

/-- The order in which they are arranged. -/
def before : Side → Float → Float → Prop
  | highest => (· ≤ ·)
  | lowest => (· ≥ ·)

/-- The numbers that are taken. -/
def chosen (side : Side) (count : Nat) (xs : List Float) : List Float :=
  takeLast count (side.arranged xs)

/-- The function that takes them. -/
def primitive : Side → Primitive
  | highest => Registry.operation "highest" [.number, .numbers] .highest
  | lowest => Registry.operation "lowest" [.number, .numbers] .lowest

variable (side : Side) {xs : List Float}

theorem arranged_perm (xs : List Float) : (side.arranged xs).Perm xs := by
  cases side with
  | highest => exact sort_perm xs
  | lowest => exact sortDescending_perm xs

theorem arranged_length (xs : List Float) : (side.arranged xs).length = xs.length :=
  (side.arranged_perm xs).length_eq

theorem places_arranged (h : NanFree xs) :
    places (side.arranged xs) = (places (side.other.arranged xs)).reverse := by
  have hreverse := places_sortDescending h
  cases side with
  | highest => exact List.reverse_eq_iff.1 hreverse.symm
  | lowest => exact hreverse

theorem outermost_chosen (h : NanFree xs) (count : Nat) :
    Outermost side.before count xs (side.chosen count xs) := by
  refine outermost_takeLast (side.arranged_perm xs) ?_ count
  cases side with
  | highest => exact sort_pairwise h
  | lowest => exact sortDescending_pairwise h

/-- The numbers that are not taken have the places of those that are taken from the other end. -/
theorem places_others (h : NanFree xs) (count : Nat) :
    places ((side.arranged xs).take (xs.length - count)) =
      (places (side.other.chosen (xs.length - count) xs)).reverse := by
  have hlength : (places (side.other.arranged xs)).length = xs.length := by
    rw [places, List.length_map, arranged_length]
  rw [places, List.map_take, ← places, places_arranged side h, List.take_reverse, hlength, chosen,
    takeLast, arranged_length, places, places, List.map_drop]

/-- Removing what is taken from one end leaves what is taken from the other. -/
theorem exists_dropped (h : NanFree xs) (count : Nat) :
    ∃ kept, Tally.remove ((side.chosen count xs).map .number) (xs.map .number) = kept.map .number ∧
      NanFree kept ∧ (places kept).Perm (places ((side.arranged xs).take (xs.length - count))) := by
  refine exists_removed h ?_
  rw [chosen, takeLast, arranged_length, List.take_append_drop]
  exact side.arranged_perm xs

theorem nanFree_chosen (h : NanFree xs) (count : Nat) : NanFree (side.chosen count xs) :=
  (h.perm (side.arranged_perm xs)).sublist (List.drop_sublist _ _)

/-- What is left when numbers from one end are removed, in order, equals the numbers from the other end, in
order. -/
theorem exists_complement (h : NanFree xs) (count : Nat) :
    ∃ kept, Tally.remove ((side.chosen count xs).map .number) (xs.map .number) = kept.map .number ∧
      kept.length = xs.length - count ∧
      (Value.ofNumbers (sort kept)).equal
        (.ofNumbers (sort (side.other.chosen (xs.length - count) xs))) = true := by
  obtain ⟨kept, hremove, hkept, hplaces⟩ := side.exists_dropped h count
  have hother := side.other.nanFree_chosen h (xs.length - count)
  have hlength := hplaces.length_eq
  rw [places, places, List.length_map, List.length_map, List.length_take, arranged_length] at hlength
  rw [places_others side h] at hplaces
  -- The places agree as multisets, and sorting settles their order.
  refine ⟨kept, hremove, by omega, Value.equal_ofNumbers (hkept.perm (sort_perm _))
    (hother.perm (sort_perm _)) ?_⟩
  exact places_sort_congr hkept hother (hplaces.trans (List.reverse_perm _))

/-- The highest numbers stand in order already. -/
theorem sort_highest_equal (h : NanFree xs) (count : Nat) :
    (Value.ofNumbers (sort (highest.chosen count xs))).equal
      (.ofNumbers (highest.chosen count xs)) = true := by
  have hchosen := highest.nanFree_chosen h count
  refine Value.equal_ofNumbers (hchosen.perm (sort_perm _)) hchosen ?_
  exact places_sort_of_pairwise hchosen (highest.outermost_chosen h count).ordered

end Side

/-! ## Programs with two numbers and an array -/

/-- The values that the programs are given. -/
def given (n m : Float) (xs : List Float) : List (Text × Value) :=
  [(.ofString "n", .number n), (.ofString "m", .number m), (.ofString "xs", .ofNumbers xs)]

section Programs

variable {n m : Float} {xs : List Float}

theorem refusal?_numbers (xs : List Float) : Guard.numbers.refusal? (.ofNumbers xs) = none := by
  simp [Value.ofNumbers, Guard.refusal?, Value.isNumber]

/-! ### Calls -/

theorem callGives_sort (xs : List Float) :
    CallGives 0 (.primitive (Registry.operation "sort" [.numbers] .sort) []) (.ofNumbers xs)
      (.ofNumbers (sort xs)) := by
  refine returns_operation .numbers rfl (refusal?_numbers xs) (Nat.le_of_eq rfl) rfl ?_
  simp only [List.nil_append, Operation.apply, Value.ofNumbers, Operation.onList,
    Value.mapM_number?_numbers]

theorem callGives_chosen (side : Side) {x : Float} {k : Int} (h : Binary.roundHalfUp? x = some k)
    (xs : List Float) :
    CallGives 0 (.primitive side.primitive [.number x]) (.ofNumbers xs)
      (.ofNumbers (side.chosen k.toNat xs)) := by
  cases side with
  | highest | lowest =>
      refine returns_operation .numbers rfl (refusal?_numbers xs) (Nat.le_of_eq rfl) rfl ?_
      simp only [List.singleton_append, Operation.apply, Value.ofNumbers, Operation.onCounted,
        Value.mapM_number?_numbers, repetitions_eq h]
      rfl

theorem callGives_partial (side : Side) (x : Float) :
    CallGives 0 (.primitive side.primitive []) (.number x)
      (.function (.primitive side.primitive [.number x])) := by
  cases side with
  | highest | lowest => exact returns_partial .number rfl rfl (by decide)

/-- The primitive `drop`. -/
def dropPrimitive : Primitive :=
  Registry.combinator "drop" [.function, .array] .drop

theorem callGives_dropped (side : Side) {x : Float} {k : Int} (h : Binary.roundHalfUp? x = some k)
    {xs kept : List Float}
    (hkept : Tally.remove ((side.chosen k.toNat xs).map .number) (xs.map .number) = kept.map .number) :
    CallGives 3 (.primitive dropPrimitive [.function (.primitive side.primitive [.number x])])
      (.ofNumbers xs) (.ofNumbers kept) := by
  have hdrop := returns_drop (p := dropPrimitive) (callGives_chosen side h xs) rfl rfl
  rwa [hkept] at hdrop

/-! ### Trees -/

/-- The environment of the programs. -/
abbrev scope (n m : Float) (xs : List Float) : Env :=
  rootEnvironment .standard (given n m xs)

/-- The tree of a side's function with a name for the count. -/
def Side.tree (side : Side) (x : Text) (start : Nat) : Expr :=
  let width := side.primitive.name.length
  .apply ⟨start, start + width + 2⟩ (.name ⟨start, start + width⟩ side.primitive.name)
    (.name ⟨start + width + 1, start + width + 2⟩ x)

/-- The tree of a selection from the array. -/
def Side.chosenTree (side : Side) (x : Text) (start : Nat) : Expr :=
  let width := side.primitive.name.length
  .apply ⟨start, start + width + 6⟩ (side.tree x start)
    (.name ⟨start + width + 4, start + width + 6⟩ (.ofString "xs"))

/-- The tree of `drop` with a selection from the array. -/
def Side.droppedTree (side : Side) (x : Text) (start : Nat) : Expr :=
  let width := side.primitive.name.length
  .apply ⟨start, start + width + 13⟩
    (.apply ⟨start, start + width + 9⟩ (.name ⟨start, start + 4⟩ (.ofString "drop"))
      (side.tree x (start + 6)))
    (.name ⟨start + width + 11, start + width + 13⟩ (.ofString "xs"))

variable (side : Side) {x : Text} {c : Float} {k : Int}

theorem gives_sort (whole callee : Span) {e : Expr} {ys : List Float}
    (h : Gives (scope n m xs) e (.ofNumbers ys)) :
    Gives (scope n m xs) (.apply whole (.name callee (.ofString "sort")) e) (.ofNumbers (sort ys)) :=
  gives_apply (gives_name rfl) h (Nat.zero_le 3) (callGives_sort ys)

theorem gives_partial (hx : (scope n m xs).lookup x = some (.number c)) (start : Nat) :
    Gives (scope n m xs) (side.tree x start) (.function (.primitive side.primitive [.number c])) := by
  have hside : (scope n m xs).lookup side.primitive.name =
      some (.function (.primitive side.primitive [])) := by
    cases side <;> rfl
  exact gives_apply (gives_name hside) (gives_name hx) (Nat.zero_le 3) (callGives_partial side c)

theorem gives_chosen (hx : (scope n m xs).lookup x = some (.number c))
    (hk : Binary.roundHalfUp? c = some k) (start : Nat) :
    Gives (scope n m xs) (side.chosenTree x start) (.ofNumbers (side.chosen k.toNat xs)) :=
  gives_apply (gives_partial side hx start) (gives_name rfl) (Nat.zero_le 3) (callGives_chosen side hk xs)

theorem gives_dropped (hx : (scope n m xs).lookup x = some (.number c))
    (hk : Binary.roundHalfUp? c = some k) {kept : List Float}
    (hkept : Tally.remove ((side.chosen k.toNat xs).map .number) (xs.map .number) = kept.map .number)
    (start : Nat) : Gives (scope n m xs) (side.droppedTree x start) (.ofNumbers kept) := by
  have hpartial : CallGives 0 (.primitive dropPrimitive [])
      (.function (.primitive side.primitive [.number c]))
      (.function (.primitive dropPrimitive [.function (.primitive side.primitive [.number c])])) :=
    returns_partial .function rfl rfl (by decide)
  exact gives_apply (gives_apply (gives_name rfl) (gives_partial side hx _) (Nat.zero_le 3) hpartial)
    (gives_name rfl) (Nat.le_refl 3) (callGives_dropped side hk hkept)

theorem lookup_n (n m : Float) (xs : List Float) :
    (scope n m xs).lookup (.ofString "n") = some (.number n) :=
  rfl

theorem lookup_m (n m : Float) (xs : List Float) :
    (scope n m xs).lookup (.ofString "m") = some (.number m) :=
  rfl

end Programs

/-- `sort` only changes the order of numbers. Of numbers without a NaN `highest` takes the greatest in
ascending order and `lowest` the least in descending order, as many as the rounded count says if there are so
many; and what `drop` leaves of the array when one of them selects is, in order, equal to what the other
takes when it takes as many as are left. The inner parentheses of the programs keep their commas from
separating arguments of `sort`. -/
theorem selections_complement (n m : Float) (xs : List Float) :
    (∃ sorted, ProgramGives (given n m xs) "sort xs" (.ofNumbers sorted) ∧ sorted.Perm xs) ∧
    (NanFree xs → n.isFinite = true →
      ∃ k highest lowest, Binary.roundHalfUp? n = some k ∧
        (ProgramGives (given n m xs) "highest n, xs" (.ofNumbers highest) ∧
          Outermost (· ≤ ·) k.toNat xs highest) ∧
        (ProgramGives (given n m xs) "lowest n, xs" (.ofNumbers lowest) ∧
          Outermost (· ≥ ·) k.toNat xs lowest) ∧
        (k.toNat ≤ xs.length → Binary.roundHalfUp? m = some ((xs.length : Int) - k.toNat) →
          (∃ v w, ProgramGives (given n m xs) "sort ((drop (lowest n), xs))" v ∧
            ProgramGives (given n m xs) "highest m, xs" w ∧ v.equal w = true) ∧
          ∃ v w, ProgramGives (given n m xs) "sort ((drop (highest n), xs))" v ∧
            ProgramGives (given n m xs) "sort ((lowest m, xs))" w ∧ v.equal w = true) ∧
        (xs.length < k.toNat →
          ProgramGives (given n m xs) "drop (lowest n), xs" (.array []) ∧
          ProgramGives (given n m xs) "drop (highest n), xs" (.array []))) := by
  have hn := lookup_n n m xs
  have hm := lookup_m n m xs
  refine ⟨⟨sort xs, ?_, sort_perm xs⟩, fun hnan hfinite => ?_⟩
  · have hxs : Gives (scope n m xs) (.name ⟨5, 7⟩ (.ofString "xs")) (.ofNumbers xs) := gives_name rfl
    exact (gives_sort ⟨0, 7⟩ ⟨0, 4⟩ hxs).program (by cbv)
  · obtain ⟨k, hk⟩ := exists_roundHalfUp hfinite
    obtain ⟨high, hhigh, hhighLength, hhighEqual⟩ := Side.lowest.exists_complement hnan k.toNat
    obtain ⟨low, hlow, hlowLength, hlowEqual⟩ := Side.highest.exists_complement hnan k.toNat
    have hhighest := gives_chosen .highest hn hk 0
    have hlowest := gives_chosen .lowest hn hk 0
    refine ⟨k, _, _, hk, ⟨hhighest.program (by cbv), Side.highest.outermost_chosen hnan _⟩,
      ⟨hlowest.program (by cbv), Side.lowest.outermost_chosen hnan _⟩, fun hcount hleft => ⟨?_, ?_⟩,
      fun hmany => ?_⟩
    · have hchosen := gives_chosen .highest hm hleft 0
      have hdropped := gives_sort ⟨0, 28⟩ ⟨0, 4⟩ (gives_dropped .lowest hn hk hhigh 7)
      rw [Int.toNat_sub] at hchosen
      exact ⟨_, _, hdropped.program (by cbv), hchosen.program (by cbv),
        Value.equal_trans hhighEqual (Side.sort_highest_equal hnan _)⟩
    · have hchosen := gives_chosen .lowest hm hleft 7
      have hdropped := gives_sort ⟨0, 29⟩ ⟨0, 4⟩ (gives_dropped .highest hn hk hlow 7)
      rw [Int.toNat_sub] at hchosen
      exact ⟨_, _, hdropped.program (by cbv), (gives_sort ⟨0, 21⟩ ⟨0, 4⟩ hchosen).program (by cbv),
        hlowEqual⟩
    · -- Nothing is left of the array.
      obtain rfl : high = [] := List.eq_nil_of_length_eq_zero (by omega)
      obtain rfl : low = [] := List.eq_nil_of_length_eq_zero (by omega)
      exact ⟨(gives_dropped .lowest hn hk hhigh 0).program (by cbv),
        (gives_dropped .highest hn hk hlow 0).program (by cbv)⟩

/-- Two of three numbers are dropped and the third one is left. -/
theorem two_of_three_complement :
    ∃ v w, ProgramGives (given 2 1 [3, 1, 2]) "sort ((drop (lowest n), xs))" v ∧
      ProgramGives (given 2 1 [3, 1, 2]) "highest m, xs" w ∧ v.equal w = true := by
  have hnan : NanFree [3, 1, 2] := by
    intro x hx
    simp only [List.mem_cons, List.not_mem_nil, or_false] at hx
    rcases hx with rfl | rfl | rfl <;> rfl
  obtain ⟨-, hselected⟩ := selections_complement 2 1 [3, 1, 2]
  obtain ⟨k, _, _, hk, -, -, hcomplement, -⟩ := hselected hnan rfl
  obtain rfl : 2 = k := Option.some.inj hk
  exact (hcomplement (by decide) rfl).1

end RollScript

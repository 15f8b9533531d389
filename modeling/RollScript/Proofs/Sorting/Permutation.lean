import Mathlib.Data.List.Perm.Basic
import RollScript.Sorting.Runs

/-!
# Sorting by runs keeps the elements

Read `sortByRuns_perm` first: whatever the comparison says, sorting by runs only changes the order. Where a
search ends and which run is merged first decide the order and nothing else, so the lemmas below hold for
every answer of `boundary` and `halve`. Each says for one function how many elements satisfy a test.
-/

namespace RollScript.Sorting

variable {α : Type} (below : α → α → Bool) (p : α → Bool)

/-- What is taken from a list and what is left of it make up the list. -/
theorem countP_take_drop (count : Nat) (items : List α) :
    (items.take count).countP p + (items.drop count).countP p = items.countP p := by
  rw [← List.countP_append, List.take_append_drop]

/-! ## Merging -/

theorem countP_forwardRest {left right rest : List α} (h : forwardRest left right = some rest) :
    rest.countP p = left.countP p + right.countP p := by
  revert h
  fun_cases forwardRest left right <;> intro h
  · obtain rfl := Option.some.inj h
    simp
  · obtain rfl := Option.some.inj h
    simp
  · obtain rfl := Option.some.inj h
    simp [List.countP_cons]
    omega
  · cases h

theorem countP_backwardRest {left right rest : List α} (h : backwardRest left right = some rest) :
    rest.countP p = left.countP p + right.countP p := by
  revert h
  fun_cases backwardRest left right <;> intro h
  · obtain rfl := Option.some.inj h
    simp
  · obtain rfl := Option.some.inj h
    simp
  · obtain rfl := Option.some.inj h
    simp [List.countP_cons]
  · cases h

theorem countP_mergeForward (rounds patience : Nat) (pace : Pace) (done left right : List α) :
    (mergeForward below rounds patience pace done left right).1.countP p =
      done.countP p + left.countP p + right.countP p := by
  induction rounds generalizing patience pace done left right with
  | zero => simp [mergeForward, Nat.add_assoc]
  | succ rounds ih =>
      unfold mergeForward
      split
      · next rest hrest => simp [countP_forwardRest p hrest, Nat.add_assoc]
      · next x left y right _ =>
          cases pace with
          | single leftWins rightWins =>
              dsimp only
              split <;> rw [ih] <;> simp only [List.countP_cons] <;> omega
          | searching fresh =>
              dsimp only
              generalize lowered fresh patience = patience
              -- Where the search ends does not matter: any split keeps the elements.
              generalize boundary (fun z => !below y z) (x :: left).toArray 0 = count
              have hleft := countP_take_drop p count (x :: left)
              generalize List.take count (x :: left) = taken at hleft ⊢
              generalize List.drop count (x :: left) = kept at hleft ⊢
              rw [← hleft]
              split
              · next rest hrest => simp [countP_forwardRest p hrest, List.countP_cons]; omega
              · split
                · next rest hrest => simp [countP_forwardRest p hrest, List.countP_cons]; omega
                · simp [List.countP_cons]; omega
                · next z kept _ _ =>
                    generalize boundary (fun x => below x z) right.toArray 0 = count'
                    have hright := countP_take_drop p count' right
                    split
                    · next rest hrest => simp [countP_forwardRest p hrest, List.countP_cons]; omega
                    · next rest _ hrest => simp [countP_forwardRest p hrest, List.countP_cons]; omega
                    · split <;> rw [ih] <;> simp [List.countP_cons] <;> omega
      · simp [Nat.add_assoc]

theorem countP_mergeBackward (rounds patience : Nat) (pace : Pace) (done left right : List α) :
    (mergeBackward below rounds patience pace done left right).1.countP p =
      done.countP p + left.countP p + right.countP p := by
  induction rounds generalizing patience pace done left right with
  | zero => simp [mergeBackward]; omega
  | succ rounds ih =>
      unfold mergeBackward
      split
      · next rest hrest => simp [countP_backwardRest p hrest]; omega
      · next x left y right _ =>
          cases pace with
          | single leftWins rightWins =>
              dsimp only
              split <;> rw [ih] <;> simp only [List.countP_cons] <;> omega
          | searching fresh =>
              dsimp only
              generalize lowered fresh patience = patience
              generalize (x :: left).length - boundary (fun z => !below y z)
                (x :: left).reverse.toArray ((x :: left).length - 1) = count
              have hleft := countP_take_drop p count (x :: left)
              generalize List.take count (x :: left) = taken at hleft ⊢
              generalize List.drop count (x :: left) = kept at hleft ⊢
              rw [← hleft]
              split
              · next rest hrest => simp [countP_backwardRest p hrest, List.countP_cons]; omega
              · split
                · next rest hrest => simp [countP_backwardRest p hrest, List.countP_cons]; omega
                · simp [List.countP_cons]; omega
                · next z kept _ _ =>
                    generalize right.length - boundary (fun x => below x z) right.reverse.toArray
                      (right.length - 1) = count'
                    have hright := countP_take_drop p count' right
                    split
                    · next rest hrest => simp [countP_backwardRest p hrest, List.countP_cons]; omega
                    · next rest _ hrest => simp [countP_backwardRest p hrest, List.countP_cons]; omega
                    · split <;> rw [ih] <;> simp [List.countP_cons] <;> omega
      · simp; omega

theorem countP_mergeOverlap (patience : Nat) (left right : List α) :
    (mergeOverlap below patience left right).1.countP p = left.countP p + right.countP p := by
  have hleft := countP_take_drop p 1 left.reverse
  have hright := countP_take_drop p 1 right
  unfold mergeOverlap
  dsimp only
  split
  · rw [countP_mergeForward]
    omega
  · rw [countP_mergeBackward, List.countP_reverse (l := right), hleft, List.countP_reverse]

theorem countP_mergeRuns (patience : Nat) (left right : List α) :
    (mergeRuns below patience left right).1.countP p = left.countP p + right.countP p := by
  unfold mergeRuns
  split
  · next y x _ _ =>
      dsimp only
      generalize boundary (fun z => !below y z) left.toArray 0 = kept
      generalize boundary (fun z => below z x) right.toArray (right.length - 1) = moved
      have hleft := countP_take_drop p kept left
      have hright := countP_take_drop p moved right
      split
      · rw [List.countP_append]
      · rw [List.countP_append, List.countP_append, countP_mergeOverlap]
        omega
  · rw [List.countP_append]

/-! ## Finding runs -/

theorem ascendingRun_append (last : α) (items : List α) :
    (ascendingRun below last items).1 ++ (ascendingRun below last items).2 = items := by
  fun_induction ascendingRun below last items with
  | case1 => rfl
  | case2 => rfl
  | case3 last x rest _ run later heq ih =>
      rw [heq] at ih
      exact congrArg (x :: ·) ih

theorem descendingRun_append (last : α) (items : List α) :
    (descendingRun below last items).1 ++ (descendingRun below last items).2 = items := by
  fun_induction descendingRun below last items with
  | case1 => rfl
  | case2 last x rest _ run later heq ih =>
      rw [heq] at ih
      exact congrArg (x :: ·) ih
  | case3 => rfl

theorem countP_firstRun (items : List α) :
    (firstRun below items).1.countP p + (firstRun below items).2.countP p = items.countP p := by
  fun_cases firstRun below items with
  | case1 => rfl
  | case2 x => rfl
  | case3 x y rest _ run later heq =>
      have happend := descendingRun_append below y rest
      rw [heq] at happend
      simp only [← happend, List.countP_reverse, List.countP_cons, List.countP_append]
      omega
  | case4 x y rest _ run later heq =>
      have happend := ascendingRun_append below y rest
      rw [heq] at happend
      simp only [← happend, List.countP_cons, List.countP_append]
      omega

theorem countP_insertByHalving (run : List α) (x : α) :
    (insertByHalving below run x).countP p = run.countP p + [x].countP p := by
  unfold insertByHalving
  dsimp only
  generalize halve (isFront (fun z => !below x z) run.toArray) run.length 0 run.length = index
  have hrun := countP_take_drop p index run
  simp only [List.countP_append, List.countP_cons, List.countP_nil]
  omega

theorem countP_foldl_insertByHalving (run items : List α) :
    (items.foldl (insertByHalving below) run).countP p = run.countP p + items.countP p := by
  induction items generalizing run with
  | nil => rfl
  | cons x rest ih =>
      rw [List.foldl_cons, ih, countP_insertByHalving, Nat.add_assoc, ← List.countP_append]
      rfl

theorem countP_nextRun (minimum : Nat) (items : List α) :
    (nextRun below minimum items).1.countP p + (nextRun below minimum items).2.countP p =
      items.countP p := by
  have hfirst := countP_firstRun below p items
  have hlater := countP_take_drop p (minimum - (firstRun below items).1.length) (firstRun below items).2
  unfold nextRun
  dsimp only
  rw [countP_foldl_insertByHalving]
  omega

/-! ## The stack of runs -/

/-- How many elements of the runs on a stack satisfy a test. -/
def waiting (p : α → Bool) : List (Pending α) → Nat
  | [] => 0
  | pending :: stack => pending.run.countP p + waiting p stack

theorem countP_runs (stack : List (Pending α)) :
    ((stack.reverse.map Pending.run).flatten).countP p = waiting p stack := by
  induction stack with
  | nil => rfl
  | cons pending stack ih =>
      have hlast : (List.map Pending.run [pending]).flatten = pending.run := List.append_nil _
      rw [List.reverse_cons, List.map_append, List.flatten_append, List.countP_append, ih, hlast,
        Nat.add_comm, waiting]

theorem countP_absorb (depth : Nat) (run : List α) (stack : List (Pending α)) (patience : Nat) :
    (absorb below depth run stack patience).1.countP p +
        waiting p (absorb below depth run stack patience).2.1 =
      run.countP p + waiting p stack := by
  fun_induction absorb below depth run stack patience with
  | case1 => rfl
  | case2 run pending stack patience _ merged later heq ih =>
      have hmerged := countP_mergeRuns below p patience pending.run run
      rw [heq] at hmerged
      rw [ih, hmerged, waiting]
      omega
  | case3 => rfl

theorem waiting_pushRun (size : Nat) (run : List α) (stack : List (Pending α)) (patience : Nat) :
    waiting p (pushRun below size run stack patience).1 = run.countP p + waiting p stack := by
  cases stack with
  | nil => rfl
  | cons top stack =>
      unfold pushRun
      dsimp only
      generalize halvings size (size + 1) (2 * startAfter stack + top.run.length)
        (2 * startAfter stack + top.run.length + top.run.length + run.length) = depth
      rw [waiting, waiting, waiting]
      exact congrArg (run.countP p + ·) (countP_absorb below p depth top.run stack patience)

theorem waiting_pushRuns (size minimum rounds : Nat) (items : List α) (stack : List (Pending α))
    (patience : Nat) :
    waiting p (pushRuns below size minimum rounds items stack patience).1 =
      items.countP p + waiting p stack := by
  fun_induction pushRuns below size minimum rounds items stack patience with
  | case1 => exact rfl
  | case2 => exact (Nat.zero_add _).symm
  | case3 rounds items stack patience _ run later heq stack' patience' hpush ih =>
      have hnext := countP_nextRun below p minimum items
      have hpushed := waiting_pushRun below p size run stack patience
      simp only [heq] at hnext
      simp only [hpush] at hpushed
      rw [ih, hpushed]
      omega

theorem countP_collapse (rounds : Nat) (stack : List (Pending α)) (patience : Nat) :
    (collapse below rounds stack patience).countP p = waiting p stack := by
  fun_induction collapse below rounds stack patience with
  | case1 rounds first second third stack patience _ merged later heq ih =>
      have hmerged := countP_mergeRuns below p patience third.run second.run
      rw [heq] at hmerged
      rw [ih, waiting, waiting, hmerged, waiting, waiting, waiting]
      omega
  | case2 rounds first second third stack patience _ merged later heq ih =>
      have hmerged := countP_mergeRuns below p patience second.run first.run
      rw [heq] at hmerged
      rw [ih, waiting, waiting, hmerged, waiting, waiting, waiting]
      omega
  | case3 rounds first second patience =>
      rw [countP_mergeRuns, waiting, waiting, Nat.add_comm]
      rfl
  | case4 _ stack => exact countP_runs p stack

/-- A list sorted by runs has the elements that it had. -/
theorem sortByRuns_perm (below : α → α → Bool) (items : List α) :
    (sortByRuns below items).Perm items := by
  classical
  refine List.perm_iff_count.2 fun x => ?_
  show (sortByRuns below items).countP (· == x) = items.countP (· == x)
  unfold sortByRuns
  dsimp only
  rw [countP_collapse, waiting_pushRuns]
  rfl

end RollScript.Sorting

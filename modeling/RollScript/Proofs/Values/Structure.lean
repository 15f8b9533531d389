import RollScript.Proofs.Evaluation.Applications
import RollScript.Proofs.Values.Equivalence

/-!
# Equality as a matter of structure

`Matches` says of two values that they have the same shape and equal numbers and strings in the same places.
Read `equality_is_structural` first: the list of pairs that equality works through, the recursion over the two
values and the operators of the language all decide this, and it is a relation that lacks nothing but
reflexivity to be an equivalence.
-/

namespace RollScript

namespace Value

/-- Two values match if they are equal numbers, the same string or both the unit, or if they are arrays of as
many elements that match one by one. Nothing matches a function. -/
inductive Matches : Value → Value → Prop where
  | number {x y : Float} : (x == y) = true → Matches (.number x) (.number y)
  | string (s : Text) : Matches (.string s) (.string s)
  | unit : Matches .unit .unit
  | array {items others : List Value} :
      List.Forall₂ Matches items others → Matches (.array items) (.array others)

theorem sameScalar_iff_matches (v w : Value) (h : ∀ items, v ≠ .array items) :
    sameScalar v w = true ↔ v.Matches w := by
  constructor
  · intro hscalar
    cases v <;> cases w <;> simp only [sameScalar, Bool.false_eq_true] at hscalar
    · exact .number hscalar
    · rw [beq_iff_eq.1 hscalar]
      exact .string _
    · exact .unit
  · intro hmatches
    cases hmatches with
    | number hnumber => exact hnumber
    | string s => exact beq_self_eq_true s
    | unit => rfl
    | array => exact absurd rfl (h _)

mutual

/-- The recursion over two values decides whether they match. -/
theorem same_iff_matches : ∀ v w : Value, v.same w = true ↔ v.Matches w
  | .array items, w => by
      rw [same_iff]
      constructor
      · rintro (⟨_, others, heq, rfl, hitems⟩ | hscalar)
        · obtain rfl := Value.array.inj heq
          exact .array ((sameItems_iff_matches items others).1 hitems)
        · cases w <;> cases hscalar
      · rintro ⟨⟩
        next others hitems =>
          exact .inl ⟨items, others, rfl, rfl, (sameItems_iff_matches items others).2 hitems⟩
  | .number x, w => sameScalar_iff_matches (.number x) w (by simp)
  | .string s, w => sameScalar_iff_matches (.string s) w (by simp)
  | .unit, w => sameScalar_iff_matches .unit w (by simp)
  | .function f, w => sameScalar_iff_matches (.function f) w (by simp)

theorem sameItems_iff_matches : ∀ items others : List Value,
    sameItems items others = true ↔ List.Forall₂ Matches items others
  | [], [] => iff_of_true rfl .nil
  | [], _ :: _ => iff_of_false (by simp [sameItems]) (by simp)
  | _ :: _, [] => iff_of_false (by simp [sameItems]) (by simp)
  | v :: items, w :: others => by
      rw [sameItems_cons, List.forall₂_cons, same_iff_matches v w, sameItems_iff_matches items others]

end

/-- Working through a list of pairs decides whether all of them match. -/
theorem equalPairs_iff_matches (pairs : List (Value × Value)) :
    equalPairs pairs = true ↔ ∀ pair ∈ pairs, pair.1.Matches pair.2 := by
  rw [equalPairs_eq, List.all_eq_true]
  exact forall₂_congr fun pair _ => same_iff_matches pair.1 pair.2

/-! ## The operators -/

/-- The values of the programs' names. -/
def operands (v w : Value) : List (Text × Value) :=
  [(.ofString "a", v), (.ofString "b", w)]

/-- An operator on any two values gives what it computes of them. -/
theorem gives_operator (name : String) (op : Operation) {v w result : Value}
    (whole part place first second : Span)
    (hlookup : (rootEnvironment .standard (operands v w)).lookup (.ofString name) =
      some (.function (.primitive (Registry.operation name [.any, .any] op) [])))
    (hop : op.apply [v, w] = .ok result) :
    Gives (rootEnvironment .standard (operands v w))
      (.apply whole
        (.apply part (.name place (.ofString name)) (.name first (.ofString "a")))
        (.name second (.ofString "b"))) result := by
  have hpartial : CallGives 0 (.primitive (Registry.operation name [.any, .any] op) []) v
      (.function (.primitive (Registry.operation name [.any, .any] op) [v])) :=
    returns_partial .any rfl rfl (Nat.lt_succ_self 1)
  have hfull : CallGives 0 (.primitive (Registry.operation name [.any, .any] op) [v]) w result :=
    returns_operation .any rfl rfl (Nat.le_refl 2) rfl hop
  have hleft : Gives (rootEnvironment .standard (operands v w))
      (.apply part (.name place (.ofString name)) (.name first (.ofString "a")))
      (.function (.primitive (Registry.operation name [.any, .any] op) [v])) :=
    gives_apply (gives_name hlookup) (gives_name rfl) (Nat.zero_le 3) hpartial
  exact gives_apply hleft (gives_name rfl) (Nat.zero_le 3) hfull

theorem equal_program (v w : Value) : ProgramGives (operands v w) "a = b" (.ofBool (v.equal w)) :=
  (gives_operator "=" .equal ⟨0, 5⟩ ⟨0, 3⟩ ⟨2, 3⟩ ⟨0, 1⟩ ⟨4, 5⟩ rfl rfl).program (by cbv)

theorem notEqual_program (v w : Value) : ProgramGives (operands v w) "a != b" (.ofBool (!v.equal w)) :=
  (gives_operator "!=" .notEqual ⟨0, 6⟩ ⟨0, 4⟩ ⟨2, 4⟩ ⟨0, 1⟩ ⟨5, 6⟩ rfl rfl).program (by cbv)

end Value

open Value

/-- For any two values the list of pairs that equality works through, the recursion over the values and the
operators `=` and `!=` agree, and they say whether the values match. Equality is symmetric and transitive, and
the values that equal themselves are those without a function and without a NaN at any depth. -/
theorem equality_is_structural :
    (∀ v w : Value, v.equal w = v.same w ∧ (v.equal w = true ↔ v.Matches w) ∧
      ProgramGives (operands v w) "a = b" (.ofBool (v.same w)) ∧
      ProgramGives (operands v w) "a != b" (.ofBool (!v.same w))) ∧
    (∀ pairs, equalPairs pairs = true ↔ ∀ pair ∈ pairs, pair.1.Matches pair.2) ∧
    (∀ v w : Value, v.equal w = w.equal v) ∧
    (∀ u v w : Value, u.equal v = true → v.equal w = true → u.equal w = true) ∧
    ∀ v : Value, v.equal v = true ↔ ¬ v.Incomparable := by
  refine ⟨fun v w => ?_, equalPairs_iff_matches, equal_comm, fun u v w => equal_trans,
    fun v => equal_self_iff⟩
  have hequal := equal_program v w
  have hnotEqual := notEqual_program v w
  rw [equal_eq_same] at hequal hnotEqual
  rw [equal_eq_same]
  exact ⟨rfl, same_iff_matches v w, hequal, hnotEqual⟩

end RollScript

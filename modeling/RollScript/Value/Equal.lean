import RollScript.Value.Basic

/-!
# Equality of values

Numbers are compared by the rules of floating point, strings by their code points, and arrays
element by element. Values of different kinds are unequal, and a function is unequal to everything,
itself included. `Value.same` says this by recursion; `Value.equal` decides it with an explicit list
of pairs still to be compared.
-/

namespace RollScript.Value

/-- Equality of two values of which at most one is an array. -/
def sameScalar : Value → Value → Bool
  | number x, number y => x == y
  | string s, string t => s == t
  | unit, unit => true
  | _, _ => false

mutual

/-- Equality of two values. -/
def same : Value → Value → Bool
  | array items, array others => sameItems items others
  | v, w => sameScalar v w

/-- Equality of two sequences of values: as many elements, equal one by one. -/
def sameItems : List Value → List Value → Bool
  | [], [] => true
  | v :: rest, w :: others => v.same w && sameItems rest others
  | _, _ => false

end

/-- A measure of the work that a list of pairs stands for. -/
noncomputable def pairWork : List (Value × Value) → Nat
  | [] => 0
  | (v, _) :: rest => sizeOf v + pairWork rest

theorem pairWork_append (first second : List (Value × Value)) :
    pairWork (first ++ second) = pairWork first + pairWork second := by
  induction first with
  | nil => rw [List.nil_append, pairWork, Nat.zero_add]
  | cons pair rest ih => rw [List.cons_append, pairWork, pairWork, ih, Nat.add_assoc]

theorem pairWork_reverse (pairs : List (Value × Value)) :
    pairWork pairs.reverse = pairWork pairs := by
  induction pairs with
  | nil => rfl
  | cons pair rest ih =>
    rw [List.reverse_cons, pairWork_append, ih, pairWork, pairWork, pairWork]
    omega

theorem pairWork_zip (items others : List Value) : pairWork (items.zip others) ≤ sizeOf items := by
  induction items generalizing others with
  | nil => exact Nat.zero_le _
  | cons v rest ih =>
    cases others with
    | nil => exact Nat.zero_le _
    | cons w later =>
      have := ih later
      rw [List.zip_cons_cons, pairWork, List.cons.sizeOf_spec]
      omega

/-- Comparing the elements of two arrays is less work than comparing the arrays. -/
theorem pairWork_open (items others : List Value) (rest : List (Value × Value)) :
    pairWork ((items.zip others).reverse ++ rest) <
      pairWork ((array items, array others) :: rest) := by
  have := pairWork_zip items others
  rw [pairWork_append, pairWork_reverse, pairWork, array.sizeOf_spec]
  omega

/-- Comparing a pair leaves less work. -/
theorem pairWork_pair (v w : Value) (rest : List (Value × Value)) :
    pairWork rest < pairWork ((v, w) :: rest) := by
  have := v.sizeOf_pos
  rw [pairWork]
  omega

/-- Whether all pairs are equal. The elements of two arrays are compared before the pairs that were
waiting. -/
def equalPairs : List (Value × Value) → Bool
  | [] => true
  | (array items, array others) :: rest =>
    if items.length = others.length then equalPairs ((items.zip others).reverse ++ rest)
    else false
  | (v, w) :: rest => if sameScalar v w then equalPairs rest else false
termination_by pairs => pairWork pairs
decreasing_by
  · exact pairWork_open items others rest
  · exact pairWork_pair v w rest

/-- Whether two values are equal. -/
def equal (v w : Value) : Bool :=
  equalPairs [(v, w)]

end RollScript.Value

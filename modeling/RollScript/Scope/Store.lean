import RollScript.Text.Quoted
import RollScript.Value.Basic

/-!
# Scopes that change

A `ScopeStore` holds scopes by number, each with its own names and perhaps a parent made before it.
Names can be defined in a scope at any time, and scopes made inside it see them unless they define
the same name themselves.
-/

namespace RollScript

/-- A scope: its names with their values, the latest first, and its parent. -/
structure Scope where
  entries : List (Text × Value)
  parent : Option Nat

/-- Scopes by number, in the order in which they were made. -/
structure ScopeStore where
  scopes : List Scope

namespace ScopeStore

/-- The store without scopes. -/
def empty : ScopeStore := ⟨[]⟩

/-- Makes a scope with the given names, of which the last of equal ones counts, and gives it a
number. -/
def create (s : ScopeStore) (parent : Option Nat) (values : List (Text × Value)) :
    Nat × ScopeStore :=
  (s.scopes.length, ⟨s.scopes ++ [⟨values.reverse, parent⟩]⟩)

/-- Defines a name in a scope. -/
def define (s : ScopeStore) (id : Nat) (name : Text) (v : Value) : ScopeStore :=
  ⟨s.scopes.modify id fun scope => { scope with entries := (name, v) :: scope.entries }⟩

/-- The value of a name in a scope or in the nearest of `steps` scopes around it. -/
def lookupWithin (s : ScopeStore) (name : Text) : Nat → Nat → Option Value
  | 0, _ => none
  | steps + 1, id =>
    match s.scopes[id]? with
    | none => none
    | some scope =>
      match scope.entries.lookup name with
      | some v => some v
      | none => scope.parent.bind (lookupWithin s name steps)

/-- The value of a name in a scope: that of the nearest scope around it that defines the name. -/
def lookup (s : ScopeStore) (id : Nat) (name : Text) : Option Value :=
  s.lookupWithin name s.scopes.length id

/-- Whether a scope or one of `steps` scopes around it defines a name. -/
def containsWithin (s : ScopeStore) (name : Text) : Nat → Nat → Bool
  | 0, _ => false
  | steps + 1, id =>
    match s.scopes[id]? with
    | none => false
    | some scope =>
      if scope.entries.any (name == ·.1) then true
      else scope.parent.any (containsWithin s name steps)

/-- Whether a name has a value in a scope. -/
def contains (s : ScopeStore) (id : Nat) (name : Text) : Bool :=
  s.containsWithin name s.scopes.length id

/-- The names that a scope itself defines, in order of code point. -/
def names (s : ScopeStore) (id : Nat) : List Text :=
  match s.scopes[id]? with
  | none => []
  | some scope => (scope.entries.map Prod.fst).eraseDups.mergeSort Text.atMost

/-- The display of a scope: its own names, and whether it has a parent. -/
def display (s : ScopeStore) (id : Nat) : String :=
  let quoted := (s.names id).map Quoted.encode
  let inside := (s.scopes[id]?.bind Scope.parent).isSome
  "Environment([" ++ String.intercalate ", " quoted ++ "], parent=" ++
    (if inside then "True" else "False") ++ ")"

end ScopeStore

end RollScript

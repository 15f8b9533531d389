import RollScript.Data.Basic

/-!
# Tables of TOML

A table is a record that grows while a document is read. A path of names leads from a table through
the tables in it; at a list of tables it goes on in the last one. `Marks` remember which paths may not
be changed or opened again.
-/

namespace RollScript.Toml

/-- The fields of a table. -/
abbrev Fields := List (Text × Data)

/-- The way to a table or a value. -/
abbrev Path := List Text

/-- Fields with another value under a name that they have. -/
def replace (name : Text) (d : Data) (fields : Fields) : Fields :=
  fields.map fun (key, old) => if key = name then (key, d) else (key, old)

/-- Changes the table at the end of a path, and makes the tables on the way that are not there. Paths
enter the last table of a list only if `enter` says so. -/
def changeAt (enter : Bool) (change : Fields → Option Fields) : Path → Fields → Option Fields
  | [], fields => change fields
  | name :: path, fields =>
    match fields.lookup name with
    | none =>
      (changeAt enter change path []).map fun inner => fields ++ [(name, .record inner)]
    | some (.record inner) =>
      (changeAt enter change path inner).map fun inner => replace name (.record inner) fields
    | some (.list items) =>
      match enter, items.getLast? with
      | true, some (.record inner) =>
        (changeAt enter change path inner).map fun inner =>
          replace name (.list (items.dropLast ++ [.record inner])) fields
      | _, _ => none
    | some _ => none

/-- Adds a field whose name is not there yet. -/
def add (name : Text) (d : Data) (fields : Fields) : Option Fields :=
  if (fields.lookup name).isSome then none else some (fields ++ [(name, d)])

/-- Adds an empty table to the list of a name, which is made if it is not there. -/
def addTable (name : Text) (fields : Fields) : Option Fields :=
  match fields.lookup name with
  | none => some (fields ++ [(name, .list [.record []])])
  | some (.list items) => some (replace name (.list (items ++ [.record []])) fields)
  | some _ => none

/-- A path without its last name, and that name. -/
def splitLast : Path → Option (Path × Text)
  | [] => none
  | [name] => some ([], name)
  | name :: path => (splitLast path).map fun (parent, last) => (name :: parent, last)

/-- Puts a value at the end of a path, where nothing may stand yet. -/
def put (enter : Bool) (d : Data) (path : Path) (fields : Fields) : Option Fields := do
  let (parent, name) ← splitLast path
  changeAt enter (add name d) parent fields

/-- What may not be done with the paths of a document. -/
structure Marks where
  /-- Values that are complete, with all that is in them. -/
  frozen : List Path := []
  /-- Tables that may not be opened again. -/
  closed : List Path := []
  /-- Tables that may not be opened again after the present one. -/
  pending : List Path := []

namespace Marks

/-- Whether a path leads to or into a value that is complete. -/
def isFrozen (m : Marks) (path : Path) : Bool :=
  m.frozen.any (·.isPrefixOf path)

/-- Whether a table may not be opened again. -/
def isClosed (m : Marks) (path : Path) : Bool :=
  m.closed.contains path

/-- Marks a value as complete. -/
def freeze (m : Marks) (path : Path) : Marks :=
  { m with frozen := path :: m.frozen }

/-- Marks a table that may not be opened again. -/
def close (m : Marks) (path : Path) : Marks :=
  { m with closed := path :: m.closed }

/-- Marks tables that may not be opened again when the present one ends. -/
def closeLater (m : Marks) (paths : List Path) : Marks :=
  { m with pending := paths ++ m.pending }

/-- The marks when the present table ends. -/
def settle (m : Marks) : Marks :=
  { m with closed := m.pending ++ m.closed, pending := [] }

/-- Forgets the marks of a path and of all paths that go on from it. -/
def forget (m : Marks) (path : Path) : Marks :=
  { m with
    frozen := m.frozen.filter fun marked => !path.isPrefixOf marked
    closed := m.closed.filter fun marked => !path.isPrefixOf marked }

end Marks

end RollScript.Toml

import RollScript.Data.Toml.Value

/-!
# Documents of TOML

`Toml.read` reads a document as data, one statement after the other: a table header, the header of one
more table of a list, or a key with its value. A key, a table or a complete value may be given only
once, and a dotted key may not change a table that had a header.
-/

namespace RollScript.Toml

/-- What has been read of a document: its fields, the path of the present table, and what may not be
done any more. -/
structure Document where
  fields : Fields := []
  table : Path := []
  marks : Marks := {}

/-- Reads a table header after its opening bracket. -/
def tableHeader (d : Document) (t : Text) : Option (Document × Text) := do
  let (path, rest) ← key (t.length + 1) (skipBlanks t)
  if d.marks.isClosed path || d.marks.isFrozen path then none
  else
    let fields ← changeAt true some path d.fields
    match rest with
    | .scalar ']' :: rest => some (⟨fields, path, d.marks.close path⟩, rest)
    | _ => none

/-- Reads the header of one more table of a list, after its opening brackets. -/
def listHeader (d : Document) (t : Text) : Option (Document × Text) := do
  let (path, rest) ← key (t.length + 1) (skipBlanks t)
  let (parent, name) ← splitLast path
  if d.marks.isFrozen path then none
  else
    let fields ← changeAt true (addTable name) parent d.fields
    match rest with
    | .scalar ']' :: .scalar ']' :: rest =>
      some (⟨fields, path, (d.marks.forget path).close path⟩, rest)
    | _ => none

/-- The paths of the tables that a dotted key goes through, inside a table. -/
def passed (table : Path) : Path → List Path
  | [] => []
  | [_] => []
  | name :: path => (table ++ [name]) :: passed (table ++ [name]) path

/-- Adds a key with its value to the present table. -/
def define (d : Document) (path : Path) (v : Data) : Option Document := do
  let (parent, _) ← splitLast path
  if (passed d.table path).any d.marks.isClosed || d.marks.isFrozen (d.table ++ parent) then none
  else
    let fields ← put true v (d.table ++ path) d.fields
    let marks := d.marks.closeLater (passed d.table path)
    let marks := if isCompound v then marks.freeze (d.table ++ path) else marks
    return { d with fields, marks }

/-- Reads a statement at the front of a text. A comment is left to be skipped. -/
def statement (d : Document) (t : Text) : Except Problem (Document × Text) :=
  match t with
  | .scalar '[' :: .scalar '[' :: rest =>
    require (listHeader { d with marks := d.marks.settle } rest)
  | .scalar '[' :: rest => require (tableHeader { d with marks := d.marks.settle } rest)
  | .scalar '#' :: _ => .ok (d, t)
  | _ => do
    let ((path, v), rest) ← pair (value nestingRoom nestingRoom) t
    return (← require (define d path v), rest)

/-- Reads statements, each on lines of its own. -/
def statements : Nat → Document → Text → Except Problem Document
  | 0, d, _ => .ok d
  | rounds + 1, d, t =>
    match skipBlanks t with
    | [] => .ok d
    | .scalar '\n' :: rest => statements rounds d rest
    | t => do
      let (d, rest) ← statement d t
      match ← require (skipComment (skipBlanks rest)) with
      | [] => return d
      | .scalar '\n' :: rest => statements rounds d rest
      | _ => .error .malformed

/-- Carriage returns in front of line feeds do not count. -/
def dropReturns : Text → Text
  | .scalar '\r' :: .scalar '\n' :: rest => .scalar '\n' :: dropReturns rest
  | c :: rest => c :: dropReturns rest
  | [] => []

/-- Reads a document. -/
def read (t : Text) : Except Problem Data := do
  let document ← statements (t.length + 1) {} (dropReturns t)
  return .record document.fields

end RollScript.Toml

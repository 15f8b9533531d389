import RollScript.Text.CodePoint

/-!
# Paths and files

A path is shown in its normal form: without empty parts and without parts that name the directory they
stand in. One or three and more slashes in front make one slash, two stay two. `readPath` finds the text
of the file that a path leads to.
-/

namespace RollScript

/-- The parts of a path between its slashes. -/
def pathParts : Text → List Text
  | [] => [[]]
  | c :: rest =>
    if c = .scalar '/' then [] :: pathParts rest
    else
      match pathParts rest with
      | part :: later => (c :: part) :: later
      | [] => [[c]]

/-- The slashes in front of a path in normal form. -/
def rootOf (path : Text) : Text :=
  match (path.takeWhile (· = .scalar '/')).length with
  | 0 => []
  | 2 => [.scalar '/', .scalar '/']
  | _ => [.scalar '/']

/-- The normal form of a path. -/
def normalPath (path : Text) : Text :=
  let parts := (pathParts path).filter fun part => part ≠ [] ∧ part ≠ [.scalar '.']
  match rootOf path ++ List.intercalate [.scalar '/'] parts with
  | [] => [.scalar '.']
  | normal => normal

/-- What a path may lead to. -/
inductive FileNode where
  | file (text : Text)
  | directory

/-- Why no text can be read at the end of a path. -/
inductive PathError where
  | notFound
  | isDirectory
  | tooLong
deriving DecidableEq

/-- The number of bytes that a character takes in a file system. -/
def byteSize : CodePoint → Nat
  | .scalar c => c.utf8Size
  | .surrogate _ => 1

/-- The number of bytes that a text takes in a file system. -/
def byteLength (t : Text) : Nat :=
  t.foldl (fun total c => total + byteSize c) 0

/-- The longest part of a path, in bytes. -/
def partLimit : Nat := 255

/-- The longest path, in bytes. -/
def pathLimit : Nat := 4095

/-- Whether no file system takes a path. -/
def isTooLong (path : Text) : Bool :=
  pathLimit < byteLength path || (pathParts path).any fun part => partLimit < byteLength part

/-- The text of the file that a path in normal form leads to. A path that cannot be written leads
nowhere. -/
def readPath (files : Text → Option FileNode) (path : Text) : Except PathError Text :=
  if path.isUnicode && isTooLong path then .error .tooLong
  else
    match files path with
    | some (.file t) => .ok t
    | some .directory => .error .isDirectory
    | none => .error .notFound

end RollScript

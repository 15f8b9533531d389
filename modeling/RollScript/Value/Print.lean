import RollScript.Number.Layout
import RollScript.Text.Literal
import RollScript.Text.Quoted
import RollScript.Value.Basic

/-!
# The text of a value

`Value.render` says what a printed value looks like, by recursion on the value. `Value.print` makes
the same text with an explicit list of the pieces still to be written, so that the depth of an array
does not matter to it.
-/

namespace RollScript

namespace Value

/-- The text of a value that is not an array. -/
def scalarText : Value → String
  | number x => Number.print x
  | string s => Literal.encode s
  | unit => "()"
  | array _ => ""
  | function _ => "[function]"

mutual

/-- The text of a value. -/
def render : Value → String
  | array items => "[" ++ renderItems items ++ "]"
  | v => v.scalarText

/-- The texts of an array's elements with separators between them. -/
def renderItems : List Value → String
  | [] => ""
  | [v] => v.render
  | v :: rest => v.render ++ ". " ++ renderItems rest

end

/-- A piece of text still to be written. -/
inductive Piece where
  | value (v : Value)
  | separator
  | close

/-- The pieces of an array's elements, with separators between them. -/
def pieces : List Value → List Piece
  | [] => []
  | [v] => [.value v]
  | v :: rest => .value v :: .separator :: pieces rest

/-- A measure of the work that a list of pieces stands for. -/
noncomputable def pieceWork : List Piece → Nat
  | [] => 0
  | .value v :: rest => 3 * sizeOf v + pieceWork rest
  | .separator :: rest => 1 + pieceWork rest
  | .close :: rest => 1 + pieceWork rest

theorem pieceWork_append (first second : List Piece) :
    pieceWork (first ++ second) = pieceWork first + pieceWork second := by
  induction first with
  | nil => rw [List.nil_append, pieceWork, Nat.zero_add]
  | cons piece rest ih =>
    cases piece <;> rw [List.cons_append, pieceWork, pieceWork, ih, Nat.add_assoc]

theorem pieceWork_pieces (items : List Value) : pieceWork (pieces items) ≤ 3 * sizeOf items := by
  fun_induction pieces items with
  | case1 => exact Nat.zero_le _
  | case2 v =>
    rw [pieceWork, pieceWork, List.cons.sizeOf_spec]
    omega
  | case3 v rest _ ih =>
    rw [pieceWork, pieceWork, List.cons.sizeOf_spec]
    omega

/-- Opening an array leaves less work than the array itself was. -/
theorem pieceWork_open (items : List Value) (rest : List Piece) :
    pieceWork (pieces items ++ .close :: rest) < pieceWork (.value (array items) :: rest) := by
  have := pieceWork_pieces items
  rw [pieceWork_append, pieceWork, pieceWork, array.sizeOf_spec]
  omega

/-- Writing a value leaves less work. -/
theorem pieceWork_value (v : Value) (rest : List Piece) :
    pieceWork rest < pieceWork (.value v :: rest) := by
  have := v.sizeOf_pos
  rw [pieceWork]
  omega

/-- Writing a separator leaves less work. -/
theorem pieceWork_separator (rest : List Piece) :
    pieceWork rest < pieceWork (.separator :: rest) := by
  rw [pieceWork]
  omega

/-- Closing an array leaves less work. -/
theorem pieceWork_close (rest : List Piece) : pieceWork rest < pieceWork (.close :: rest) := by
  rw [pieceWork]
  omega

/-- Writes pieces after the text written so far. -/
def writePieces (written : String) : List Piece → String
  | [] => written
  | .separator :: rest => writePieces (written ++ ". ") rest
  | .close :: rest => writePieces (written ++ "]") rest
  | .value (array items) :: rest => writePieces (written ++ "[") (pieces items ++ .close :: rest)
  | .value v :: rest => writePieces (written ++ v.scalarText) rest
termination_by pending => pieceWork pending
decreasing_by
  · exact pieceWork_separator rest
  · exact pieceWork_close rest
  · exact pieceWork_open items rest
  · exact pieceWork_value v rest

/-- The text of a value, written piece by piece. -/
def print (v : Value) : String :=
  writePieces "" [.value v]

/-- The numbers inside values in printed order, in front of those collected already in reverse. -/
def collectNumbers (found : List Float) : List Piece → List Float
  | [] => found.reverse
  | .value (array items) :: rest => collectNumbers found (pieces items ++ .close :: rest)
  | .value (number x) :: rest => collectNumbers (x :: found) rest
  | .value _ :: rest => collectNumbers found rest
  | .separator :: rest => collectNumbers found rest
  | .close :: rest => collectNumbers found rest
termination_by pending => pieceWork pending
decreasing_by
  · exact pieceWork_open items rest
  · exact pieceWork_value _ rest
  · exact pieceWork_value _ rest
  · exact pieceWork_separator rest
  · exact pieceWork_close rest

/-- The numbers inside a value, in printed order. -/
def numbers (v : Value) : List Float :=
  collectNumbers [] [.value v]

end Value

/-- The display of a function: a primitive with the numbers of its bound arguments and of its
parameters, or a closure. -/
def Function.display : Function → String
  | closure .. => "[function]"
  | primitive p bound =>
    "Builtin(" ++ Quoted.encode p.name ++ ", " ++ toString bound.length ++ "/" ++
      toString p.arity ++ ")"

end RollScript

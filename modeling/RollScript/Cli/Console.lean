import RollScript.Text.CellWidth
import RollScript.Text.Pictograph

/-!
# The console

What is printed on the console is not printed quite as it is: names of pictographs are replaced, controls
that move the cursor are left out, and tabs are filled up to every eighth column. `Console.line` is what
is written for a text, and a `Console.Message` is what is handed to the console before that.
-/

namespace RollScript.Console

/-- Whether a control moves the cursor. -/
def movesCursor (c : CodePoint) : Bool :=
  [7, 8, 11, 12, 13].contains c.toNat

/-- The stretches of a text between the places of a mark. -/
def stretches (mark : Char) : Text → List Text
  | [] => [[]]
  | c :: rest =>
    if c = .scalar mark then [] :: stretches mark rest
    else
      match stretches mark rest with
      | first :: later => (c :: first) :: later
      | [] => [[c]]

/-- The blanks that fill a line up to the next eighth column. -/
def filling (column : Nat) : Nat :=
  if column % 8 = 0 then 0 else 8 - column % 8

/-- The stretches of a line between its tabs, with each tab filled up to the next eighth column, where
`column` cells are taken already. A tab is at least one blank. -/
def fillTabs (column : Nat) : List Text → Text
  | [] => []
  | [last] => last
  | part :: rest =>
    let spaced := part ++ [.scalar ' ']
    let reached := column + spaced.cellWidth
    spaced ++ List.replicate (filling reached) (.scalar ' ') ++
      fillTabs (reached + filling reached) rest

/-- A line with its tabs filled up. -/
def expandTabs (line : Text) : Text :=
  fillTabs 0 (stretches '\t' line)

/-- What is written for a text on lines of its own. -/
def line (t : Text) : Text :=
  let shown := (Pictograph.replaceNames t).filter (!movesCursor ·)
  (stretches '\n' shown).flatMap fun line => expandTabs line ++ [.scalar '\n']

/-- What is handed to the console: a text to show on the output, a text to report on the error output, or
a question, which is asked as it is. -/
inductive Message where
  | shown (t : Text)
  | reported (t : Text)
  | question (t : Text)

/-- What is written on the output. -/
def Message.stdout : Message → Text
  | shown t => line t
  | reported _ => []
  | question t => t

/-- What is written on the error output. -/
def Message.stderr : Message → Text
  | shown _ => []
  | reported t => line t
  | question _ => []

end RollScript.Console

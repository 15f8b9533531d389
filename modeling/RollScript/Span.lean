import RollScript.Text.CodePoint

/-!
# Spans and locations

A span is a stretch of program text by offsets. A `Location` finds the line and column of an offset
and the line's text, where lines are divided at line feeds only, and renders a message with the
offending stretch underlined.
-/

namespace RollScript

/-- The stretch from `start` up to but not including `stop`. -/
structure Span where
  start : Nat
  stop : Nat
deriving DecidableEq, Inhabited

/-- Where a span lies in a source text. Offsets past the end of the text are allowed. -/
structure Location where
  source : Text
  span : Span

namespace Location

/-- The source up to the start of the span. -/
def before (l : Location) : Text :=
  l.source.take l.span.start

/-- The part of the span's first line that lies before the span. -/
def lineHead (l : Location) : Text :=
  (l.before.reverse.takeWhile (· ≠ .scalar '\n')).reverse

/-- The part of the span's first line that starts with the span. -/
def lineRest (l : Location) : Text :=
  (l.source.drop l.span.start).takeWhile (· ≠ .scalar '\n')

/-- The number of the line on which the span starts, counted from one. -/
def line (l : Location) : Nat :=
  l.before.count (.scalar '\n') + 1

/-- The offset at which the span's first line starts. -/
def lineStart (l : Location) : Nat :=
  l.before.length - l.lineHead.length

/-- The offset at which the span's first line ends. -/
def lineStop (l : Location) : Nat :=
  l.before.length + l.lineRest.length

/-- The position on the line at which the span starts, counted from one. -/
def column (l : Location) : Nat :=
  l.span.start - l.lineStart + 1

/-- The line and column in words. -/
def format (l : Location) : String :=
  s!"Line {l.line} column {l.column}"

/-- The number of characters to underline: those of the span on its first line, at least one. -/
def width (l : Location) : Nat :=
  max 1 (min l.span.stop l.lineStop - l.span.start)

/-- The span's first line with the span underlined below it. -/
def snippet (l : Location) : Text :=
  l.lineHead ++ l.lineRest ++
    .scalar '\n' :: (List.replicate (l.column - 1) (.scalar '-') ++
      List.replicate l.width (.scalar '^'))

/-- A message with its location in front and the snippet below it. -/
def render (l : Location) (message : Text) : Text :=
  .ofString (l.format ++ ": ") ++ message ++ .scalar '\n' :: l.snippet

end Location

end RollScript

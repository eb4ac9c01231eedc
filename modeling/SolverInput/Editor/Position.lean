import SolverInput.Text.Lines
import SolverInput.Text.Units

/-!
# Cursor positions

An editor gives a position as a line and a column in UTF-16 units.
-/

namespace SolverInput.Editor

/-- A place in a document, counted from zero. -/
structure Position where
  line : Nat
  character : Nat
  deriving DecidableEq

/-- The line of the position, from its start up to the position. It is empty below the last line,
and the whole line for a column past its end. -/
def textBefore (text : Text) (position : Position) : Text :=
  match (Text.lines text)[position.line]? with
  | some line => Text.takeUnits position.character line
  | none => []

end SolverInput.Editor

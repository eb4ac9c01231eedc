import SolverInput.Text.Basic

/-!
# Lines of a text

A text is cut at every line feed. Each line that a line feed ends also loses one carriage return
before it, so both line endings give the same lines; the text after the last line feed is kept
as it stands. Editors count lines in the same way: a final line feed opens one more, empty line.
-/

namespace SolverInput.Text

/-- Removes one carriage return from the end, if there is one. -/
def dropReturn (t : Text) : Text :=
  if t.getLast? = some '\r' then t.dropLast else t

/-- Removes the carriage return from every piece that a line feed ended, which is every piece
but the last. -/
def dropReturns : List Text → List Text
  | [] => []
  | [last] => [last]
  | piece :: next :: rest => dropReturn piece :: dropReturns (next :: rest)

/-- Cuts a text into its lines. -/
def lines (t : Text) : List Text :=
  dropReturns (t.splitOn '\n')

/-- Writes lines one under the other, without a final line feed. -/
def joinLines (ls : List Text) : Text :=
  List.intercalate ['\n'] ls

end SolverInput.Text

import SolverInput.Text.Blank

/-!
# The key before the cursor

Completion looks at the line up to the cursor. The segment that is being typed does not count; the
segments before it, trimmed, are the key whose continuations are offered.
-/

namespace SolverInput.Key

/-- The key that the text before the cursor continues; empty if there is no dot. -/
def lookupKey (beforeCursor : Text) : Text :=
  List.intercalate ['.'] (((beforeCursor.splitOn '.').map Text.trim).dropLast)

end SolverInput.Key

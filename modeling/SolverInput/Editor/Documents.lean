/-!
# Open documents

The text that an editor last sent for each document that is open.
-/

namespace SolverInput.Editor

/-- The open documents: each address once, with its text. -/
structure Documents where
  entries : List (String × String) := []
  deriving DecidableEq

namespace Documents

/-- The text of an open document. -/
def get? (docs : Documents) (uri : String) : Option String :=
  docs.entries.lookup uri

/-- Forgets a document. -/
def erase (docs : Documents) (uri : String) : Documents :=
  ⟨docs.entries.filter (·.1 ≠ uri)⟩

/-- Sets the text of a document, which is open from then on. -/
def put (docs : Documents) (uri text : String) : Documents :=
  ⟨(uri, text) :: (docs.erase uri).entries⟩

end Documents

end SolverInput.Editor

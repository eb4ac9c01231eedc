import SolverInput.Files.Tree

/-!
# Loading reports

Reading the text of a report from a file. A path where nothing is has its own error; every other
cause is passed on.
-/

namespace SolverInput

/-- Why a report cannot be loaded. -/
inductive LoadError where
  | missing (path : Path)
  | unreadable (path : Path) (cause : FileError)
  deriving DecidableEq

/-- The text of a loading error. -/
def LoadError.message : LoadError → String
  | missing path => "no input report at " ++ path.text
  | unreadable path cause => "cannot read " ++ path.text ++ ": " ++ cause.message

/-- The text of the report at a path. -/
def FileTree.loadReport (files : FileTree) (path : Path) : Except LoadError Text :=
  match files.readText path with
  | .ok text => .ok text
  | .error .notFound => .error (.missing path)
  | .error cause => .error (.unreadable path cause)

end SolverInput

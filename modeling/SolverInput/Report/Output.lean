import SolverInput.Files.Path

/-!
# Where an extraction is written

Every run of the solver has its own directory, so `root/run/input_report.txt` is extracted to
`root/run.extension`. An input without such a directory is extracted next to itself.
-/

namespace SolverInput.Path

/-- The directory above the run directory, and the name of the run directory. -/
def runDirectory? (input : Path) : Option (Path × Text) := do
  let directory ← input.parent?
  if directory.text.isEmpty then none
  else return (← directory.parent?, ← directory.fileName?)

/-- The output path for an input when the caller does not choose one. -/
def defaultOutput (input : Path) (extension : String) : Path :=
  match input.runDirectory? with
  | some (root, run) => root.join (String.ofList run ++ "." ++ extension)
  | none => input.withExtension extension

end SolverInput.Path

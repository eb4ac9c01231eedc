import SolverInput.Files.Tree

/-!
# Programs on files

A program runs on a file tree and leaves one behind, whether it succeeds or fails. Nothing is undone
by a failure: the files are then what the steps before it have made of them.
-/

namespace SolverInput

/-- A program that reads and writes files, returns a value or fails with an error, and leaves a file
tree behind in both cases. -/
abbrev FileM (ε α : Type) : Type := EStateM ε FileTree α

namespace FileM

/-- A step that looks at the files and leaves them alone. -/
def reading {ε α : Type} (look : FileTree → Except ε α) : FileM ε α := fun files =>
  match look files with
  | .ok value => .ok value files
  | .error error => .error error files

/-- Writes a file. A write that fails does so when the file is opened, and has changed nothing
then. -/
def write (path : Path) (content : ByteArray) : FileM FileError Unit := fun files =>
  match files.write path content with
  | .ok written => .ok () written
  | .error cause => .error cause files

end FileM

end SolverInput

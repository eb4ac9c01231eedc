import SolverInput.Json.Basic
import SolverInput.Report.Extract

/-!
# Server commands

The two commands that an editor can run extract a report to a file. Their arguments are the path of
the report and, if the caller chooses one, the path of the output.
-/

namespace SolverInput.Editor

/-- Why a command fails. -/
inductive CommandError where
  | unknown (command : String)
  | missingInput
  | extract (error : ExtractError)
  deriving DecidableEq

/-- The message of a failed command. -/
def CommandError.message : CommandError → String
  | unknown command => "unknown command " ++ command
  | missingInput => "No input file selected."
  | extract error => error.message

namespace Command

/-- The command that extracts the input as the solver read it. -/
def rawInput : String := "mindes.extractRawInput"

/-- The command that extracts the input as the user wrote it. -/
def fullInput : String := "mindes.extractFullInput"

/-- The names of all commands. -/
def names : List String := [rawInput, fullInput]

/-- What a command extracts. -/
def kind? (command : String) : Option ExtractKind :=
  if command = rawInput then some .raw
  else if command = fullInput then some .full
  else none

/-- The path at a place in the arguments: a string that is not empty. -/
def pathArgument? (arguments : List Json) (index : Nat) : Option Path := do
  let path ← (← arguments[index]?).string?
  if path.isEmpty then none else some ⟨path⟩

/-- Reads a command and its arguments. -/
def request (command : String) (arguments : List Json) : Except CommandError ExtractRequest :=
  match kind? command with
  | none => .error (.unknown command)
  | some kind =>
    match pathArgument? arguments 0 with
    | none => .error .missingInput
    | some input => .ok ⟨kind, input, pathArgument? arguments 1⟩

/-- Runs a command. -/
def run (command : String) (arguments : List Json) (extension : String) :
    FileM CommandError ExtractOutcome := do
  let request ← FileM.reading fun _ => request command arguments
  (request.run extension).adaptExcept .extract

end Command

end SolverInput.Editor

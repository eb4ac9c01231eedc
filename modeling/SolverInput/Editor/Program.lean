import SolverInput.CommandLine.Command
import SolverInput.Editor.Incoming

/-!
# The server program

The server takes its configuration from its arguments and the messages of an editor from its input.
-/

namespace SolverInput.Editor

open SolverInput.CommandLine (Refusal OptionShape)

/-- The option that editors pass to choose the transport. The server has only one. -/
def stdioOption : OptionShape := { name := "stdio", takesValue := false }

/-- The arguments of the server. -/
def programShape : CommandLine.Shape :=
  { options := [CommandLine.configOption, stdioOption], hasVersion := true }

/-- Why the server does not start. -/
inductive StartError where
  | refused (refusal : Refusal)
  | config (error : Config.Error)

/-- What a server that does not start leaves behind. -/
def StartError.outcome (files : FileTree) : StartError → CommandLine.Outcome
  | refused refusal => refusal.outcome serverName files
  | config error =>
    { exit := 1, stderr := "Configuration error: " ++ error.message ++ "\n", files }

/-- The configuration that the arguments ask for. -/
def Connection.configOf (arguments : List String) (files : FileTree) :
    Except StartError Config := do
  let args ← (CommandLine.readArguments programShape arguments).mapError .refused
  let layers := CommandLine.configLayers (CommandLine.pathOption? args CommandLine.configOption)
  (Config.load files layers).mapError .config

/-- The connection that the server starts with. -/
def Connection.start (arguments : List String) (files : FileTree) (search : List Path) :
    Except StartError Connection := do
  return .ofConfig (← configOf arguments files) files search

/-- What a run of the server leaves behind. -/
structure Transcript where
  exit : Nat := 0
  responses : List Response := []
  notices : List Notice := []
  stderr : String := ""
  files : FileTree

/-- Runs the server on what an editor sends. -/
def run (arguments : List String) (files : FileTree) (search : List Path) (input : List Json) :
    Transcript :=
  match Connection.start arguments files search with
  | .error e =>
    let outcome := e.outcome files
    { exit := outcome.exit, stderr := outcome.stderr, files }
  | .ok connection =>
    let (exchanges, after) := connection.listen files input
    { responses := exchanges.filterMap (·.response), notices := exchanges.flatMap (·.notices),
      files := after }

end SolverInput.Editor

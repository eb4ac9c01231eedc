import SolverInput.CommandLine.Arguments
import SolverInput.CommandLine.Views
import SolverInput.Version

/-!
# Commands

The commands of the command line, how they are read from the arguments, and what each of them does:
the text it prints, the files after it, and its exit code.
-/

namespace SolverInput.CommandLine

/-- The name of the program. -/
def programName : String := "mindes"

/-- What to extract, and where to. -/
structure ExtractArguments where
  kind : ExtractKind
  input : Path
  output : Option Path := none
  /-- Whether a malformed row makes the command fail. -/
  strict : Bool := false
  config : Option Path := none
  deriving DecidableEq

/-- A command. -/
inductive Command where
  | extract (arguments : ExtractArguments)
  | sections (input : Path)
  | tokens (input : Path)
  | theme (config : Option Path)
  | associations (config : Option Path)
  deriving DecidableEq

/-! ## Reading commands -/

/-- The option that names a configuration file. -/
def configOption : OptionShape := { name := "config", letter := some 'c' }

/-- The option that names an output file. -/
def outputOption : OptionShape := { name := "output", letter := some 'o' }

/-- The option that makes an extraction strict. -/
def strictOption : OptionShape := { name := "strict", takesValue := false }

/-- The first operand. -/
def inputOf (args : Arguments) : Path :=
  ⟨args.operands.headD ""⟩

/-- The path that an option gives. -/
def pathOption? (args : Arguments) (option : OptionShape) : Option Path :=
  (args.option? option.name).map Path.mk

/-- Reads the arguments of an extraction. -/
def readExtract (kind : ExtractKind) (arguments : List String) : Except Refusal Command := do
  let args ← readArguments
    { options := [outputOption, strictOption, configOption], operands := 1 } arguments
  return .extract {
    kind
    input := inputOf args
    output := pathOption? args outputOption
    strict := (args.option? strictOption.name).isSome
    config := pathOption? args configOption }

/-- Reads the arguments of a command on one file. -/
def readInput (arguments : List String) : Except Refusal Path := do
  return inputOf (← readArguments { operands := 1 } arguments)

/-- Reads the arguments of a command on a configuration. -/
def readConfig (arguments : List String) : Except Refusal (Option Path) := do
  return pathOption? (← readArguments { options := [configOption] } arguments) configOption

/-- The commands by name. -/
def Command.readers : List (String × (List String → Except Refusal Command)) :=
  [("extract-raw", readExtract .raw),
   ("extract-full", readExtract .full),
   ("sections", fun arguments => (readInput arguments).map .sections),
   ("tokens", fun arguments => (readInput arguments).map .tokens),
   ("theme", fun arguments => (readConfig arguments).map .theme),
   ("associations", fun arguments => (readConfig arguments).map .associations)]

/-- Reads what follows the word `help`: nothing, or the name of a command. -/
def readHelp : List String → Refusal
  | [] | ["help"] => .help
  | [name] => if (Command.readers.lookup name).isSome then .help else .usage
  | _ => .usage

/-- Reads a command from the arguments of the program. -/
def Command.read : List String → Except Refusal Command
  | [] => .error .usage
  | first :: rest =>
    match Word.ofArgument { hasVersion := true } first with
    | .refused refusal => .error refusal
    | .operand name =>
      match Command.readers.lookup name with
      | some read => read rest
      | none => .error (if name = "help" then readHelp rest else .usage)
    | _ => .error .usage

/-! ## Running commands -/

/-- What a program leaves behind. -/
structure Outcome where
  exit : Nat := 0
  stdout : String := ""
  stderr : String := ""
  files : FileTree

/-- The layers of a configuration: the defaults and at most one file. -/
def configLayers (config : Option Path) : List Config.Layer :=
  match config with
  | some path => [.file path true]
  | none => []

/-- Loads the configuration. -/
def loadConfig (files : FileTree) (config : Option Path) : Except Failure Config :=
  (Config.load files (configLayers config)).mapError .config

/-- Loads the text of a report or document. -/
def loadText (files : FileTree) (input : Path) : Except Failure Text :=
  (files.loadReport input).mapError .load

/-- An extraction that is ready to be written. -/
structure Prepared where
  output : Path
  rendered : Text
  malformed : List MalformedRow
  deriving DecidableEq

/-- Loads and extracts a report. -/
def ExtractArguments.prepare (arguments : ExtractArguments) (files : FileTree) :
    Except Failure Prepared := do
  let config ← loadConfig files arguments.config
  let text ← loadText files arguments.input
  let (rendered, malformed) ← checked ((Report.ofText text).extract arguments.kind) arguments.strict
  let output := arguments.output.getD (arguments.input.defaultOutput config.outputExtension)
  return { output, rendered, malformed }

/-- Writes an extraction. -/
def Prepared.write (prepared : Prepared) : FileM Failure Unit :=
  (FileM.write prepared.output (Text.toBytes prepared.rendered)).adaptExcept
    (.write prepared.output)

/-- Extracts a report: the output path and the malformed rows. -/
def ExtractArguments.run (arguments : ExtractArguments) :
    FileM Failure (Path × List MalformedRow) := do
  let prepared ← FileM.reading arguments.prepare
  prepared.write
  return (prepared.output, prepared.malformed)

/-- The outcome of a failure. -/
def Outcome.failed (files : FileTree) (failure : Failure) : Outcome :=
  { exit := 1, stderr := "Error: " ++ failure.message ++ "\n", files }

/-- The outcome of a command that only prints. -/
def Outcome.printed (files : FileTree) : Except Failure String → Outcome
  | .ok text => { stdout := text, files }
  | .error failure => .failed files failure

/-- The outcome of an extraction. Malformed rows are reported before the file is written. -/
def ExtractArguments.outcome (arguments : ExtractArguments) (files : FileTree) : Outcome :=
  match arguments.prepare files with
  | .error failure => .failed files failure
  | .ok prepared =>
    let warnings :=
      String.join (prepared.malformed.map fun row => "Warning: " ++ row.message ++ "\n")
    let outcome : Outcome := match prepared.write files with
      | .ok () written =>
        { stdout := "Extracted contents written to: " ++ prepared.output.text ++ "\n",
          files := written }
      | .error failure left => .failed left failure
    { outcome with stderr := warnings ++ outcome.stderr }

/-- Runs a command. -/
def Command.run (files : FileTree) : Command → Outcome
  | extract arguments => arguments.outcome files
  | sections input => .printed files do
    return sectionsView (Report.ofText (← loadText files input)) ++ "\n"
  | tokens input => .printed files do return tokensView (← loadText files input)
  | theme config => .printed files do return (← themeView (← loadConfig files config)) ++ "\n"
  | associations config => .printed files do
    return associationsView (← loadConfig files config) ++ "\n"

/-- The outcome of arguments that name no command to run. -/
def Refusal.outcome (name : String) (files : FileTree) : Refusal → Outcome
  | usage => { exit := 2, stderr := "error: invalid arguments\n", files }
  | help => { stdout := "Usage: " ++ name ++ " [OPTIONS] [ARGUMENTS]\n", files }
  | version => { stdout := name ++ " " ++ SolverInput.version ++ "\n", files }

/-- Runs the program with its arguments. -/
def run (arguments : List String) (files : FileTree) : Outcome :=
  match Command.read arguments with
  | .ok command => command.run files
  | .error refusal => refusal.outcome programName files

end SolverInput.CommandLine

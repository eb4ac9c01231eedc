/-!
# Reading arguments

Arguments are options, which start with a dash, and operands. An option is written `--name` or by
its letter `-n`; its value is the next argument or follows at once (`--name=value`, `-nvalue`,
`-n=value`). An argument `--` ends the options. Arguments are read from left to right and the first
fault, or the first wish for help or the version, decides.
-/

namespace SolverInput.CommandLine

/-- An option that a command takes. -/
structure OptionShape where
  name : String
  letter : Option Char := none
  takesValue : Bool := true

/-- The arguments that a command takes. -/
structure Shape where
  options : List OptionShape := []
  /-- The number of operands, all of them required. -/
  operands : Nat := 0
  /-- Whether the command can be asked for its version. -/
  hasVersion : Bool := false

/-- The arguments of a command. -/
structure Arguments where
  /-- The options that were given, with their values. -/
  options : List (String × String) := []
  operands : List String := []
  deriving DecidableEq

/-- Why a command does not run. -/
inductive Refusal where
  /-- The arguments are wrong. -/
  | usage
  | help
  | version
  deriving DecidableEq

namespace Arguments

/-- Adds an option, which is given at most once and not with an empty value. -/
def addOption (args : Arguments) (shape : OptionShape) (value : String) :
    Except Refusal Arguments :=
  if args.options.any (·.1 == shape.name) || (shape.takesValue && value.isEmpty) then
    .error .usage
  else .ok { args with options := args.options ++ [(shape.name, value)] }

/-- Adds an operand that is not empty, if there is room for one. -/
def addOperand (shape : Shape) (args : Arguments) (value : String) : Except Refusal Arguments :=
  if value.isEmpty || shape.operands ≤ args.operands.length then .error .usage
  else .ok { args with operands := args.operands ++ [value] }

/-- The value of an option. -/
def option? (args : Arguments) (name : String) : Option String :=
  args.options.lookup name

end Arguments

/-- What an argument is. -/
inductive Word where
  /-- The end of the options. -/
  | separator
  | operand (value : String)
  /-- An option, and the value that follows at once. -/
  | option (shape : OptionShape) (value : Option String)
  /-- Something that ends the reading. -/
  | refused (refusal : Refusal)

namespace Word

/-- Tells whether an argument looks like an option. A single dash does not. -/
def looksLikeOption (argument : String) : Bool :=
  match argument.toList with
  | '-' :: _ :: _ => true
  | _ => false

/-- Reads an option by its name. A value follows after an equals sign. -/
def ofName (shape : Shape) (chars : List Char) : Word :=
  let name := String.ofList (chars.takeWhile (· ≠ '='))
  let value := match chars.dropWhile (· ≠ '=') with
    | _ :: rest => some (String.ofList rest)
    | [] => none
  match shape.options.find? (·.name == name) with
  | some found =>
    if found.takesValue || value.isNone then .option found value else .refused .usage
  | none =>
    if value.isSome then .refused .usage
    else if name = "help" then .refused .help
    else if name = "version" && shape.hasVersion then .refused .version
    else .refused .usage

/-- Reads an option by its letter. -/
def ofLetter (shape : Shape) (letter : Char) (rest : List Char) : Word :=
  match shape.options.find? (·.letter == some letter) with
  | some found =>
    .option found (match rest with
      | [] => none
      | '=' :: value => some (String.ofList value)
      | value => some (String.ofList value))
  | none =>
    if letter = 'h' then .refused .help
    else if letter = 'V' && shape.hasVersion then .refused .version
    else .refused .usage

/-- Reads an argument. -/
def ofArgument (shape : Shape) (argument : String) : Word :=
  match argument.toList with
  | ['-', '-'] => .separator
  | '-' :: '-' :: name => ofName shape name
  | '-' :: letter :: rest => ofLetter shape letter rest
  | _ => .operand argument

end Word

/-- Reads arguments after those that were read before. -/
def readFrom (shape : Shape) (args : Arguments) : List String → Except Refusal Arguments
  | [] => .ok args
  | argument :: rest =>
    match Word.ofArgument shape argument with
    | .separator => rest.foldlM (Arguments.addOperand shape) args
    | .operand value => do readFrom shape (← args.addOperand shape value) rest
    | .refused refusal => .error refusal
    | .option found (some value) => do readFrom shape (← args.addOption found value) rest
    | .option found none =>
      if !found.takesValue then do readFrom shape (← args.addOption found "") rest
      else
        match rest with
        | [] => .error .usage
        | value :: rest =>
          if Word.looksLikeOption value then .error .usage
          else do readFrom shape (← args.addOption found value) rest

/-- Reads the arguments of a command. -/
def readArguments (shape : Shape) (arguments : List String) : Except Refusal Arguments := do
  let args ← readFrom shape {} arguments
  if args.operands.length < shape.operands then .error .usage else .ok args

end SolverInput.CommandLine

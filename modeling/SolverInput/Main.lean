import SolverInput.Editor.Program
import SolverInput.Json.Parser

/-!
# The programs

One executable holds both programs: under the name of the server it serves an editor, under any
other name it runs the commands. Everything here is input and output. The paths that the arguments
name are read into a file tree, the pure program runs on that tree, and the files that it changed
are written back.
-/

namespace SolverInput

/-! ## Files -/

/-- Reads the entry at a path, if there is one. -/
def readEntry? (path : String) : IO (Option Entry) := do
  try
    return some (.file (← IO.FS.readBinFile path))
  catch _ =>
    try
      let _ ← IO.FS.realPath path
      return some .directory
    catch _ => return none

/-- Reads the entries that a path leads through, from the first to the last. -/
def readPath (files : FileTree) (path : String) : IO FileTree := do
  let pieces := path.splitOn "/"
  let mut tree := files
  for count in List.range pieces.length do
    let lead := "/".intercalate (pieces.take (count + 1))
    if !lead.isEmpty then
      match ← readEntry? lead with
      | some entry => tree := tree.install ⟨lead⟩ entry
      | none => break
  return tree

/-- Reads the entries of several paths. -/
def readPaths (files : FileTree) (paths : List String) : IO FileTree :=
  paths.foldlM readPath files

/-- A tree that knows the working directory and nothing else. -/
def emptyTree : IO FileTree := do
  let directory := (← IO.currentDir).toString
  return { workingDirectory := ((directory.splitOn "/").filter (!·.isEmpty)).map String.toList }

/-- Writes the files that changed. -/
def writeChanges (before after : FileTree) : IO Unit := do
  for (place, content) in after.changedFiles before do
    let path := String.ofList (place.flatMap fun name => '/' :: name)
    IO.FS.writeBinFile path content

/-! ## Commands -/

/-- Reads what a command may look at: the paths among its arguments, and where it writes. -/
def readForCommand (arguments : List String) : IO FileTree := do
  let named := arguments.flatMap fun argument =>
    let value := ((argument.splitOn "=").getLast?).getD argument
    [argument, value, value ++ ".toml", (argument.drop 2).toString,
      (argument.drop 2).toString ++ ".toml"]
  let files ← readPaths (← emptyTree) named
  match CommandLine.Command.read arguments with
  | .ok (.extract extract) =>
    match extract.prepare files with
    | .ok prepared => readPath files prepared.output.text
    | .error _ => return files
  | _ => return files

/-- Runs the commands. -/
def runCommands (arguments : List String) : IO UInt32 := do
  let files ← readForCommand arguments
  let outcome := CommandLine.run arguments files
  IO.eprint outcome.stderr
  IO.print outcome.stdout
  writeChanges files outcome.files
  return outcome.exit.toUInt32

/-! ## The server -/

/-- Reads the length of the next message from its header. -/
partial def readHeader (input : IO.FS.Stream) (length : Option Nat) : IO (Option Nat) := do
  let line ← input.getLine
  let field := line.trimAscii.toString
  if line.isEmpty then return none
  else if field.isEmpty then return length
  else
    match field.splitOn ":" with
    | [name, value] =>
      if name.toLower = "content-length" then readHeader input value.trimAscii.toString.toNat?
      else readHeader input length
    | _ => readHeader input length

/-- Reads a number of bytes. -/
partial def readBytes (input : IO.FS.Stream) (count : Nat) (done : ByteArray) : IO ByteArray := do
  if count ≤ done.size then return done
  let bytes ← input.read (count - done.size).toUSize
  if bytes.isEmpty then return done else readBytes input count (done ++ bytes)

/-- Sends a value to the editor. -/
def send (output : IO.FS.Stream) (value : Json) : IO Unit := do
  let body := value.compact
  output.putStr ("Content-Length: " ++ toString body.utf8ByteSize ++ "\r\n\r\n" ++ body)
  output.flush

/-- The paths that a message names in its arguments. -/
def messagePaths (message : Editor.Message) : List String :=
  let arguments := (message.params.bind (Json.get? "arguments")).bind Json.array?
  (arguments.getD []).filterMap Json.string?

/-- Reads the tree for a message, with the default output of each path that it names. -/
def readForMessage (connection : Editor.Connection) (message : Editor.Message) : IO FileTree := do
  let named := messagePaths message
  let extension := connection.session.settings.outputExtension
  let outputs := named.map fun path => (Path.defaultOutput ⟨path⟩ extension).text
  readPaths (← emptyTree) (named ++ outputs)

/-- Answers messages until the editor leaves, or sends what cannot be read. -/
partial def serve (connection : Editor.Connection) (input output : IO.FS.Stream) : IO Unit := do
  let some length ← readHeader input none | return ()
  let body ← readBytes input length .empty
  let some value := (String.fromUTF8? body).bind Json.parse?
    | send output (Editor.complaint .parseError).json
  match Editor.Incoming.read value with
  | .answer => serve connection input output
  | .malformed => send output (Editor.complaint .invalidRequest).json
  | .received message =>
    let files ← readForMessage connection message
    match connection.receive files message with
    | none => return ()
    | some exchange =>
      writeChanges files exchange.files
      for notice in exchange.notices do
        send output notice.json
      if let some response := exchange.response then
        send output response.json
      serve exchange.connection input output

/-- Runs the server. -/
def runServer (executableDirectory : String) (arguments : List String) : IO UInt32 := do
  let search := Editor.Dictionary.defaultSearch ⟨executableDirectory⟩
  let files ← readForCommand arguments
  let files ← readPaths files (search.map Path.text)
  let configured := match Editor.Connection.configOf arguments files with
    | .ok config => (config.completionDictionary.map Path.text).toList
    | .error _ => []
  let files ← readPaths files configured
  match Editor.Connection.start arguments files search with
  | .ok connection =>
    serve connection (← IO.getStdin) (← IO.getStdout)
    return 0
  | .error e =>
    let outcome := e.outcome files
    IO.eprint outcome.stderr
    IO.print outcome.stdout
    return outcome.exit.toUInt32

end SolverInput

/-- Runs the program that the executable is named for. -/
def main (arguments : List String) : IO UInt32 := do
  let executable ← IO.appPath
  if executable.fileName = some SolverInput.Editor.serverName then
    SolverInput.runServer ((executable.parent.map toString).getD ".") arguments
  else SolverInput.runCommands arguments

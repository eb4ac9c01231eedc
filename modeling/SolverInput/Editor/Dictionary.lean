import SolverInput.Files.Tree
import SolverInput.Json.Parser
import SolverInput.Key.Lookup

/-!
# Completion dictionaries

A dictionary maps a key to the segment names that may follow it. It is read once, from a JSON
object, and a dictionary that cannot be read leaves an empty one in its place.
-/

namespace SolverInput.Editor

/-- The segment names that may follow each key. -/
structure Dictionary where
  entries : List (String × List String) := []
  deriving DecidableEq

namespace Dictionary

/-- The name of dictionary files. -/
def fileName : String := "AutoCompletion.json"

/-- Sets the candidates of a key. -/
def insert (d : Dictionary) (key : String) (candidates : List String) : Dictionary :=
  ⟨(key, candidates) :: d.entries.filter (·.1 ≠ key)⟩

/-- Reads a dictionary from a JSON object of lists of strings. Of several members with one name the
last one counts, but all of them have to be lists of strings. -/
def ofJson? (value : Json) : Option Dictionary := do
  let members ← value.object?
  let entries ← members.mapM fun (key, candidates) => return (key, ← candidates.strings?)
  return entries.foldl (fun d (key, candidates) => d.insert key candidates) {}

/-- Reads a dictionary from its text. -/
def parse? (text : String) : Option Dictionary :=
  (Json.parseAll? text).bind ofJson?

/-- The number of keys. -/
def size (d : Dictionary) : Nat :=
  d.entries.length

/-- The candidates for exactly this key. -/
def lookup (d : Dictionary) (key : Text) : List String :=
  (d.entries.lookup (String.ofList key)).getD []

/-- The candidates at the end of the text before the cursor. -/
def completions (d : Dictionary) (beforeCursor : Text) : List String :=
  d.lookup (Key.lookupKey beforeCursor)

/-! ## Loading -/

/-- Why a dictionary cannot be loaded. -/
inductive LoadError where
  | unreadable (path : Path) (cause : FileError)
  | malformed (path : Path)
  | notFound (searched : List Path)
  deriving DecidableEq

/-- The message of a loading error. -/
def LoadError.message : LoadError → String
  | unreadable path cause => "cannot read " ++ path.text ++ ": " ++ cause.message
  | malformed path => "invalid JSON in " ++ path.text ++ ": ..."
  | notFound searched =>
    "no " ++ fileName ++ " found (searched" ++
      String.join (searched.map fun path => " " ++ path.text) ++ ")"

/-- Reads the dictionary in a file. -/
def read (files : FileTree) (path : Path) : Except LoadError Dictionary :=
  match files.readText path with
  | .error cause => .error (.unreadable path cause)
  | .ok text =>
    match parse? (String.ofList text) with
    | some d => .ok d
    | none => .error (.malformed path)

/-- Loads the configured dictionary, or the first one on the search list, and gives the path that
it was found at. -/
def load (files : FileTree) (configured : Option Path) (search : List Path) :
    Except LoadError (Dictionary × Path) :=
  match configured with
  | some path => do return (← read files path, path)
  | none =>
    match search.find? files.isFile with
    | some path => do return (← read files path, path)
    | none => .error (.notFound search)

/-- The outcome of loading a dictionary, with a line for the log. -/
structure Loaded where
  dictionary : Dictionary
  message : String
  failed : Bool
  deriving DecidableEq

/-- Loads a dictionary; if that fails it is empty. -/
def loadOrEmpty (files : FileTree) (configured : Option Path) (search : List Path) : Loaded :=
  match load files configured search with
  | .ok (dictionary, path) => ⟨dictionary, "Completions loaded from " ++ path.text, false⟩
  | .error e => ⟨{}, "Failed to read completions dictionary: " ++ e.message, true⟩

/-- Where a dictionary is searched when none is configured: beside the executable, then in the
working directory. -/
def defaultSearch (executableDirectory : Path) : List Path :=
  [executableDirectory.join fileName, ⟨fileName⟩]

end Dictionary

end SolverInput.Editor

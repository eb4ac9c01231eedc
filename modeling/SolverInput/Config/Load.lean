import SolverInput.Config.Basic
import SolverInput.Config.KeyPath
import SolverInput.Toml.Document

/-!
# Layers of configuration

A configuration is built from the defaults, then the files in their order, then the overrides in
their order. Overrides win over every file wherever they stand among the layers. Of several
overrides at one path only the last counts: the others are not merged into it.
-/

namespace SolverInput.Config

/-- A layer over the defaults. -/
inductive Layer where
  /-- A file; a missing or unreadable file is passed over unless it is required. -/
  | file (path : Path) (required : Bool)
  /-- A single value. -/
  | override (key : String) (value : Value)

/-! ## Defaults -/

/-- A table of texts. -/
def textTable (members : List (String × String)) : Value :=
  .table none (members.map fun (name, value) => (name, .text none value))

/-- The default colours of the token kinds. -/
def defaultColors : List (String × String) :=
  [("subkey1", "#569CD6"), ("subkey2", "#4EC9B0"), ("subkey3", "#DCDCAA"), ("subkey4", "#C586C0"),
   ("subkey5", "#9CDCFE"), ("subkey6", "#CE9178"), ("subkey7", "#B5CEA8"), ("subkey8", "#D16969")]

/-- The values that every configuration starts from. -/
def defaults : List (String × Value) :=
  [("server", .emptyTable),
   ("highlighting", .table none
      [("enabled", .boolean none true), ("colors", textTable defaultColors)]),
   ("files", textTable [("report_pattern", "input_report.txt"), ("language_id", "mindes")]),
   ("extract", textTable [("output_extension", "mindes")])]

/-! ## Files -/

/-- The path with `.toml` added to its file name. -/
def withTomlSuffix? (path : Path) : Option Path :=
  let (lead, rest) := Path.splitLead path.text.toList
  match Path.backPieces rest with
  | [] => none
  | name :: before =>
    if name = ['.', '.'] then none
    else some (Path.ofBackPieces lead ((name ++ ".toml".toList) :: before))

/-- The file that a path stands for: the path itself if it is a file, else the path with the suffix
`.toml`. -/
def findFile? (files : FileTree) (path : Path) : Option Path :=
  if files.isFile path then some path
  else match withTomlSuffix? path with
    | some other => if files.isFile other then some other else none
    | none => none

/-- How the origin of a value is shown: the path from the working directory, without void
pieces. -/
def originOf (path : Path) : String :=
  let (lead, rest) := Path.splitLead path.text.toList
  let root := if lead = ['/'] then ['/'] else []
  String.ofList (root ++ List.intercalate ['/'] ((rest.splitOn '/').filter (!Path.isVoid ·)))

/-- The members that a file sets. -/
def readFile (files : FileTree) (path : Path) (required : Bool) :
    Except Error (List (String × Value)) :=
  match findFile? files path with
  | none => if required then .error (.fileNotFound path.text) else .ok []
  | some found =>
    match files.readText found with
    | .error cause => if required then .error (.unreadable cause) else .ok []
    | .ok text =>
      match Toml.parse? text with
      | some members => .ok (Value.ofTomlMembers (some (originOf found)) members)
      | none => .error (.malformedFile (originOf found))

/-! ## Building -/

/-- The overrides among the layers, in order: each path once, with the value that it is given
last. -/
def overrides : List Layer → Except Error (List (KeyPath × Value))
  | [] => .ok []
  | .file _ _ :: rest => overrides rest
  | .override key value :: rest =>
    match KeyPath.parse? key with
    | some path => do
      let later ← overrides rest
      return if path ∈ later.map Prod.fst then later else (path, value) :: later
    | none => .error (.malformedKey key)

/-- The members that each file among the layers sets, in order. -/
def fileMembers (files : FileTree) : List Layer → Except Error (List (List (String × Value)))
  | [] => .ok []
  | .file path required :: rest => do
    let members ← readFile files path required
    return members :: (← fileMembers files rest)
  | .override _ _ :: rest => fileMembers files rest

/-- Sets members, one after another. -/
def setMembers (root : Value) (members : List (String × Value)) : Value :=
  members.foldl (fun root (key, value) => root.setKey key value) root

/-- Merges the defaults and the files. The members of the result are set once more in an empty
table, so a key that has become a path by being lower-cased is followed then. -/
def mergeSources (sources : List (List (String × Value))) : Value :=
  match sources.foldl setMembers .emptyTable with
  | .table _ members => setMembers .emptyTable members
  | other => other

/-- Merges the defaults, the files and the overrides. -/
def mergeLayers (sources : List (List (String × Value))) (overrides : List (KeyPath × Value)) :
    Value :=
  overrides.foldl (fun root (path, value) => root.setAt path value)
    (mergeSources (defaults :: sources))

/-- Builds the configuration of some layers. -/
def load (files : FileTree) (layers : List Layer) : Except Error Config := do
  let overriding ← overrides layers
  let sources ← fileMembers files layers
  read (mergeLayers sources overriding)

end SolverInput.Config

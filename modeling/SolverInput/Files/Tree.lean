import SolverInput.Files.Path

/-!
# Files

A file tree is a value: the entries below the root, each under the list of names that leads to it,
and the directory that relative paths start from. Reading and writing follow a path step by step
and fail for the causes that an operating system gives.
-/

namespace SolverInput

/-- What stands at a place of a file tree. -/
inductive Entry where
  | file (content : ByteArray)
  | directory

/-- Entries are told apart by their kind and their content. -/
instance : DecidableEq Entry
  | .file a, .file b =>
    match ByteArray.instDecidableEq a b with
    | isTrue same => isTrue (same ▸ rfl)
    | isFalse differ => isFalse fun same => differ (Entry.file.inj same)
  | .directory, .directory => isTrue rfl
  | .file _, .directory => isFalse nofun
  | .directory, .file _ => isFalse nofun

/-- Why a file cannot be read or written. -/
inductive FileError where
  | notFound
  | notDirectory
  | isDirectory
  | nameTooLong
  | notUtf8
  | nulInName
  deriving DecidableEq

/-- The text of a cause. -/
def FileError.message : FileError → String
  | notFound => "No such file or directory (os error 2)"
  | notDirectory => "Not a directory (os error 20)"
  | isDirectory => "Is a directory (os error 21)"
  | nameTooLong => "File name too long (os error 36)"
  | notUtf8 => "stream did not contain valid UTF-8"
  | nulInName => "file name contained an unexpected NUL byte"

/-- A place in a file tree: the names that lead to it from the root. -/
abbrev Place := List Text

/-- Directories and files. The root and the working directory always exist. What file systems have
beyond that is left out: there are no links, so a file stands at one place only; no permissions, so
whatever is a file can be read and replaced; and no partial writes, so a file is written as a whole
or not at all. -/
structure FileTree where
  entries : List (Place × Entry) := []
  workingDirectory : Place := ["work".toList]
  deriving DecidableEq

namespace FileTree

/-! ## Places -/

/-- The entry at a place. -/
def entry? (files : FileTree) (place : Place) : Option Entry :=
  if place <+: files.workingDirectory then some .directory
  else files.entries.lookup place

/-- Puts an entry at a place. -/
def put (files : FileTree) (place : Place) (entry : Entry) : FileTree :=
  { files with entries := (place, entry) :: files.entries.filter (·.1 ≠ place) }

/-- The longest name of an entry, in bytes. -/
def maxNameBytes : Nat := 255

/-- The least length of a path, in bytes, that is refused as a whole. -/
def maxPathBytes : Nat := 4096

/-- Counts the bytes of a text in UTF-8. -/
def byteLength (t : Text) : Nat :=
  t.foldl (fun n c => n + c.utf8Size) 0

/-- Succeeds if a directory stands at a place. -/
def requireDirectory (files : FileTree) (place : Place) : Except FileError Unit :=
  match files.entry? place with
  | some .directory => .ok ()
  | some (.file _) => .error .notDirectory
  | none => .error .notFound

/-- Follows pieces of a path from a place. Each piece is looked up in a directory; the place that
the last piece leads to need not exist. -/
def follow (files : FileTree) : Place → List Text → Except FileError Place
  | place, [] => .ok place
  | place, piece :: rest => do
    files.requireDirectory place
    if Path.isVoid piece then files.follow place rest
    else if piece = ['.', '.'] then files.follow place.dropLast rest
    else if maxNameBytes < byteLength piece then .error .nameTooLong
    else files.follow (place ++ [piece]) rest

/-- Where a path starts, and its pieces. Paths that no file can have are refused. -/
def start (files : FileTree) (path : Path) : Except FileError (Place × List Text) :=
  let chars := path.text.toList
  if '\x00' ∈ chars then .error .nulInName
  else if chars.isEmpty then .error .notFound
  else if maxPathBytes ≤ byteLength chars then .error .nameTooLong
  else .ok (if chars.head? = some '/' then [] else files.workingDirectory, chars.splitOn '/')

/-! ## Reading -/

/-- The place that a path leads to. -/
def resolve (files : FileTree) (path : Path) : Except FileError Place := do
  let (place, pieces) ← files.start path
  files.follow place pieces

/-- The content of the file at a path. -/
def read (files : FileTree) (path : Path) : Except FileError ByteArray := do
  match files.entry? (← files.resolve path) with
  | some (.file content) => .ok content
  | some .directory => .error .isDirectory
  | none => .error .notFound

/-- The text of the file at a path. -/
def readText (files : FileTree) (path : Path) : Except FileError Text := do
  match Text.ofBytes? (← files.read path) with
  | some text => .ok text
  | none => .error .notUtf8

/-- Tells whether a path leads to a file. -/
def isFile (files : FileTree) (path : Path) : Bool :=
  match files.read path with
  | .ok _ => true
  | .error _ => false

/-! ## Writing -/

/-- The place where a file is written. Its directory has to exist, and neither a directory nor a
path that can only name one is written to. -/
def target (files : FileTree) (path : Path) : Except FileError Place := do
  let (place, pieces) ← files.start path
  match pieces.reverse.dropWhile (·.isEmpty) with
  | [] => .error .isDirectory
  | name :: before => do
    let directory ← files.follow place before.reverse
    files.requireDirectory directory
    if pieces.getLast? = some [] ∨ name = ['.'] ∨ name = ['.', '.'] then .error .isDirectory
    else if maxNameBytes < byteLength name then .error .nameTooLong
    else if files.entry? (directory ++ [name]) = some .directory then .error .isDirectory
    else .ok (directory ++ [name])

/-- Writes a file, replacing the file that was there. -/
def write (files : FileTree) (path : Path) (content : ByteArray) : Except FileError FileTree := do
  return files.put (← files.target path) (.file content)

/-! ## Building and comparing trees -/

/-- The place that a path names, whether or not it exists. -/
def placeOf (files : FileTree) (path : Path) : Place :=
  let chars := path.text.toList
  let base := if chars.head? = some '/' then [] else files.workingDirectory
  (chars.splitOn '/').foldl
    (fun place piece =>
      if Path.isVoid piece then place
      else if piece = ['.', '.'] then place.dropLast
      else place ++ [piece])
    base

/-- Puts an entry at a path, and directories at every place above it where nothing is. -/
def install (files : FileTree) (path : Path) (entry : Entry) : FileTree :=
  let place := files.placeOf path
  let above := (List.range place.length).map place.take
  let withDirectories := above.foldl
    (fun tree dir => if (tree.entry? dir).isNone then tree.put dir .directory else tree) files
  match entry, withDirectories.entry? place with
  | .directory, some .directory => withDirectories
  | _, _ => withDirectories.put place entry

/-- The files that are new or changed since `before`, in no particular order. -/
def changedFiles (files before : FileTree) : List (Place × ByteArray) :=
  files.entries.filterMap fun (place, entry) =>
    match entry with
    | .file content => if before.entry? place = some entry then none else some (place, content)
    | .directory => none

end FileTree

end SolverInput

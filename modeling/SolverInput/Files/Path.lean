import SolverInput.Text.Basic

/-!
# Paths

Paths are read piece by piece between slashes. Empty pieces and pieces `.` inside a path say
nothing; only a leading `/` or a leading `.` counts. Operations keep the rest of a path as it is
written, so `a//b/c` has the parent `a//b`.
-/

namespace SolverInput

/-- A path as written. -/
structure Path where
  text : String
  deriving DecidableEq

namespace Path

/-! ## Reading a path -/

/-- A step of a path. -/
inductive Component where
  /-- A leading `/`. -/
  | root
  /-- A leading `.`. -/
  | here
  /-- A step `..` to the parent. -/
  | up
  /-- A named entry. -/
  | name (name : Text)
  deriving DecidableEq

/-- The leading `/` or `.` of a path, and the rest. The `/` after a leading `.` belongs to the
rest. -/
def splitLead (path : Text) : Text × Text :=
  match path with
  | '/' :: rest => (['/'], rest)
  | ['.'] => (['.'], [])
  | '.' :: '/' :: rest => (['.'], '/' :: rest)
  | _ => ([], path)

/-- Pieces that say nothing. -/
def isVoid (piece : Text) : Bool :=
  piece.isEmpty || piece == ['.']

/-- The component that a piece stands for. -/
def Component.ofPiece (piece : Text) : Component :=
  if piece = ['.', '.'] then .up else .name piece

/-- The components of a path. -/
def components (path : Path) : List Component :=
  let (lead, rest) := splitLead path.text.toList
  let first := if lead = ['/'] then [.root] else if lead = ['.'] then [.here] else []
  first ++ ((rest.splitOn '/').filter (!isVoid ·)).map .ofPiece

/-- The pieces of a path after its lead, last one first, without void pieces at the end. -/
def backPieces (rest : Text) : List Text :=
  (rest.splitOn '/').reverse.dropWhile isVoid

/-- Writes a path from its lead and its pieces, last one first. -/
def ofBackPieces (lead : Text) (pieces : List Text) : Path :=
  ⟨String.ofList (lead ++ List.intercalate ['/'] pieces.reverse)⟩

/-- The path without its last component. The root and the empty path have no parent. -/
def parent? (path : Path) : Option Path :=
  let (lead, rest) := splitLead path.text.toList
  match backPieces rest with
  | [] => if lead = ['.'] then some ⟨""⟩ else none
  | _ :: before => some (ofBackPieces lead (before.dropWhile isVoid))

/-- The last component, if it is a name. -/
def fileName? (path : Path) : Option Text :=
  match backPieces (splitLead path.text.toList).2 with
  | [] => none
  | name :: _ => if name = ['.', '.'] then none else some name

/-! ## Extensions -/

/-- Cuts a file name at its last dot. A dot at the start does not count. -/
def splitExtension (name : Text) : Text × Option Text :=
  match Text.splitAtLast? ['.'] name with
  | some (stem, extension) => if stem.isEmpty then (name, none) else (stem, some extension)
  | none => (name, none)

/-- Replaces everything after the stem of the file name by a dot and the extension, or by nothing
if the extension is empty. A path without a file name stays as it is. -/
def setExtension (path : Path) (extension : String) : Path :=
  let (lead, rest) := splitLead path.text.toList
  match backPieces rest with
  | [] => path
  | name :: before =>
    if name = ['.', '.'] then path
    else
      let dotted := if extension.isEmpty then [] else '.' :: extension.toList
      ofBackPieces lead (((splitExtension name).1 ++ dotted) :: before)

/-- The path with another extension. The length of the old extension is first cut off the end of
the path, and then the extension is set. -/
def withExtension (path : Path) (extension : String) : Path :=
  let old := ((path.fileName?.bind fun name => (splitExtension name).2).getD []).length
  let chars := path.text.toList
  setExtension ⟨String.ofList (chars.take (chars.length - old))⟩ extension

/-! ## Joining -/

/-- The path of an entry with this name, inside a directory. -/
def join (directory : Path) (name : String) : Path :=
  if directory.text.isEmpty || directory.text.toList.getLast? == some '/' then
    ⟨directory.text ++ name⟩
  else ⟨directory.text ++ "/" ++ name⟩

end Path

end SolverInput

import SolverInput.Address.Escape

/-!
# Paths of addresses

A path is a list of segments. A segment of one dot stands for the place where it is, and one of two
dots leads one segment back. The drive at the start of a file's path is never left.
-/

namespace SolverInput.Address.Path

/-- Tells whether a segment is one dot, which can be escaped. -/
def isHere (segment : Text) : Bool :=
  ["." , "%2e"].contains (String.ofList (segment.map Char.toLower))

/-- Tells whether a segment is two dots, each of which can be escaped. -/
def isBack (segment : Text) : Bool :=
  ["..", ".%2e", "%2e.", "%2e%2e"].contains (String.ofList (segment.map Char.toLower))

/-- Tells whether a text names a drive: a letter with a colon or a bar after it. -/
def isDrive : Text → Bool
  | [letter, mark] => letter.isAlpha && (mark == ':' || mark == '|')
  | _ => false

/-- The segments without the last one. A drive that stands alone is kept if `drives` are known. -/
def leave (drives : Bool) (behind : List Text) : List Text :=
  match behind with
  | [only] => if drives && isDrive only then [only] else []
  | _ :: rest => rest
  | [] => []

/-- Follows segments; `behind` holds those that were passed, nearest first. -/
def follow (drives : Bool) (behind : List Text) : List Text → List Text
  | [] => behind.reverse
  | segment :: rest =>
    let here (passed : List Text) := if rest.isEmpty then [] :: passed else passed
    if isBack segment then follow drives (here (leave drives behind)) rest
    else if isHere segment then follow drives (here behind) rest
    else follow drives (escape pathEscapes segment :: behind) rest

/-- Writes segments with a slash before each. -/
def written (segments : List Text) : Text :=
  segments.flatMap ('/' :: ·)

/-- The normal form of a path that starts after a slash. -/
def normal (segments : List Text) : Text :=
  written (follow false [] segments)

/-- A drive with a colon; other segments as they are. -/
def plainDrive (segment : Text) : Text :=
  match segment with
  | [letter, mark] => if isDrive segment then [letter, ':'] else [letter, mark]
  | _ => segment

/-- The segments of a file's path in normal form. Empty segments at the start do not count. -/
def fileSegments (segments : List Text) : List Text :=
  let segments := match segments.dropWhile List.isEmpty with
    | first :: rest => plainDrive first :: rest
    | [] => []
  match (follow true [] segments).dropWhile List.isEmpty with
  | [] => [[]]
  | kept => kept

end SolverInput.Address.Path

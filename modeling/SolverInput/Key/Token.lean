import SolverInput.Text.Blank
import SolverInput.Text.Lines

/-!
# Dotted keys

Documents consist mostly of lines `key.sub.sub = value`. Each segment of the key has a rank, its
position in the key, and the first eight ranks are highlighted. Deeper segments get no token. An
empty segment keeps its rank and gets a token of length zero.
-/

namespace SolverInput

/-- A key segment: where it stands and its rank. Columns and lengths count characters, which for
keys are all ASCII. -/
structure KeyToken where
  line : Nat
  column : Nat
  length : Nat
  rank : Nat
  deriving DecidableEq

namespace Key

/-- The number of ranks that are told apart. -/
def maxRanks : Nat := 8

/-- Keys are spelled with ASCII letters, digits, underscores and dots. -/
def isKeyChar (c : Char) : Bool :=
  c.isAlphanum || c == '_' || c == '.'

/-- The key of a line `key = …`: the characters of a key at the start of the line, at least one of
them, with only blanks between them and the `=`. -/
def key? (line : Text) : Option Text :=
  let key := line.takeWhile isKeyChar
  match Text.skipBlanks (line.dropWhile isKeyChar) with
  | '=' :: _ => if key.isEmpty then none else some key
  | _ => none

/-- The segments of a key. -/
def segments (key : Text) : List Text :=
  key.splitOn '.'

/-- The tokens of consecutive segments, the first of which has the given column and rank. -/
def segmentTokens (line : Nat) : (column rank : Nat) → List Text → List KeyToken
  | _, _, [] => []
  | column, rank, segment :: rest =>
    let tail := segmentTokens line (column + segment.length + 1) (rank + 1) rest
    if rank < maxRanks then ⟨line, column, segment.length, rank⟩ :: tail else tail

/-- The tokens of one line. -/
def lineTokens (index : Nat) (line : Text) : List KeyToken :=
  match key? line with
  | some key => segmentTokens index 0 0 (segments key)
  | none => []

/-- The tokens of consecutive lines, the first of which has the given index. -/
def tokensFrom : Nat → List Text → List KeyToken
  | _, [] => []
  | index, line :: rest => lineTokens index line ++ tokensFrom (index + 1) rest

/-- The tokens of a document, in line order. -/
def tokens (text : Text) : List KeyToken :=
  tokensFrom 0 (Text.lines text)

end Key

end SolverInput

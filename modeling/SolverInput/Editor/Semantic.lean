import SolverInput.Key.Token

/-!
# Semantic tokens

Editors receive highlighting as a list of words, five for each token, in which a token's place is
given relative to the token before it. `encode` writes that list and `decode` reads it back.
-/

namespace SolverInput.Editor

/-- A key segment as an editor addresses it: one line, and the rank as an index into the legend. -/
structure SemanticToken where
  line : UInt32
  start : UInt32
  length : UInt32
  kind : UInt32
  deriving DecidableEq

/-- A token whose place is given relative to the token before it. -/
structure TokenDelta where
  line : UInt32
  start : UInt32
  length : UInt32
  kind : UInt32
  modifiers : UInt32 := 0
  deriving DecidableEq

/-- The names of the token kinds, one for each rank. -/
def kindNames : List String :=
  ["subkey1", "subkey2", "subkey3", "subkey4", "subkey5", "subkey6", "subkey7", "subkey8"]

namespace SemanticToken

/-- The token of a key segment. -/
def ofKeyToken (t : KeyToken) : SemanticToken where
  line := t.line.toUInt32
  start := t.column.toUInt32
  length := t.length.toUInt32
  kind := t.rank.toUInt32

/-- The name of a token's kind, if the legend has one. -/
def kindName? (t : SemanticToken) : Option String :=
  kindNames[t.kind.toNat]?

/-- The tokens of a document. -/
def ofText (text : Text) : List SemanticToken :=
  (Key.tokens text).map ofKeyToken

/-- A token relative to a place: a token on another line keeps its column. -/
def delta (prevLine prevStart : UInt32) (t : SemanticToken) : TokenDelta :=
  let line := t.line - prevLine
  { line, start := if line = 0 then t.start - prevStart else t.start,
    length := t.length, kind := t.kind }

/-- Writes tokens relative to a place. -/
def encodeFrom (prevLine prevStart : UInt32) : List SemanticToken → List TokenDelta
  | [] => []
  | t :: rest => t.delta prevLine prevStart :: encodeFrom t.line t.start rest

/-- Writes tokens that are in document order. Tokens of length zero are left out, since editors
refuse them. -/
def encode (tokens : List SemanticToken) : List TokenDelta :=
  encodeFrom 0 0 (tokens.filter (·.length ≠ 0))

end SemanticToken

namespace TokenDelta

/-- The place and shape of a relative token, measured from a place. -/
def resolve (prevLine prevStart : UInt32) (d : TokenDelta) : SemanticToken where
  line := prevLine + d.line
  start := if d.line = 0 then prevStart + d.start else d.start
  length := d.length
  kind := d.kind

/-- Reads relative tokens, measured from a place. -/
def decodeFrom (prevLine prevStart : UInt32) : List TokenDelta → List SemanticToken
  | [] => []
  | d :: rest =>
    let t := d.resolve prevLine prevStart
    t :: decodeFrom t.line t.start rest

/-- Reads the tokens that an editor shows. -/
def decode (deltas : List TokenDelta) : List SemanticToken :=
  decodeFrom 0 0 deltas

/-- The five words of a token on the wire. -/
def words (d : TokenDelta) : List UInt32 :=
  [d.line, d.start, d.length, d.kind, d.modifiers]

end TokenDelta

end SolverInput.Editor

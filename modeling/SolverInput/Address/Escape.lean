import SolverInput.Text.Digit

/-!
# Escapes of addresses

A byte can be written as a percent sign and two hexadecimal digits. Every part of an address has its
own characters that are written so; control characters and those outside of ASCII always are.
-/

namespace SolverInput.Address

/-! ## Writing -/

/-- Writes a byte as an escape. -/
def escapeByte (b : UInt8) : Text :=
  ['%', (Nat.digitChar (b.toNat / 16)).toUpper, (Nat.digitChar (b.toNat % 16)).toUpper]

/-- Writes a text with escapes for the given characters. -/
def escape (escaped : List Char) (t : Text) : Text :=
  t.flatMap fun c =>
    if c.toNat < 0x20 || 0x7F ≤ c.toNat || c ∈ escaped then
      (String.utf8EncodeChar c).flatMap escapeByte
    else [c]

/-- The characters that are escaped in fragments. -/
def fragmentEscapes : List Char := " \"<>`".toList

/-- The characters that are escaped in queries. -/
def queryEscapes : List Char := [' ', '"', '#', '<', '>']

/-- The characters that are escaped in paths. -/
def pathEscapes : List Char := fragmentEscapes ++ ['#', '?', '{', '}']

/-- The characters that are escaped in the names and passwords of users. -/
def userEscapes : List Char := pathEscapes ++ ['/', ':', ';', '=', '@', '[', '\\', ']', '^', '|']

/-! ## Reading -/

/-- The byte of two hexadecimal digits. -/
def byte? (high low : Char) : Option UInt8 := do
  return UInt8.ofNat ((← Text.hexDigit? high) * 16 + (← Text.hexDigit? low))

/-- The bytes of a text with escapes. A percent sign without two digits stands for itself. -/
def unescape : Text → List UInt8
  | '%' :: a :: b :: rest =>
    match byte? a b with
    | some byte => byte :: unescape rest
    | none => 0x25 :: unescape (a :: b :: rest)
  | c :: rest => String.utf8EncodeChar c ++ unescape rest
  | [] => []

end SolverInput.Address

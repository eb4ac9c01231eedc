import SolverInput.Text.Hidden

/-!
# Quoted text

The form in which a message shows a piece of text: in double quotes, with a backslash before a
quote or a backslash, short names for the common control characters, and `\u{…}` with the code
point in hexadecimal for every other hidden character. A quoted text has no line feed in it.
-/

namespace SolverInput.Text

/-- The spelling of a hidden character by its code point. -/
def codePoint (c : Char) : Text :=
  ['\\', 'u', '{'] ++ Nat.toDigits 16 c.toNat ++ ['}']

/-- How one character is written between the quotes. -/
def quotedChar (c : Char) : Text :=
  if c = '\x00' then ['\\', '0']
  else if c = '\t' then ['\\', 't']
  else if c = '\r' then ['\\', 'r']
  else if c = '\n' then ['\\', 'n']
  else if c = '"' then ['\\', '"']
  else if c = '\\' then ['\\', '\\']
  else if isHidden c then codePoint c
  else [c]

/-- Writes a text in quotes. -/
def quoted (t : Text) : Text :=
  '"' :: t.flatMap quotedChar ++ ['"']

end SolverInput.Text

import SolverInput.Text.Basic

/-!
# Blank characters

The characters that count as white space everywhere in the library, and trimming by them.
The set is Unicode's `White_Space` property: it contains the line feed, the no-break space and
the ideographic space, and leaves out the zero-width space and the byte order mark.
-/

namespace SolverInput.Text

/-- Blank characters are those with the Unicode property `White_Space`. -/
def isBlank (c : Char) : Bool :=
  let n := c.toNat
  (9 ≤ n && n ≤ 13) || n == 0x20 || n == 0x85 || n == 0xA0 || n == 0x1680 ||
    (0x2000 ≤ n && n ≤ 0x200A) || n == 0x2028 || n == 0x2029 || n == 0x202F ||
    n == 0x205F || n == 0x3000

/-- Removes the blanks at the start. -/
def skipBlanks (t : Text) : Text :=
  t.dropWhile isBlank

/-- Removes the blanks at both ends. -/
def trim (t : Text) : Text :=
  dropEndWhile isBlank (skipBlanks t)

end SolverInput.Text

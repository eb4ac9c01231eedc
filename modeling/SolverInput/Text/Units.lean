import SolverInput.Text.Basic

/-!
# Widths in UTF-16 units

Editors address a column by UTF-16 code units: a character of the basic plane takes one unit, any
other character two. Cutting a line at a column never splits a character.
-/

namespace SolverInput.Text

/-- Counts the UTF-16 units of one character. -/
def charUnits (c : Char) : Nat :=
  if c.toNat < 0x10000 then 1 else 2

/-- Counts the UTF-16 units of a text. -/
def units : Text → Nat
  | [] => 0
  | c :: cs => charUnits c + units cs

/-- The shortest initial part that is at least `n` units wide, or everything if nothing is. -/
def takeUnits : Nat → Text → Text
  | 0, _ => []
  | _ + 1, [] => []
  | n + 1, c :: cs => c :: takeUnits (n + 1 - charUnits c) cs

end SolverInput.Text

import SolverInput.Text.Basic

/-!
# Punycode

A label of a host name with characters outside of ASCII can be spelled in ASCII: first its ASCII
characters, then a hyphen, then the others as distances between places of insertion. Distances are
numbers in base 36 whose digits have weights that adapt to the distances before.
-/

namespace SolverInput.Address.Punycode

/-- The value of a digit: letters come before decimal digits. -/
def digit? (c : Char) : Option Nat :=
  if 'a' ≤ c && c ≤ 'z' then some (c.toNat - 'a'.toNat)
  else if '0' ≤ c && c ≤ '9' then some (c.toNat - '0'.toNat + 26)
  else none

/-- The least value of a digit after which more digits follow. -/
def threshold (place bias : Nat) : Nat :=
  if place ≤ bias then 1 else if bias + 26 ≤ place then 26 else place - bias

/-- Divides a distance until it is small; `place` counts the divisions. -/
def shrink (distance place : Nat) : Nat × Nat :=
  if 455 < distance then shrink (distance / 35) (place + 36) else (distance, place)
termination_by distance
decreasing_by exact Nat.div_lt_self (by omega) (by omega)

/-- The bias after a distance, when there are `size` characters. -/
def adapt (distance size : Nat) (first : Bool) : Nat :=
  let damped := if first then distance / 700 else distance / 2
  let (small, place) := shrink (damped + damped / size) 0
  place + 36 * small / (small + 38)

/-- A label that is being read: the characters so far, the code point and the place of the next
one, and the digits of its distance. -/
structure Progress where
  done : Text
  code : Nat := 128
  index : Nat := 0
  start : Nat := 0
  bias : Nat := 72
  place : Nat := 36
  weight : Nat := 1

/-- Inserts the character whose distance is complete. -/
def Progress.insert? (p : Progress) : Option Progress :=
  let size := p.done.length + 1
  let code := p.code + p.index / size
  let index := p.index % size
  if code < 0xD800 || (0xDFFF < code && code < 0x110000) then
    some { done := p.done.take index ++ Char.ofNat code :: p.done.drop index
           code, index := index + 1, start := index + 1
           bias := adapt (p.index - p.start) size (p.start == 0) }
  else none

/-- Takes a digit. -/
def Progress.take? (p : Progress) (c : Char) : Option Progress := do
  let digit ← digit? c
  let least := threshold p.place p.bias
  let next := { p with index := p.index + digit * p.weight }
  if digit < least then next.insert?
  else some { next with place := p.place + 36, weight := p.weight * (36 - least) }

/-- The characters of a spelled label. -/
def decode? (label : Text) : Option Text := do
  let (basic, digits) := match Text.splitAtLast? ['-'] label with
    | some ([], _) | none => ([], label)
    | some split => split
  let last ← digits.foldlM Progress.take? { done := basic }
  if last.weight = 1 && last.place = 36 then some last.done else none

end SolverInput.Address.Punycode

import SolverInput.Address.Escape
import SolverInput.Address.Fault
import SolverInput.Address.Punycode
import SolverInput.Text.LetterCase

/-!
# Names of hosts

A name consists of labels with dots between them. Names that look alike are one name: letter case
does not count, wide letters are letters, and a label in its ASCII spelling is the label that it
spells. A name keeps no character that cannot be seen.
-/

namespace SolverInput.Address.Name

/-! ## Characters -/

/-- ASCII characters that no name has. -/
def isForbidden (c : Char) : Bool :=
  c.toNat ≤ 0x20 || c.toNat == 0x7F || "%#/:<>?@[\\]^|".toList.contains c

/-- Characters that do not count in a name. -/
def isIgnored (c : Char) : Bool :=
  Text.inRanges [(0xAD, 0xAD), (0x180B, 0x180D), (0x200B, 0x200B), (0x2060, 0x2060),
    (0x2064, 0x2064), (0xFE00, 0xFE0F), (0xFEFF, 0xFEFF)] c.toNat

/-- Marks that stand on the letter before them. -/
def isMark (c : Char) : Bool :=
  0x300 ≤ c.toNat && c.toNat ≤ 0x36F

/-- Characters outside of ASCII that a name can have. -/
def isVisible (c : Char) : Bool :=
  isMark c || !(Text.isHidden c || c.toNat == 0xFFFD)

/-- The form of a character in which names are compared. -/
def plainChar (c : Char) : Text :=
  if c.toNat < 0x80 then [c.toLower]
  else if isIgnored c then []
  else if c.toNat == 0x3002 || c.toNat == 0xFF61 then ['.']
  else if 0xFF01 ≤ c.toNat && c.toNat ≤ 0xFF5E then [(Char.ofNat (c.toNat - 0xFEE0)).toLower]
  else Text.lowerChar c

/-! ## Labels -/

/-- Tells whether a label could be written without its ASCII spelling: it is in plain form, all of
it can be seen, and it does not start with a mark. -/
def isLabel (label : Text) : Bool :=
  label.all (fun c => !isForbidden c && (c.toNat < 0x80 || isVisible c)) &&
    !(label.head?.any isMark)

/-- The label that an ASCII spelling stands for. It has a character outside of ASCII. -/
def spelled? (spelling : Text) : Option Text := do
  let label ← Punycode.decode? spelling
  if label.any (0x80 ≤ ·.toNat) && label.flatMap plainChar = label && isLabel label then some label
  else none

/-- Reads a label in plain form. -/
def label? (label : Text) : Option Text :=
  match label with
  | 'x' :: 'n' :: '-' :: '-' :: spelling => spelled? spelling
  | _ => if isLabel label then some label else none

/-! ## Names -/

/-- Reads a name, in which bytes can be escaped. -/
def read? (name : Text) : Option Text := do
  let chars ← Text.ofBytes? ⟨(unescape name).toArray⟩
  let labels ← ((chars.flatMap plainChar).splitOn '.').mapM label?
  return List.intercalate ['.'] labels

end SolverInput.Address.Name

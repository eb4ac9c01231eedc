import SolverInput.Decimal.Shortest
import SolverInput.Json.Basic

/-!
# Writing JSON

Two layouts: everything on one line, or one item a line with two spaces for each level. Strings
escape the quote, the backslash and the control characters below the space, and nothing else.
-/

namespace SolverInput.Json

/-! ## Strings and numbers -/

/-- The four hexadecimal digits of a small code point. -/
def hexQuad (n : Nat) : List Char :=
  let digits := Nat.toDigits 16 n
  List.replicate (4 - digits.length) '0' ++ digits

/-- How a character is written in a string. -/
def escapedChar (c : Char) : List Char :=
  if c = '"' then ['\\', '"']
  else if c = '\\' then ['\\', '\\']
  else if c = '\n' then ['\\', 'n']
  else if c = '\r' then ['\\', 'r']
  else if c = '\t' then ['\\', 't']
  else if c.toNat = 8 then ['\\', 'b']
  else if c.toNat = 12 then ['\\', 'f']
  else if c.toNat < 0x20 then ['\\', 'u'] ++ hexQuad c.toNat
  else [c]

/-- Writes a string with its quotes. -/
def stringText (s : String) : String :=
  String.ofList ('"' :: s.toList.flatMap escapedChar ++ ['"'])

/-- Writes an integer in decimal. -/
def integerText (n : Int) : String :=
  if n < 0 then "-" ++ Nat.repr n.natAbs else Nat.repr n.natAbs

/-- Writes a number with the fewest digits, a tie going to the even one. There is an exponent if the
first digit stands more than fifteen places before the ones or more than five after them. JSON has
no text for numbers that are not finite. -/
def floatText : Double → String
  | .finite negative mantissa exponent =>
    let d := Double.shortest .even mantissa exponent
    (if negative then "-" else "") ++
      (if mantissa = 0 then "0.0"
        else if -5 ≤ d.leading ∧ d.leading ≤ 15 then d.pointed
        else d.scientific)
  | _ => "null"

/-! ## Layouts -/

mutual

/-- Writes a value on one line. -/
def compact : Json → String
  | null => "null"
  | bool value => if value then "true" else "false"
  | integer value => integerText value
  | float value => floatText value
  | string value => stringText value
  | array items => "[" ++ String.intercalate "," (compactItems items) ++ "]"
  | object members => "\x7b" ++ String.intercalate "," (compactMembers members) ++ "\x7d"

/-- Writes each item on one line. -/
def compactItems : List Json → List String
  | [] => []
  | item :: rest => compact item :: compactItems rest

/-- Writes each member on one line. -/
def compactMembers : List (String × Json) → List String
  | [] => []
  | (name, value) :: rest => (stringText name ++ ":" ++ compact value) :: compactMembers rest

end

/-- Puts indented parts between brackets, one a line; nothing stands between empty brackets. -/
def block (indent opening closing : String) (parts : List String) : String :=
  if parts.isEmpty then opening ++ closing
  else
    let inner := "\n" ++ indent ++ "  "
    opening ++ inner ++ String.intercalate ("," ++ inner) parts ++ "\n" ++ indent ++ closing

mutual

/-- Writes a value over several lines; `indent` stands before every line but the first. -/
def prettyAt (indent : String) : Json → String
  | array items => block indent "[" "]" (prettyItems (indent ++ "  ") items)
  | object members => block indent "\x7b" "\x7d" (prettyMembers (indent ++ "  ") members)
  | other => compact other

/-- Writes each item over several lines. -/
def prettyItems (indent : String) : List Json → List String
  | [] => []
  | item :: rest => prettyAt indent item :: prettyItems indent rest

/-- Writes each member over several lines. -/
def prettyMembers (indent : String) : List (String × Json) → List String
  | [] => []
  | (name, value) :: rest =>
    (stringText name ++ ": " ++ prettyAt indent value) :: prettyMembers indent rest

end

/-- Writes a value over several lines. -/
def pretty (value : Json) : String :=
  prettyAt "" value

end SolverInput.Json

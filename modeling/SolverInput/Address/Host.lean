import SolverInput.Address.Name

/-!
# Hosts

A host is a name or a number. A name that ends in a number has to be an address of four bytes; what
stands in brackets has to be an address of eight words.
-/

namespace SolverInput.Address

/-! ## Addresses of four bytes -/

namespace FourBytes

/-- Digits of a base. No digits make zero. -/
def digits? (base : Nat) (digits : Text) : Option Nat :=
  if digits.all (Text.isDigitIn base) then some (Text.digitsValue base digits) else none

/-- Reads a number, which is hexadecimal after `0x`, octal after `0`, and decimal otherwise. -/
def number? : Text → Option Nat
  | [] => none
  | '0' :: 'x' :: digits => digits? 16 digits
  | ['0'] => some 0
  | '0' :: digits => digits? 8 digits
  | digits => digits? 10 digits

/-- The parts between the dots. A dot at the end does not count. -/
def parts (name : Text) : List Text :=
  let all := name.splitOn '.'
  if 1 < all.length && all.getLast? = some [] then all.dropLast else all

/-- Tells whether the last part of a name is a number or looks like one. -/
def endsInNumber (name : Text) : Bool :=
  (parts name).getLast?.any fun last =>
    (!last.isEmpty && last.all Char.isDigit) || (number? last).isSome

/-- Reads an address. The last number fills the bytes that the others leave. -/
def read? (name : Text) : Option Nat := do
  let numbers ← (parts name).mapM number?
  let last ← numbers.getLast?
  let lead := numbers.dropLast
  let room := Nat.pow 256 (4 - lead.length)
  if 3 < lead.length || lead.any (255 < ·) || room ≤ last then none
  else some (lead.foldl (fun n byte => n * 256 + byte) 0 * room + last)

end FourBytes

/-! ## Addresses of eight words -/

namespace EightWords

/-- Reads a word of one to four hexadecimal digits. -/
def word? (digits : Text) : Option Nat :=
  if digits.isEmpty || 4 < digits.length || !digits.all (Text.isDigitIn 16) then none
  else some (Text.digitsValue 16 digits)

/-- Reads a decimal byte without leading zeros. -/
def byte? (digits : Text) : Option Nat :=
  let value := Text.digitsValue 10 digits
  if digits.isEmpty || !digits.all Char.isDigit || 255 < value then none
  else if 1 < digits.length && digits.head? = some '0' then none
  else some value

/-- Reads two words that are written as four decimal bytes. -/
def lastWords? (text : Text) : Option (List Nat) := do
  match ← (text.splitOn '.').mapM byte? with
  | [a, b, c, d] => some [a * 256 + b, c * 256 + d]
  | _ => none

/-- Reads words, of which the last two can be written as bytes if they end the address. -/
def words? (final : Bool) : List Text → Option (List Nat)
  | [] => some []
  | [last] => if final && last.contains '.' then lastWords? last else (word? last).map ([·])
  | word :: rest => do return (← word? word) :: (← words? final rest)

/-- Reads the words on one side of the gap. -/
def side? (final : Bool) (text : Text) : Option (List Nat) :=
  if text.isEmpty then some [] else words? final (text.splitOn ':')

/-- Splits a text at its first pair of colons. -/
def splitGap? : Text → Option (Text × Text)
  | ':' :: ':' :: rest => some ([], rest)
  | c :: rest => (splitGap? rest).map fun (before, after) => (c :: before, after)
  | [] => none

/-- Reads an address. A gap stands for one or more words that are zero. -/
def read? (text : Text) : Option (List Nat) := do
  match splitGap? text with
  | some (before, after) =>
    let head ← side? false before
    let tail ← side? true after
    let zeros := 8 - (head.length + tail.length)
    if zeros = 0 then none else some (head ++ List.replicate zeros 0 ++ tail)
  | none =>
    let words ← words? true (text.splitOn ':')
    if words.length = 8 then some words else none

end EightWords

/-! ## Hosts -/

/-- A host. -/
inductive Host where
  | name (labels : Text)
  | fourBytes (value : Nat)
  | eightWords (words : List Nat)
  deriving DecidableEq

namespace Host

/-- The text of a host. Equal hosts have equal texts. -/
def text : Host → Text
  | name labels => labels
  | fourBytes value =>
    let bytes := [value / 16777216, value / 65536 % 256, value / 256 % 256, value % 256]
    List.intercalate ['.'] (bytes.map (Nat.toDigits 10))
  | eightWords words => '[' :: List.intercalate [':'] (words.map (Nat.toDigits 16)) ++ [']']

/-- Reads what stands in brackets, if the text starts with one. -/
def bracketed? (text : Text) : Option (Except Fault Host) :=
  match text with
  | '[' :: rest => some <|
    match rest.getLast?, EightWords.read? rest.dropLast with
    | some ']', some words => .ok (.eightWords words)
    | _, _ => .error .badEightWords
  | _ => none

/-- Reads a host that can be looked up. -/
def known (text : Text) : Except Fault Host :=
  match bracketed? text with
  | some host => host
  | none =>
    match Name.read? text with
    | none => .error .badName
    | some [] => .error .emptyHost
    | some labels =>
      if FourBytes.endsInNumber labels then
        match FourBytes.read? labels with
        | some value => .ok (.fourBytes value)
        | none => .error .badFourBytes
      else .ok (.name labels)

/-- The characters that no host of another scheme has. -/
def isForbidden (c : Char) : Bool :=
  c == '\x00' || " #/:<>?@[\\]^|".toList.contains c

/-- Reads a host of another scheme, which need not be known to anyone. -/
def foreign (text : Text) : Except Fault Host :=
  match bracketed? text with
  | some host => host
  | none => if text.any isForbidden then .error .badCharacter else .ok (.name (escape [] text))

end Host

end SolverInput.Address

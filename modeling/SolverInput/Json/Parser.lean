import SolverInput.Decimal.Arithmetic
import SolverInput.Json.Basic
import SolverInput.Text.Digit

/-!
# Reading JSON

A strict reader: no comments, no trailing commas, nothing but white space around the value. Strings
hold no raw control characters, and escaped surrogates only in pairs. Values nest at most 127 levels
deep. A number that is not an integer of 64 bits is computed in double precision from its first
digits and a power of ten, so it need not be the nearest one to what is written.
-/

namespace SolverInput.Json

/-- Removes the white space of JSON. -/
def skipSpace (cs : List Char) : List Char :=
  cs.dropWhile fun c => c == ' ' || c == '\n' || c == '\r' || c == '\t'

/-! ## Strings -/

/-- The value of hexadecimal digits. -/
def hexValue? (digits : List Char) : Option Nat :=
  digits.foldlM (fun n c => (Text.hexDigit? c).map (n * 16 + ·)) 0

/-- The character that a one-letter escape stands for. -/
def shortEscape? (c : Char) : Option Char :=
  match c with
  | '"' => some '"'
  | '\\' => some '\\'
  | '/' => some '/'
  | 'b' => some (Char.ofNat 8)
  | 'f' => some (Char.ofNat 12)
  | 'n' => some '\n'
  | 'r' => some '\r'
  | 't' => some '\t'
  | _ => none

/-- Reads a string up to its closing quote; `done` holds what was read so far, last character
first. -/
def stringBody (done : List Char) : List Char → Option (String × List Char)
  | '"' :: rest => some (String.ofList done.reverse, rest)
  | '\\' :: 'u' :: a :: b :: c :: d :: rest => do
    let unit ← hexValue? [a, b, c, d]
    if unit < 0xD800 || 0xDFFF < unit then stringBody (Char.ofNat unit :: done) rest
    else if 0xDC00 ≤ unit then none
    else match rest with
      | '\\' :: 'u' :: e :: f :: g :: h :: rest => do
        let low ← hexValue? [e, f, g, h]
        if 0xDC00 ≤ low && low ≤ 0xDFFF then
          stringBody (Char.ofNat (0x10000 + (unit - 0xD800) * 0x400 + (low - 0xDC00)) :: done) rest
        else none
      | _ => none
  | '\\' :: c :: rest => do stringBody ((← shortEscape? c) :: done) rest
  | c :: rest => if c.toNat < 0x20 || c == '\\' then none else stringBody (c :: done) rest
  | [] => none

/-! ## Numbers -/

/-- Digits count as long as their value is below this bound, which is the range of 64 bits. -/
def significandBound : Nat := 18446744073709551616

/-- Puts digits behind a number as long as it stays below the bound. Gives the number and how many
digits did not fit. -/
def appendDigits (n : Nat) : List Char → Nat × Nat
  | [] => (n, 0)
  | c :: rest =>
    let longer := n * 10 + (c.toNat - '0'.toNat)
    if longer < significandBound then appendDigits longer rest else (n, rest.length + 1)

/-- Reads at least one digit. -/
def digits? (cs : List Char) : Option (List Char × List Char) :=
  let digits := cs.takeWhile Char.isDigit
  if digits.isEmpty then none else some (digits, cs.dropWhile Char.isDigit)

/-- Reads a fraction, if one follows. -/
def fraction? (cs : List Char) : Option (Option (List Char) × List Char) :=
  match cs with
  | '.' :: rest => (digits? rest).map fun (digits, rest) => (some digits, rest)
  | _ => some (none, cs)

/-- Reads an exponent, if one follows. -/
def exponent? (cs : List Char) : Option (Option Int × List Char) :=
  match cs with
  | c :: rest =>
    if c == 'e' || c == 'E' then do
      let (negative, rest) := match rest with
        | '-' :: rest => (true, rest)
        | '+' :: rest => (false, rest)
        | _ => (false, rest)
      let (digits, rest) ← digits? rest
      let n : Int := Text.digitsValue 10 digits
      return (some (if negative then -n else n), rest)
    else some (none, cs)
  | [] => some (none, cs)

/-- The number `± n · 10 ^ exponent`. `none` if it is too large. -/
def float? (negative : Bool) (n : Nat) (exponent : Int) : Option Json :=
  (Double.scaleByTens? n exponent).map fun x => float (if negative then x.neg else x)

/-- The number of a sign and a natural number of 64 bits. A negative zero and numbers below the
signed range are not integers. -/
def whole (negative : Bool) (n : Nat) : Json :=
  if !negative then integer n
  else if 0 < n ∧ n ≤ 9223372036854775808 then integer (-n)
  else float (Double.ofNat n).neg

/-- Reads a number without its sign. -/
def unsigned? (negative : Bool) (cs : List Char) : Option (Json × List Char) := do
  let (digits, rest) ← digits? cs
  if digits.length > 1 && digits.head? == some '0' then none
  else
    let (fraction, rest) ← fraction? rest
    let (exponent, rest) ← exponent? rest
    let (n, surplus) := appendDigits 0 digits
    if fraction.isNone && exponent.isNone && surplus == 0 then return (whole negative n, rest)
    else
      let places := fraction.getD []
      let (n, unread) := appendDigits n places
      let power : Int := surplus - (places.length - unread : Nat)
      return (← float? negative n (power + exponent.getD 0), rest)

/-- Reads a number. -/
def number? (cs : List Char) : Option (Json × List Char) :=
  match cs with
  | '-' :: rest => unsigned? true rest
  | _ => unsigned? false cs

/-! ## Values -/

/-- Reads what follows an opening bracket, item by item, with a reader for the items. The first
argument bounds the number of items. -/
def itemsWith (value : List Char → Option (Json × List Char)) :
    Nat → List Char → Option (List Json × List Char)
  | 0, _ => none
  | n + 1, cs => do
    let (item, rest) ← value cs
    match skipSpace rest with
    | ',' :: rest =>
      let (items, rest) ← itemsWith value n rest
      return (item :: items, rest)
    | ']' :: rest => return ([item], rest)
    | _ => none

/-- Reads what follows an opening brace, member by member, with a reader for the values. The first
argument bounds the number of members. -/
def membersWith (value : List Char → Option (Json × List Char)) :
    Nat → List Char → Option (List (String × Json) × List Char)
  | 0, _ => none
  | n + 1, cs =>
    match skipSpace cs with
    | '"' :: rest => do
      let (name, rest) ← stringBody [] rest
      match skipSpace rest with
      | ':' :: rest =>
        let (item, rest) ← value rest
        match skipSpace rest with
        | ',' :: rest =>
          let (members, rest) ← membersWith value n rest
          return ((name, item) :: members, rest)
        | '}' :: rest => return ([(name, item)], rest)
        | _ => none
      | _ => none
    | _ => none

/-- Reads a value. The first argument bounds how deep arrays and objects nest. -/
def valueAt : Nat → List Char → Option (Json × List Char)
  | depth, cs =>
    match skipSpace cs with
    | '"' :: rest => (stringBody [] rest).map fun (s, rest) => (string s, rest)
    | 'n' :: 'u' :: 'l' :: 'l' :: rest => some (null, rest)
    | 't' :: 'r' :: 'u' :: 'e' :: rest => some (bool true, rest)
    | 'f' :: 'a' :: 'l' :: 's' :: 'e' :: rest => some (bool false, rest)
    | '[' :: rest =>
      match depth with
      | 0 => none
      | depth + 1 =>
        match skipSpace rest with
        | ']' :: rest => some (array [], rest)
        | rest =>
          (itemsWith (valueAt depth) rest.length rest).map fun (is, rest) => (array is, rest)
    | '{' :: rest =>
      match depth with
      | 0 => none
      | depth + 1 =>
        match skipSpace rest with
        | '}' :: rest => some (object [], rest)
        | rest =>
          (membersWith (valueAt depth) rest.length rest).map fun (ms, rest) => (object ms, rest)
    | cs => number? cs

/-- How deep arrays and objects may nest. -/
def maxDepth : Nat := 127

/-- Reads a whole text as one value. Objects keep every member that is written, also those with one
name. -/
def parseAll? (s : String) : Option Json :=
  match valueAt maxDepth s.toList with
  | some (value, rest) => if (skipSpace rest).isEmpty then some value else none
  | none => none

/-- Reads a whole text as one value, with the members of objects in the order of their names. Of
several members with one name the last one counts. -/
def parse? (s : String) : Option Json :=
  (parseAll? s).map canonical

end SolverInput.Json

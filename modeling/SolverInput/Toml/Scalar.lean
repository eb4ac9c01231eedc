import SolverInput.Text.Digit
import SolverInput.Toml.Value

/-!
# Scalars of TOML

Readers for strings, keys, numbers, dates and times. A reader takes what it understands from the
start of the input and gives back the rest, or fails.
-/

namespace SolverInput.Toml

/-- Takes a value from the start of the input and gives back the rest. -/
abbrev Scan (α : Type) := List Char → Option (α × List Char)

/-! ## Spaces, comments and line ends -/

/-- Spaces within a line. -/
def isSpace (c : Char) : Bool :=
  c == ' ' || c == '\t'

/-- Removes spaces. -/
def skipSpace (cs : List Char) : List Char :=
  cs.dropWhile isSpace

/-- What follows a line ending. -/
def afterNewline? : List Char → Option (List Char)
  | '\n' :: rest => some rest
  | '\r' :: '\n' :: rest => some rest
  | _ => none

/-- Characters of comments and, quotes and backslashes apart, of strings: everything but the ASCII
control characters other than the tab. -/
def isPlainChar (c : Char) : Bool :=
  c == '\t' || (0x20 ≤ c.toNat && c.toNat ≤ 0x7E) || 0x80 ≤ c.toNat

/-- Removes a comment. -/
def skipComment : List Char → List Char
  | '#' :: rest => rest.dropWhile isPlainChar
  | cs => cs

/-- What follows the end of a line: spaces, a comment, and a line ending or the end of the input. -/
def afterLine? (cs : List Char) : Option (List Char) :=
  match skipComment (skipSpace cs) with
  | [] => some []
  | rest => afterNewline? rest

/-- Removes spaces, comments and line endings. The first argument bounds their number. -/
def skipLines : Nat → List Char → List Char
  | 0, cs => cs
  | n + 1, cs =>
    let rest := skipSpace cs
    match rest with
    | '#' :: comment => skipLines n (comment.dropWhile isPlainChar)
    | _ =>
      match afterNewline? rest with
      | some rest => skipLines n rest
      | none => rest

/-! ## Strings -/

/-- The character with a code point given by exactly `count` hexadecimal digits. -/
def codePoint? (count : Nat) (cs : List Char) : Option (Char × List Char) := do
  let digits := cs.take count
  if digits.length < count then none
  else
    let n ← digits.foldlM (fun n c => (Text.hexDigit? c).map (n * 16 + ·)) 0
    if n < 0xD800 || (0xE000 ≤ n && n < 0x110000) then
      some (Char.ofNat n, cs.drop count)
    else none

/-- The character of an escape, after its backslash. -/
def escape? : Scan Char
  | 'b' :: rest => some (Char.ofNat 8, rest)
  | 't' :: rest => some ('\t', rest)
  | 'n' :: rest => some ('\n', rest)
  | 'f' :: rest => some (Char.ofNat 12, rest)
  | 'r' :: rest => some ('\r', rest)
  | '"' :: rest => some ('"', rest)
  | '\\' :: rest => some ('\\', rest)
  | 'u' :: rest => codePoint? 4 rest
  | 'U' :: rest => codePoint? 8 rest
  | _ => none

/-- Reads a basic string up to its closing quote. The first argument bounds the number of
characters; `done` holds what was read, last character first. -/
def basicBody : Nat → List Char → Scan (List Char)
  | 0, _, _ => none
  | n + 1, done, cs =>
    match cs with
    | '"' :: rest => some (done.reverse, rest)
    | '\\' :: rest => do
      let (c, rest) ← escape? rest
      basicBody n (c :: done) rest
    | c :: rest => if isPlainChar c then basicBody n (c :: done) rest else none
    | [] => none

/-- Reads a literal string up to its closing apostrophe. -/
def literalBody (cs : List Char) : Option (List Char × List Char) :=
  let body := cs.takeWhile fun c => isPlainChar c && c != '\''
  match cs.drop body.length with
  | '\'' :: rest => some (body, rest)
  | _ => none

/-- Removes spaces and line endings. -/
def skipBlankLines : List Char → List Char
  | '\n' :: rest => skipBlankLines rest
  | '\r' :: '\n' :: rest => skipBlankLines rest
  | c :: rest => if isSpace c then skipBlankLines rest else c :: rest
  | [] => []

/-- What follows a backslash at the end of a line: the line ending and all blank space after it. -/
def afterLineFold? (cs : List Char) : Option (List Char) :=
  (afterNewline? (skipSpace cs)).map skipBlankLines

/-- Splits off the quotes of a run that belong to a string over several lines, if the run closes
it: up to two quotes may stand directly before the three closing ones. -/
def closingRun? (quote : Char) (cs : List Char) : Option (List Char × List Char) :=
  let count := (cs.takeWhile (· == quote)).length
  if count < 3 then none
  else some (List.replicate (min (count - 3) 2) quote, cs.drop (min count 5))

/-- Reads a basic string over several lines. -/
def multiBasicBody : Nat → List Char → Scan (List Char)
  | 0, _, _ => none
  | n + 1, done, cs =>
    match closingRun? '"' cs with
    | some (quotes, rest) => some (done.reverse ++ quotes, rest)
    | none =>
      match cs with
      | '\\' :: rest =>
        match afterLineFold? rest with
        | some rest => multiBasicBody n done rest
        | none => do
          let (c, rest) ← escape? rest
          multiBasicBody n (c :: done) rest
      | _ =>
        match afterNewline? cs with
        | some rest => multiBasicBody n ('\n' :: done) rest
        | none =>
          match cs with
          | c :: rest => if isPlainChar c then multiBasicBody n (c :: done) rest else none
          | [] => none

/-- Reads a literal string over several lines. -/
def multiLiteralBody : Nat → List Char → Scan (List Char)
  | 0, _, _ => none
  | n + 1, done, cs =>
    match closingRun? '\'' cs with
    | some (quotes, rest) => some (done.reverse ++ quotes, rest)
    | none =>
      match afterNewline? cs with
      | some rest => multiLiteralBody n ('\n' :: done) rest
      | none =>
        match cs with
        | c :: rest => if isPlainChar c then multiLiteralBody n (c :: done) rest else none
        | [] => none

/-- Removes a line ending right after the opening quotes of a string over several lines. -/
def dropFirstNewline (cs : List Char) : List Char :=
  (afterNewline? cs).getD cs

/-- Reads a string of any kind. -/
def string? (cs : List Char) : Option (String × List Char) :=
  let bound := cs.length + 1
  let read := match cs with
    | '"' :: '"' :: '"' :: rest => multiBasicBody bound [] (dropFirstNewline rest)
    | '\'' :: '\'' :: '\'' :: rest => multiLiteralBody bound [] (dropFirstNewline rest)
    | '"' :: rest => basicBody bound [] rest
    | '\'' :: rest => literalBody rest
    | _ => none
  read.map fun (chars, rest) => (String.ofList chars, rest)

/-! ## Keys -/

/-- Characters of a key without quotes. -/
def isBareKeyChar (c : Char) : Bool :=
  c.isAlphanum || c == '_' || c == '-'

/-- Reads one part of a key. -/
def simpleKey? (cs : List Char) : Option (String × List Char) :=
  match cs with
  | '"' :: rest => (basicBody (cs.length + 1) [] rest).map fun (k, rest) => (String.ofList k, rest)
  | '\'' :: rest => (literalBody rest).map fun (k, rest) => (String.ofList k, rest)
  | _ =>
    let key := cs.takeWhile isBareKeyChar
    if key.isEmpty then none else some (String.ofList key, cs.dropWhile isBareKeyChar)

/-- Reads the parts of a dotted key, with the spaces around them. The first argument bounds the
number of parts. -/
def keyParts? : Nat → Scan (List String)
  | 0, _ => none
  | n + 1, cs => do
    let (part, rest) ← simpleKey? (skipSpace cs)
    match skipSpace rest with
    | '.' :: rest =>
      let (parts, rest) ← keyParts? n rest
      return (part :: parts, rest)
    | rest => return ([part], rest)

/-- How many parts a dotted key may have, and how deep values may nest. -/
def maxNesting : Nat := 79

/-- Reads a dotted key. -/
def key? (cs : List Char) : Option (List String × List Char) :=
  keyParts? maxNesting cs

/-! ## Numbers -/

/-- Reads digits after the first one; an underscore may stand between two digits. -/
def moreDigits (isDigit : Char → Bool) : List Char → List Char × List Char
  | '_' :: c :: rest =>
    if isDigit c then
      let (digits, rest) := moreDigits isDigit rest
      (c :: digits, rest)
    else ([], '_' :: c :: rest)
  | c :: rest =>
    if isDigit c then
      let (digits, rest) := moreDigits isDigit rest
      (c :: digits, rest)
    else ([], c :: rest)
  | [] => ([], [])

/-- Reads at least one digit. -/
def digits? (isDigit : Char → Bool) : Scan (List Char)
  | c :: rest =>
    if isDigit c then
      let (digits, rest) := moreDigits isDigit rest
      some (c :: digits, rest)
    else none
  | [] => none

/-- Reads a sign; without one a number is positive. -/
def sign : List Char → Bool × List Char
  | '-' :: rest => (true, rest)
  | '+' :: rest => (false, rest)
  | cs => (false, cs)

/-- Reads the digits of a decimal integer, which starts with a zero only if it is zero. -/
def decimalDigits? : Scan (List Char)
  | '0' :: rest => some (['0'], rest)
  | cs => digits? Char.isDigit cs

/-- An integer, if it fits into 64 bits. -/
def bounded (n : Int) : Option Value :=
  if -9223372036854775808 ≤ n ∧ n ≤ 9223372036854775807 then some (.integer n) else none

/-- Reads digits in a base that is a power of two. -/
def based? (base : Nat) (cs : List Char) : Option (Value × List Char) := do
  let (digits, rest) ← digits? (Text.isDigitIn base) cs
  return (← bounded (Text.digitsValue base digits), rest)

/-- Reads an integer. -/
def integer? (cs : List Char) : Option (Value × List Char) :=
  match cs with
  | '0' :: 'x' :: rest => based? 16 rest
  | '0' :: 'o' :: rest => based? 8 rest
  | '0' :: 'b' :: rest => based? 2 rest
  | _ => do
    let (negative, rest) := sign cs
    let (digits, rest) ← decimalDigits? rest
    let n : Int := Text.digitsValue 10 digits
    return (← bounded (if negative then -n else n), rest)

/-- Reads an exponent, if one follows. -/
def exponent? (cs : List Char) : Option (Option Int × List Char) :=
  match cs with
  | c :: rest =>
    if c == 'e' || c == 'E' then do
      let (negative, rest) := sign rest
      let (digits, rest) ← digits? Char.isDigit rest
      let n : Int := Text.digitsValue 10 digits
      return (some (if negative then -n else n), rest)
    else some (none, cs)
  | [] => some (none, cs)

/-- Reads a float with a fraction, an exponent or both. A positive number that is too large is
refused. -/
def float? (cs : List Char) : Option (Value × List Char) := do
  let (negative, rest) := sign cs
  let (whole, rest) ← decimalDigits? rest
  let (fraction, rest) ← match rest with
    | '.' :: rest => (digits? Char.isDigit rest).map fun (ds, rest) => (some ds, rest)
    | rest => some (none, rest)
  let (exponent, rest) ← exponent? rest
  if fraction.isNone && exponent.isNone then none
  else
    let digits := whole ++ fraction.getD []
    let places : Int := (fraction.getD []).length
    let value := Double.ofDecimal negative (Text.digitsValue 10 digits) (exponent.getD 0 - places)
    if value = .infinite false then none else some (.float value, rest)

/-- Reads an infinity or the number that is not a number. -/
def specialFloat? (cs : List Char) : Option (Value × List Char) :=
  let (negative, rest) := sign cs
  match rest with
  | 'i' :: 'n' :: 'f' :: rest => some (.float (.infinite negative), rest)
  | 'n' :: 'a' :: 'n' :: rest => some (.float .nan, rest)
  | _ => none

/-! ## Dates and times -/

/-- Reads a number of exactly `count` digits that lies between two bounds. -/
def fixed? (count low high : Nat) (cs : List Char) : Option (Nat × List Char) :=
  let digits := cs.take count
  let n := Text.digitsValue 10 digits
  if digits.length = count && digits.all Char.isDigit && low ≤ n && n ≤ high then
    some (n, cs.drop count)
  else none

/-- What follows a given character. -/
def after? (c : Char) : List Char → Option (List Char)
  | d :: rest => if d = c then some rest else none
  | [] => none

/-- The number of days of a month. -/
def daysInMonth (year month : Nat) : Nat :=
  let leap := year % 4 == 0 && (year % 100 != 0 || year % 400 == 0)
  if month = 2 then (if leap then 29 else 28)
  else if month = 4 ∨ month = 6 ∨ month = 9 ∨ month = 11 then 30
  else 31

/-- Reads a date. -/
def date? (cs : List Char) : Option (Date × List Char) := do
  let (year, rest) ← fixed? 4 0 9999 cs
  let (month, rest) ← fixed? 2 1 12 (← after? '-' rest)
  let (day, rest) ← fixed? 2 1 31 (← after? '-' rest)
  if day ≤ daysInMonth year month then some (⟨year, month, day⟩, rest) else none

/-- The nanoseconds of the digits of a fraction; digits past the ninth do not count. -/
def nanoseconds (digits : List Char) : Nat :=
  let kept := digits.take 9
  Text.digitsValue 10 kept * Nat.pow 10 (9 - kept.length)

/-- Reads a time of day. -/
def time? (cs : List Char) : Option (Time × List Char) := do
  let (hour, rest) ← fixed? 2 0 23 cs
  let (minute, rest) ← fixed? 2 0 59 (← after? ':' rest)
  let (second, rest) ← fixed? 2 0 60 (← after? ':' rest)
  match rest with
  | '.' :: fraction =>
    let digits := fraction.takeWhile Char.isDigit
    if digits.isEmpty then some (⟨hour, minute, second, 0⟩, rest)
    else some (⟨hour, minute, second, nanoseconds digits⟩, fraction.dropWhile Char.isDigit)
  | _ => some (⟨hour, minute, second, 0⟩, rest)

/-- Reads an offset, if one follows. -/
def offset? (cs : List Char) : Option (Option Offset × List Char) :=
  match cs with
  | c :: rest =>
    if c == 'Z' || c == 'z' then some (some .utc, rest)
    else if c == '+' || c == '-' then do
      let (hours, rest) ← fixed? 2 0 23 rest
      let (minutes, rest) ← fixed? 2 0 59 (← after? ':' rest)
      let count : Int := hours * 60 + minutes
      return (some (.minutes (if c == '-' then -count else count)), rest)
    else some (none, cs)
  | [] => some (none, cs)

/-- Reads the time that follows a date after `T` or a space. -/
def timeAfterDate? (cs : List Char) : Option (Time × List Char) :=
  match cs with
  | c :: rest => if c == 'T' || c == 't' || c == ' ' then time? rest else none
  | [] => none

/-- Reads a date, a time, or both. -/
def moment? (cs : List Char) : Option (Moment × List Char) :=
  match date? cs with
  | some (date, rest) =>
    match timeAfterDate? rest with
    | some (time, rest) => do
      let (offset, rest) ← offset? rest
      return (⟨some date, some time, offset⟩, rest)
    | none => some (⟨some date, none, none⟩, rest)
  | none => (time? cs).map fun (time, rest) => (⟨none, some time, none⟩, rest)

/-- The date, time, or both that a whole string holds. -/
def momentOfString? (text : String) : Option Moment :=
  match moment? text.toList with
  | some (moment, []) => some moment
  | _ => none

/-! ## All scalars -/

/-- Reads a date, a time, or both as a value. -/
def momentValue? (cs : List Char) : Option (Value × List Char) :=
  (moment? cs).map fun (moment, rest) => (.moment moment, rest)

/-- Reads a value that is not an array or a table. -/
def scalar? (cs : List Char) : Option (Value × List Char) :=
  match cs with
  | 't' :: 'r' :: 'u' :: 'e' :: rest => some (.boolean true, rest)
  | 'f' :: 'a' :: 'l' :: 's' :: 'e' :: rest => some (.boolean false, rest)
  | '"' :: _ | '\'' :: _ => (string? cs).map fun (s, rest) => (.string s, rest)
  | _ => momentValue? cs <|> float? cs <|> specialFloat? cs <|> integer? cs

end SolverInput.Toml

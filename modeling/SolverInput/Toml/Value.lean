import SolverInput.Decimal.Double

/-!
# TOML values

The values of a TOML document. Dates and times are kept as data and have one written form.
-/

namespace SolverInput.Toml

/-- A calendar date. -/
structure Date where
  year : Nat
  month : Nat
  day : Nat
  deriving DecidableEq

/-- A time of day; the fraction counts nanoseconds. -/
structure Time where
  hour : Nat
  minute : Nat
  second : Nat
  nanosecond : Nat
  deriving DecidableEq

/-- The offset of a time from universal time. -/
inductive Offset where
  | utc
  | minutes (count : Int)
  deriving DecidableEq

/-- A date, a time, or both, with an offset if it is known. -/
structure Moment where
  date : Option Date
  time : Option Time
  offset : Option Offset
  deriving DecidableEq

/-- A TOML value. -/
inductive Value where
  | string (value : String)
  | integer (value : Int)
  | float (value : Double)
  | boolean (value : Bool)
  | moment (value : Moment)
  | array (items : List Value)
  | table (members : List (String × Value))

/-! ## Written form of dates and times -/

/-- Writes a number with at least `width` digits. -/
def padded (width n : Nat) : String :=
  let digits := Nat.toDigits 10 n
  String.ofList (List.replicate (width - digits.length) '0' ++ digits)

/-- Writes a date. -/
def Date.text (d : Date) : String :=
  padded 4 d.year ++ "-" ++ padded 2 d.month ++ "-" ++ padded 2 d.day

/-- Writes a time; zeros at the end of the fraction are dropped. -/
def Time.text (t : Time) : String :=
  let fraction := (padded 9 t.nanosecond).toList.reverse.dropWhile (· == '0')
  padded 2 t.hour ++ ":" ++ padded 2 t.minute ++ ":" ++ padded 2 t.second ++
    (if fraction.isEmpty then "" else "." ++ String.ofList fraction.reverse)

/-- Writes an offset. -/
def Offset.text : Offset → String
  | utc => "Z"
  | minutes count =>
    (if count < 0 then "-" else "+") ++ padded 2 (count.natAbs / 60) ++ ":" ++
      padded 2 (count.natAbs % 60)

/-- Writes a moment. -/
def Moment.text (m : Moment) : String :=
  let date := (m.date.map Date.text).getD ""
  let time := (m.time.map Time.text).getD ""
  let offset := (m.offset.map Offset.text).getD ""
  date ++ (if m.date.isSome && m.time.isSome then "T" else "") ++ time ++ offset

end SolverInput.Toml

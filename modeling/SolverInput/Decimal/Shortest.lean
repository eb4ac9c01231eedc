import SolverInput.Decimal.Double

/-!
# Shortest decimal text

The fewest significant digits that are read back as the same double-precision number, the nearest to
it among those, and the two ways to write them: without an exponent and with one. Where two such
decimals are equally near, a tie rule says which of them is taken.
-/

namespace SolverInput.Double

/-- Which of two equally near decimals is taken. -/
inductive Tie where
  | up
  | even
  deriving DecidableEq

/-- A number as digits and a power of ten: `digits · 10 ^ exponent`. -/
structure Digits where
  digits : Nat
  exponent : Int

/-- The same number without a zero at its end. -/
def Digits.dropZero (d : Digits) : Digits :=
  if d.digits % 10 = 0 then ⟨d.digits / 10, d.exponent + 1⟩ else d

/-- The decimal exponent of the leading digit of `num / den`. -/
def leadingExponent (num den : Nat) : Int :=
  if den ≤ num then (Nat.toDigits 10 (num / den)).length - 1
  else -((Nat.toDigits 10 ((den + num - 1) / num - 1)).length : Int)

/-- The decimal with `count` significant digits that is nearest to `value / den`, if one lies
between `low / den` and `high / den`. The ends count if `closed`. -/
def withDigits? (tie : Tie) (closed : Bool) (low value high den count : Nat) : Option Digits :=
  let exponent : Int := leadingExponent value den - count + 1
  let unit := den * Nat.pow 10 exponent.toNat
  let scale := Nat.pow 10 (-exponent).toNat
  let down := value * scale / unit
  let inside (n : Nat) : Bool :=
    if closed then low * scale ≤ n * unit && n * unit ≤ high * scale
    else low * scale < n * unit && n * unit < high * scale
  let up := down + 1
  -- a carry makes `up` a power of ten, which one digit can write
  let upDigits := Digits.dropZero ⟨up, exponent⟩
  let below := value * scale - down * unit
  let above := up * unit - value * scale
  let downIsNearer := below < above || (below == above && tie == .even && down % 2 == 0)
  match inside down, inside up with
  | true, true => some (if downIsNearer then ⟨down, exponent⟩ else upDigits)
  | true, false => some ⟨down, exponent⟩
  | false, true => some upDigits
  | false, false => none

/-- The shortest digits that are read back as `mantissa · 2 ^ exponent`. -/
def shortest (tie : Tie) (mantissa : Nat) (exponent : Int) : Digits :=
  let quarter := exponent - 2
  let scale := Nat.pow 2 quarter.toNat
  let den := Nat.pow 2 (-quarter).toNat
  let below := if mantissa = mantissaBound / 2 ∧ minExponent < exponent then 1 else 2
  let value := 4 * mantissa
  let found := (List.range 17).findSome? fun n =>
    withDigits? tie (mantissa % 2 == 0) ((value - below) * scale) (value * scale)
      ((value + 2) * scale) den (n + 1)
  found.getD ⟨mantissa, exponent⟩

/-! ## Text -/

namespace Digits

/-- The decimal exponent of the first digit. -/
def leading (d : Digits) : Int :=
  d.exponent + (Nat.toDigits 10 d.digits).length - 1

/-- Writes digits without an exponent. A whole number has no decimal point. -/
def positional (d : Digits) : String :=
  let digits := Nat.toDigits 10 d.digits
  if 0 ≤ d.exponent then
    String.ofList (digits ++ List.replicate d.exponent.toNat '0')
  else
    let places := (-d.exponent).toNat
    let padded := List.replicate (places + 1 - digits.length) '0' ++ digits
    let whole := padded.length - places
    String.ofList (padded.take whole ++ '.' :: padded.drop whole)

/-- Writes digits without an exponent; a whole number ends in `.0`. -/
def pointed (d : Digits) : String :=
  if 0 ≤ d.exponent then d.positional ++ ".0" else d.positional

/-- Writes digits with one digit before the decimal point and a signed exponent. -/
def scientific (d : Digits) : String :=
  let fraction := (Nat.toDigits 10 d.digits).drop 1
  String.ofList ((Nat.toDigits 10 d.digits).take 1) ++
    (if fraction.isEmpty then "" else "." ++ String.ofList fraction) ++
    (if d.leading < 0 then "e-" else "e+") ++ Nat.repr d.leading.natAbs

end Digits

/-- The text of a number without an exponent. A whole number has no decimal point, and of two
equally near decimals the one with the greater digits is written. -/
def text : Double → String
  | finite negative mantissa exponent =>
    (if negative then "-" else "") ++
      (if mantissa = 0 then "0" else (shortest .up mantissa exponent).positional)
  | infinite negative => if negative then "-inf" else "inf"
  | nan => "NaN"

/-- The text of a number in which a whole number ends in `.0`. -/
def pointedText (x : Double) : String :=
  match x with
  | finite _ _ _ => if '.' ∈ x.text.toList then x.text else x.text ++ ".0"
  | _ => x.text

end SolverInput.Double

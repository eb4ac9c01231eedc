import SolverInput.Decimal.Double

/-!
# Products and quotients

Products and quotients of double-precision numbers: the exact result is formed as a fraction and
rounded once.
-/

namespace SolverInput.Double

/-- The number nearest to `± num / den · 2 ^ exponent`. -/
def ofScaledRatio (negative : Bool) (num den : Nat) (exponent : Int) : Double :=
  ofRatio negative (num * Nat.pow 2 exponent.toNat) (den * Nat.pow 2 (-exponent).toNat)

/-- The zero of a sign. -/
def zero (negative : Bool) : Double :=
  finite negative 0 minExponent

/-- The number nearest to a natural number. -/
def ofNat (n : Nat) : Double :=
  ofRatio false n 1

/-- Tells whether a number has a minus sign. -/
def isNegative : Double → Bool
  | finite negative _ _ => negative
  | infinite negative => negative
  | nan => false

/-- The same number with the other sign. -/
def neg : Double → Double
  | finite negative mantissa exponent => finite (!negative) mantissa exponent
  | infinite negative => infinite (!negative)
  | nan => nan

/-- The product of two numbers. -/
def mul : Double → Double → Double
  | finite s m e, finite t n f => ofScaledRatio (s != t) (m * n) 1 (e + f)
  | nan, _ => nan
  | _, nan => nan
  | x, y => if x.isZero || y.isZero then nan else infinite (x.isNegative != y.isNegative)

/-- The quotient of two numbers. -/
def div : Double → Double → Double
  | finite s m e, finite t n f =>
    if n ≠ 0 then ofScaledRatio (s != t) m n (e - f)
    else if m = 0 then nan
    else infinite (s != t)
  | infinite s, finite t _ _ => infinite (s != t)
  | finite s _ _, infinite t => zero (s != t)
  | _, _ => nan

/-- The number nearest to a power of ten. -/
def powerOfTen (exponent : Nat) : Double :=
  ofDecimal false 1 exponent

/-- The greatest power of ten that is a finite number. -/
def maxPowerOfTen : Nat := 308

/-- Divides by a power of ten, in steps no longer than the greatest finite power. The first argument
bounds the number of steps. -/
def divideByTens : Nat → Double → Nat → Double
  | 0, x, _ => x
  | bound + 1, x, exponent =>
    if exponent ≤ maxPowerOfTen then x.div (powerOfTen exponent)
    else if x.isZero then x
    else divideByTens bound (x.div (powerOfTen maxPowerOfTen)) (exponent - maxPowerOfTen)

/-- The product of a natural number and a power of ten, each rounded before it is used. `none` if
the product is not finite. -/
def scaleByTens? (n : Nat) (exponent : Int) : Option Double :=
  if exponent < 0 then some (divideByTens (exponent.natAbs / maxPowerOfTen + 1) (ofNat n)
    exponent.natAbs)
  else if exponent.toNat ≤ maxPowerOfTen then
    match (ofNat n).mul (powerOfTen exponent.toNat) with
    | infinite _ => none
    | product => some product
  else if n = 0 then some (zero false)
  else none

end SolverInput.Double

import QueryWindow.Text.Digits

/-!
# QueryWindow.Decimal.Binary64

**Numbers with 53 binary digits**, as used for decimal fractions in JSON, in exact integer
arithmetic. Only what reading a decimal needs is here: rounding a quotient to the nearest such
number, a tie going to the even mantissa, and the way from decimal digits and exponent to a number.

A decimal is not rounded once: the digits are rounded to a number first, the power of ten is
another, and their product or quotient is rounded again. Powers beyond the greatest, ten to the
308th, are divided away in steps.
-/

namespace QueryWindow

/-- The number `mantissa * 2 ^ exponent`, with a mantissa below `2 ^ 53`. -/
structure Binary64 where
  /-- The binary digits of the number. -/
  mantissa : Nat
  /-- The power of two of the last of them, at least `-1074`. -/
  exponent : Int
  deriving DecidableEq

namespace Binary64

/-- The least mantissa that has all 53 digits. -/
def leastFullMantissa : Nat := 4503599627370496

/-- The quotient of two numbers to the nearest whole number, a tie to the even one. -/
def roundQuotient (num den : Nat) : Nat :=
  let below := num / den
  let twice := 2 * (num % den)
  if twice < den ∨ (twice = den ∧ below % 2 = 0) then below else below + 1

/-- Numerator and denominator of a quotient times a power of two. -/
def scale (num den : Nat) (power : Int) : Nat × Nat :=
  (num * Digits.weight 2 power.toNat, den * Digits.weight 2 (-power).toNat)

/-- The greatest power of two that a positive quotient reaches. -/
def log2 (num den : Nat) : Int :=
  -- The lengths of numerator and denominator tell the power to within one.
  let guess : Int := (num.log2 : Int) - den.log2
  let (num, den) := scale num den (-guess)
  if num < den then guess - 1 else guess

/-- The number nearest to a quotient. -/
def ofQuotient (num den : Nat) : Binary64 :=
  if num = 0 then ⟨0, -1074⟩
  else
    let exponent := max (log2 num den - 52) (-1074)
    let (num, den) := scale num den (-exponent)
    let mantissa := roundQuotient num den
    -- Rounding up may carry into a place of its own.
    if mantissa = 2 * leastFullMantissa then ⟨leastFullMantissa, exponent + 1⟩
    else ⟨mantissa, exponent⟩

/-- The number nearest to a whole number. -/
def ofNat (n : Nat) : Binary64 := ofQuotient n 1

/-- The number as a quotient. -/
def toQuotient (x : Binary64) : Nat × Nat := scale x.mantissa 1 x.exponent

/-- The product, rounded. -/
def mul (x y : Binary64) : Binary64 :=
  let (num, den) := scale (x.mantissa * y.mantissa) 1 (x.exponent + y.exponent)
  ofQuotient num den

/-- The quotient, rounded. -/
def div (x y : Binary64) : Binary64 :=
  let (num, den) := scale x.mantissa y.mantissa (x.exponent - y.exponent)
  ofQuotient num den

/-- The number is within the range of those with 53 binary digits and 11 for the exponent. -/
def isFinite (x : Binary64) : Bool := x.exponent ≤ 971

/-- The greatest power of ten that is a number of its own. -/
def maxPower : Nat := 308

/-- Divides by a power of ten, in steps. -/
def scaleDown (x : Binary64) (power : Nat) : Binary64 :=
  if x.mantissa = 0 then x
  else if power ≤ maxPower then x.div (ofNat (Digits.weight 10 power))
  else scaleDown (x.div (ofNat (Digits.weight 10 maxPower))) (power - maxPower)
termination_by power
decreasing_by simp only [maxPower] at *; omega

/-- The number for decimal digits and an exponent, unless it is too great. -/
def ofDecimal? (digits : Nat) (exponent : Int) : Option Binary64 :=
  let x := ofNat digits
  if exponent < 0 then some (x.scaleDown exponent.natAbs)
  else if x.mantissa = 0 then some x
  else if maxPower < exponent then none
  else
    let y := x.mul (ofNat (Digits.weight 10 exponent.toNat))
    if y.isFinite then some y else none

end Binary64

end QueryWindow

import Dbml.Decimal.Basic

/-!
# Binary floating point in 64 bits

The finite numbers of the IEEE 754 format binary64, with exact arithmetic on natural numbers in
place of machine operations: each operation computes a quotient and rounds it once, to the nearest
number of the format and to the even one of two that are equally near.
-/

namespace Dbml

/-- The number `± significand · 2 ^ exponent`.  In the numbers that the operations build, the
significand is below `2 ^ 53`, and the exponent is as small as the format and that bound allow. -/
structure Binary64 where
  negative : Bool
  significand : Nat
  exponent : Int
  deriving DecidableEq, Repr

namespace Binary64

/-- The smallest exponent of the format. -/
def minExponent : Int := -1074

/-- The largest exponent of the format. -/
def maxExponent : Int := 971

/-- The significands of 53 bits begin here. -/
def minNormal : Nat := Nat.pow 2 52

/-- The significands end before this one. -/
def significandLimit : Nat := Nat.pow 2 53

/-- Zero, which has a sign. -/
def zero (negative : Bool) : Binary64 :=
  ⟨negative, 0, minExponent⟩

/-- Both zeros are zero. -/
def isZero (x : Binary64) : Bool :=
  x.significand == 0

/-- Equality of numbers: the two zeros are equal. -/
def numericEq (x y : Binary64) : Bool :=
  x == y || (x.isZero && y.isZero)

/-- The integer nearest to `num / den`, the even one of two. -/
def roundToEven (num den : Nat) : Nat :=
  let quotient := num / den
  let twice := 2 * (num % den)
  if twice < den then quotient
  else if den < twice then quotient + 1
  else quotient + quotient % 2

/-- The numerator and denominator of `num / den / base ^ exponent`. -/
def unscaled (base num den : Nat) (exponent : Int) : Nat × Nat :=
  if 0 ≤ exponent then (num, den * Nat.pow base exponent.toNat)
  else (num * Nat.pow base (-exponent).toNat, den)

/-- The exponent with which `num / den` has a significand of 53 bits, or the smallest exponent if
that is larger. -/
def exponentFor (num den : Nat) : Int :=
  let low : Int := num.log2 - den.log2 - 53
  let (scaledNum, scaledDen) := unscaled 2 num den low
  max minExponent (if scaledDen * significandLimit ≤ scaledNum then low + 1 else low)

/-- The number nearest to `± num / den`; nothing when it lies beyond the largest one. -/
def ofRatio? (negative : Bool) (num den : Nat) : Option Binary64 :=
  if num = 0 then some (zero negative)
  else
    let exponent := exponentFor num den
    let (scaledNum, scaledDen) := unscaled 2 num den exponent
    let significand := roundToEven scaledNum scaledDen
    let (significand, exponent) :=
      if significand = significandLimit then (minNormal, exponent + 1) else (significand, exponent)
    if maxExponent < exponent then none else some ⟨negative, significand, exponent⟩

/-- The absolute value as a quotient of two natural numbers. -/
def ratio (x : Binary64) : Nat × Nat :=
  unscaled 2 x.significand 1 (-x.exponent)

/-- The rounded product; nothing when it is too large. -/
def mul? (x y : Binary64) : Option Binary64 :=
  ofRatio? (x.negative != y.negative) (x.ratio.1 * y.ratio.1) (x.ratio.2 * y.ratio.2)

/-- The rounded quotient by a number other than zero; nothing when it is too large. -/
def div? (x y : Binary64) : Option Binary64 :=
  ofRatio? (x.negative != y.negative) (x.ratio.1 * y.ratio.2) (x.ratio.2 * y.ratio.1)

/-- The number nearest to a decimal; nothing when it lies beyond the largest one.  Decimals that are
too large or too small by the count of their digits are not computed. -/
def ofDecimal? (d : Decimal) : Option Binary64 :=
  let magnitude := (Decimal.toDigits d.digits).length + d.exponent
  if d.digits = 0 || magnitude < -330 then some (zero d.negative)
  else if 310 < magnitude then none
  else
    let (num, den) := unscaled 10 d.digits 1 (-d.exponent)
    ofRatio? d.negative num den

/-- The value of a number without fractional part. -/
def toInt? (x : Binary64) : Option Int :=
  let (num, den) := x.ratio
  if num % den = 0 then
    some (if x.negative then -((num / den : Nat) : Int) else (num / den : Nat))
  else none

end Binary64

end Dbml

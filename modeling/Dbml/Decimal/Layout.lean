import Dbml.Decimal.Shortest

/-!
# The text of a floating-point number

The shortest digits are written with a point where the number is of moderate size, and with an
exponent elsewhere.
-/

namespace Dbml

namespace Binary64

/-- Leading exponents from -5 to 15 are written without an exponent. -/
def isPlain (leading : Int) : Bool :=
  -5 ≤ leading && leading ≤ 15

/-- Digits the last of which has the given exponent, with a point and a digit on either side. -/
def plainText (digits : List Char) (exponent : Int) : List Char :=
  if 0 ≤ exponent then digits ++ List.replicate exponent.toNat '0' ++ ['.', '0']
  else
    let places := (-exponent).toNat
    let padded := List.replicate (places + 1 - digits.length) '0' ++ digits
    padded.take (padded.length - places) ++ '.' :: padded.drop (padded.length - places)

/-- One digit before the point and the others, if any, after it; the exponent has its sign. -/
def scientificText (digits : List Char) (leading : Int) : List Char :=
  let mantissa := digits.take 1 ++ (if digits.length ≤ 1 then [] else '.' :: digits.drop 1)
  mantissa ++ 'e' :: (if leading < 0 then '-' else '+') :: Decimal.toDigits leading.natAbs

/-- The text of a number without its sign. -/
def unsignedText (x : Binary64) : List Char :=
  if x.isZero then ['0', '.', '0']
  else
    let (digits, exponent) := x.shortest
    let leading := exponent + digits.length - 1
    if isPlain leading then plainText digits exponent else scientificText digits leading

/-- The text of a number: the shortest digits that read back to it, with a point, an exponent or
both. -/
def text (x : Binary64) : List Char :=
  if x.negative then '-' :: x.unsignedText else x.unsignedText

end Binary64

end Dbml

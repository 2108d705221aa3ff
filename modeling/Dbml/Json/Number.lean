import Dbml.Decimal.Layout

/-!
# Numbers in JSON

A literal without fraction and exponent stands for an integer as long as 64 bits can hold it, with
or without sign.  Every other literal stands for a floating-point number.  It is read by collecting
as many digits as 64 bits can hold and scaling them by a power of ten, with a rounding at each of
these steps, so that the result may be one unit beside the nearest number.
-/

namespace Dbml.Json

/-- A JSON number: an integer or a finite floating-point number. -/
inductive Number where
  | int (n : Int)
  | float (x : Binary64)
  deriving DecidableEq, Repr

/-- The parts of a number literal. -/
structure NumberLiteral where
  negative : Bool
  /-- The digits before the point. -/
  whole : List Char
  /-- The digits after the point, if there is one. -/
  fraction : Option (List Char)
  /-- Whether the exponent is negative, and its digits. -/
  exponent : Option (Bool × List Char)
  deriving DecidableEq, Repr

namespace Number

/-- The largest natural number of 64 bits. -/
def maxUnsigned : Nat := 0xFFFFFFFFFFFFFFFF

/-- The absolute value of the smallest integer of 64 bits. -/
def maxNegated : Nat := 0x8000000000000000

/-- The largest exponent that is read as a number. -/
def maxExponent : Nat := 0x7FFFFFFF

/-- Numbers are equal by value within their kind. -/
def numericEq : Number → Number → Bool
  | .int a, .int b => a == b
  | .float x, .float y => x.numericEq y
  | _, _ => false

/-- The text of a number. -/
def text : Number → List Char
  | .int n => Decimal.intText n
  | .float x => x.text

/-- As many of the digits as 64 bits can hold behind the number `significand`, and those left. -/
def collect (significand : Nat) : List Char → Nat × List Char
  | [] => (significand, [])
  | c :: rest =>
    let longer := significand * 10 + (c.toNat - '0'.toNat)
    if longer ≤ maxUnsigned then collect longer rest else (significand, c :: rest)

/-- A power of ten, the nearest one of the format. -/
def powerOfTen (n : Nat) : Binary64 :=
  (Binary64.ofRatio? false (Nat.pow 10 n) 1).getD (Binary64.zero false)

/-- A number times a power of ten, in steps of at most 308 places down; nothing when the result is
too large. -/
def scale? (x : Binary64) (exponent : Int) : Option Binary64 :=
  if 308 < exponent then if x.isZero then some x else none
  else if 0 ≤ exponent then x.mul? (powerOfTen exponent.toNat)
  else if -308 ≤ exponent then x.div? (powerOfTen (-exponent).toNat)
  else if x.isZero then some x
  else (x.div? (powerOfTen 308)).bind (scale? · (exponent + 308))
termination_by (-exponent).toNat

/-- The floating-point number `± significand · 10 ^ exponent`. -/
def scaled? (negative : Bool) (significand : Nat) (exponent : Int) : Option Number := do
  let x ← Binary64.ofRatio? negative significand 1
  let y ← scale? x exponent
  some (.float y)

/-- The number that a literal stands for; nothing when it is too large. -/
def ofLiteral? (literal : NumberLiteral) : Option Number :=
  let (significand, unread) := collect 0 literal.whole
  if unread.isEmpty && literal.fraction.isNone && literal.exponent.isNone then
    if !literal.negative then some (.int significand)
    else if 0 < significand && significand ≤ maxNegated then some (.int (-(significand : Int)))
    else scaled? true significand 0
  else
    let fraction := literal.fraction.getD []
    let (significand, unreadFraction) := collect significand fraction
    let places : Int := unread.length - (fraction.length - unreadFraction.length : Nat)
    match literal.exponent with
    | none => scaled? literal.negative significand places
    | some (down, digits) =>
      let exponent := Decimal.ofDigits digits
      if maxExponent < exponent then
        if !down && significand ≠ 0 then none
        else some (.float (Binary64.zero literal.negative))
      else
        scaled? literal.negative significand
          (if down then places - exponent else places + exponent)

end Number

end Dbml.Json

/-!
# Decimals

A decimal is a sign, a natural number and a power of ten, as a literal such as `-1.5e3` denotes it.
Here literals are read; how many of the digits a number type can keep is not their concern.
-/

namespace Dbml

/-- The number `± digits · 10 ^ exponent`. -/
structure Decimal where
  negative : Bool
  digits : Nat
  exponent : Int
  deriving DecidableEq, Repr

namespace Decimal

/-- The natural number that decimal digits spell. -/
def ofDigits (digits : List Char) : Nat :=
  Nat.ofDigitChars 10 digits 0

/-- The digits of a natural number, `0` being one digit. -/
def toDigits (n : Nat) : List Char :=
  Nat.toDigits 10 n

theorem ofDigits_toDigits (n : Nat) : ofDigits (toDigits n) = n :=
  Nat.ofDigitChars_toDigits (by decide) (by decide)

/-- The text of an integer. -/
def intText (n : Int) : List Char :=
  if n < 0 then '-' :: toDigits n.natAbs else toDigits n.natAbs

/-- A sign in front of the rest of a text: a minus is negative, a plus says nothing. -/
def readSign : List Char → Bool × List Char
  | '-' :: rest => (true, rest)
  | '+' :: rest => (false, rest)
  | text => (false, text)

/-- A text of digits alone, with a sign or without. -/
def readInt? (text : List Char) : Option Int :=
  let (negative, digits) := readSign text
  if digits.isEmpty || !digits.all Char.isDigit then none
  else if negative then some (-(ofDigits digits : Int))
  else some (ofDigits digits)

/-- The exponent part of a literal, nothing at all meaning zero. -/
def readExponent? : List Char → Option Int
  | [] => some 0
  | mark :: text => if mark = 'e' || mark = 'E' then readInt? text else none

/-- The literals: a sign, digits with a point before, among or after them, and an exponent.  Sign,
point and exponent may be missing, but not all the digits. -/
def read? (text : List Char) : Option Decimal := do
  let (negative, unsigned) := readSign text
  let whole := unsigned.takeWhile Char.isDigit
  let (fraction, rest) :=
    match unsigned.dropWhile Char.isDigit with
    | '.' :: rest => (rest.takeWhile Char.isDigit, rest.dropWhile Char.isDigit)
    | rest => ([], rest)
  if whole.isEmpty && fraction.isEmpty then none
  let exponent ← readExponent? rest
  some ⟨negative, ofDigits (whole ++ fraction), exponent - fraction.length⟩

end Decimal

end Dbml

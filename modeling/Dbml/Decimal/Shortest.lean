import Dbml.Decimal.Binary64

/-!
# The shortest decimal of a number

A number of 64 bits is the rounding of a whole interval of reals.  Its shortest decimal is the one
of fewest digits in this interval, and of several the one nearest to the number.
-/

namespace Dbml

namespace Binary64

/-- The reals that round to a number, in fourths of its last place: the number and the two ends of
the interval, which belong to it when `closed`. -/
structure Interval where
  low : Nat
  middle : Nat
  high : Nat
  closed : Bool

/-- Half a place on either side, but a quarter below a power of two, where the places double.  The
ends round to an even significand. -/
def interval (x : Binary64) : Interval :=
  let middle := 4 * x.significand
  { low := if x.significand = minNormal && minExponent < x.exponent then middle - 1 else middle - 2
    middle
    high := middle + 2
    closed := x.significand % 2 == 0 }

/-- The exponent of the leading digit of `num / den`. -/
def leadingExponent (num den : Nat) : Int :=
  let guess : Int := (Decimal.toDigits num).length - (Decimal.toDigits den).length
  let (scaledNum, scaledDen) := unscaled 10 num den guess
  if scaledDen ≤ scaledNum then guess else guess - 1

/-- The multiple of `10 ^ place` nearest to `x` among those that round to it, if there are any.
Only the two neighbours of `x` need to be tried. -/
def onGrid? (x : Binary64) (place : Int) : Option Nat :=
  let i := x.interval
  let (unitNum, unitDen) := unscaled 2 1 1 (2 - x.exponent)
  let (num, den) := unscaled 10 unitNum unitDen place
  let below := i.middle * num / den
  let above := below + 1
  let reads (c : Nat) : Bool :=
    (i.low * num < c * den || (i.closed && i.low * num = c * den)) &&
    (c * den < i.high * num || (i.closed && c * den = i.high * num))
  let toBelow := i.middle * num - below * den
  let toAbove := above * den - i.middle * num
  let belowFirst := toBelow < toAbove || (toBelow = toAbove && below % 2 = 0)
  if belowFirst then
    if reads below then some below else if reads above then some above else none
  else
    if reads above then some above else if reads below then some below else none

/-- The digits and the exponent of the decimal without trailing zeros. -/
def stripZeros (digits : List Char) (exponent : Int) : List Char × Int :=
  let kept := (digits.reverse.dropWhile (· = '0')).reverse
  (kept, exponent + (digits.length - kept.length : Nat))

/-- The digits of the shortest decimal that rounds to a number other than zero, and the exponent of
the last of them.  Seventeen digits suffice for every number of the format. -/
def shortest (x : Binary64) : List Char × Int :=
  let leading := leadingExponent x.ratio.1 x.ratio.2
  let grids := (List.range 17).map fun (n : Nat) => leading - (n : Int)
  match grids.findSome? fun place => (x.onGrid? place).map fun c => (c, place) with
  | some (c, place) => stripZeros (Decimal.toDigits c) place
  | none => ([], 0)

end Binary64

end Dbml

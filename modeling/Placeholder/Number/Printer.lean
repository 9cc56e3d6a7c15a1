import Placeholder.Number.Binary64
import Placeholder.Number.Digits

/-! # Writing numbers

Two written forms of a magnitude, both positional: with a fixed number of
decimals, and with the fewest digits that still tell it from every other
magnitude.
-/

namespace Placeholder.Magnitude

open Number

/-! ## Fixed decimals -/

/-- The digits before and after the point of the exact value rounded to a number
of decimals, a tie going to the even neighbour. -/
def fixedParts (x : Magnitude) (decimals : Nat) : List Char × List Char :=
  let units := roundHalfEven (x.numerator * Nat.pow 10 decimals) x.denominator
  let digits := padZeros (decimals + 1) (digitsOf units)
  digits.splitAt (digits.length - decimals)

/-! ## Fewest digits -/

/-- The lower end of the quotients that round to this magnitude, multiplied by
four times the denominator. Below a power of two the next magnitude is nearer,
and so is the end. -/
def low (x : Magnitude) : Nat :=
  if x.mantissa = Nat.pow 2 52 ∧ -1074 < x.exponent then (4 * x.mantissa - 1) * Nat.pow 2 x.exponent.toNat
  else (4 * x.mantissa - 2) * Nat.pow 2 x.exponent.toNat

/-- The upper end of the quotients that round to this magnitude, multiplied by
four times the denominator. -/
def high (x : Magnitude) : Nat := (4 * x.mantissa + 2) * Nat.pow 2 x.exponent.toNat

/-- Whether `num / den` rounds to this magnitude. The two ends do if the mantissa
is even. -/
def covers (x : Magnitude) (num den : Nat) : Bool :=
  let value := 4 * num * x.denominator
  let low := x.low * den
  let high := x.high * den
  if x.mantissa % 2 = 0 then low ≤ value && value ≤ high else low < value && value < high

/-- The number of decimal places to the left of the first digit, counted from the
point: `num / den` lies below `10` to this power and not below a tenth of it. -/
def decimalSize (num den : Nat) : Int :=
  if den ≤ num then (digitsOf (num / den)).length
  else
    -- one place to the right for every power of ten that leaves it below one
    let zeros := (List.range 330).takeWhile fun k => num * Nat.pow 10 (k + 1) < den
    Int.negOfNat zeros.length

/-- The nearer one of the two neighbours of `num / den` among the multiples of
`10 ^ place` that round to this magnitude, as a multiplier. -/
def neighbour? (x : Magnitude) (place : Int) : Option Nat :=
  let num := x.numerator * Nat.pow 10 (-place).toNat
  let den := x.denominator * Nat.pow 10 place.toNat
  let below := num / den
  let hits (n : Nat) := x.covers (n * Nat.pow 10 place.toNat) (Nat.pow 10 (-place).toNat)
  match hits below, hits (below + 1) with
  | true, true => some (roundHalfUp num den)
  | true, false => some below
  | false, true => some (below + 1)
  | false, false => none

/-- The fewest digits that round to this magnitude and the place of the last one
of them: the value written is `digits * 10 ^ place`. Seventeen digits always
do. -/
def shortest (x : Magnitude) : Nat × Int :=
  let size := decimalSize x.numerator x.denominator
  let read (count : Nat) : Option (Nat × Int) :=
    let place := size - count - 1
    (x.neighbour? place).map fun n => (n, place)
  ((List.range 18).findSome? read).getD (0, 0)

/-- The fewest digits, written out without an exponent. -/
def shortestText (x : Magnitude) : List Char :=
  if x.mantissa = 0 then ['0']
  else
    let (n, place) := x.shortest
    let digits := digitsOf n ++ List.replicate place.toNat '0'
    let decimals := (-place).toNat
    let padded := padZeros (decimals + 1) digits
    let (whole, fraction) := padded.splitAt (padded.length - decimals)
    let fraction := (fraction.reverse.dropWhile (· == '0')).reverse
    if fraction.isEmpty then whole else whole ++ '.' :: fraction

end Placeholder.Magnitude

namespace Placeholder.Binary64

/-- The number with the fewest digits, without an exponent. -/
def toText : Binary64 → String
  | .finite negative x => String.ofList (if negative then '-' :: x.shortestText else x.shortestText)
  | .infinite negative => if negative then "-inf" else "inf"
  | .nan => "NaN"

end Placeholder.Binary64

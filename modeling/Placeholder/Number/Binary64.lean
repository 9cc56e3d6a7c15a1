import Placeholder.Number.Rounding

/-! # Binary64 numbers

The numbers of the IEEE 754 format with 64 bits, as a sign and an exact
magnitude `mantissa * 2 ^ exponent`. The mantissa has at most 53 bits and the
exponent lies between -1074 and 971; a mantissa with fewer than 53 bits has the
least exponent, so every magnitude is written in one way.

Every operation computes the exact quotient of natural numbers that it stands
for and rounds it once, by `nearest?`, which finds nothing when the quotient is
too large for the format.
-/

namespace Placeholder

/-- The finite magnitude `mantissa * 2 ^ exponent`. -/
structure Magnitude where
  mantissa : Nat
  exponent : Int
deriving DecidableEq, Repr

namespace Magnitude

open Number

/-- The magnitude is the quotient of this number and `denominator`. -/
def numerator (x : Magnitude) : Nat := x.mantissa * Nat.pow 2 x.exponent.toNat

/-- The power of two that divides `numerator`. -/
def denominator (x : Magnitude) : Nat := Nat.pow 2 (-x.exponent).toNat

theorem denominator_pos (x : Magnitude) : 0 < x.denominator := Nat.two_pow_pos _

/-- The magnitude zero. -/
def zero : Magnitude := ⟨0, -1074⟩

/-- The exponent of the largest power of two that is at most `num / den`. -/
def binaryExponent (num den : Nat) : Int :=
  let e : Int := (num.log2 : Int) - (den.log2 : Int)
  if num * Nat.pow 2 (-e).toNat < den * Nat.pow 2 e.toNat then e - 1 else e

/-- The magnitude nearest to `num / den`, the one with the even mantissa of two,
unless the quotient is beyond the largest magnitude by half a unit or more. -/
def nearest? (num den : Nat) : Option Magnitude :=
  if num = 0 then some zero
  else
    let e := max (binaryExponent num den - 52) (-1074)
    let m := roundHalfEven (num * Nat.pow 2 (-e).toNat) (den * Nat.pow 2 e.toNat)
    -- rounding up may reach the next power of two
    let x : Magnitude := if m = Nat.pow 2 53 then ⟨Nat.pow 2 52, e + 1⟩ else ⟨m, e⟩
    if 971 < x.exponent then none else some x

/-- The product, rounded. -/
def mul? (x y : Magnitude) : Option Magnitude :=
  nearest? (x.numerator * y.numerator) (x.denominator * y.denominator)

/-- The quotient by a magnitude other than zero, rounded. -/
def div? (x y : Magnitude) : Option Magnitude :=
  nearest? (x.numerator * y.denominator) (x.denominator * y.numerator)

/-- The nearest integer, the larger one of two. -/
def roundInteger (x : Magnitude) : Nat := roundHalfUp x.numerator x.denominator

/-- The power of ten, rounded once; powers beyond the format are not there. Up to
`10 ^ 22` the powers are exact, so that multiplying step by step, with a rounding at
each step, gives the same ones; from about `10 ^ 33` on the two can part. A number of
decimals that has passed its check is far below that. Nor is the number of decimals
cut off at 32 bits here, which would matter only without the check. -/
def powerOfTen? (n : Nat) : Option Magnitude :=
  if n ≤ 308 then nearest? (Nat.pow 10 n) 1 else none

/-- `digits * 10 ^ exponent`, rounded. Sizes that are far outside the format are
settled by the number of digits, before any power of ten is computed. -/
def ofDecimal? (digits : Nat) (exponent : Int) : Option Magnitude :=
  if digits = 0 then some zero
  else
    let size := exponent + (Nat.toDigits 10 digits).length
    if 310 < size then none
    else if size < -330 then some zero
    else nearest? (digits * Nat.pow 10 exponent.toNat) (Nat.pow 10 (-exponent).toNat)

/-- The lower 63 bits of the encoding: 11 bits of biased exponent, 52 bits of
mantissa. -/
def bits (x : Magnitude) : Nat :=
  if x.mantissa < Nat.pow 2 52 then x.mantissa
  else (x.exponent + 1075).toNat * Nat.pow 2 52 + (x.mantissa - Nat.pow 2 52)

end Magnitude

/-- A binary64 number. Zero keeps its sign. -/
inductive Binary64 where
  | finite (negative : Bool) (magnitude : Magnitude)
  | infinite (negative : Bool)
  | nan
deriving DecidableEq, Repr

namespace Binary64

/-- The number with the magnitude and sign given, infinite if the magnitude is
beyond the format. -/
def ofMagnitude? (negative : Bool) : Option Magnitude → Binary64
  | some x => .finite negative x
  | none => .infinite negative

/-- Whether the number is neither infinite nor undefined. -/
def isFinite : Binary64 → Bool
  | .finite _ _ => true
  | _ => false

/-- The number without its sign. -/
def abs : Binary64 → Binary64
  | .finite _ x => .finite false x
  | .infinite _ => .infinite false
  | .nan => .nan

/-- Whether the number is less than zero; a zero never is. -/
def isNegative : Binary64 → Bool
  | .finite negative x => negative && x.mantissa != 0
  | .infinite negative => negative
  | .nan => false

/-- The 64 bits of the encoding, as a number. -/
def toBits : Binary64 → Nat
  | .finite negative x => cond negative (Nat.pow 2 63) 0 + x.bits
  | .infinite negative => cond negative (Nat.pow 2 63) 0 + 2047 * Nat.pow 2 52
  | .nan => 2047 * Nat.pow 2 52 + Nat.pow 2 51

end Binary64

end Placeholder

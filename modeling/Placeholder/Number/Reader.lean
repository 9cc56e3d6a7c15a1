import Placeholder.Number.Binary64
import Placeholder.Number.Digits
import Placeholder.Text.Blank

/-! # Reading numbers

The written form of a number is an optional sign and then digits with at most
one point among them, at least one digit, and an optional exponent; or `inf`,
`infinity` or `nan` in any case. The value is the binary64 number nearest to
what is written.
-/

namespace Placeholder.Number

/-- A sign and what follows it. -/
def readSign : List Char → Bool × List Char
  | '-' :: rest => (true, rest)
  | '+' :: rest => (false, rest)
  | cs => (false, cs)

/-- The exponent that ends a number: nothing, or `e` and a signed number. -/
def readExponent? : List Char → Option Int
  | [] => some 0
  | c :: rest =>
      if c = 'e' ∨ c = 'E' then
        let (negative, digits) := readSign rest
        (readNat? digits).map fun n => if negative then -(n : Int) else n
      else none

/-- The decimal `digits * 10 ^ exponent` that is written here without a sign. -/
def readDecimal? (cs : List Char) : Option (Nat × Int) :=
  let whole := cs.takeWhile isDigit
  let afterWhole := cs.dropWhile isDigit
  let (fraction, rest) := match afterWhole with
    | '.' :: tail => (tail.takeWhile isDigit, tail.dropWhile isDigit)
    | other => ([], other)
  if whole.isEmpty && fraction.isEmpty then none
  else (readExponent? rest).map fun e =>
    (digitsValue (whole ++ fraction), e - (fraction.length : Int))

/-- The number that a text writes, without regard to blanks around it. -/
def readBinary64? (cs : List Char) : Option Binary64 :=
  let (negative, rest) := readSign cs
  let word := String.ofList (rest.map Char.toLower)
  if word = "inf" ∨ word = "infinity" then some (.infinite negative)
  else if word = "nan" then some .nan
  else (readDecimal? rest).map fun (digits, exponent) =>
    Binary64.ofMagnitude? negative (Magnitude.ofDecimal? digits exponent)

end Placeholder.Number

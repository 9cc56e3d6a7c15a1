/-! # Decimal digits

Reading and writing natural numbers with the ten ASCII digits. No sign, no
separator and no other script is a digit here.
-/

namespace Placeholder.Number

/-- One of the ten ASCII digits. -/
def isDigit (c : Char) : Bool := '0'.toNat ≤ c.toNat && c.toNat ≤ '9'.toNat

/-- The value of a digit. -/
def digitValue (c : Char) : Nat := c.toNat - '0'.toNat

/-- The number that a list of digits writes, the most significant one first. -/
def digitsValue (cs : List Char) : Nat := cs.foldl (fun n c => 10 * n + digitValue c) 0

/-- The digits of a number, without superfluous zeros. -/
def digitsOf (n : Nat) : List Char := Nat.toDigits 10 n

/-- A list with zeros in front so that it has at least `width` characters. -/
def padZeros (width : Nat) (cs : List Char) : List Char :=
  List.replicate (width - cs.length) '0' ++ cs

/-- The number that the whole list writes, if it is a non-empty list of
digits. -/
def readNat? (cs : List Char) : Option Nat :=
  if cs.isEmpty || cs.any fun c => !isDigit c then none else some (digitsValue cs)

/-- A natural number of at most 64 bits, with an optional plus sign. -/
def readNat64? (cs : List Char) : Option Nat := do
  let digits := match cs with
    | '+' :: rest => rest
    | cs => cs
  let n ← readNat? digits
  if n < Nat.pow 2 64 then some n else none

/-- An integer of 64 bits, with an optional sign. -/
def readInt64? (cs : List Char) : Option Int := do
  let n : Int ← match cs with
    | '-' :: rest => (readNat? rest).map fun n => -(n : Int)
    | '+' :: rest => (readNat? rest).map Int.ofNat
    | cs => (readNat? cs).map Int.ofNat
  if Int.negOfNat (Nat.pow 2 63) ≤ n ∧ n < Int.ofNat (Nat.pow 2 63) then some n else none

end Placeholder.Number

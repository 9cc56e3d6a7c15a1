import Placeholder.Number.Printer
import Placeholder.Number.Reader
import Placeholder.Processor.Error

/-! # Amounts

Numbers for people: a fixed number of decimals, groups of three digits before
the point, separators of one's choice.

An amount is rounded half away from zero on the scaled number: it is multiplied
by a power of ten, rounded to an integer and divided again, each step in
binary64. The sign follows the digits that are written, so an amount that is
written with zeros only has none.
-/

namespace Placeholder.Number

/-- The largest number of decimals that an argument or a configuration may ask
for. -/
def maxDecimals : Nat := 20

/-- The finite number that a text writes, blanks around it aside. -/
def parse (text : String) : Except Processor.Error Binary64 :=
  match readBinary64? (Text.trimList text.toList) with
  | some x => if x.isFinite then .ok x else .error (.notANumber text)
  | none => .error (.notANumber text)

/-- The magnitude rounded half away from zero to a number of decimals, unless
the scaled magnitude is beyond the format. -/
def roundTo? (x : Magnitude) (decimals : Nat) : Option Magnitude := do
  let factor ← Magnitude.powerOfTen? decimals
  let scaled ← x.mul? factor
  let integer ← Magnitude.nearest? scaled.roundInteger 1
  integer.div? factor

/-- A list of digits with a separator between its groups of three, counted from
the right. -/
def group (separator : List Char) : List Char → List Char
  | [] => []
  | d :: rest =>
      if rest.isEmpty then [d]
      else if rest.length % 3 = 0 then d :: (separator ++ group separator rest)
      else d :: group separator rest

/-- Whether some digit is not zero. -/
def hasNonZero (cs : List Char) : Bool := cs.any fun c => '1'.toNat ≤ c.toNat && c.toNat ≤ '9'.toNat

/-- A rounded magnitude written out, with a minus sign if the amount is negative
and some digit is not zero. -/
def layOut (negative : Bool) (rounded : Magnitude) (decimals : Nat) (point separator : String) :
    String :=
  let (whole, fraction) := rounded.fixedParts decimals
  let sign := if negative && hasNonZero (whole ++ fraction) then ['-'] else []
  let tail := if decimals = 0 then [] else point.toList ++ fraction
  String.ofList (sign ++ group separator.toList whole ++ tail)

/-- An amount with a number of decimals, a decimal point and a separator between
groups of three digits. -/
def format (x : Binary64) (decimals : Nat) (point separator : String) :
    Except Processor.Error String :=
  let rounded? := match x with
    | .finite _ magnitude => roundTo? magnitude decimals
    | _ => none
  match rounded? with
  | some rounded => .ok (layOut x.isNegative rounded decimals point separator)
  | none => .error (.unwritable
      (x.toText ++ " cannot be rounded to " ++ toString decimals ++ " decimals"))

end Placeholder.Number

import Placeholder.Json.Value
import Placeholder.Number.Binary64
import Placeholder.Number.Digits

/-! # Reading JSON

A strict reader of JSON texts: no comments, no trailing commas, no control
characters inside strings, no lone surrogates. Arrays and objects may be nested
`maxDepth` levels deep, and a number must lie in the range of binary64.

Each reader takes characters from some place on and returns what it read with
the characters behind it. The readers that call each other take a bound on the
number of steps; every step takes a character or ends, so the number of
characters is enough.
-/

namespace Placeholder.Json

open Number

/-- The levels of arrays and objects that a text may have. -/
def maxDepth : Nat := 127

/-- White space between the parts of a text. -/
def isSpace (c : Char) : Bool := c == ' ' || c == '\t' || c == '\n' || c == '\r'

/-- What follows the white space. -/
def dropSpace (cs : List Char) : List Char := cs.dropWhile isSpace

/-- What follows a certain word. -/
def dropWord? : List Char → List Char → Option (List Char)
  | [], cs => some cs
  | w :: word, c :: cs => if w = c then dropWord? word cs else none
  | _ :: _, [] => none

/-! ## Numbers -/

/-- The exponent of a number: its value and what follows it. A letter `e` must
have digits behind it. -/
def readExponent? : List Char → Option (Int × List Char)
  | c :: cs =>
      if c = 'e' ∨ c = 'E' then
        let (negative, cs) := match cs with
          | '-' :: cs => (true, cs)
          | '+' :: cs => (false, cs)
          | cs => (false, cs)
        let digits := cs.takeWhile isDigit
        if digits.isEmpty then none
        else
          let n : Int := digitsValue digits
          some (if negative then -n else n, cs.dropWhile isDigit)
      else some (0, c :: cs)
  | [] => some (0, [])

/-- The leading digits that fit into 64 bits, as a number, and the digits that
do not. -/
def significant (value : Nat) : List Char → Nat × List Char
  | [] => (value, [])
  | c :: cs =>
      let next := 10 * value + digitValue c
      if next < Nat.pow 2 64 then significant next cs else (value, c :: cs)

/-- Whether a number is in the range of binary64. Digits beyond the first 64 bits
count by their places only. -/
def inRange (whole fraction : List Char) (exponent : Int) : Bool :=
  let (value, dropped) := significant 0 (whole ++ fraction)
  let place := exponent + dropped.length - fraction.length
  if value = 0 ∨ place < 0 then true
  else
    ((Magnitude.nearest? value 1).bind fun x =>
      (Magnitude.powerOfTen? place.toNat).bind fun y => x.mul? y).isSome

/-- A number, as it is written. -/
def readNumber? (cs : List Char) : Option (Value × List Char) := do
  let unsigned := match cs with
    | '-' :: rest => rest
    | cs => cs
  let whole := unsigned.takeWhile isDigit
  let rest := unsigned.dropWhile isDigit
  -- a zero stands alone before the point
  if whole.isEmpty || (whole.head? == some '0' && whole.length != 1) then none
  else
    let (fraction, rest) ← match rest with
      | '.' :: rest =>
          let digits := rest.takeWhile isDigit
          if digits.isEmpty then none else some (digits, rest.dropWhile isDigit)
      | rest => some ([], rest)
    let (exponent, rest) ← readExponent? rest
    if inRange whole fraction exponent then
      some (.number (String.ofList (cs.take (cs.length - rest.length))), rest)
    else none

/-! ## Strings -/

/-- The value of a hexadecimal digit. -/
def hexValue? (c : Char) : Option Nat :=
  if isDigit c then some (digitValue c)
  else if 'a' ≤ c ∧ c ≤ 'f' then some (c.toNat - 'a'.toNat + 10)
  else if 'A' ≤ c ∧ c ≤ 'F' then some (c.toNat - 'A'.toNat + 10)
  else none

/-- Four hexadecimal digits. -/
def readHex? : List Char → Option (Nat × List Char)
  | a :: b :: c :: d :: rest => do
      let a ← hexValue? a
      let b ← hexValue? b
      let c ← hexValue? c
      let d ← hexValue? d
      some (((a * 16 + b) * 16 + c) * 16 + d, rest)
  | _ => none

/-- The character that a code after `\u` stands for. A code of the upper half of a
pair needs the lower half behind it. -/
def readCode? (cs : List Char) : Option (Char × List Char) := do
  let (n, rest) ← readHex? cs
  if n < 0xD800 ∨ 0xDFFF < n then some (Char.ofNat n, rest)
  else if n < 0xDC00 then
    match rest with
    | '\\' :: 'u' :: rest =>
        let (low, rest) ← readHex? rest
        if 0xDC00 ≤ low ∧ low ≤ 0xDFFF then
          some (Char.ofNat (0x10000 + (n - 0xD800) * 0x400 + (low - 0xDC00)), rest)
        else none
    | _ => none
  else none

/-- The character that an escape stands for, without its backslash. -/
def readEscape? : List Char → Option (Char × List Char)
  | '\x22' :: rest => some ('\x22', rest)
  | '\\' :: rest => some ('\\', rest)
  | '/' :: rest => some ('/', rest)
  | 'b' :: rest => some ('\x08', rest)
  | 'f' :: rest => some ('\x0c', rest)
  | 'n' :: rest => some ('\n', rest)
  | 'r' :: rest => some ('\r', rest)
  | 't' :: rest => some ('\t', rest)
  | 'u' :: rest => readCode? rest
  | _ => none

/-- The rest of a string, up to the quote that ends it. -/
def readString? : Nat → List Char → Option (List Char × List Char)
  | 0, _ => none
  | _ + 1, [] => none
  | fuel + 1, c :: cs =>
      if c = '\x22' then some ([], cs)
      else if c = '\\' then do
        let (d, rest) ← readEscape? cs
        let (text, rest) ← readString? fuel rest
        some (d :: text, rest)
      else if c.toNat < 0x20 then none
      else (readString? fuel cs).map fun (text, rest) => (c :: text, rest)

/-! ## Values -/

mutual

/-- A value, with white space before it; `depth` levels may still be opened. -/
def readValue? (fuel depth : Nat) (cs : List Char) : Option (Value × List Char) :=
  match fuel with
  | 0 => none
  | fuel + 1 =>
      match dropSpace cs with
      | '\x22' :: rest =>
          (readString? fuel rest).map fun (text, rest) => (.string (String.ofList text), rest)
      | '[' :: rest =>
          match depth with
          | 0 => none
          | depth + 1 =>
              match dropSpace rest with
              | ']' :: rest => some (.array [], rest)
              | rest => (readElements? fuel depth rest).map fun (xs, rest) => (.array xs, rest)
      | '\x7b' :: rest =>
          match depth with
          | 0 => none
          | depth + 1 =>
              match dropSpace rest with
              | '\x7d' :: rest => some (.object [], rest)
              | rest => (readMembers? fuel depth rest).map fun (xs, rest) => (.object xs, rest)
      | 'n' :: rest => (dropWord? ['u', 'l', 'l'] rest).map fun rest => (.null, rest)
      | 't' :: rest => (dropWord? ['r', 'u', 'e'] rest).map fun rest => (.bool true, rest)
      | 'f' :: rest => (dropWord? ['a', 'l', 's', 'e'] rest).map fun rest => (.bool false, rest)
      | rest => readNumber? rest

/-- The elements of an array and its closing bracket. -/
def readElements? (fuel depth : Nat) (cs : List Char) : Option (List Value × List Char) :=
  match fuel with
  | 0 => none
  | fuel + 1 => do
      let (x, rest) ← readValue? fuel depth cs
      match dropSpace rest with
      | ',' :: rest =>
          let (xs, rest) ← readElements? fuel depth rest
          some (x :: xs, rest)
      | ']' :: rest => some ([x], rest)
      | _ => none

/-- The members of an object and its closing brace. -/
def readMembers? (fuel depth : Nat) (cs : List Char) : Option (List (String × Value) × List Char) :=
  match fuel with
  | 0 => none
  | fuel + 1 => do
      let rest ← dropWord? ['\x22'] (dropSpace cs)
      let (name, rest) ← readString? fuel rest
      let rest ← dropWord? [':'] (dropSpace rest)
      let (x, rest) ← readValue? fuel depth rest
      match dropSpace rest with
      | ',' :: rest =>
          let (xs, rest) ← readMembers? fuel depth rest
          some ((String.ofList name, x) :: xs, rest)
      | '\x7d' :: rest => some ([(String.ofList name, x)], rest)
      | _ => none

end

/-- The value of a text that holds one value and white space. -/
def parse? (text : String) : Option Value := do
  let cs := text.toList
  let (x, rest) ← readValue? (2 * cs.length + 2) maxDepth cs
  if (dropSpace rest).isEmpty then some x else none

end Placeholder.Json

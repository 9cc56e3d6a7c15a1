import Placeholder.Calendar.Moment
import Placeholder.Number.Digits
import Placeholder.Processor.Error
import Placeholder.Text.Blank

/-! # Reading moments

Ten written forms of a moment are understood: the Internet format (RFC 3339),
the mail format (RFC 2822), four layouts of a date with a time, three layouts of
a date alone, and the seconds since 1970. They are tried in this order. A form
without an offset is meant at UTC, and a date alone means its first second.

Each small reader takes characters from some place on and returns what it read
with the characters behind it.
-/

namespace Placeholder.Moment

open Placeholder.Number Placeholder.Text

/-! ## Parts -/

/-- A number with at least `least` digits; no more than `most` are taken. -/
def readNumber? (least most : Nat) (cs : List Char) : Option (Nat × List Char) :=
  let digits := (cs.take most).takeWhile isDigit
  if digits.length < least then none else some (digitsValue digits, cs.drop digits.length)

/-- A certain character. -/
def readChar? (c : Char) : List Char → Option (List Char)
  | d :: cs => if d = c then some cs else none
  | [] => none

/-- At least one blank. -/
def readBlanks? : List Char → Option (List Char)
  | c :: cs => if isBlank c then some (dropBlank cs) else none
  | [] => none

/-- A word of three letters from a list, in any case, as its place in the
list. -/
def readWord? (words : List String) : List Char → Option (Nat × List Char)
  | a :: b :: c :: cs =>
      let word := String.ofList ([a, b, c].map Char.toLower)
      (words.findIdx? (· == word)).map fun i => (i, cs)
  | _ => none

/-- The names of the months in three letters. -/
def monthWords : List String :=
  ["jan", "feb", "mar", "apr", "may", "jun", "jul", "aug", "sep", "oct", "nov", "dec"]

/-- The names of the days of the week in three letters. -/
def weekdayWords : List String := ["mon", "tue", "wed", "thu", "fri", "sat", "sun"]

/-- The sign of an offset. The minus sign of mathematics is understood where
`wide` is set. -/
def readOffsetSign? (wide : Bool) : List Char → Option (Bool × List Char)
  | '+' :: cs => some (false, cs)
  | '-' :: cs => some (true, cs)
  | '−' :: cs => if wide then some (true, cs) else none
  | _ => none

/-- Hours and minutes of an offset, each with two digits, with the separator
between them if there is one, as seconds. -/
def readOffset? (wide : Bool) (separator : Option Char) (cs : List Char) :
    Option (Int × List Char) := do
  let (negative, cs) ← readOffsetSign? wide cs
  let (hours, cs) ← readNumber? 2 2 cs
  let cs ← match separator with
    | some c => readChar? c cs
    | none => some cs
  let (minutes, cs) ← readNumber? 2 2 cs
  if minutes < 60 then
    let seconds : Int := (hours * 3600 + minutes * 60 : Nat)
    some (if negative then -seconds else seconds, cs)
  else none

/-! ## The Internet format -/

/-- A fraction of a second in nanoseconds: a point and digits, of which the first
nine count. Without a point there is none. -/
def readFraction? : List Char → Option (Nat × List Char)
  | '.' :: cs =>
      let digits := cs.takeWhile isDigit
      if digits.isEmpty then none
      else
        let kept := digits.take 9
        some (digitsValue kept * Nat.pow 10 (9 - kept.length), cs.dropWhile isDigit)
  | cs => some (0, cs)

/-- The offset of the Internet format: `Z`, or hours and minutes with a colon. -/
def readZone? : List Char → Option (Int × List Char)
  | 'Z' :: cs => some (0, cs)
  | 'z' :: cs => some (0, cs)
  | cs => readOffset? true (some ':') cs

/-- The mark between the date and the time. -/
def readTimeMark? : List Char → Option (List Char)
  | c :: cs => if c = 'T' ∨ c = 't' ∨ c = ' ' then some cs else none
  | [] => none

/-- The Internet format, as in `2024-03-05T14:07:09.5+01:00`. -/
def readInternet? (cs : List Char) : Option Moment := do
  let (year, cs) ← readNumber? 4 4 cs
  let cs ← readChar? '-' cs
  let (month, cs) ← readNumber? 2 2 cs
  let cs ← readChar? '-' cs
  let (day, cs) ← readNumber? 2 2 cs
  let cs ← readTimeMark? cs
  let (hour, cs) ← readNumber? 2 2 cs
  let cs ← readChar? ':' cs
  let (minute, cs) ← readNumber? 2 2 cs
  let cs ← readChar? ':' cs
  let (second, cs) ← readNumber? 2 2 cs
  let (nanos, cs) ← readFraction? cs
  let (offset, cs) ← readZone? cs
  if cs.isEmpty then ofFields? ⟨year, month, day⟩ hour minute second nanos offset else none

/-! ## The mail format -/

/-- The hours of the zones that the mail format knows by name. -/
def zoneHours? (name : String) : Option Int :=
  match name with
  | "gmt" | "ut" | "z" => some 0
  | "edt" => some (-4)
  | "est" | "cdt" => some (-5)
  | "cst" | "mdt" => some (-6)
  | "mst" | "pdt" => some (-7)
  | "pst" => some (-8)
  | _ => none

/-- The zone of the mail format: a name, a single letter other than `J`, which
says nothing and counts as UTC, or hours and minutes without a separator. -/
def readMailZone? (cs : List Char) : Option (Int × List Char) :=
  match cs.takeWhile Char.isAlpha with
  | [] => readOffset? false none cs
  | letters =>
      let name := String.ofList (letters.map Char.toLower)
      let rest := cs.dropWhile Char.isAlpha
      match zoneHours? name with
      | some hours => some (hours * 3600, rest)
      | none => if letters.length = 1 ∧ name ≠ "j" then some (0, rest) else none

/-- What follows a comment of which `depth` parentheses are still open. A
backslash takes the next character with it. -/
def closeComment? : Nat → List Char → Option (List Char)
  | 0, cs => some cs
  | _ + 1, [] => none
  | depth + 1, '\\' :: cs =>
      match cs with
      | [] => none
      | _ :: cs => closeComment? (depth + 1) cs
  | depth + 1, '(' :: cs => closeComment? (depth + 2) cs
  | depth + 1, ')' :: cs => closeComment? depth cs
  | depth + 1, _ :: cs => closeComment? (depth + 1) cs
termination_by _ cs => cs.length

/-- Whether only comments are left, with blanks before them; `fuel` bounds their
number. -/
def onlyComments (fuel : Nat) (cs : List Char) : Bool :=
  match fuel, cs with
  | _, [] => true
  | 0, _ => false
  | fuel + 1, cs =>
      match dropBlank cs with
      | '(' :: rest =>
          match closeComment? 1 rest with
          | some rest => onlyComments fuel rest
          | none => false
      | _ => false

/-- The year of the mail format. Two digits mean the years from 1950 to 2049,
three digits count from 1900. -/
def mailYear (digits year : Nat) : Nat :=
  if digits = 2 then (if year < 50 then year + 2000 else year + 1900)
  else if digits = 3 then year + 1900
  else year

/-- The day of the week that may begin the mail format, with its comma. -/
def readWeekday? (cs : List Char) : Option (Option Nat × List Char) :=
  match readWord? weekdayWords cs with
  | some (weekday, rest) => (readChar? ',' rest).map fun rest => (some weekday, rest)
  | none => some (none, cs)

/-- The seconds that may follow hours and minutes. -/
def readSeconds? (cs : List Char) : Option (Nat × List Char) :=
  match readChar? ':' (dropBlank cs) with
  | some rest => readNumber? 2 2 rest
  | none => some (0, cs)

/-- The mail format, as in `Tue, 5 Mar 2024 14:07:09 +0100`. A day of the week
must be the right one. -/
def readMail? (cs : List Char) : Option Moment := do
  let (weekday?, cs) ← readWeekday? (dropBlank cs)
  let (day, cs) ← readNumber? 1 2 (dropBlank cs)
  let cs ← readBlanks? cs
  let (month, cs) ← readWord? monthWords cs
  let cs ← readBlanks? cs
  let digits := (cs.takeWhile isDigit).length
  let (year, cs) ← readNumber? 2 digits cs
  let cs ← readBlanks? cs
  let (hour, cs) ← readNumber? 2 2 cs
  let cs ← readChar? ':' (dropBlank cs)
  let (minute, cs) ← readNumber? 2 2 (dropBlank cs)
  let (second, cs) ← readSeconds? cs
  let cs ← readBlanks? cs
  let (offset, cs) ← readMailZone? cs
  let date : Date := ⟨mailYear digits year, month + 1, day⟩
  if onlyComments cs.length cs && weekday?.all (· == date.weekday) then
    ofFields? date hour minute second 0 offset
  else none

/-! ## Layouts -/

/-- A piece of a layout. -/
inductive Piece where
  | year | month | day | hour | minute | second
  /-- Blanks, possibly none. -/
  | blanks
  /-- A certain character. -/
  | char (c : Char)
deriving DecidableEq, Repr

/-- The parts of a date and a time that a layout has met so far. -/
structure Parts where
  year : Int := 0
  month : Nat := 1
  day : Nat := 1
  hour : Nat := 0
  minute : Nat := 0
  second : Nat := 0
deriving Repr

/-- A year: up to four digits, or a sign and any number of digits. -/
def readYear? : List Char → Option (Int × List Char)
  | '-' :: cs => (readNumber? 1 cs.length cs).map fun (n, rest) => (-(n : Int), rest)
  | '+' :: cs => (readNumber? 1 cs.length cs).map fun (n, rest) => ((n : Int), rest)
  | cs => (readNumber? 1 4 cs).map fun (n, rest) => ((n : Int), rest)

/-- One piece. Blanks may stand before every number. -/
def Piece.read? (piece : Piece) (parts : Parts) (cs : List Char) : Option (Parts × List Char) :=
  let number := readNumber? 1 2 (dropBlank cs)
  match piece with
  | .year => (readYear? (dropBlank cs)).map fun (n, rest) => ({ parts with year := n }, rest)
  | .month => number.map fun (n, rest) => ({ parts with month := n }, rest)
  | .day => number.map fun (n, rest) => ({ parts with day := n }, rest)
  | .hour => number.map fun (n, rest) => ({ parts with hour := n }, rest)
  | .minute => number.map fun (n, rest) => ({ parts with minute := n }, rest)
  | .second => number.map fun (n, rest) => ({ parts with second := n }, rest)
  | .blanks => some (parts, dropBlank cs)
  | .char c => (readChar? c cs).map fun rest => (parts, rest)

/-- The pieces one after another, up to the end of the text. -/
def readPieces? (pieces : List Piece) (parts : Parts) (cs : List Char) : Option Parts :=
  match pieces with
  | [] => if cs.isEmpty then some parts else none
  | piece :: pieces =>
      match piece.read? parts cs with
      | some (parts, rest) => readPieces? pieces parts rest
      | none => none

/-- A text in a layout. -/
def readLayout? (layout : List Piece) (cs : List Char) : Option Moment :=
  (readPieces? layout {} cs).bind fun p =>
    ofFields? ⟨p.year, p.month, p.day⟩ p.hour p.minute p.second 0 0

/-- Year, month and day with a separator. -/
def dateBy (c : Char) : List Piece := [.year, .char c, .month, .char c, .day]

/-- Hour, minute and second. -/
def fullTime : List Piece := [.hour, .char ':', .minute, .char ':', .second]

/-- The layouts, in the order in which they are tried. -/
def layouts : List (List Piece) :=
  [ dateBy '-' ++ .blanks :: fullTime,
    dateBy '-' ++ .char 'T' :: fullTime,
    dateBy '-' ++ [.blanks, .hour, .char ':', .minute],
    dateBy '/' ++ .blanks :: fullTime,
    dateBy '-',
    dateBy '/',
    [.day, .char '.', .month, .char '.', .year] ]

/-! ## All forms -/

/-- The seconds since 1970, as an integer of 64 bits. -/
def readUnix? (cs : List Char) : Option Moment := (readInt64? cs).bind ofSeconds?

/-- The readers, in the order in which they are tried. -/
def readers : List (List Char → Option Moment) :=
  [readInternet?, readMail?] ++ layouts.map readLayout? ++ [readUnix?]

/-- The moment that a text without blanks around it names; `now` and `today`, in
any case, stand for the given moment and for the beginning of its day. -/
def readWith? (now : Moment) (cs : List Char) : Option Moment :=
  let word := String.ofList (cs.map Char.toLower)
  if word = "now" then some now
  else if word = "today" then some now.midnight
  else readers.findSome? fun read => read cs

/-- The moment that a text names, blanks around it aside. -/
def parse (now : Moment) (text : String) : Except Processor.Error Moment :=
  match readWith? now (trimList text.toList) with
  | some m => .ok m
  | none => .error (.unreadableDate (trim text))

end Placeholder.Moment

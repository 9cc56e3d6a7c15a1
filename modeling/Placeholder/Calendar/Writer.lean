import Placeholder.Calendar.Moment
import Placeholder.Calendar.Pattern
import Placeholder.Number.Digits
import Placeholder.Processor.Error

/-! # Writing moments

A moment is written item by item, by what the calendar and the clock at its
offset show. Names are English.
-/

namespace Placeholder

open Number

/-! ## Numbers -/

/-- An integer with a padding to a width. The sign counts for the width and
stands before zeros and behind blanks. -/
def Padding.write (padding : Padding) (width : Nat) (plus : Bool) (n : Int) : List Char :=
  let sign := if n < 0 then ['-'] else if plus then ['+'] else []
  let digits := digitsOf n.natAbs
  match padding with
  | .none => sign ++ digits
  | .zeros => sign ++ padZeros (width - sign.length) digits
  | .blanks => List.replicate (width - sign.length - digits.length) ' ' ++ sign ++ digits

/-- A number in two characters, the first one being `0` and as many characters
on as there are tens. -/
def Padding.writeTwo (padding : Padding) (n : Nat) : List Char :=
  let tens := match n / 10, padding with
    | 0, .none => []
    | 0, .blanks => [' ']
    | tens, _ => [Char.ofNat ('0'.toNat + tens)]
  tens ++ [Char.ofNat ('0'.toNat + n % 10)]

/-- A year. Outside four digits it has a sign and one more character. -/
def Padding.writeYear (padding : Padding) (year : Int) : List Char :=
  if 0 ≤ year ∧ year < 10000 then padding.write 4 false year else padding.write 5 true year

/-- The hour on a clock with twelve hours. -/
def Clock.hour12 (c : Clock) : Nat := if c.hour % 12 = 0 then 12 else c.hour % 12

/-- The second as it is written: 60 in a leap second. -/
def Clock.shownSecond (c : Clock) : Nat := c.second + c.nanos / nanosPerSecond

/-- The fraction of the second in nanoseconds, below one second. -/
def Clock.fraction (c : Clock) : Nat := c.nanos % nanosPerSecond

/-- One number of a moment. The century is kept to a byte. -/
def NumberField.write (field : NumberField) (padding : Padding) (m : Moment) : List Char :=
  let clock := m.clock
  let date := clock.date
  match field with
  | .year => padding.writeYear date.year
  | .century => padding.writeTwo (date.year / 100 % 256).toNat
  | .yearOfCentury => padding.writeTwo (date.year % 100).toNat
  | .weekYear => padding.writeYear date.weekYear
  | .weekYearOfCentury => padding.writeTwo (date.weekYear % 100).toNat
  | .quarter => digitsOf date.quarter
  | .month => padding.writeTwo date.month
  | .day => padding.writeTwo date.day
  | .dayOfYear => padding.write 3 false date.dayOfYear
  | .weekFromSunday => padding.writeTwo (date.weekFrom 6)
  | .weekFromMonday => padding.writeTwo (date.weekFrom 0)
  | .week => padding.writeTwo date.week
  | .weekdayFromMonday => digitsOf (date.weekday + 1)
  | .weekdayFromSunday => digitsOf ((date.weekday + 1) % 7)
  | .hour => padding.writeTwo clock.hour
  | .hour12 => padding.writeTwo clock.hour12
  | .minute => padding.writeTwo clock.minute
  | .second => padding.writeTwo clock.shownSecond
  | .nanos => padding.write 9 false clock.fraction
  | .unixSeconds => padding.write 9 false m.seconds

/-! ## Texts -/

/-- The names of the months. -/
def monthNames : List String :=
  ["January", "February", "March", "April", "May", "June", "July", "August", "September",
    "October", "November", "December"]

/-- The names of the days of the week. -/
def weekdayNames : List String :=
  ["Monday", "Tuesday", "Wednesday", "Thursday", "Friday", "Saturday", "Sunday"]

/-- A name from a list. -/
def nameAt (names : List String) (index : Nat) : List Char := (names.getD index "").toList

/-- An offset with a sign. Seconds beyond the precision are cut off for hours,
and rounded for minutes. -/
def OffsetStyle.write (style : OffsetStyle) (offset : Int) : List Char :=
  let sign := if offset < 0 then '-' else '+'
  let total := offset.natAbs
  let two (n : Nat) := padZeros 2 (digitsOf n)
  let rounded := (total + 30) / 60
  sign :: match style with
    | .plain => two (rounded / 60) ++ two (rounded % 60)
    | .minutes => two (rounded / 60) ++ ':' :: two (rounded % 60)
    | .seconds =>
        two (total / 3600) ++ ':' :: two (total / 60 % 60) ++ ':' :: two (total % 60)
    | .hours => two (total / 3600)

/-- A fraction of a second: nothing, or a point and three, six or nine digits. -/
def writeFraction (nanos : Nat) : List Char :=
  if nanos = 0 then []
  else if nanos % 1000000 = 0 then '.' :: padZeros 3 (digitsOf (nanos / 1000000))
  else if nanos % 1000 = 0 then '.' :: padZeros 6 (digitsOf (nanos / 1000))
  else '.' :: padZeros 9 (digitsOf nanos)

/-- A moment in the Internet format. -/
def Moment.writeInternet (m : Moment) : List Char :=
  let clock := m.clock
  let two (n : Nat) := padZeros 2 (digitsOf n)
  Padding.zeros.writeYear clock.date.year ++ '-' :: two clock.date.month ++
    '-' :: two clock.date.day ++ 'T' :: two clock.hour ++ ':' :: two clock.minute ++
    ':' :: two clock.shownSecond ++ writeFraction clock.fraction ++
    OffsetStyle.minutes.write m.offset

/-- One text of a moment, or nothing for what cannot be written. -/
def TextField.write? (field : TextField) (m : Moment) : Option (List Char) :=
  let clock := m.clock
  match field with
  | .shortMonth => some ((nameAt monthNames (clock.date.month - 1)).take 3)
  | .longMonth => some (nameAt monthNames (clock.date.month - 1))
  | .shortWeekday => some ((nameAt weekdayNames clock.date.weekday).take 3)
  | .longWeekday => some (nameAt weekdayNames clock.date.weekday)
  | .lowerHalf => some (if clock.hour < 12 then ['a', 'm'] else ['p', 'm'])
  | .upperHalf => some (if clock.hour < 12 then ['A', 'M'] else ['P', 'M'])
  | .fraction => some (writeFraction clock.fraction)
  | .fractionDigits point digits =>
      let kept := padZeros digits (digitsOf (clock.fraction / Nat.pow 10 (9 - digits)))
      some (if point then '.' :: kept else kept)
  | .offset style => some (style.write m.offset)
  | .internet => some m.writeInternet
  | .lenientOffset => none

/-! ## Patterns -/

/-- One item of a pattern. -/
def Item.write? (item : Item) (m : Moment) : Option (List Char) :=
  match item with
  | .char c => some [c]
  | .number field padding => some (field.write padding m)
  | .text field => field.write? m

/-- The items of a pattern one after another. -/
def writeItems? (items : List Item) (m : Moment) : Option (List Char) :=
  match items with
  | [] => some []
  | item :: items =>
      match item.write? m, writeItems? items m with
      | some here, some rest => some (here ++ rest)
      | _, _ => none

/-- A moment written by a pattern. -/
def Moment.format (m : Moment) (pattern : String) : Except Processor.Error String :=
  match (Pattern.items? pattern).bind fun items => writeItems? items m with
  | some cs => .ok (String.ofList cs)
  | none => .error (.badPattern pattern)

end Placeholder

/-! # Dates

Days of the Gregorian calendar, extended to all years, with a year 0 before the
year 1. A day is also a number: the days since 1 January 1970.

Both directions count years from the first of March, so that a leap day is the
last day of its year. Four hundred years always have 146097 days; inside such a
span `Date.ofDayNumber` takes away whole centuries, then whole groups of four
years, then whole years, where the last century, and the last year of a group,
may be a day longer than the others.
-/

namespace Placeholder

/-- A day of the calendar. -/
structure Date where
  year : Int
  month : Nat
  day : Nat
deriving DecidableEq, Repr

namespace Date

/-- Whether a year has a 29 February. -/
def isLeapYear (year : Int) : Bool :=
  year % 4 == 0 && (year % 100 != 0 || year % 400 == 0)

/-- The number of days of a month. -/
def daysInMonth (year : Int) (month : Nat) : Nat :=
  match month with
  | 2 => if isLeapYear year then 29 else 28
  | 4 | 6 | 9 | 11 => 30
  | _ => 31

/-- Whether there is such a day. -/
def isValid (d : Date) : Bool :=
  1 ≤ d.month && d.month ≤ 12 && 1 ≤ d.day && d.day ≤ daysInMonth d.year d.month

/-- The days from the first of March to the first day of a month, months being
counted from March. -/
def daysBeforeMonth (fromMarch : Nat) : Nat := (153 * fromMarch + 2) / 5

/-- The days from 1 January 1970 to a day, negative for earlier days. -/
def dayNumber (d : Date) : Int :=
  let year := if d.month ≤ 2 then d.year - 1 else d.year
  let fromMarch := (d.month + 9) % 12
  365 * year + year / 4 - year / 100 + year / 400 +
    (daysBeforeMonth fromMarch + d.day : Nat) - 719469

/-- The day with a number. -/
def ofDayNumber (n : Int) : Date :=
  let shifted := n + 719468
  let era := shifted / 146097
  let dayOfEra := (shifted % 146097).toNat
  let century := min (dayOfEra / 36524) 3
  let dayOfCentury := dayOfEra - 36524 * century
  let group := dayOfCentury / 1461
  let dayOfGroup := dayOfCentury - 1461 * group
  let yearOfGroup := min (dayOfGroup / 365) 3
  let dayOfYear := dayOfGroup - 365 * yearOfGroup
  let fromMarch := (5 * dayOfYear + 2) / 153
  let month := if fromMarch < 10 then fromMarch + 3 else fromMarch - 9
  let year := 400 * era + (100 * century + 4 * group + yearOfGroup : Nat)
  { year := if month ≤ 2 then year + 1 else year
    month := month
    day := dayOfYear - daysBeforeMonth fromMarch + 1 }

/-- The day of the week, counted from Monday, which is 0. -/
def weekday (d : Date) : Nat := ((d.dayNumber + 3) % 7).toNat

/-- The day of the year, counted from 1. -/
def dayOfYear (d : Date) : Nat := (d.dayNumber - (Date.mk d.year 1 1).dayNumber).toNat + 1

/-- The quarter of the year, counted from 1. -/
def quarter (d : Date) : Nat := (d.month - 1) / 3 + 1

/-- The week of the year when weeks begin on a certain day; the days before the
first such day are in week 0. The first day is counted from Monday. -/
def weekFrom (d : Date) (firstDay : Nat) : Nat :=
  (d.dayOfYear + 6 - (d.weekday + 7 - firstDay) % 7) / 7

/-- The Thursday of the week from Monday to Sunday in which a day lies. -/
def thursday (d : Date) : Date := ofDayNumber (d.dayNumber - d.weekday + 3)

/-- The year to which the week of a day is counted: the year of its Thursday. -/
def weekYear (d : Date) : Int := d.thursday.year

/-- The number of the week of a day in `weekYear`. -/
def week (d : Date) : Nat := (d.thursday.dayOfYear - 1) / 7 + 1

end Date

end Placeholder

import Placeholder.Calendar.Date

/-! # Moments

A moment is a second on the Unix time scale, a fraction of it and the offset of
the clock that showed it. A leap second has no number of its own: it is the
second before it with a fraction of one second or more.
-/

namespace Placeholder

/-- A moment in time together with an offset from UTC. `nanos` is below two
thousand million; from a thousand million on it is in a leap second. -/
structure Moment where
  seconds : Int
  nanos : Nat
  offset : Int
deriving DecidableEq, Repr

/-- What a calendar and a clock show. In a leap second `second` is 59 and `nanos`
is a thousand million or more. -/
structure Clock where
  date : Date
  hour : Nat
  minute : Nat
  second : Nat
  nanos : Nat
deriving DecidableEq, Repr

/-- The nanoseconds of one second. -/
def nanosPerSecond : Nat := 1000000000

/-- The seconds of one day. -/
def secondsPerDay : Nat := 86400

namespace Moment

/-- The years of the moments that can be told. -/
def yearInRange (year : Int) : Bool := -262143 ≤ year && year ≤ 262142

/-- Whether a number of seconds lies in those years. -/
def secondsInRange (seconds : Int) : Bool :=
  yearInRange (Date.ofDayNumber (seconds / secondsPerDay)).year

/-- What the calendar and the clock at the offset of the moment show. -/
def clock (m : Moment) : Clock :=
  let shown := m.seconds + m.offset
  let ofDay := (shown % secondsPerDay).toNat
  { date := Date.ofDayNumber (shown / secondsPerDay)
    hour := ofDay / 3600
    minute := ofDay / 60 % 60
    second := ofDay % 60
    nanos := m.nanos }

/-- A number of seconds since 1970, at UTC. -/
def ofSeconds? (seconds : Int) : Option Moment :=
  if secondsInRange seconds then some ⟨seconds, 0, 0⟩ else none

/-- The moment at which a calendar and a clock at an offset show what is given.
The second may be 60, for a leap second; the offset is less than a day. -/
def ofFields? (date : Date) (hour minute second nanos : Nat) (offset : Int) : Option Moment :=
  if date.isValid && yearInRange date.year && hour < 24 && minute < 60 && second ≤ 60 &&
      -(secondsPerDay : Int) < offset && offset < secondsPerDay then
    let leap := second == 60
    let shown : Int := date.dayNumber * secondsPerDay +
      (hour * 3600 + minute * 60 + (if leap then 59 else second) : Nat)
    let seconds := shown - offset
    if secondsInRange seconds then
      some ⟨seconds, if leap then nanos + nanosPerSecond else nanos, offset⟩
    else none
  else none

/-- The beginning of the day of a moment, at its offset. -/
def midnight (m : Moment) : Moment :=
  ⟨(m.seconds + m.offset) / secondsPerDay * secondsPerDay - m.offset, 0, m.offset⟩

end Moment

end Placeholder

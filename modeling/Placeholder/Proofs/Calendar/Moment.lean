import Placeholder.Calendar.Writer
import Placeholder.Proofs.Calendar.Date

/-! # What the clock of a moment shows

A moment is given by the fields that its calendar and its clock show, together with its offset
and the fraction of its second. This needs three things that not every moment has, but those do
that are read from a text (`Moment.Readable`): the year can be told, the offset is in whole
minutes, and a leap second ends a minute. For such moments `ofFields?_clock` undoes
`Moment.clock`, and `Moment.Readable.of_ofFields?` says that fields give nothing else.

The second fact needed later is that a clock can be read without its offset:
`Moment.showing` is the moment at UTC with the same calendar and the same clock, on a whole second.
-/

namespace Placeholder

/-! ## The fields of a clock -/

/-- The bounds of what a clock shows. -/
structure Clock.InRange (c : Clock) : Prop where
  date : c.date.isValid = true
  hour : c.hour < 24
  minute : c.minute < 60
  second : c.second < 60

theorem Moment.clock_inRange (m : Moment) : m.clock.InRange where
  date := Date.isValid_ofDayNumber _
  hour := by
    show ((m.seconds + m.offset) % secondsPerDay).toNat / 3600 < 24
    unfold secondsPerDay
    omega
  minute := by
    show ((m.seconds + m.offset) % secondsPerDay).toNat / 60 % 60 < 60
    omega
  second := by
    show ((m.seconds + m.offset) % secondsPerDay).toNat % 60 < 60
    omega

/-- All numbers that are written with two digits have no more of them. -/
structure Clock.TwoDigits (c : Clock) : Prop where
  month : c.date.month < 100
  day : c.date.day < 100
  hour : c.hour < 100
  minute : c.minute < 100
  second : c.shownSecond < 100

namespace Moment

/-- The second that a moment shows, counted like its seconds. -/
theorem shown_eq (m : Moment) :
    m.clock.date.dayNumber * secondsPerDay +
        (m.clock.hour * 3600 + m.clock.minute * 60 + m.clock.second : Nat) =
      m.seconds + m.offset := by
  have hday : m.clock.date.dayNumber = (m.seconds + m.offset) / secondsPerDay :=
    Date.dayNumber_ofDayNumber _
  rw [hday]
  unfold clock secondsPerDay
  dsimp only
  omega

/-- The last digits of the clock do not depend on an offset in whole minutes. -/
theorem clock_second {m : Moment} (h : m.offset % 60 = 0) :
    (m.clock.second : Int) = m.seconds % 60 := by
  show ((((m.seconds + m.offset) % secondsPerDay).toNat % 60 : Nat) : Int) = m.seconds % 60
  unfold secondsPerDay
  omega

/-- The first second of a year, at UTC. -/
def firstSecond (year : Int) : Int := Date.newYear year * secondsPerDay

/-- The seconds that can be told are those of the years that can be told. -/
theorem secondsInRange_iff {seconds : Int} :
    secondsInRange seconds = true ↔
      firstSecond (-262143) ≤ seconds ∧ seconds < firstSecond 262143 := by
  have hfirst : (Date.ofDayNumber (seconds / secondsPerDay)).year < -262143 ↔
      seconds / secondsPerDay < Date.newYear (-262143) := Date.year_lt_iff
  have hlast : (Date.ofDayNumber (seconds / secondsPerDay)).year < 262143 ↔
      seconds / secondsPerDay < Date.newYear 262143 := Date.year_lt_iff
  have hyears : secondsInRange seconds = true ↔
      -262143 ≤ (Date.ofDayNumber (seconds / secondsPerDay)).year ∧
        (Date.ofDayNumber (seconds / secondsPerDay)).year ≤ 262142 := by
    rw [secondsInRange, yearInRange, Bool.and_eq_true, decide_eq_true_eq, decide_eq_true_eq]
  rw [hyears]
  unfold firstSecond secondsPerDay at *
  omega

theorem firstSecond_limits :
    firstSecond (-262143) = -8334601228800 ∧ firstSecond 262143 = 8210266876800 := by
  decide

/-! ## Moments from fields -/

/-- What a moment that was read is like. -/
structure Readable (m : Moment) : Prop where
  /-- The moment can be told at UTC. -/
  told : secondsInRange m.seconds = true
  /-- The moment can be told at its offset. -/
  shown : yearInRange m.clock.date.year = true
  offset_lower : -(secondsPerDay : Int) < m.offset
  offset_upper : m.offset < secondsPerDay
  /-- The offset is in whole minutes. -/
  minutes : m.offset % 60 = 0
  nanos_lt : m.nanos < 2 * nanosPerSecond
  /-- A leap second is the last one of its minute. -/
  leap : nanosPerSecond ≤ m.nanos → m.seconds % 60 = 59

variable {m : Moment}

theorem Readable.shownSecond_eq (h : m.Readable) :
    m.clock.shownSecond = if nanosPerSecond ≤ m.nanos then 60 else m.clock.second := by
  have hnanos := h.nanos_lt
  have hsecond := clock_second h.minutes
  have hleap := h.leap
  show m.clock.second + m.nanos / nanosPerSecond = _
  unfold nanosPerSecond at *
  split
  · next hle =>
      have hlast := hleap hle
      omega
  · omega

theorem Readable.shownSecond_le (h : m.Readable) : m.clock.shownSecond ≤ 60 := by
  have hsecond := m.clock_inRange.second
  rw [h.shownSecond_eq]
  split
  · omega
  · omega

theorem Readable.twoDigits (h : m.Readable) : m.clock.TwoDigits where
  month := by
    have hmonth := ((Date.isValid_iff _).mp m.clock_inRange.date).1
    omega
  day := by
    have hday := ((Date.isValid_iff _).mp m.clock_inRange.date).2.2
    have hlast := Date.daysInMonth_le m.clock.date.year m.clock.date.month
    omega
  hour := Nat.lt_trans m.clock_inRange.hour (by omega)
  minute := Nat.lt_trans m.clock_inRange.minute (by omega)
  second := Nat.lt_of_le_of_lt h.shownSecond_le (by omega)

/-- The fields that a readable moment shows give the moment back. -/
theorem ofFields?_clock (h : m.Readable) :
    ofFields? m.clock.date m.clock.hour m.clock.minute m.clock.shownSecond m.clock.fraction
      m.offset = some m := by
  have hclock := m.clock_inRange
  have hshown := m.shown_eq
  have hnanos := h.nanos_lt
  have hfraction : m.clock.fraction = m.nanos % nanosPerSecond := rfl
  have hsecond := clock_second h.minutes
  -- what a clock shows is in the ranges that are checked
  have hguard : (m.clock.date.isValid && yearInRange m.clock.date.year && m.clock.hour < 24 &&
      m.clock.minute < 60 && m.clock.shownSecond ≤ 60 && -(secondsPerDay : Int) < m.offset &&
      m.offset < secondsPerDay) = true := by
    simp [hclock.date, h.shown, hclock.hour, hclock.minute, h.shownSecond_le, h.offset_lower,
      h.offset_upper]
  unfold ofFields?
  rw [if_pos hguard]
  dsimp only
  by_cases hle : nanosPerSecond ≤ m.nanos
  · -- in a leap second the clock shows 60, and the second before it is meant
    have hlast : m.clock.second = 59 := by
      have hminute := h.leap hle
      omega
    have hleap : (m.clock.shownSecond == 60) = true := by
      rw [h.shownSecond_eq, if_pos hle]
      rfl
    rw [hlast] at hshown
    rw [if_pos hleap, if_pos hleap, hshown, Int.add_sub_cancel, if_pos h.told, hfraction]
    unfold nanosPerSecond at *
    congr 2
    omega
  · have hbelow := hclock.second
    have hsame : m.clock.shownSecond = m.clock.second := by
      rw [h.shownSecond_eq, if_neg hle]
    have hleap : ¬ (m.clock.shownSecond == 60) = true := by
      rw [hsame, beq_iff_eq]
      omega
    rw [if_neg hleap, if_neg hleap, hsame, hshown, Int.add_sub_cancel, if_pos h.told, hfraction,
      Nat.mod_eq_of_lt (Nat.lt_of_not_le hle)]

/-- What fields give is readable, if the offset is in whole minutes. -/
theorem Readable.of_ofFields? {date : Date} {hour minute second nanos : Nat} {offset : Int}
    (h : ofFields? date hour minute second nanos offset = some m) (hminutes : offset % 60 = 0)
    (hnanos : nanos < nanosPerSecond) : m.Readable := by
  obtain ⟨hguard, h⟩ := Option.ite_none_right_eq_some.mp h
  obtain ⟨htold, h⟩ := Option.ite_none_right_eq_some.mp h
  simp only [Bool.and_eq_true, decide_eq_true_eq] at hguard
  obtain ⟨⟨⟨⟨⟨⟨hdate, hyear⟩, hhour⟩, hminute⟩, hsecond⟩, hlower⟩, hupper⟩ := hguard
  rw [← Option.some.inj h]
  -- hour, minute and second stay within the day, so the day that is shown is the one given
  have hday : (date.dayNumber * secondsPerDay + (hour * 3600 + minute * 60 +
      (if (second == 60) = true then 59 else second) : Nat) - offset + offset) / secondsPerDay =
      date.dayNumber := by
    unfold secondsPerDay
    split
    · omega
    · next hleap =>
        rw [beq_iff_eq] at hleap
        omega
  refine ⟨htold, ?_, hlower, hupper, hminutes, ?_, ?_⟩
  · show yearInRange (Date.ofDayNumber _).year = true
    dsimp only
    rw [hday, Date.ofDayNumber_dayNumber hdate]
    exact hyear
  · unfold nanosPerSecond at *
    dsimp only
    split
    · omega
    · omega
  · -- a fraction of one second or more comes from a second 60 only
    dsimp only
    intro hle
    by_cases hleap : (second == 60) = true
    · rw [if_pos hleap]
      unfold secondsPerDay
      omega
    · rw [if_neg hleap] at hle
      omega

theorem utc_inRange : -(secondsPerDay : Int) < 0 ∧ (0 : Int) < secondsPerDay := by decide

/-- Seconds since 1970 give a readable moment. -/
theorem Readable.of_ofSeconds? {seconds : Int} (h : ofSeconds? seconds = some m) :
    m.Readable := by
  obtain ⟨htold, h⟩ := Option.ite_none_right_eq_some.mp h
  cases h
  refine ⟨htold, ?_, utc_inRange.1, utc_inRange.2, rfl, Nat.zero_lt_succ _, ?_⟩
  · show secondsInRange (seconds + 0) = true
    rw [Int.add_zero]
    exact htold
  · intro hle
    exact absurd hle (Nat.not_le.mpr (Nat.zero_lt_succ _))

/-! ## Clocks without their offset -/

/-- The moment at UTC that shows the same calendar and the same clock, on a whole second. A
leap second stays one. -/
def showing (m : Moment) : Moment :=
  ⟨m.seconds + m.offset, if nanosPerSecond ≤ m.nanos then nanosPerSecond else 0, 0⟩

theorem clock_showing (m : Moment) : m.showing.clock =
    { m.clock with nanos := if nanosPerSecond ≤ m.nanos then nanosPerSecond else 0 } := by
  unfold clock showing
  dsimp only
  rw [Int.add_zero]

theorem Readable.showing (h : m.Readable) : m.showing.Readable where
  told := h.shown
  shown := by
    rw [clock_showing]
    exact h.shown
  offset_lower := utc_inRange.1
  offset_upper := utc_inRange.2
  minutes := rfl
  nanos_lt := by
    show (if nanosPerSecond ≤ m.nanos then nanosPerSecond else 0) < 2 * nanosPerSecond
    unfold nanosPerSecond
    split
    · omega
    · omega
  leap := by
    show _ ≤ (if nanosPerSecond ≤ m.nanos then nanosPerSecond else 0) →
      (m.seconds + m.offset) % 60 = 59
    have hminutes := h.minutes
    have hleap := h.leap
    intro hle
    split at hle
    · next hlong =>
        have hlast := hleap hlong
        omega
    · unfold nanosPerSecond at hle
      omega

theorem Readable.shownSecond_showing (h : m.Readable) :
    m.showing.clock.shownSecond = m.clock.shownSecond := by
  have hsecond : m.showing.clock.second = m.clock.second := by rw [clock_showing]
  have hnanos : nanosPerSecond ≤ m.showing.nanos ↔ nanosPerSecond ≤ m.nanos := by
    show nanosPerSecond ≤ (if nanosPerSecond ≤ m.nanos then nanosPerSecond else 0) ↔ _
    split
    · next hle => exact iff_of_true (Nat.le_refl _) hle
    · next hlt => exact iff_of_false (by decide) hlt
  rw [h.showing.shownSecond_eq, h.shownSecond_eq, hsecond]
  simp only [hnanos]

theorem fraction_showing (m : Moment) : m.showing.clock.fraction = 0 := by
  show (if nanosPerSecond ≤ m.nanos then nanosPerSecond else 0) % nanosPerSecond = 0
  split
  · exact Nat.mod_self nanosPerSecond
  · exact Nat.zero_mod nanosPerSecond

end Moment

end Placeholder

import Mathlib.Tactic.IntervalCases
import Placeholder.Calendar.Date

/-! # Days and their numbers

Every day of the calendar has a number, and every number is that of one day
(`dayNumber_ofDayNumber`, `ofDayNumber_dayNumber`).

Both conversions meet in the middle. A `MarchDay` is a day by the spans it lies in: the span of
four hundred years, the century, the group of four years and the year, which begins with March.
Its fields carry the bounds, and among them the one that is not the same everywhere: only the
last year of a group has a 366th day, and only in the last group of the last century if the
group is the last one of its century. With it the number of a day determines its spans, and
omega does the rest.

A year is a run of days too: the days with numbers from one `newYear` to the next (`year_lt_iff`).
-/

namespace Placeholder.Date

/-! ## Leap years and months -/

theorem isLeapYear_iff (year : Int) :
    isLeapYear year = true ↔ year % 4 = 0 ∧ (year % 100 ≠ 0 ∨ year % 400 = 0) := by
  simp [isLeapYear]

theorem isValid_iff (d : Date) :
    d.isValid = true ↔
      (1 ≤ d.month ∧ d.month ≤ 12) ∧ 1 ≤ d.day ∧ d.day ≤ daysInMonth d.year d.month := by
  simp [isValid, and_assoc]

/-- The calendar month of a month that is counted from March. -/
def monthOf (fromMarch : Nat) : Nat := if fromMarch < 10 then fromMarch + 3 else fromMarch - 9

/-- A month is over where the next one begins. In February, the last one, this depends on the
year. -/
theorem daysBeforeMonth_succ {fromMarch : Nat} (h : fromMarch < 11) (year : Int) :
    daysBeforeMonth (fromMarch + 1) =
      daysBeforeMonth fromMarch + daysInMonth year (monthOf fromMarch) := by
  interval_cases fromMarch <;> rfl

theorem daysInMonth_february (year : Int) :
    daysInMonth year 2 = if isLeapYear year then 29 else 28 := rfl

theorem daysInMonth_le (year : Int) (month : Nat) : daysInMonth year month ≤ 31 := by
  unfold daysInMonth
  split
  · split
    · omega
    · omega
  all_goals omega

/-- The month in which a day of the year lies. -/
theorem fromMarch_eq_iff {day fromMarch : Nat} :
    (5 * day + 2) / 153 = fromMarch ↔
      daysBeforeMonth fromMarch ≤ day ∧ day < daysBeforeMonth (fromMarch + 1) := by
  unfold daysBeforeMonth
  omega

/-- A day ends with its month at the latest, and ends the 366th day of its year, counted from
March, in leap years only. -/
theorem end_of_day {fromMarch day : Nat} {marchYear : Int} (hle : fromMarch ≤ 11)
    (hlast : day ≤ daysInMonth (if monthOf fromMarch ≤ 2 then marchYear + 1 else marchYear)
      (monthOf fromMarch)) :
    daysBeforeMonth fromMarch + day ≤ daysBeforeMonth (fromMarch + 1) ∧
      (daysBeforeMonth fromMarch + day ≤ 365 ∨ daysBeforeMonth fromMarch + day = 366 ∧
        isLeapYear (marchYear + 1) = true) := by
  rcases Nat.lt_or_eq_of_le hle with hlt | rfl
  · have hnext := daysBeforeMonth_succ hlt
      (if monthOf fromMarch ≤ 2 then marchYear + 1 else marchYear)
    have hwhole : daysBeforeMonth (fromMarch + 1) ≤ 337 := by
      unfold daysBeforeMonth
      omega
    omega
  · have hfebruary : monthOf 11 = 2 := rfl
    have hbefore : daysBeforeMonth 11 = 337 := rfl
    have hafter : daysBeforeMonth (11 + 1) = 367 := rfl
    rw [hfebruary, if_pos (Nat.le_refl 2), daysInMonth_february] at hlast
    rw [hbefore, hafter]
    split at hlast
    · next hleap =>
        refine ⟨by omega, ?_⟩
        rcases Nat.lt_or_eq_of_le hlast with hearlier | hleapDay
        · exact .inl (by omega)
        · exact .inr ⟨by omega, hleap⟩
    · exact ⟨by omega, .inl (by omega)⟩

/-! ## Days by spans -/

/-- A day by the spans in which it lies, the years counted from March. Years and days of a
group and of a year are counted from 0. -/
structure MarchDay where
  /-- The number of the span of four hundred years. -/
  era : Int
  century : Nat
  group : Nat
  year : Nat
  day : Nat
  century_le : century ≤ 3
  group_le : group ≤ 24
  year_le : year ≤ 3
  day_le : day ≤ 365
  /-- The 366th day is a leap day. -/
  leap : day = 365 → year = 3 ∧ (group = 24 → century = 3)

namespace MarchDay

/-- The day of the span of four hundred years. -/
def dayOfEra (p : MarchDay) : Nat :=
  36524 * p.century + 1461 * p.group + 365 * p.year + p.day

/-- The days from 1 January 1970. -/
def number (p : MarchDay) : Int := 146097 * p.era + p.dayOfEra - 719468

/-- The year that begins with March. -/
def marchYear (p : MarchDay) : Int :=
  400 * p.era + (100 * p.century + 4 * p.group + p.year : Nat)

/-- The month, counted from March. -/
def fromMarch (p : MarchDay) : Nat := (5 * p.day + 2) / 153

/-- The day of the calendar. -/
def toDate (p : MarchDay) : Date where
  year := if monthOf p.fromMarch ≤ 2 then p.marchYear + 1 else p.marchYear
  month := monthOf p.fromMarch
  day := p.day - daysBeforeMonth p.fromMarch + 1

theorem fromMarch_le (p : MarchDay) : p.fromMarch ≤ 11 := by
  have hday := p.day_le
  unfold fromMarch
  omega

/-- The day lies in its month. -/
theorem fromMarch_spec (p : MarchDay) :
    daysBeforeMonth p.fromMarch ≤ p.day ∧ p.day < daysBeforeMonth (p.fromMarch + 1) :=
  fromMarch_eq_iff.mp rfl

/-- The spans can be read off the day of the era. -/
theorem spans_dayOfEra (p : MarchDay) :
    p.dayOfEra < 146097 ∧ min (p.dayOfEra / 36524) 3 = p.century ∧
      (p.dayOfEra - 36524 * p.century) / 1461 = p.group ∧
      min ((p.dayOfEra - 36524 * p.century - 1461 * p.group) / 365) 3 = p.year ∧
      p.dayOfEra - 36524 * p.century - 1461 * p.group - 365 * p.year = p.day := by
  obtain ⟨era, century, group, year, day, hcentury, hgroup, hyear, hday, hleap⟩ := p
  dsimp only [dayOfEra]
  omega

theorem ofDayNumber_number (p : MarchDay) : ofDayNumber p.number = p.toDate := by
  obtain ⟨hlt, hcentury, hgroup, hyear, hday⟩ := p.spans_dayOfEra
  have hera : (p.number + 719468) / 146097 = p.era := by
    unfold number
    omega
  have hdayOfEra : ((p.number + 719468) % 146097).toNat = p.dayOfEra := by
    unfold number
    omega
  unfold ofDayNumber
  dsimp only
  rw [hera, hdayOfEra, hcentury, hgroup, hyear, hday]
  rfl

theorem dayNumber_toDate (p : MarchDay) : p.toDate.dayNumber = p.number := by
  have hmonth := p.fromMarch_le
  have hday := p.fromMarch_spec.1
  have hspans := p.century_le
  have hgroup := p.group_le
  have hyear := p.year_le
  have hfromMarch : (monthOf p.fromMarch + 9) % 12 = p.fromMarch := by
    unfold monthOf
    split
    · omega
    · omega
  have hmarchYear : (if monthOf p.fromMarch ≤ 2 then p.toDate.year - 1 else p.toDate.year) =
      p.marchYear := by
    unfold toDate
    dsimp only
    split
    · omega
    · rfl
  unfold dayNumber
  rw [show p.toDate.month = monthOf p.fromMarch from rfl, hfromMarch, hmarchYear]
  unfold toDate number dayOfEra marchYear
  dsimp only
  omega

theorem isValid_toDate (p : MarchDay) : p.toDate.isValid = true := by
  have hmonth := p.fromMarch_le
  have hspec := p.fromMarch_spec
  rw [isValid_iff]
  unfold toDate
  dsimp only
  generalize p.fromMarch = m at hmonth hspec ⊢
  refine ⟨?_, by omega, ?_⟩
  · unfold monthOf
    split
    · omega
    · omega
  · rcases Nat.lt_or_eq_of_le hmonth with hlt | rfl
    · rw [daysBeforeMonth_succ hlt (if monthOf m ≤ 2 then p.marchYear + 1 else p.marchYear)]
        at hspec
      omega
    · -- a day of February: the 366th day of the year is there in leap years only
      have hbefore : daysBeforeMonth 11 = 337 := rfl
      have hfebruary : monthOf 11 = 2 := rfl
      have hday := p.day_le
      rw [hbefore, hfebruary, daysInMonth_february, if_pos (Nat.le_refl 2)]
      split
      · omega
      · next hno =>
          rw [isLeapYear_iff] at hno
          unfold marchYear at hno
          have hleap := p.leap
          have hcentury := p.century_le
          have hgroup := p.group_le
          omega

/-- Every number is that of a day. -/
theorem exists_number (n : Int) : ∃ p : MarchDay, p.number = n := by
  have hlt : ((n + 719468) % 146097).toNat < 146097 := by omega
  have hn : 146097 * ((n + 719468) / 146097) + ((n + 719468) % 146097).toNat - 719468 = n := by
    omega
  generalize ((n + 719468) % 146097).toNat = dayOfEra at hlt hn
  -- the last day of a long span would begin a fifth part of it, and belongs to the fourth
  obtain ⟨century, hcentury⟩ : ∃ k, k = min (dayOfEra / 36524) 3 := ⟨_, rfl⟩
  obtain ⟨group, hgroup⟩ : ∃ k, k = (dayOfEra - 36524 * century) / 1461 := ⟨_, rfl⟩
  obtain ⟨year, hyear⟩ : ∃ k, k = min ((dayOfEra - 36524 * century - 1461 * group) / 365) 3 :=
    ⟨_, rfl⟩
  obtain ⟨day, hday⟩ : ∃ k, k = dayOfEra - 36524 * century - 1461 * group - 365 * year :=
    ⟨_, rfl⟩
  refine ⟨⟨(n + 719468) / 146097, century, group, year, day, ?_, ?_, ?_, ?_, ?_⟩, ?_⟩
  case refine_6 =>
    unfold number MarchDay.dayOfEra
    dsimp only
    omega
  all_goals omega

/-- Every day of the calendar lies in some spans. -/
theorem exists_toDate {d : Date} (h : d.isValid = true) : ∃ p : MarchDay, p.toDate = d := by
  obtain ⟨year, month, day⟩ := d
  obtain ⟨hmonth, hday, hlast⟩ := (isValid_iff _).mp h
  dsimp only at hmonth hday hlast
  obtain ⟨fromMarch, hfromMarch⟩ : ∃ m, m = (month + 9) % 12 := ⟨_, rfl⟩
  obtain ⟨marchYear, hmarchYear⟩ : ∃ y, y = if month ≤ 2 then year - 1 else year := ⟨_, rfl⟩
  have hle : fromMarch ≤ 11 := by omega
  have hmonthOf : monthOf fromMarch = month := by
    unfold monthOf
    split
    · omega
    · omega
  -- years are counted from March, so January and February belong to the year before
  have hyear : (if month ≤ 2 then marchYear + 1 else marchYear) = year := by
    split at hmarchYear
    · next hjanuary =>
        rw [if_pos hjanuary]
        omega
    · next hmarch =>
        rw [if_neg hmarch]
        exact hmarchYear
  rw [← hyear, ← hmonthOf] at hlast
  have hend := end_of_day hle hlast
  rw [isLeapYear_iff] at hend
  refine ⟨⟨marchYear / 400, (marchYear % 400).toNat / 100, (marchYear % 400).toNat % 100 / 4,
    (marchYear % 400).toNat % 4, daysBeforeMonth fromMarch + day - 1, ?_, ?_, ?_, ?_, ?_⟩, ?_⟩
  case refine_6 =>
    have hmonth' : (5 * (daysBeforeMonth fromMarch + day - 1) + 2) / 153 = fromMarch :=
      fromMarch_eq_iff.mpr ⟨by omega, by omega⟩
    have hsum : 400 * (marchYear / 400) + ((100 * ((marchYear % 400).toNat / 100) +
        4 * ((marchYear % 400).toNat % 100 / 4) + (marchYear % 400).toNat % 4 : Nat) : Int) =
        marchYear := by omega
    unfold toDate MarchDay.fromMarch MarchDay.marchYear
    dsimp only
    rw [hmonth', hmonthOf, hsum, hyear]
    have hday' : daysBeforeMonth fromMarch + day - 1 - daysBeforeMonth fromMarch + 1 = day := by
      omega
    rw [hday']
  all_goals omega

end MarchDay

/-! ## Both directions -/

/-- Every number is that of a day of the calendar. -/
theorem isValid_ofDayNumber (n : Int) : (ofDayNumber n).isValid = true := by
  obtain ⟨p, rfl⟩ := MarchDay.exists_number n
  rw [p.ofDayNumber_number]
  exact p.isValid_toDate

theorem dayNumber_ofDayNumber (n : Int) : (ofDayNumber n).dayNumber = n := by
  obtain ⟨p, rfl⟩ := MarchDay.exists_number n
  rw [p.ofDayNumber_number, p.dayNumber_toDate]

theorem ofDayNumber_dayNumber {d : Date} (h : d.isValid = true) : ofDayNumber d.dayNumber = d := by
  obtain ⟨p, rfl⟩ := MarchDay.exists_toDate h
  rw [p.dayNumber_toDate, p.ofDayNumber_number]

/-! ## Years by their days -/

/-- The number of the first of January. -/
def newYear (year : Int) : Int := (Date.mk year 1 1).dayNumber

theorem newYear_eq (year : Int) :
    newYear year =
      365 * (year - 1) + (year - 1) / 4 - (year - 1) / 100 + (year - 1) / 400 - 719162 := by
  have hmonth : daysBeforeMonth ((1 + 9) % 12) = 306 := rfl
  have hjanuary : (1 : Nat) ≤ 2 := by omega
  unfold newYear dayNumber
  dsimp only
  rw [hmonth, if_pos hjanuary]
  omega

theorem newYear_mono {year later : Int} (h : year ≤ later) : newYear year ≤ newYear later := by
  rw [newYear_eq, newYear_eq]
  omega

/-- A day by its distance from the first of January that lies in its year by spans, the 307th
day of that year. -/
theorem MarchDay.number_eq (p : MarchDay) :
    p.number = newYear (p.marchYear + 1) - 306 + p.day := by
  have hcentury := p.century_le
  have hgroup := p.group_le
  have hyear := p.year_le
  rw [newYear_eq, Int.add_sub_cancel]
  unfold number dayOfEra marchYear
  omega

/-- A day lies between two first days of January. -/
theorem newYear_le_and_lt (n : Int) :
    newYear (ofDayNumber n).year ≤ n ∧ n < newYear ((ofDayNumber n).year + 1) := by
  obtain ⟨p, rfl⟩ := MarchDay.exists_number n
  have hday := p.day_le
  have hmonth := p.fromMarch_le
  have hfromMarch : p.fromMarch = (5 * p.day + 2) / 153 := rfl
  have hyear : p.toDate.year = if monthOf p.fromMarch ≤ 2 then p.marchYear + 1 else p.marchYear :=
    rfl
  rw [p.ofDayNumber_number, hyear, p.number_eq, monthOf]
  -- January and February, from the 307th day on, belong to the next year
  by_cases hend : p.fromMarch < 10
  · have hmarch : ¬ p.fromMarch + 3 ≤ 2 := by omega
    rw [if_pos hend, if_neg hmarch, newYear_eq, newYear_eq]
    omega
  · have hjanuary : p.fromMarch - 9 ≤ 2 := by omega
    rw [if_neg hend, if_pos hjanuary, newYear_eq, newYear_eq]
    omega

theorem year_lt_iff {n year : Int} : (ofDayNumber n).year < year ↔ n < newYear year := by
  obtain ⟨hfrom, hbefore⟩ := newYear_le_and_lt n
  constructor
  · intro hlt
    have hnext : newYear ((ofDayNumber n).year + 1) ≤ newYear year := newYear_mono hlt
    omega
  · intro hlt
    by_contra hle
    have hlater : newYear year ≤ newYear (ofDayNumber n).year := newYear_mono (Int.not_lt.mp hle)
    omega

end Placeholder.Date

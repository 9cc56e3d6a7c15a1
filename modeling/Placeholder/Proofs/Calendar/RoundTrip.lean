import Placeholder.Processor.Builtin
import Placeholder.Proofs.Calendar.Layout

/-! # Dates that are written and read again

Two texts of the processor `date` are dates again. The Internet format of a year with four digits
gives back the moment itself (`internet_format_loses_nothing`). The pattern that is used without
settings gives back what calendar and clock show on the whole second, in every year
(`default_format_is_fixed`).

The first reader takes the Internet format. The other text is that of the first layout, which
is tried behind two readers, and neither of them takes it: the Internet format has no year with a
sign and wants an offset, and the mail format wants a blank behind a day of at most two digits.
-/

namespace Placeholder

open Number Text

namespace Moment

/-! ## The Internet format -/

theorem startsNumber_writeFields (mark : Char) (c : Clock) (rest : List Char) :
    StartsNumber (writeFields mark c ++ rest) := by
  rw [writeFields, List.append_assoc]
  exact Padding.startsNumber_writeYear c.date.year _

theorem endsInDigit_writeFields (mark : Char) (c : Clock) :
    EndsInDigit (writeFields mark c) := by
  have hsecond := endsInDigit_padZeros 2 c.shownSecond
  exact hsecond.cons.append.cons.append.cons.append.cons.append.cons.append

theorem endsInDigit_writeInternet {m : Moment} (h : m.offset % 60 = 0) :
    EndsInDigit m.writeInternet := by
  have hminutes := endsInDigit_padZeros 2 (m.offset.natAbs / 60 % 60)
  rw [writeInternet_eq, write_minutes h]
  exact hminutes.cons.append.cons.append.append

theorem format_internet (m : Moment) : m.format "%+" = .ok (String.ofList m.writeInternet) := by
  have hitems : Pattern.items? "%+" = some [.text .internet] := by decide +kernel
  have hwrite : writeItems? [.text .internet] m = some (m.writeInternet ++ []) := rfl
  rw [format, hitems, Option.bind_some, hwrite, List.append_nil]

/-! ## The first layout -/

/-- Year, month and day, blanks and a time. -/
def firstLayout : List Piece := dateBy '-' ++ .blanks :: fullTime

theorem items?_default : Pattern.items? ({} : DateDefaults).pattern =
    some (firstLayout.map Piece.item) := by
  decide +kernel

variable {m : Moment}

theorem writeItems?_firstLayout (h : m.Readable) :
    writeItems? (firstLayout.map Piece.item) m = some (writeFields ' ' m.clock) := by
  have hclock := h.twoDigits
  simp [firstLayout, dateBy, fullTime, Piece.item, Pattern.zeros, writeItems?, Item.write?,
    NumberField.write, Padding.writeTwo_zeros, hclock.month, hclock.day, hclock.hour,
    hclock.minute, hclock.second, writeFields]

theorem format_default (h : m.Readable) :
    m.format ({} : DateDefaults).pattern = .ok (String.ofList (writeFields ' ' m.clock)) := by
  rw [format, items?_default, Option.bind_some, writeItems?_firstLayout h]

theorem readLayout?_firstLayout (h : m.Readable) :
    readLayout? firstLayout (writeFields ' ' m.clock) = some m.showing := by
  have hends : firstLayout.IsChain fun piece next => piece.endsAt next = true := by decide
  have hback := ofFields?_clock h.showing
  rw [h.shownSecond_showing, fraction_showing, clock_showing] at hback
  rw [readLayout?, readPieces?_write h hends (writeItems?_firstLayout h)]
  exact hback

theorem writeFields_showing (h : m.Readable) (mark : Char) :
    writeFields mark m.showing.clock = writeFields mark m.clock := by
  rw [writeFields, writeFields, h.shownSecond_showing, clock_showing]

/-! ## The readers in front of it -/

/-- The Internet format needs an offset behind the time, and no year with a sign. -/
theorem readInternet?_eq_none (h : m.Readable) :
    readInternet? (writeFields ' ' m.clock) = none := by
  by_cases hyear : 0 ≤ m.clock.date.year ∧ m.clock.date.year < 10000
  · have hread := readInternet?_writeFields h hyear (.inr (.inr rfl)) []
    rw [List.append_nil] at hread
    rw [hread]
    rfl
  · have hstops : Stops isDigit (writeFields ' ' m.clock) := by
      rw [writeFields, Padding.writeYear_of_sign hyear, List.cons_append]
      apply Stops.cons
      split
      · rfl
      · rfl
    rw [readInternet?, readNumber?_of_stops (by omega) hstops]
    rfl

/-- A text that begins like a number begins with no word. -/
theorem readWord?_eq_none {words : List String} (hwords : ∀ word ∈ words, ¬ StartsNumber word.toList)
    {cs : List Char} (hstarts : StartsNumber cs) : readWord? words cs = none := by
  unfold readWord?
  split
  · next a b c cs =>
      have hthree : StartsNumber [a, b, c] := startsNumber_cons.mpr (startsNumber_cons.mp hstarts)
      rw [Option.map_eq_none_iff, List.findIdx?_eq_none_iff]
      intro word hword
      rw [beq_eq_false_iff_ne]
      exact (hthree.lower_ne (hwords word hword)).symm
  · rfl

theorem readBlanks?_eq_none {cs : List Char} (h : Stops isBlank cs) : readBlanks? cs = none := by
  cases cs with
  | nil => rfl
  | cons c cs =>
      have hc : ¬ isBlank c = true := by
        rw [h c rfl]
        exact Bool.false_ne_true
      exact if_neg hc

/-- The mail format wants a blank behind a day of at most two digits. -/
theorem readMail?_eq_none {cs : List Char} (hstarts : StartsNumber cs)
    (hblank : ∀ k ≤ 2, Stops isBlank (cs.drop k)) : readMail? cs = none := by
  have hwords : ∀ word ∈ weekdayWords, ¬ StartsNumber word.toList := by decide
  have hdrop : dropBlank cs = cs := dropWhile_of_stops hstarts.stops_isBlank
  have hweekday : readWeekday? cs = some (none, cs) := by
    rw [readWeekday?, readWord?_eq_none hwords hstarts]
  rw [readMail?, hdrop, hweekday, Option.bind_eq_bind, Option.bind_some]
  dsimp only
  rw [hdrop]
  cases hday : readNumber? 1 2 cs with
  | none => rfl
  | some read =>
      -- one or two digits are gone, and what comes next is no blank
      obtain ⟨day, rest⟩ := read
      obtain ⟨k, hk, rfl⟩ := readNumber?_drop hday
      rw [Option.bind_eq_bind, Option.bind_some]
      dsimp only
      rw [readBlanks?_eq_none (hblank k hk)]
      rfl

theorem stops_isBlank_drop (mark : Char) (c : Clock) {k : Nat} (hk : k ≤ 2) :
    Stops isBlank ((writeFields mark c).drop k) := by
  have hlength := Padding.length_writeYear c.date.year
  rw [writeFields, List.drop_append_of_le_length (by omega)]
  apply Stops.append
  · intro d hd
    exact Padding.isBlank_of_mem_writeYear (List.mem_of_mem_drop hd)
  · exact Stops.cons rfl _

/-- The default text is that of the first layout. -/
theorem findSome?_readers (h : m.Readable) :
    (readers.findSome? fun read => read (writeFields ' ' m.clock)) = some m.showing := by
  have hstarts := startsNumber_writeFields ' ' m.clock []
  rw [List.append_nil] at hstarts
  have hmail := readMail?_eq_none hstarts fun k hk => stops_isBlank_drop ' ' m.clock hk
  show List.findSome? _ (readInternet? :: readMail? :: readLayout? firstLayout :: _) = _
  rw [List.findSome?_cons, readInternet?_eq_none h, List.findSome?_cons, hmail,
    List.findSome?_cons, readLayout?_firstLayout h]

end Moment

namespace Builtin

open Moment

/-- **Writing a date with `%+` loses nothing.** A value that is no word for the present and
names a moment in a year of four digits is written in the Internet format, whatever the
settings are, and the text names the same moment whenever it is read: its seconds, its fraction
with the mark of a leap second and its offset. -/
theorem internet_format_loses_nothing (defaults : DateDefaults) {now m : Moment} {value : String}
    (hword : ¬ NamesNow value) (hparse : parse now value = .ok m)
    (hyear : 0 ≤ m.clock.date.year ∧ m.clock.date.year ≤ 9999) :
    ∃ text, runDate defaults now value (some ["%+"]) = .ok text ∧
      ∀ later, parse later text = .ok m := by
  have h := readable_of_parse hword hparse
  have hfour : 0 ≤ m.clock.date.year ∧ m.clock.date.year < 10000 := by omega
  have hstarts : StartsNumber m.writeInternet := by
    rw [writeInternet_eq]
    exact startsNumber_writeFields 'T' m.clock _
  have hread : (readers.findSome? fun read => read m.writeInternet) = some m := by
    show List.findSome? _ (readInternet? :: _) = _
    rw [List.findSome?_cons, readInternet?_writeInternet h hfour]
  refine ⟨String.ofList m.writeInternet, ?_, ?_⟩
  · rw [runDate, hparse]
    exact format_internet m
  · exact parse_of_readers hstarts (endsInDigit_writeInternet h.minutes) hread

/-- A leap second with a fraction, in the year 0, whose offset puts it into the year before. -/
theorem internet_format_loses_nothing_year_zero :
    let value := "0000-01-01T00:59:60.000001+23:59"
    let now : Moment := ⟨0, 0, 0⟩
    let m : Moment := ⟨-62167301941, 1000001000, 86340⟩
    ¬ NamesNow value ∧ parse now value = .ok m ∧
      (0 ≤ m.clock.date.year ∧ m.clock.date.year ≤ 9999) ∧
      ∃ text, runDate {} now value (some ["%+"]) = .ok text ∧
        ∀ later, parse later text = .ok m := by
  intro value now m
  have hword : ¬ NamesNow value := by decide +kernel
  have hread : readWith? now (trimList value.toList) = some m := by decide +kernel
  have hparse : parse now value = .ok m := by
    rw [Moment.parse, hread]
  have hyear : 0 ≤ m.clock.date.year ∧ m.clock.date.year ≤ 9999 := by decide +kernel
  exact ⟨hword, hparse, hyear, internet_format_loses_nothing {} hword hparse hyear⟩

/-- **What is written without settings is read as it shows, and is written the same again.** A
value that is no word for the present and names a moment, in any year, is written by the
default pattern. The text names a moment at UTC, with the same date and the same time on the
whole second, where a leap second stays one, and it is written as itself. -/
theorem default_format_is_fixed {now m : Moment} {value : String} (hword : ¬ NamesNow value)
    (hparse : parse now value = .ok m) :
    ∃ text m', runDate ({} : Config).date now value none = .ok text ∧
      (∀ later, parse later text = .ok m') ∧ m'.offset = 0 ∧
      m'.clock =
        { m.clock with nanos := if nanosPerSecond ≤ m.nanos then nanosPerSecond else 0 } ∧
      ∀ later, runDate ({} : Config).date later text none = .ok text := by
  have h := readable_of_parse hword hparse
  have hstarts := startsNumber_writeFields ' ' m.clock []
  rw [List.append_nil] at hstarts
  have hback := parse_of_readers hstarts (endsInDigit_writeFields ' ' m.clock)
    (findSome?_readers h)
  refine ⟨String.ofList (writeFields ' ' m.clock), m.showing, ?_, hback, rfl, m.clock_showing, ?_⟩
  · rw [runDate, hparse]
    exact format_default h
  · intro later
    rw [runDate, hback later, ← writeFields_showing h]
    exact format_default h.showing

/-- A leap second at an offset, in a year that is written with a sign. -/
theorem default_format_is_fixed_signed :
    let value := "31 Dec 10000 23:59:60 +0130"
    let now : Moment := ⟨0, 0, 0⟩
    let m : Moment := ⟨253433917799, 1000000000, 5400⟩
    ¬ NamesNow value ∧ parse now value = .ok m ∧
      ∃ text m', runDate ({} : Config).date now value none = .ok text ∧
        (∀ later, parse later text = .ok m') ∧ m'.offset = 0 ∧
        m'.clock =
          { m.clock with nanos := if nanosPerSecond ≤ m.nanos then nanosPerSecond else 0 } ∧
        ∀ later, runDate ({} : Config).date later text none = .ok text := by
  intro value now m
  have hword : ¬ NamesNow value := by decide +kernel
  have hread : readWith? now (trimList value.toList) = some m := by decide +kernel
  have hparse : parse now value = .ok m := by
    rw [Moment.parse, hread]
  exact ⟨hword, hparse, default_format_is_fixed hword hparse⟩

end Builtin

end Placeholder

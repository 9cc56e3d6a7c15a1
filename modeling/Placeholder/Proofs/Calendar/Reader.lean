import Placeholder.Calendar.Reader
import Placeholder.Proofs.Calendar.Moment
import Placeholder.Proofs.Number.Digits
import Placeholder.Proofs.Text

/-! # What the readers of moments give and take

A reader takes what was written, whatever follows it, as long as that cannot be taken too: a
number with a fixed number of digits needs nothing of what follows (`readNumber?_padZeros`), a
number with any number of digits needs that no digit follows (`readYear?_writeYear`).

In the other direction, whatever is read from a text is readable (`readable_of_parse`): offsets
are read as hours and minutes, and fractions are below one second.
-/

namespace Placeholder

open Number Text

/-! ## Years -/

theorem Padding.writeYear_of_four {year : Int} (h : 0 ≤ year ∧ year < 10000) :
    Padding.zeros.writeYear year = padZeros 4 (digitsOf year.natAbs) := by
  have hsign : ¬ year < 0 := by omega
  rw [writeYear, if_pos h, write, if_neg hsign]
  rfl

/-- A year outside four digits begins with its sign. -/
theorem Padding.writeYear_of_sign {year : Int} (h : ¬ (0 ≤ year ∧ year < 10000)) :
    Padding.zeros.writeYear year =
      (if year < 0 then '-' else '+') :: padZeros 4 (digitsOf year.natAbs) := by
  rw [writeYear, if_neg h, write]
  by_cases hsign : year < 0
  · rw [if_pos hsign, if_pos hsign]
    rfl
  · rw [if_neg hsign, if_neg hsign]
    rfl

theorem Padding.startsNumber_writeYear (year : Int) (rest : List Char) :
    StartsNumber (Padding.zeros.writeYear year ++ rest) := by
  by_cases hfour : 0 ≤ year ∧ year < 10000
  · rw [writeYear_of_four hfour]
    exact startsNumber_padZeros 4 year.natAbs rest
  · rw [writeYear_of_sign hfour]
    apply startsNumber_cons.mpr
    split
    · exact .inr (.inl rfl)
    · exact .inr (.inr rfl)

theorem Padding.length_writeYear (year : Int) : 4 ≤ (Padding.zeros.writeYear year).length := by
  have hlength := le_length_padZeros 4 (digitsOf year.natAbs)
  by_cases hfour : 0 ≤ year ∧ year < 10000
  · rw [writeYear_of_four hfour]
    exact hlength
  · rw [writeYear_of_sign hfour, List.length_cons]
    omega

theorem Padding.isBlank_of_mem_writeYear {year : Int} {c : Char}
    (h : c ∈ Padding.zeros.writeYear year) : isBlank c = false := by
  have hdigits : c ∈ padZeros 4 (digitsOf year.natAbs) → isBlank c = false := fun hc =>
    isBlank_of_isDigit ((numeral_padZeros 4 year.natAbs).digits c hc)
  by_cases hfour : 0 ≤ year ∧ year < 10000
  · rw [writeYear_of_four hfour] at h
    exact hdigits h
  · rw [writeYear_of_sign hfour] at h
    rcases List.mem_cons.mp h with rfl | hc
    · split
      · rfl
      · rfl
    · exact hdigits hc

/-- A number in two characters is its numeral. -/
theorem Padding.writeTwo_zeros {n : Nat} (h : n < 100) :
    Padding.zeros.writeTwo n = padZeros 2 (digitsOf n) := by
  have hall : ∀ n < 100, Padding.zeros.writeTwo n = padZeros 2 (digitsOf n) := by
    decide +kernel
  exact hall n h

namespace Moment

/-! ## Numbers -/

/-- A reader that succeeds hands over what it read. -/
theorem bind_of_eq_some {α β : Type} {x : Option α} {a : α} (h : x = some a) (f : α → Option β) :
    (x >>= f) = f a := by
  rw [h]
  rfl

theorem readChar?_self (c : Char) (cs : List Char) : readChar? c (c :: cs) = some cs := if_pos rfl

/-- A number is read if it has enough digits, and no more are taken: because there are as many
as can be taken, or because no digit follows. -/
theorem readNumber?_numeral {n least most : Nat} {ds rest : List Char} (h : Numeral n ds)
    (hleast : least ≤ ds.length) (hmost : ds.length ≤ most)
    (hend : ds.length = most ∨ Stops isDigit rest) :
    readNumber? least most (ds ++ rest) = some (n, rest) := by
  have hstops : Stops isDigit (rest.take (most - ds.length)) := by
    rcases hend with heq | hstops
    · rw [heq, Nat.sub_self, List.take_zero]
      exact Stops.nil isDigit
    · exact hstops.take (most - ds.length)
  have hdigits : ((ds ++ rest).take most).takeWhile isDigit = ds := by
    rw [List.take_append, List.take_of_length_le hmost]
    exact takeWhile_append_stops h.digits hstops
  rw [readNumber?, hdigits, if_neg (Nat.not_lt.mpr hleast), h.value, List.drop_left]

/-- No number is read where no digit comes. -/
theorem readNumber?_of_stops {least most : Nat} {cs : List Char} (hleast : 0 < least)
    (h : Stops isDigit cs) : readNumber? least most cs = none := by
  rw [readNumber?, takeWhile_of_stops (h.take most), List.length_nil, if_pos hleast]

/-- What follows a number is the text without some characters in front, no more than can be
taken. -/
theorem readNumber?_drop {least most n : Nat} {cs rest : List Char}
    (h : readNumber? least most cs = some (n, rest)) : ∃ k ≤ most, rest = cs.drop k := by
  obtain ⟨-, h⟩ := Option.ite_none_left_eq_some.mp h
  obtain ⟨-, rfl⟩ := Prod.mk.inj (Option.some.inj h)
  refine ⟨_, ?_, rfl⟩
  exact Nat.le_trans (List.takeWhile_sublist _).length_le (List.length_take_le most cs)

theorem readNumber?_padZeros {n width : Nat} (hwidth : 0 < width) (hn : n < Nat.pow 10 width)
    (rest : List Char) :
    readNumber? width width (padZeros width (digitsOf n) ++ rest) = some (n, rest) := by
  have hlength := length_padZeros_digitsOf hwidth hn
  exact readNumber?_numeral (numeral_padZeros width n) (Nat.le_of_eq hlength.symm)
    (Nat.le_of_eq hlength) (.inl hlength)

theorem readYear?_of_digit {c : Char} (hc : isDigit c = true) (cs : List Char) :
    readYear? (c :: cs) = (readNumber? 1 4 (c :: cs)).map fun (n, rest) => ((n : Int), rest) := by
  unfold readYear?
  split
  · next heq =>
      cases heq
      cases hc
  · next heq =>
      cases heq
      cases hc
  · rfl

theorem readNumber?_two {n : Nat} (hn : n < 100) (rest : List Char) :
    readNumber? 2 2 (padZeros 2 (digitsOf n) ++ rest) = some (n, rest) :=
  readNumber?_padZeros (by omega) hn rest

/-- A year is read back if no digit follows it. -/
theorem readYear?_writeYear (year : Int) {rest : List Char} (hrest : Stops isDigit rest) :
    readYear? (Padding.zeros.writeYear year ++ rest) = some (year, rest) := by
  have hnumeral := numeral_padZeros 4 year.natAbs
  have hpos : 1 ≤ (padZeros 4 (digitsOf year.natAbs)).length :=
    List.length_pos_iff.mpr (padZeros_digitsOf_ne_nil 4 year.natAbs)
  by_cases hfour : 0 ≤ year ∧ year < 10000
  · have hlength : (padZeros 4 (digitsOf year.natAbs)).length = 4 := by
      apply length_padZeros_digitsOf (by omega)
      show year.natAbs < 10000
      omega
    have hread := readNumber?_numeral hnumeral hpos (Nat.le_of_eq hlength) (.inr hrest)
    rw [Padding.writeYear_of_four hfour]
    obtain ⟨d, ds, hds, hd⟩ := hnumeral.exists_eq_cons (List.length_pos_iff.mp hpos)
    rw [hds] at hread ⊢
    rw [List.cons_append, readYear?_of_digit hd, ← List.cons_append, hread]
    show some ((year.natAbs : Int), rest) = some (year, rest)
    rw [Int.natAbs_of_nonneg hfour.1]
  · have hle : (padZeros 4 (digitsOf year.natAbs)).length ≤
        (padZeros 4 (digitsOf year.natAbs) ++ rest).length := by
      rw [List.length_append]
      omega
    have hread := readNumber?_numeral hnumeral hpos hle (.inr hrest)
    rw [Padding.writeYear_of_sign hfour, List.cons_append]
    by_cases hsign : year < 0
    · have habs : -(year.natAbs : Int) = year := by omega
      rw [if_pos hsign, readYear?, hread]
      show some (-(year.natAbs : Int), rest) = some (year, rest)
      rw [habs]
    · have habs : (year.natAbs : Int) = year := by omega
      rw [if_neg hsign, readYear?, hread]
      show some ((year.natAbs : Int), rest) = some (year, rest)
      rw [habs]

/-! ## Fractions and offsets -/

theorem readFraction?_numeral {n : Nat} {ds rest : List Char} (h : Numeral n ds) (hne : ds ≠ [])
    (hle : ds.length ≤ 9) (hrest : Stops isDigit rest) :
    readFraction? ('.' :: (ds ++ rest)) = some (n * Nat.pow 10 (9 - ds.length), rest) := by
  have hempty : ¬ ds.isEmpty = true := by
    rw [List.isEmpty_iff]
    exact hne
  rw [readFraction?, takeWhile_append_stops h.digits hrest, dropWhile_append_stops h.digits hrest]
  dsimp only
  rw [if_neg hempty, List.take_of_length_le hle, h.value]

/-- A fraction is read back if neither a digit nor a point follows it. -/
theorem readFraction?_writeFraction {nanos : Nat} (hnanos : nanos < nanosPerSecond)
    {c : Char} (hdigit : isDigit c = false) (hpoint : c ≠ '.') (rest : List Char) :
    readFraction? (writeFraction nanos ++ c :: rest) = some (nanos, c :: rest) := by
  have hread : ∀ width n, 0 < width → width ≤ 9 → n < Nat.pow 10 width →
      n * Nat.pow 10 (9 - width) = nanos →
      readFraction? ('.' :: (padZeros width (digitsOf n) ++ c :: rest)) =
        some (nanos, c :: rest) := by
    intro width n hpos hle hn hvalue
    have hlength := length_padZeros_digitsOf hpos hn
    have hnumeral := readFraction?_numeral (numeral_padZeros width n)
      (padZeros_digitsOf_ne_nil width n) (Nat.le_trans (Nat.le_of_eq hlength) hle)
      (Stops.cons hdigit rest)
    rwa [hlength, hvalue] at hnumeral
  have hbound : nanos < 1000000000 := hnanos
  -- the digits left out are zeros
  by_cases hzero : nanos = 0
  · rw [writeFraction, if_pos hzero, List.nil_append, hzero]
    unfold readFraction?
    split
    · next heq =>
        cases heq
        exact absurd rfl hpoint
    · rfl
  · by_cases hmillis : nanos % 1000000 = 0
    · rw [writeFraction, if_neg hzero, if_pos hmillis]
      apply hread 3 (nanos / 1000000) (by omega) (by omega)
      · show nanos / 1000000 < 1000
        omega
      · show nanos / 1000000 * 1000000 = nanos
        omega
    · by_cases hmicros : nanos % 1000 = 0
      · rw [writeFraction, if_neg hzero, if_neg hmillis, if_pos hmicros]
        apply hread 6 (nanos / 1000) (by omega) (by omega)
        · show nanos / 1000 < 1000000
          omega
        · show nanos / 1000 * 1000 = nanos
          omega
      · rw [writeFraction, if_neg hzero, if_neg hmillis, if_neg hmicros]
        exact hread 9 nanos (by omega) (by omega) hbound (Nat.mul_one nanos)

/-- The sign of an offset. -/
def offsetSign (offset : Int) : Char := if offset < 0 then '-' else '+'

theorem write_minutes {offset : Int} (h : offset % 60 = 0) :
    OffsetStyle.minutes.write offset =
      offsetSign offset :: (padZeros 2 (digitsOf (offset.natAbs / 3600)) ++
        ':' :: padZeros 2 (digitsOf (offset.natAbs / 60 % 60))) := by
  have hrounded : (offset.natAbs + 30) / 60 = offset.natAbs / 60 := by omega
  have hhours : offset.natAbs / 60 / 60 = offset.natAbs / 3600 := by omega
  unfold OffsetStyle.write
  dsimp only
  rw [hrounded, hhours]
  rfl

theorem readOffset?_offsetSign (offset : Int) {hours minutes : Nat} (hhours : hours < 100)
    (hminutes : minutes < 60) :
    readOffset? true (some ':') (offsetSign offset :: (padZeros 2 (digitsOf hours) ++
        ':' :: padZeros 2 (digitsOf minutes))) =
      some (if offset < 0 then -((hours * 3600 + minutes * 60 : Nat) : Int)
        else (hours * 3600 + minutes * 60 : Nat), []) := by
  have hsign : ∀ cs, readOffsetSign? true (offsetSign offset :: cs) =
      some (decide (offset < 0), cs) := by
    intro cs
    unfold offsetSign
    by_cases hnegative : offset < 0
    · rw [if_pos hnegative, decide_eq_true hnegative]
      rfl
    · rw [if_neg hnegative, decide_eq_false hnegative]
      rfl
  have hlast := readNumber?_two (Nat.lt_trans hminutes (by decide)) []
  rw [List.append_nil] at hlast
  unfold readOffset?
  simp only [hsign, readNumber?_two hhours, readChar?, hlast, Option.bind_eq_bind,
    Option.bind_some, if_pos hminutes, ↓reduceIte, decide_eq_true_eq]

/-- An offset of less than a day in whole minutes is read back. -/
theorem readZone?_write {offset : Int} (hlower : -(secondsPerDay : Int) < offset)
    (hupper : offset < secondsPerDay) (hminutes : offset % 60 = 0) :
    readZone? (OffsetStyle.minutes.write offset) = some (offset, []) := by
  unfold secondsPerDay at hlower hupper
  have hhours : offset.natAbs / 3600 < 100 := by omega
  have hsixty : offset.natAbs / 60 % 60 < 60 := by omega
  have hsigned : ∀ cs, readZone? (offsetSign offset :: cs) =
      readOffset? true (some ':') (offsetSign offset :: cs) := by
    intro cs
    unfold offsetSign
    split
    · rfl
    · rfl
  rw [write_minutes hminutes, hsigned, readOffset?_offsetSign offset hhours hsixty]
  congr 2
  split
  · omega
  · omega

/-! ## The Internet format -/

/-- A date and a time with a mark between them. -/
def writeFields (mark : Char) (c : Clock) : List Char :=
  Padding.zeros.writeYear c.date.year ++
    '-' :: (padZeros 2 (digitsOf c.date.month) ++ '-' :: (padZeros 2 (digitsOf c.date.day) ++
      mark :: (padZeros 2 (digitsOf c.hour) ++ ':' :: (padZeros 2 (digitsOf c.minute) ++
        ':' :: padZeros 2 (digitsOf c.shownSecond)))))

theorem writeInternet_eq (m : Moment) :
    m.writeInternet = writeFields 'T' m.clock ++
      (writeFraction m.clock.fraction ++ OffsetStyle.minutes.write m.offset) := by
  simp [writeInternet, writeFields]

/-- Behind a date in a year of four digits and a time, the Internet format has the fraction
and the offset. -/
theorem readInternet?_writeFields {m : Moment} (h : m.Readable)
    (hyear : 0 ≤ m.clock.date.year ∧ m.clock.date.year < 10000) {mark : Char}
    (hmark : mark = 'T' ∨ mark = 't' ∨ mark = ' ') (rest : List Char) :
    readInternet? (writeFields mark m.clock ++ rest) =
      (readFraction? rest).bind fun (nanos, rest) =>
        (readZone? rest).bind fun (offset, rest) =>
          if rest.isEmpty then
            ofFields? m.clock.date m.clock.hour m.clock.minute m.clock.shownSecond nanos offset
          else none := by
  have hclock := h.twoDigits
  have hfour : ∀ rest, readNumber? 4 4 (padZeros 4 (digitsOf m.clock.date.year.natAbs) ++ rest) =
      some (m.clock.date.year.natAbs, rest) := by
    apply readNumber?_padZeros (by omega)
    show m.clock.date.year.natAbs < 10000
    omega
  have htimeMark : ∀ cs, readTimeMark? (mark :: cs) = some cs := fun _ => if_pos hmark
  unfold writeFields readInternet?
  rw [Padding.writeYear_of_four hyear]
  simp only [List.append_assoc, List.cons_append]
  -- one line for each number and the mark in front of it
  rw [bind_of_eq_some (hfour _)]
  dsimp only
  rw [bind_of_eq_some (readChar?_self '-' _), bind_of_eq_some (readNumber?_two hclock.month _)]
  dsimp only
  rw [bind_of_eq_some (readChar?_self '-' _), bind_of_eq_some (readNumber?_two hclock.day _)]
  dsimp only
  rw [bind_of_eq_some (htimeMark _), bind_of_eq_some (readNumber?_two hclock.hour _)]
  dsimp only
  rw [bind_of_eq_some (readChar?_self ':' _), bind_of_eq_some (readNumber?_two hclock.minute _)]
  dsimp only
  rw [bind_of_eq_some (readChar?_self ':' _), bind_of_eq_some (readNumber?_two hclock.second _)]
  dsimp only
  rw [Int.natAbs_of_nonneg hyear.1]
  rfl

/-- A moment in a year of four digits is read back from its Internet format. -/
theorem readInternet?_writeInternet {m : Moment} (h : m.Readable)
    (hyear : 0 ≤ m.clock.date.year ∧ m.clock.date.year < 10000) :
    readInternet? m.writeInternet = some m := by
  have hfraction : m.clock.fraction < nanosPerSecond := Nat.mod_lt _ (by decide)
  have hsign : isDigit (offsetSign m.offset) = false ∧ offsetSign m.offset ≠ '.' := by
    unfold offsetSign
    split
    · decide
    · decide
  have hzone := readZone?_write h.offset_lower h.offset_upper h.minutes
  rw [write_minutes h.minutes] at hzone
  rw [writeInternet_eq, readInternet?_writeFields h hyear (.inl rfl), write_minutes h.minutes,
    readFraction?_writeFraction hfraction hsign.1 hsign.2, Option.bind_some]
  dsimp only
  rw [hzone]
  exact ofFields?_clock h

/-! ## What is read -/

theorem readFraction?_lt {nanos : Nat} {cs rest : List Char}
    (h : readFraction? cs = some (nanos, rest)) : nanos < nanosPerSecond := by
  unfold readFraction? at h
  split at h
  · next cs =>
      obtain ⟨-, h⟩ := Option.ite_none_left_eq_some.mp h
      obtain ⟨rfl, -⟩ := Prod.mk.inj (Option.some.inj h)
      have hdigits : ∀ c ∈ (cs.takeWhile isDigit).take 9, isDigit c = true :=
        fun c hc => List.mem_takeWhile_imp (List.mem_of_mem_take hc)
      have hlt := digitsValue_lt hdigits
      have hle : ((cs.takeWhile isDigit).take 9).length ≤ 9 := List.length_take_le 9 _
      generalize (cs.takeWhile isDigit).take 9 = kept at hlt hle ⊢
      calc digitsValue kept * Nat.pow 10 (9 - kept.length)
          < Nat.pow 10 kept.length * Nat.pow 10 (9 - kept.length) :=
            Nat.mul_lt_mul_of_pos_right hlt (Nat.pow_pos (by omega))
        _ = Nat.pow 10 (kept.length + (9 - kept.length)) := (Nat.pow_add 10 _ _).symm
        _ = Nat.pow 10 9 := by rw [Nat.add_sub_cancel' hle]
        _ = nanosPerSecond := rfl
  · cases h
    exact Nat.zero_lt_succ _

/-- Offsets are read in whole minutes. -/
theorem readOffset?_minutes {wide : Bool} {separator : Option Char} {cs rest : List Char}
    {offset : Int} (h : readOffset? wide separator cs = some (offset, rest)) :
    offset % 60 = 0 := by
  cases separator
  all_goals
    simp only [readOffset?, Option.bind_eq_bind, Option.bind_eq_some_iff, Prod.exists] at h
    obtain ⟨negative, _, -, hours, _, -, _, -, minutes, _, -, h⟩ := h
    obtain ⟨-, h⟩ := Option.ite_none_right_eq_some.mp h
    obtain ⟨rfl, -⟩ := Prod.mk.inj (Option.some.inj h)
    split
    · omega
    · omega

theorem readZone?_minutes {cs rest : List Char} {offset : Int}
    (h : readZone? cs = some (offset, rest)) : offset % 60 = 0 := by
  unfold readZone? at h
  split at h
  · cases h
    rfl
  · cases h
    rfl
  · exact readOffset?_minutes h

theorem readMailZone?_minutes {cs rest : List Char} {offset : Int}
    (h : readMailZone? cs = some (offset, rest)) : offset % 60 = 0 := by
  unfold readMailZone? at h
  split at h
  · exact readOffset?_minutes h
  · dsimp only at h
    split at h
    · cases h
      omega
    · obtain ⟨-, h⟩ := Option.ite_none_right_eq_some.mp h
      cases h
      rfl

theorem readable_of_readInternet? {cs : List Char} {m : Moment} (h : readInternet? cs = some m) :
    m.Readable := by
  obtain ⟨⟨year, cs⟩, -, h⟩ := Option.bind_eq_some_iff.mp h
  obtain ⟨cs, -, h⟩ := Option.bind_eq_some_iff.mp h
  obtain ⟨⟨month, cs⟩, -, h⟩ := Option.bind_eq_some_iff.mp h
  obtain ⟨cs, -, h⟩ := Option.bind_eq_some_iff.mp h
  obtain ⟨⟨day, cs⟩, -, h⟩ := Option.bind_eq_some_iff.mp h
  obtain ⟨cs, -, h⟩ := Option.bind_eq_some_iff.mp h
  obtain ⟨⟨hour, cs⟩, -, h⟩ := Option.bind_eq_some_iff.mp h
  obtain ⟨cs, -, h⟩ := Option.bind_eq_some_iff.mp h
  obtain ⟨⟨minute, cs⟩, -, h⟩ := Option.bind_eq_some_iff.mp h
  obtain ⟨cs, -, h⟩ := Option.bind_eq_some_iff.mp h
  obtain ⟨⟨second, cs⟩, -, h⟩ := Option.bind_eq_some_iff.mp h
  obtain ⟨⟨nanos, cs⟩, hfraction, h⟩ := Option.bind_eq_some_iff.mp h
  obtain ⟨⟨offset, cs⟩, hzone, h⟩ := Option.bind_eq_some_iff.mp h
  obtain ⟨-, h⟩ := Option.ite_none_right_eq_some.mp h
  exact .of_ofFields? h (readZone?_minutes hzone) (readFraction?_lt hfraction)

theorem readable_of_readMail? {cs : List Char} {m : Moment} (h : readMail? cs = some m) :
    m.Readable := by
  obtain ⟨⟨weekday?, cs⟩, -, h⟩ := Option.bind_eq_some_iff.mp h
  obtain ⟨⟨day, cs⟩, -, h⟩ := Option.bind_eq_some_iff.mp h
  obtain ⟨cs, -, h⟩ := Option.bind_eq_some_iff.mp h
  obtain ⟨⟨month, cs⟩, -, h⟩ := Option.bind_eq_some_iff.mp h
  obtain ⟨cs, -, h⟩ := Option.bind_eq_some_iff.mp h
  obtain ⟨⟨year, cs⟩, -, h⟩ := Option.bind_eq_some_iff.mp h
  obtain ⟨cs, -, h⟩ := Option.bind_eq_some_iff.mp h
  obtain ⟨⟨hour, cs⟩, -, h⟩ := Option.bind_eq_some_iff.mp h
  obtain ⟨cs, -, h⟩ := Option.bind_eq_some_iff.mp h
  obtain ⟨⟨minute, cs⟩, -, h⟩ := Option.bind_eq_some_iff.mp h
  obtain ⟨⟨second, cs⟩, -, h⟩ := Option.bind_eq_some_iff.mp h
  obtain ⟨cs, -, h⟩ := Option.bind_eq_some_iff.mp h
  obtain ⟨⟨offset, cs⟩, hzone, h⟩ := Option.bind_eq_some_iff.mp h
  obtain ⟨-, h⟩ := Option.ite_none_right_eq_some.mp h
  exact .of_ofFields? h (readMailZone?_minutes hzone) (Nat.zero_lt_succ _)

/-- What one of the readers gives is readable. -/
theorem readable_of_mem_readers {read : List Char → Option Moment} (hread : read ∈ readers)
    {cs : List Char} {m : Moment} (h : read cs = some m) : m.Readable := by
  simp only [readers, List.mem_append, List.mem_cons, List.not_mem_nil, or_false,
    List.mem_map] at hread
  rcases hread with ((rfl | rfl) | ⟨layout, -, rfl⟩) | rfl
  · exact readable_of_readInternet? h
  · exact readable_of_readMail? h
  · rcases Option.bind_eq_some_iff.mp h with ⟨parts, -, h⟩
    exact .of_ofFields? h rfl (Nat.zero_lt_succ _)
  · rcases Option.bind_eq_some_iff.mp h with ⟨seconds, -, h⟩
    exact .of_ofSeconds? h

/-! ## Words and numbers -/

/-- Whether a text is one of the two words that stand for the present, in any case and with
blanks around it. -/
def NamesNow (text : String) : Prop :=
  String.ofList ((trimList text.toList).map Char.toLower) = "now" ∨
    String.ofList ((trimList text.toList).map Char.toLower) = "today"

instance : DecidablePred NamesNow := fun _ => inferInstanceAs (Decidable (_ ∨ _))

/-- What a text other than these words names is readable, and the readers alone decide on it. -/
theorem readable_of_parse {now m : Moment} {text : String} (hword : ¬ NamesNow text)
    (h : parse now text = .ok m) : m.Readable := by
  have hread : readWith? now (trimList text.toList) = some m := by
    unfold parse at h
    split at h
    · next heq =>
        cases h
        exact heq
    · cases h
  unfold readWith? at hread
  dsimp only at hread
  rw [if_neg fun hnow => hword (.inl hnow), if_neg fun htoday => hword (.inr htoday)] at hread
  -- the two words aside, only the readers are left
  rcases List.exists_of_findSome?_eq_some hread with ⟨read, hmem, hread⟩
  exact readable_of_mem_readers hmem hread

/-- A text that begins with a digit or a sign and ends with a digit names what the readers
make of it. -/
theorem parse_of_readers {cs : List Char} {m : Moment} (hstarts : StartsNumber cs)
    (hends : EndsInDigit cs) (hread : (readers.findSome? fun read => read cs) = some m)
    (now : Moment) : parse now (String.ofList cs) = .ok m := by
  have htrim := trimList_of_stops hstarts.stops_isBlank hends.stops_isBlank
  have hnow : ¬ StartsNumber "now".toList := by decide
  have htoday : ¬ StartsNumber "today".toList := by decide
  rw [parse, String.toList_ofList, htrim, readWith?, if_neg (hstarts.lower_ne hnow),
    if_neg (hstarts.lower_ne htoday), hread]

end Moment

end Placeholder

import Placeholder.Proofs.Calendar.Form

/-! # Seconds since 1970

The seconds of a moment are read and written exactly (`unix_seconds_are_exact`).

An integer is read last, so its text must not be a date. It is in the form of seconds, and no text
is in two forms (`Form.eq_of_accepts`); what is left is whether its year can be told. On the way
back the pattern `%s` writes the text of the integer itself, and the default pattern writes
calendar and clock, from which the seconds are found again by their day and their year.
-/

namespace Placeholder

open Number Text

namespace Moment

/-- The moment of a number of seconds, at UTC. -/
def ofSeconds (n : Int) : Moment := ⟨n, 0, 0⟩

theorem ofSeconds?_of_told {n : Int} (h : firstSecond (-262143) ≤ n ∧ n < firstSecond 262143) :
    ofSeconds? n = some (ofSeconds n) :=
  if_pos (secondsInRange_iff.mpr h)

theorem ofSeconds?_of_not_told {n : Int}
    (h : ¬ (firstSecond (-262143) ≤ n ∧ n < firstSecond 262143)) : ofSeconds? n = none :=
  if_neg fun htold => h (secondsInRange_iff.mp htold)

/-- The text of an integer is no word, and no blanks stand at its ends. -/
theorem trimList_toString (n : Int) : trimList (toString n).toList = integerText n := by
  rw [toList_toString]
  exact trimList_of_stops (startsNumber_integerText n).stops_isBlank
    (endsInDigit_integerText n).stops_isBlank

theorem trim_toString (n : Int) : trim (toString n) = toString n := by
  rw [trim, trimList_toString, ← toList_toString, String.ofList_toList]

theorem not_namesNow_toString (n : Int) : ¬ NamesNow (toString n) := by
  have hnow : ¬ StartsNumber "now".toList := by decide
  have htoday : ¬ StartsNumber "today".toList := by decide
  have hstarts := startsNumber_integerText n
  intro hword
  unfold NamesNow at hword
  rw [trimList_toString] at hword
  rcases hword with hword | hword
  · exact hstarts.lower_ne hnow hword
  · exact hstarts.lower_ne htoday hword

/-- An integer of 64 bits is read as seconds and as nothing else. -/
theorem parse_toString (now : Moment) {n : Int} (hmin : -9223372036854775808 ≤ n)
    (hmax : n ≤ 9223372036854775807) :
    parse now (toString n) =
      match ofSeconds? n with
      | some m => .ok m
      | none => .error (.unreadableDate (toString n)) := by
  have hbits : Int.negOfNat (Nat.pow 2 63) ≤ n ∧ n < Int.ofNat (Nat.pow 2 63) := by
    have hlower : Int.negOfNat (Nat.pow 2 63) = -9223372036854775808 := rfl
    have hupper : Int.ofNat (Nat.pow 2 63) = 9223372036854775808 := rfl
    rw [hlower, hupper]
    omega
  have hseconds : Form.seconds ∈ Form.all := by decide
  have hread : Form.seconds.read? (integerText n) = some (ofSeconds? n) := by
    rw [Form.read?, readInt64?_integerText hbits.1 hbits.2, Option.map_some]
  have hform := Form.findSome?_of_read? (List.Perm.refl Form.all) hseconds hread
  rw [parse_eq_of_order (not_namesNow_toString n) (List.Perm.refl Form.all), trimList_toString,
    hform, trim_toString]
  cases ofSeconds? n with
  | some m => rfl
  | none => rfl

/-- The pattern `%s` writes the seconds as an integer. -/
theorem format_seconds (m : Moment) : m.format "%s" = .ok (toString m.seconds) := by
  have hitems : Pattern.items? "%s" = some [.number .unixSeconds .none] := by decide +kernel
  have hwrite : Padding.none.write 9 false m.seconds = integerText m.seconds := by
    unfold Padding.write integerText
    by_cases hsign : m.seconds < 0
    · rw [if_pos hsign, if_pos hsign]
      rfl
    · rw [if_neg hsign, if_neg hsign]
      rfl
  have hitem : writeItems? [.number .unixSeconds .none] m =
      some (Padding.none.write 9 false m.seconds ++ []) := rfl
  rw [format, hitems, Option.bind_some, hitem, hwrite, List.append_nil, ← toList_toString]
  exact congrArg Except.ok String.ofList_toList

/-- A moment at UTC on a whole second is read back from the default text. -/
theorem parse_default_ofSeconds {n : Int} (h : (ofSeconds n).Readable) (later : Moment) :
    parse later (String.ofList (writeFields ' ' (ofSeconds n).clock)) = .ok (ofSeconds n) := by
  have hstarts := startsNumber_writeFields ' ' (ofSeconds n).clock []
  have hends := endsInDigit_writeFields ' ' (ofSeconds n).clock
  have hread := findSome?_readers h
  have hshowing : (ofSeconds n).showing = ofSeconds n := by
    have hsum : n + 0 = n := Int.add_zero n
    show (⟨n + 0, if nanosPerSecond ≤ 0 then nanosPerSecond else 0, 0⟩ : Moment) = ofSeconds n
    rw [hsum, if_neg (by decide)]
    rfl
  rw [List.append_nil] at hstarts
  rw [hshowing] at hread
  exact parse_of_readers hstarts hends hread later

end Moment

namespace Builtin

open Moment

/-- **Seconds since 1970 are read and written exactly.** An integer of 64 bits in decimal names the
moment with so many seconds, at UTC on a whole second, if this lies in the years that can be told;
the pattern `%s` writes the same text again, and the text that is written without settings names
the same moment. Any other integer names nothing. And whatever a value names, unless it is a word
for the present, the text that `%s` writes for it has the same seconds. -/
theorem unix_seconds_are_exact (defaults : DateDefaults) (now : Moment) :
    (∀ n : Int, -9223372036854775808 ≤ n → n ≤ 9223372036854775807 →
      ((firstSecond (-262143) ≤ n ∧ n < firstSecond 262143) →
        parse now (toString n) = .ok ⟨n, 0, 0⟩ ∧
        runDate defaults now (toString n) (some ["%s"]) = .ok (toString n) ∧
        ∃ text, runDate ({} : Config).date now (toString n) none = .ok text ∧
          ∀ later, parse later text = .ok ⟨n, 0, 0⟩) ∧
      (¬ (firstSecond (-262143) ≤ n ∧ n < firstSecond 262143) →
        parse now (toString n) = .error (.unreadableDate (toString n)))) ∧
    ∀ value m, ¬ NamesNow value → parse now value = .ok m →
      ∃ text m', runDate defaults now value (some ["%s"]) = .ok text ∧
        (∀ later, parse later text = .ok m') ∧ m'.seconds = m.seconds := by
  -- seconds that can be told lie far within 64 bits
  have hparse : ∀ later {n : Int}, (firstSecond (-262143) ≤ n ∧ n < firstSecond 262143) →
      parse later (toString n) = .ok (ofSeconds n) := by
    intro later n htold
    have hlimits := firstSecond_limits
    rw [parse_toString later (by omega) (by omega), ofSeconds?_of_told htold]
  constructor
  · intro n hmin hmax
    constructor
    · intro htold
      have hreadable : (ofSeconds n).Readable := .of_ofSeconds? (ofSeconds?_of_told htold)
      have hread := hparse now htold
      refine ⟨hread, ?_, String.ofList (writeFields ' ' (ofSeconds n).clock), ?_, ?_⟩
      · rw [runDate, hread]
        exact format_seconds (ofSeconds n)
      · rw [runDate, hread]
        exact format_default hreadable
      · intro later
        exact parse_default_ofSeconds hreadable later
    · intro houtside
      rw [parse_toString now hmin hmax, ofSeconds?_of_not_told houtside]
  · -- what is read can be told, so its seconds are an integer of the first kind
    intro value m hword hread
    have hreadable := readable_of_parse hword hread
    have htold := secondsInRange_iff.mp hreadable.told
    refine ⟨toString m.seconds, ofSeconds m.seconds, ?_, fun later => hparse later htold, rfl⟩
    rw [runDate, hread]
    exact format_seconds m

/-- The first second that can be told, the one before it, and a leap second at an offset. -/
theorem unix_seconds_are_exact_limit :
    let now : Moment := ⟨0, 0, 0⟩
    let first : Int := -8334601228800
    let value := "31 Dec 2016 23:59:60 -0130"
    let m : Moment := ⟨1483234199, 1000000000, -5400⟩
    (firstSecond (-262143) ≤ first ∧ first < firstSecond 262143) ∧
      parse now (toString first) = .ok ⟨first, 0, 0⟩ ∧
      ¬ (firstSecond (-262143) ≤ first - 1 ∧ first - 1 < firstSecond 262143) ∧
      parse now (toString (first - 1)) = .error (.unreadableDate (toString (first - 1))) ∧
      ¬ NamesNow value ∧ parse now value = .ok m ∧
      ∃ text m', runDate {} now value (some ["%s"]) = .ok text ∧
        (∀ later, parse later text = .ok m') ∧ m'.seconds = m.seconds := by
  intro now first value m
  have hlimits := firstSecond_limits
  have htold : firstSecond (-262143) ≤ first ∧ first < firstSecond 262143 := by omega
  have houtside : ¬ (firstSecond (-262143) ≤ first - 1 ∧ first - 1 < firstSecond 262143) := by
    omega
  have hword : ¬ NamesNow value := by decide +kernel
  have hread : readWith? now (trimList value.toList) = some m := by decide +kernel
  have hparse : parse now value = .ok m := by
    rw [Moment.parse, hread]
  obtain ⟨hseconds, hvalues⟩ := unix_seconds_are_exact {} now
  have hfirst := (hseconds first (by omega) (by omega)).1 htold
  have hbefore := (hseconds (first - 1) (by omega) (by omega)).2 houtside
  exact ⟨htold, hfirst.1, houtside, hbefore, hword, hparse, hvalues value m hword hparse⟩

end Builtin

end Placeholder

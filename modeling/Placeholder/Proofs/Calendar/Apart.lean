import Mathlib.Data.List.DropRight
import Placeholder.Number.Reader
import Placeholder.Proofs.Calendar.RoundTrip

/-! # Telling written forms apart

The forms of a moment begin with a number, or with a word. What follows the first number tells most
of them apart (`separator?`): a date in numbers has its separator there, the mail format a blank, and
seconds have nothing.

Layouts with the same separator need more. A layout reads without going back, so two layouts read
alike as long as they have the same pieces. Where the pieces differ, one of the layouts is over or
the next character decides (`divides`); whether this is so can be computed from the pieces alone.
The Internet format reads like a layout too, as far as its time goes, but it never ends there.
-/

namespace Placeholder

open Number Text

namespace Moment

/-! ## Numbers and what follows them -/

/-- A number that is read is a numeral in front of what is left. -/
theorem readNumber?_eq_some {least most n : Nat} {cs rest : List Char}
    (h : readNumber? least most cs = some (n, rest)) :
    ∃ ds, Numeral n ds ∧ cs = ds ++ rest ∧ least ≤ ds.length ∧ ds.length ≤ most := by
  obtain ⟨hleast, h⟩ := Option.ite_none_left_eq_some.mp h
  obtain ⟨hvalue, hrest⟩ := Prod.mk.inj (Option.some.inj h)
  have hdigits : ∀ c ∈ (cs.take most).takeWhile isDigit, isDigit c = true :=
    fun c hc => List.mem_takeWhile_imp hc
  have hfront : (cs.take most).takeWhile isDigit <+: cs :=
    (List.takeWhile_prefix isDigit).trans (List.take_prefix most cs)
  have hle : ((cs.take most).takeWhile isDigit).length ≤ most :=
    Nat.le_trans (List.takeWhile_sublist isDigit).length_le (List.length_take_le most cs)
  have hsplit : cs = (cs.take most).takeWhile isDigit ++ rest := by
    rw [← hrest]
    exact (List.prefix_iff_eq_append.mp hfront).symm
  exact ⟨_, ⟨hdigits, hvalue⟩, hsplit, Nat.not_lt.mp hleast, hle⟩

/-- The first character behind the number, with or without a sign, that a text begins with. -/
def separator? (cs : List Char) : Option Char :=
  ((readSign (dropBlank cs)).2.dropWhile isDigit).head?

theorem separator?_of_readNumber? {most n : Nat} {c : Char} {cs rest : List Char}
    (h : readNumber? 1 most (dropBlank cs) = some (n, c :: rest)) (hc : isDigit c = false) :
    separator? cs = some c := by
  obtain ⟨ds, hds, hcs, hpos, -⟩ := readNumber?_eq_some h
  cases ds with
  | nil => cases hpos
  | cons d ds =>
      have hsign := readSign_of_digit (hds.digits d List.mem_cons_self) (ds ++ c :: rest)
      have hdrop := dropWhile_append_stops hds.digits (Stops.cons hc rest)
      rw [separator?, hcs, List.cons_append, hsign, ← List.cons_append, hdrop, List.head?_cons]

theorem separator?_of_readYear? {year : Int} {c : Char} {cs rest : List Char}
    (h : readYear? (dropBlank cs) = some (year, c :: rest)) (hc : isDigit c = false) :
    separator? cs = some c := by
  -- behind a sign all digits are taken
  have hsigned : ∀ behind, (readNumber? 1 behind.length behind).map Prod.snd = some (c :: rest) →
      (behind.dropWhile isDigit).head? = some c := by
    intro behind hread
    obtain ⟨⟨n, left⟩, hread, rfl⟩ := Option.map_eq_some_iff.mp hread
    obtain ⟨ds, hds, hbehind, -⟩ := readNumber?_eq_some hread
    rw [hbehind, dropWhile_append_stops hds.digits (Stops.cons hc rest), List.head?_cons]
  unfold readYear? at h
  split at h
  · next behind hcs =>
      obtain ⟨⟨n, left⟩, hread, heq⟩ := Option.map_eq_some_iff.mp h
      rw [separator?, hcs]
      apply hsigned behind
      rw [hread]
      exact congrArg some (Prod.mk.inj heq).2
  · next behind hcs =>
      obtain ⟨⟨n, left⟩, hread, heq⟩ := Option.map_eq_some_iff.mp h
      rw [separator?, hcs]
      apply hsigned behind
      rw [hread]
      exact congrArg some (Prod.mk.inj heq).2
  · obtain ⟨⟨n, left⟩, hread, heq⟩ := Option.map_eq_some_iff.mp h
    obtain ⟨-, rfl⟩ := Prod.mk.inj heq
    exact separator?_of_readNumber? hread hc

/-! ## Layouts without their values -/

/-- What follows a piece. The parts that were met before do not matter to it. -/
def Piece.skip? : Piece → List Char → Option (List Char)
  | .year, cs => (readYear? (dropBlank cs)).map Prod.snd
  | .blanks, cs => some (dropBlank cs)
  | .char c, cs => readChar? c cs
  | _, cs => (readNumber? 1 2 (dropBlank cs)).map Prod.snd

theorem Piece.map_snd_read? (piece : Piece) (parts : Parts) (cs : List Char) :
    (piece.read? parts cs).map Prod.snd = piece.skip? cs := by
  cases piece with
  | blanks => rfl
  | char c => exact (Option.map_map _ _ _).trans Option.map_id'
  | year | month | day | hour | minute | second => exact Option.map_map _ _ _

/-- What follows the pieces of a layout. -/
def skipPieces? : List Piece → List Char → Option (List Char)
  | [], cs => some cs
  | piece :: pieces, cs => (piece.skip? cs).bind (skipPieces? pieces)

theorem skipPieces?_append (front pieces : List Piece) (cs : List Char) :
    skipPieces? (front ++ pieces) cs = (skipPieces? front cs).bind (skipPieces? pieces) := by
  induction front generalizing cs with
  | nil => rfl
  | cons piece front ih =>
      have htail : skipPieces? (front ++ pieces) =
          fun rest => (skipPieces? front rest).bind (skipPieces? pieces) := funext ih
      rw [List.cons_append, skipPieces?, htail, skipPieces?, Option.bind_assoc]

theorem skipPieces?_cons_of_skip? {piece : Piece} {cs rest : List Char}
    (h : piece.skip? cs = some rest) (pieces : List Piece) :
    skipPieces? (piece :: pieces) cs = skipPieces? pieces rest := by
  rw [skipPieces?, h, Option.bind_some]

/-- A layout that reads a text leaves nothing of it. -/
theorem skipPieces?_of_readPieces? {pieces : List Piece} {parts read : Parts} {cs : List Char}
    (h : readPieces? pieces parts cs = some read) : skipPieces? pieces cs = some [] := by
  induction pieces generalizing parts cs with
  | nil =>
      obtain ⟨hempty, -⟩ := Option.ite_none_right_eq_some.mp h
      rw [skipPieces?, List.isEmpty_iff.mp hempty]
  | cons piece pieces ih =>
      rw [readPieces?] at h
      split at h
      · next parts' rest hpiece =>
          have hskip := piece.map_snd_read? parts cs
          rw [hpiece, Option.map_some] at hskip
          rw [skipPieces?, ← hskip, Option.bind_some]
          exact ih h
      · cases h

/-- The character that follows the first number of a layout. -/
def separatorOf : List Piece → Option Char
  | .year :: .char c :: _ => some c
  | .day :: .char c :: _ => some c
  | _ => none

theorem separator?_of_skipPieces? {pieces : List Piece} {c : Char} {cs rest : List Char}
    (hc : separatorOf pieces = some c) (hdigit : isDigit c = false)
    (h : skipPieces? pieces cs = some rest) : separator? cs = some c := by
  have hbehind : ∀ {ps : List Piece} {left : List Char},
      skipPieces? (.char c :: ps) left = some rest → ∃ behind, left = c :: behind := by
    intro ps left hleft
    obtain ⟨behind, hchar, -⟩ := Option.bind_eq_some_iff.mp hleft
    cases left with
    | nil => cases hchar
    | cons d left =>
        obtain ⟨rfl, -⟩ := Option.ite_none_right_eq_some.mp hchar
        exact ⟨left, rfl⟩
  unfold separatorOf at hc
  split at hc
  · cases hc
    obtain ⟨left, hyear, hleft⟩ := Option.bind_eq_some_iff.mp h
    obtain ⟨⟨year, left⟩, hread, rfl⟩ := Option.map_eq_some_iff.mp hyear
    obtain ⟨behind, rfl⟩ := hbehind hleft
    exact separator?_of_readYear? hread hdigit
  · cases hc
    obtain ⟨left, hday, hleft⟩ := Option.bind_eq_some_iff.mp h
    obtain ⟨⟨day, left⟩, hread, rfl⟩ := Option.map_eq_some_iff.mp hday
    obtain ⟨behind, rfl⟩ := hbehind hleft
    exact separator?_of_readNumber? hread hdigit
  · cases hc

/-! ## Layouts that part ways -/

/-- The characters with which a text in a layout can begin. Every number may have blanks or a
sign in front. -/
def opens : List Piece → Char → Bool
  | [], _ => true
  | .char c :: _, d => d == c
  | .blanks :: pieces, d => isBlank d || opens pieces d
  | _ :: _, d => isBlank d || isDigit d || d == '-' || d == '+'

theorem isDigit_of_readNumber? {most n : Nat} {d : Char} {cs rest : List Char}
    (h : readNumber? 1 most (d :: cs) = some (n, rest)) : isDigit d = true := by
  obtain ⟨ds, hds, hcs, hpos, -⟩ := readNumber?_eq_some h
  cases ds with
  | nil => cases hpos
  | cons e ds =>
      obtain ⟨rfl, -⟩ := List.cons.inj hcs
      exact hds.digits d List.mem_cons_self

theorem startsNumber_of_readYear? {year : Int} {d : Char} {cs rest : List Char}
    (h : readYear? (d :: cs) = some (year, rest)) : StartsNumber (d :: cs) := by
  rw [startsNumber_cons]
  unfold readYear? at h
  split at h
  · next hminus =>
      obtain ⟨rfl, -⟩ := List.cons.inj hminus
      exact .inr (.inl rfl)
  · next hplus =>
      obtain ⟨rfl, -⟩ := List.cons.inj hplus
      exact .inr (.inr rfl)
  · obtain ⟨⟨n, left⟩, hread, -⟩ := Option.map_eq_some_iff.mp h
    exact .inl (isDigit_of_readNumber? hread)

theorem opens_of_skipPieces? {pieces : List Piece} {d : Char} {cs rest : List Char}
    (h : skipPieces? pieces (d :: cs) = some rest) : opens pieces d = true := by
  have hdrop : isBlank d = false → dropBlank (d :: cs) = d :: cs := fun hblank =>
    dropWhile_of_stops (Stops.cons hblank cs)
  have hnumber : (isBlank d = false → StartsNumber (d :: cs)) →
      (isBlank d || isDigit d || d == '-' || d == '+') = true := by
    intro hstarts
    simp only [Bool.or_eq_true, beq_iff_eq, or_assoc]
    by_cases hblank : isBlank d = true
    · exact .inl hblank
    · exact .inr (startsNumber_cons.mp (hstarts (Bool.eq_false_of_not_eq_true hblank)))
  -- blanks may be no blanks at all: then the pieces behind them open the text
  induction pieces with
  | nil => rfl
  | cons piece pieces ih =>
      obtain ⟨left, hpiece, hleft⟩ := Option.bind_eq_some_iff.mp h
      cases piece with
      | blanks =>
          cases hpiece
          apply Bool.or_eq_true_iff.mpr
          by_cases hblank : isBlank d = true
          · exact .inl hblank
          · rw [hdrop (Bool.eq_false_of_not_eq_true hblank)] at hleft
            exact .inr (ih hleft)
      | char c =>
          obtain ⟨rfl, -⟩ := Option.ite_none_right_eq_some.mp hpiece
          exact beq_self_eq_true d
      | year =>
          apply hnumber
          intro hblank
          rw [Piece.skip?, hdrop hblank] at hpiece
          obtain ⟨⟨year, left⟩, hread, -⟩ := Option.map_eq_some_iff.mp hpiece
          exact startsNumber_of_readYear? hread
      | month | day | hour | minute | second =>
          apply hnumber
          intro hblank
          simp only [Piece.skip?, hdrop hblank] at hpiece
          obtain ⟨⟨n, left⟩, hread, -⟩ := Option.map_eq_some_iff.mp hpiece
          exact startsNumber_cons.mpr (.inl (isDigit_of_readNumber? hread))

/-- A layout that asks for more than blanks takes no empty text. -/
theorem skipPieces?_nil {pieces : List Piece} (h : pieces.any (· != .blanks) = true) :
    skipPieces? pieces [] = none := by
  induction pieces with
  | nil => cases h
  | cons piece pieces ih =>
      cases piece with
      | blanks => exact ih h
      | char c => rfl
      | year | month | day | hour | minute | second => rfl

/-- Whether one of two layouts begins with a character and the other one cannot begin with it. -/
def clash : List Piece → List Piece → Bool
  | .char c :: _, others => !opens others c
  | pieces, .char c :: _ => !opens pieces c
  | _, _ => false

theorem skipPieces?_char_eq_none {c : Char} {pieces others : List Piece}
    (hopens : (!opens others c) = true) {cs rest : List Char}
    (h : skipPieces? (.char c :: pieces) cs = some rest) : skipPieces? others cs = none := by
  obtain ⟨behind, hchar, -⟩ := Option.bind_eq_some_iff.mp h
  cases cs with
  | nil => cases hchar
  | cons d cs =>
      obtain ⟨rfl, -⟩ := Option.ite_none_right_eq_some.mp hchar
      rw [Option.eq_none_iff_forall_ne_some]
      intro left hother
      rw [opens_of_skipPieces? hother] at hopens
      cases hopens

theorem skipPieces?_eq_none_of_clash {pieces others : List Piece}
    (hclash : clash pieces others = true) {cs rest : List Char}
    (h : skipPieces? pieces cs = some rest) : skipPieces? others cs = none := by
  unfold clash at hclash
  split at hclash
  · exact skipPieces?_char_eq_none hclash h
  · -- here the other layout has the character
    rw [Option.eq_none_iff_forall_ne_some]
    intro left hother
    rw [skipPieces?_char_eq_none hclash hother] at h
    cases h
  · cases hclash

/-- Whether the first layout, where it takes a whole text, keeps the second one from taking even
a part of it. They share their first pieces; then the first layout is over and the second one is
not, or they clash. -/
def divides : List Piece → List Piece → Bool
  | [], others => others.any (· != .blanks)
  | _ :: _, [] => false
  | piece :: pieces, other :: others =>
      if piece = other then divides pieces others else clash (piece :: pieces) (other :: others)

theorem skipPieces?_eq_none_of_divides {pieces others : List Piece}
    (hdivides : divides pieces others = true) {cs : List Char}
    (h : skipPieces? pieces cs = some []) : skipPieces? others cs = none := by
  induction pieces generalizing others cs with
  | nil =>
      cases h
      exact skipPieces?_nil hdivides
  | cons piece pieces ih =>
      cases others with
      | nil => cases hdivides
      | cons other others =>
          rw [divides] at hdivides
          by_cases hsame : piece = other
          · rw [if_pos hsame] at hdivides
            obtain ⟨rest, hpiece, hrest⟩ := Option.bind_eq_some_iff.mp h
            rw [hsame] at hpiece
            rw [skipPieces?, hpiece, Option.bind_some]
            exact ih hdivides hrest
          · rw [if_neg hsame] at hdivides
            exact skipPieces?_eq_none_of_clash hdivides h

/-- No text has two of the layouts: where their separators do not differ, one of them divides the
text from the other. -/
theorem pairwise_layouts : layouts.Pairwise fun pieces others =>
    separatorOf pieces ≠ separatorOf others ∨ divides pieces others = true ∨
      divides others pieces = true := by
  decide +kernel

/-- What separates the parts of dates in numbers. -/
def dateMarks : List Char := ['-', '/', '.']

theorem mem_dateMarks_iff {c : Char} : c ∈ dateMarks ↔ c = '-' ∨ c = '/' ∨ c = '.' := by
  rw [dateMarks, List.mem_cons, List.mem_cons, List.mem_singleton]

/-- Numbers and blanks end in front of what separates them. -/
theorem isDigit_and_isBlank_of_mem_dateMarks {c : Char} (h : c ∈ dateMarks) :
    isDigit c = false ∧ isBlank c = false := by
  rcases mem_dateMarks_iff.mp h with rfl | rfl | rfl
  · decide
  · decide
  · decide

theorem separatorOf_layouts {pieces : List Piece} (h : pieces ∈ layouts) :
    ∃ c ∈ dateMarks, separatorOf pieces = some c := by
  have hmarks : ∀ pieces ∈ layouts, separatorOf pieces ∈ dateMarks.map some := by decide +kernel
  rcases List.mem_map.mp (hmarks pieces h) with ⟨c, hc, hseparator⟩
  exact ⟨c, hc, hseparator.symm⟩

/-! ## The other forms -/

/-- A number with exactly two digits is taken by a piece as it is. -/
theorem readNumber?_of_width {width least n : Nat} {cs rest : List Char} (hleast : least ≤ width)
    (hpos : 0 < width) (h : readNumber? width width cs = some (n, rest)) :
    readNumber? least width (dropBlank cs) = some (n, rest) := by
  obtain ⟨ds, hds, rfl, hlower, hupper⟩ := readNumber?_eq_some h
  have hlength : ds.length = width := by omega
  rw [hds.dropBlank_append (List.length_pos_iff.mp (by omega))]
  exact readNumber?_numeral hds (by omega) hupper (.inl hlength)

/-- A year of four digits is taken by a piece as it is. -/
theorem readYear?_of_four {n : Nat} {cs rest : List Char}
    (h : readNumber? 4 4 cs = some (n, rest)) :
    readYear? (dropBlank cs) = some ((n : Int), rest) := by
  have hread : readNumber? 1 4 (dropBlank cs) = some (n, rest) :=
    readNumber?_of_width (by omega) (by omega) h
  cases hcs : dropBlank cs with
  | nil =>
      rw [hcs] at hread
      cases hread
  | cons d behind =>
      rw [hcs] at hread
      rw [readYear?_of_digit (isDigit_of_readNumber? hread), hread, Option.map_some]

/-- The pieces that can stand between date and time where the Internet format has its mark. -/
def timeMarks : List Piece := [.char 'T', .char 't', .blanks]

theorem skip?_of_readTimeMark? {n : Nat} {cs behind rest : List Char}
    (h : readTimeMark? cs = some behind) (hnumber : readNumber? 2 2 behind = some (n, rest)) :
    ∃ mark ∈ timeMarks, mark.skip? cs = some behind := by
  cases cs with
  | nil => cases h
  | cons c cs =>
      obtain ⟨hmark, h⟩ := Option.ite_none_right_eq_some.mp h
      cases h
      rcases hmark with rfl | rfl | rfl
      · exact ⟨.char 'T', by decide, readChar?_self 'T' behind⟩
      · exact ⟨.char 't', by decide, readChar?_self 't' behind⟩
      · -- the digit behind the blank ends the run of blanks
        refine ⟨.blanks, by decide, ?_⟩
        obtain ⟨ds, hds, rfl, hlower, -⟩ := readNumber?_eq_some hnumber
        have hdrop := hds.dropBlank_append (List.length_pos_iff.mp (by omega)) rest
        rw [Piece.skip?, dropBlank, List.dropWhile_cons_of_pos rfl]
        exact congrArg some hdrop

/-- A text in the Internet format begins with a date and a time like those of a layout, and does not
end with them. -/
theorem skipPieces?_of_readInternet? {cs : List Char} {m : Moment}
    (h : readInternet? cs = some m) :
    ∃ mark ∈ timeMarks, ∃ rest, rest ≠ [] ∧
      skipPieces? (dateBy '-' ++ mark :: fullTime) cs = some rest := by
  obtain ⟨⟨year, cs₁⟩, hyear, h⟩ := Option.bind_eq_some_iff.mp h
  obtain ⟨cs₂, hdash, h⟩ := Option.bind_eq_some_iff.mp h
  obtain ⟨⟨month, cs₃⟩, hmonth, h⟩ := Option.bind_eq_some_iff.mp h
  obtain ⟨cs₄, hdash', h⟩ := Option.bind_eq_some_iff.mp h
  obtain ⟨⟨day, cs₅⟩, hday, h⟩ := Option.bind_eq_some_iff.mp h
  obtain ⟨cs₆, hmark, h⟩ := Option.bind_eq_some_iff.mp h
  obtain ⟨⟨hour, cs₇⟩, hhour, h⟩ := Option.bind_eq_some_iff.mp h
  obtain ⟨cs₈, hcolon, h⟩ := Option.bind_eq_some_iff.mp h
  obtain ⟨⟨minute, cs₉⟩, hminute, h⟩ := Option.bind_eq_some_iff.mp h
  obtain ⟨cs₁₀, hcolon', h⟩ := Option.bind_eq_some_iff.mp h
  obtain ⟨⟨second, rest⟩, hsecond, h⟩ := Option.bind_eq_some_iff.mp h
  obtain ⟨mark, hmem, hmark⟩ := skip?_of_readTimeMark? hmark hhour
  -- a piece takes blanks and fewer digits too, but a number of two digits as it is
  have htwo : ∀ {n : Nat} {cs rest : List Char}, readNumber? 2 2 cs = some (n, rest) →
      (readNumber? 1 2 (dropBlank cs)).map Prod.snd = some rest := by
    intro n cs rest hread
    rw [readNumber?_of_width (by omega) (by omega) hread, Option.map_some]
  have hyear : Piece.year.skip? cs = some cs₁ := by
    rw [Piece.skip?, readYear?_of_four hyear, Option.map_some]
  have hdash : (Piece.char '-').skip? cs₁ = some cs₂ := hdash
  have hmonth : Piece.month.skip? cs₂ = some cs₃ := htwo hmonth
  have hdash' : (Piece.char '-').skip? cs₃ = some cs₄ := hdash'
  have hday : Piece.day.skip? cs₄ = some cs₅ := htwo hday
  have hhour : Piece.hour.skip? cs₆ = some cs₇ := htwo hhour
  have hcolon : (Piece.char ':').skip? cs₇ = some cs₈ := hcolon
  have hminute : Piece.minute.skip? cs₈ = some cs₉ := htwo hminute
  have hcolon' : (Piece.char ':').skip? cs₉ = some cs₁₀ := hcolon'
  have hsecond : Piece.second.skip? cs₁₀ = some rest := htwo hsecond
  have hdate : skipPieces? (dateBy '-') cs = some cs₅ := by
    rw [dateBy, skipPieces?_cons_of_skip? hyear, skipPieces?_cons_of_skip? hdash,
      skipPieces?_cons_of_skip? hmonth, skipPieces?_cons_of_skip? hdash',
      skipPieces?_cons_of_skip? hday, skipPieces?]
  have htime : skipPieces? fullTime cs₆ = some rest := by
    rw [fullTime, skipPieces?_cons_of_skip? hhour, skipPieces?_cons_of_skip? hcolon,
      skipPieces?_cons_of_skip? hminute, skipPieces?_cons_of_skip? hcolon',
      skipPieces?_cons_of_skip? hsecond, skipPieces?]
  refine ⟨mark, hmem, rest, ?_, ?_⟩
  · -- an offset needs at least one character
    rintro rfl
    cases h
  · rw [skipPieces?_append, hdate, Option.bind_some, skipPieces?_cons_of_skip? hmark, htime]

theorem divides_internet : ∀ pieces ∈ layouts, ∀ mark ∈ timeMarks, separatorOf pieces ≠ some '-' ∨
    pieces = dateBy '-' ++ mark :: fullTime ∨
      divides pieces (dateBy '-' ++ mark :: fullTime) = true := by
  decide +kernel

theorem separator?_of_readInternet? {cs : List Char} {m : Moment} (h : readInternet? cs = some m) :
    separator? cs = some '-' := by
  obtain ⟨mark, -, rest, -, hskip⟩ := skipPieces?_of_readInternet? h
  exact separator?_of_skipPieces? rfl rfl hskip

/-- A text that begins with a word begins with a letter of the word, in some case. -/
theorem head_of_readWord? {words : List String} {i : Nat} {cs rest : List Char}
    (h : readWord? words cs = some (i, rest)) :
    ∃ c behind, cs = c :: behind ∧ ∃ word ∈ words, word.toList.head? = some c.toLower := by
  unfold readWord? at h
  split at h
  · next a b c behind =>
      obtain ⟨j, hfound, -⟩ := Option.map_eq_some_iff.mp h
      obtain ⟨hlt, hword, -⟩ := List.findIdx?_eq_some_iff_getElem.mp hfound
      refine ⟨a, b :: c :: behind, rfl, words[j], List.getElem_mem hlt, ?_⟩
      rw [eq_of_beq hword, String.toList_ofList]
      rfl
  · cases h

/-- Behind a day of the mail format comes a blank, and a day of the week begins with a letter. -/
theorem separator?_of_readMail? {cs : List Char} {m : Moment} (h : readMail? cs = some m) :
    ∃ c, separator? cs = some c ∧ c ∉ dateMarks := by
  obtain ⟨⟨weekday?, cs₁⟩, hweekday, h⟩ := Option.bind_eq_some_iff.mp h
  obtain ⟨⟨day, cs₂⟩, hday, h⟩ := Option.bind_eq_some_iff.mp h
  obtain ⟨cs₃, hblanks, -⟩ := Option.bind_eq_some_iff.mp h
  -- with a day of the week in front there is no number, and its first letter is looked at
  unfold readWeekday? at hweekday
  split at hweekday
  · next weekday rest hword =>
      have hnumbers : ∀ word ∈ weekdayWords, ¬ StartsNumber word.toList := by decide +kernel
      have hmarks : ∀ word ∈ weekdayWords,
          word.toList.head? ∉ dateMarks.map fun d => some d.toLower := by
        decide +kernel
      obtain ⟨c, behind, hcs, word, hmem, hhead⟩ := head_of_readWord? hword
      have hstarts : ¬ StartsNumber (c :: behind) := by
        intro hstarts
        rw [hcs, readWord?_eq_none hnumbers hstarts] at hword
        cases hword
      rw [startsNumber_cons, not_or, not_or] at hstarts
      obtain ⟨hdigit, hminus, hplus⟩ := hstarts
      refine ⟨c, ?_, ?_⟩
      · rw [separator?, hcs, readSign_of_ne hminus hplus, List.dropWhile_cons_of_neg hdigit,
          List.head?_cons]
      · intro hmark
        exact hmarks word hmem (List.mem_map.mpr ⟨c, hmark, hhead.symm⟩)
  · -- without a day of the week
    cases hweekday
    cases cs₂ with
    | nil => cases hblanks
    | cons c cs₂ =>
        obtain ⟨hblank, -⟩ := Option.ite_none_right_eq_some.mp hblanks
        have hdigit : isDigit c = false := by
          rw [← Bool.not_eq_true]
          intro hc
          rw [isBlank_of_isDigit hc] at hblank
          cases hblank
        refine ⟨c, ?_, ?_⟩
        · have htwice : dropBlank (dropBlank cs) = dropBlank cs :=
            List.dropWhile_idempotent isBlank cs
          rw [htwice] at hday
          exact separator?_of_readNumber? hday hdigit
        · intro hmark
          rw [(isDigit_and_isBlank_of_mem_dateMarks hmark).2] at hblank
          cases hblank

/-- An integer is digits behind its sign, and nothing follows them. -/
theorem separator?_of_readInt64? {cs : List Char} {n : Int} (h : readInt64? cs = some n) :
    separator? cs = none := by
  have hdigits : ∀ {ds : List Char} {k : Nat}, readNat? ds = some k →
      (ds.dropWhile isDigit).head? = none := by
    intro ds k hread
    have hds := (numeral_of_readNat? hread).2.digits
    rw [List.dropWhile_eq_nil_iff.mpr hds, List.head?_nil]
  unfold readInt64? at h
  dsimp only at h
  split at h
  · obtain ⟨value, hvalue, -⟩ := Option.bind_eq_some_iff.mp h
    obtain ⟨k, hk, -⟩ := Option.map_eq_some_iff.mp hvalue
    obtain ⟨j, hread, -⟩ := Option.bind_eq_some_iff.mp hk
    exact hdigits hread
  · obtain ⟨value, hvalue, -⟩ := Option.bind_eq_some_iff.mp h
    obtain ⟨k, hread, -⟩ := Option.map_eq_some_iff.mp hvalue
    exact hdigits hread
  · obtain ⟨value, hvalue, -⟩ := Option.bind_eq_some_iff.mp h
    obtain ⟨k, hread, -⟩ := Option.map_eq_some_iff.mp hvalue
    obtain ⟨hne, hnumeral⟩ := numeral_of_readNat? hread
    cases cs with
    | nil => exact absurd rfl hne
    | cons d ds =>
        have hd := hnumeral.digits d List.mem_cons_self
        have hdrop : dropBlank (d :: ds) = d :: ds :=
          dropWhile_of_stops (Stops.cons (isBlank_of_isDigit hd) ds)
        rw [separator?, hdrop, readSign_of_digit hd]
        exact hdigits hread

end Moment

end Placeholder

import Mathlib.Data.List.Chain
import Placeholder.Proofs.Calendar.Reader

/-! # Layouts and patterns

A layout reads what a pattern with the same parts writes. Every piece of a layout has its item
(`Piece.item`), and a piece takes the text of its item and nothing more, as long as it can take
nothing of what comes next (`Piece.endsAt`). Both hold for whole layouts by induction on their
pieces (`readPieces?_write`).

The parts that are met are those that the clock shows. So a layout with a whole date and a whole
time gives the moment that shows them at UTC.
-/

namespace Placeholder.Moment

open Number Text

namespace Piece

/-- The item that writes a piece. -/
def item : Piece → Item
  | .year => Pattern.zeros .year
  | .month => Pattern.zeros .month
  | .day => Pattern.zeros .day
  | .hour => Pattern.zeros .hour
  | .minute => Pattern.zeros .minute
  | .second => Pattern.zeros .second
  | .blanks => .char ' '
  | .char c => .char c

/-- The parts with what a clock shows for one more piece. -/
def fill (c : Clock) (parts : Parts) : Piece → Parts
  | .year => { parts with year := c.date.year }
  | .month => { parts with month := c.date.month }
  | .day => { parts with day := c.date.day }
  | .hour => { parts with hour := c.hour }
  | .minute => { parts with minute := c.minute }
  | .second => { parts with second := c.shownSecond }
  | .blanks => parts
  | .char _ => parts

/-- The characters that a piece takes for as long as they come. -/
def takes : Piece → Char → Bool
  | .blanks => isBlank
  | .char _ => fun _ => false
  | _ => isDigit

/-- Whether a piece takes nothing of what the next one writes. A number may begin with a digit,
and signs are taken by no piece. -/
def endsAt (piece : Piece) : Piece → Bool
  | .blanks => !piece.takes ' '
  | .char c => !piece.takes c
  | _ => !piece.takes '0'

variable {m : Moment} {piece : Piece} {cs : List Char}

/-! ## One piece -/

theorem stops_of_startsNumber (hzero : piece.takes '0' = false) (hcs : StartsNumber cs) :
    Stops piece.takes cs := by
  cases piece with
  | blanks => exact hcs.stops_isBlank
  | char c =>
      intro d _
      rfl
  | year | month | day | hour | minute | second => cases hzero

/-- A piece takes nothing of the text of the next one. -/
theorem stops_write {next : Piece} (hends : piece.endsAt next = true) (h : m.Readable)
    (hwrite : next.item.write? m = some cs) (rest : List Char) :
    Stops piece.takes (cs ++ rest) := by
  have htwo : ∀ n < 100, StartsNumber (Padding.zeros.writeTwo n ++ rest) := by
    intro n hn
    rw [Padding.writeTwo_zeros hn]
    exact startsNumber_padZeros 2 n rest
  have hclock := h.twoDigits
  -- a separator is one character; every number has a numeral behind its sign, if it has one
  cases next with
  | blanks =>
      cases hwrite
      exact Stops.cons (Bool.eq_false_of_not_eq_true' hends) rest
  | char c =>
      cases hwrite
      exact Stops.cons (Bool.eq_false_of_not_eq_true' hends) rest
  | year =>
      cases hwrite
      exact stops_of_startsNumber (Bool.eq_false_of_not_eq_true' hends)
        (Padding.startsNumber_writeYear _ rest)
  | month =>
      cases hwrite
      exact stops_of_startsNumber (Bool.eq_false_of_not_eq_true' hends) (htwo _ hclock.month)
  | day =>
      cases hwrite
      exact stops_of_startsNumber (Bool.eq_false_of_not_eq_true' hends) (htwo _ hclock.day)
  | hour =>
      cases hwrite
      exact stops_of_startsNumber (Bool.eq_false_of_not_eq_true' hends) (htwo _ hclock.hour)
  | minute =>
      cases hwrite
      exact stops_of_startsNumber (Bool.eq_false_of_not_eq_true' hends) (htwo _ hclock.minute)
  | second =>
      cases hwrite
      exact stops_of_startsNumber (Bool.eq_false_of_not_eq_true' hends) (htwo _ hclock.second)

/-- A piece reads what its item writes. -/
theorem read?_write (h : m.Readable) (hwrite : piece.item.write? m = some cs)
    {rest : List Char} (hrest : Stops piece.takes rest) (parts : Parts) :
    piece.read? parts (cs ++ rest) = some (piece.fill m.clock parts, rest) := by
  have htwo : ∀ n < 100, readNumber? 1 2 (dropBlank (Padding.zeros.writeTwo n ++ rest)) =
      some (n, rest) := by
    intro n hn
    have hlength : (padZeros 2 (digitsOf n)).length = 2 := length_padZeros_digitsOf (by omega) hn
    rw [Padding.writeTwo_zeros hn, dropBlank,
      dropWhile_of_stops (startsNumber_padZeros 2 n rest).stops_isBlank]
    exact readNumber?_numeral (numeral_padZeros 2 n) (by omega) (by omega) (.inl hlength)
  have hclock := h.twoDigits
  cases piece with
  | blanks =>
      cases hwrite
      show some (parts, (' ' :: rest).dropWhile isBlank) = some (parts, rest)
      have hdrop : rest.dropWhile isBlank = rest := dropWhile_of_stops hrest
      rw [List.dropWhile_cons_of_pos rfl, hdrop]
  | char c =>
      cases hwrite
      show ((if c = c then some rest else none).map fun rest => (parts, rest)) = some (parts, rest)
      rw [if_pos rfl, Option.map_some]
  | year =>
      cases hwrite
      -- the only number without a fixed width, so it needs that no digit follows
      have hread := readYear?_writeYear m.clock.date.year hrest
      show (readYear? (dropBlank (Padding.zeros.writeYear m.clock.date.year ++ rest))).map _ = _
      rw [dropBlank, dropWhile_of_stops (Padding.startsNumber_writeYear _ rest).stops_isBlank, hread]
      rfl
  | month =>
      cases hwrite
      exact congrArg (Option.map _) (htwo _ hclock.month)
  | day =>
      cases hwrite
      exact congrArg (Option.map _) (htwo _ hclock.day)
  | hour =>
      cases hwrite
      exact congrArg (Option.map _) (htwo _ hclock.hour)
  | minute =>
      cases hwrite
      exact congrArg (Option.map _) (htwo _ hclock.minute)
  | second =>
      cases hwrite
      exact congrArg (Option.map _) (htwo _ hclock.second)

end Piece

/-! ## Whole layouts -/

theorem writeItems?_cons_eq_some {item : Item} {items : List Item} {m : Moment}
    {cs : List Char} : writeItems? (item :: items) m = some cs ↔
      ∃ here rest, item.write? m = some here ∧ writeItems? items m = some rest ∧
        here ++ rest = cs := by
  rw [writeItems?]
  split
  · next here rest hhere hrest => simp [hhere, hrest]
  · next hnone =>
      constructor
      · intro h
        cases h
      · rintro ⟨here, rest, hhere, hrest, -⟩
        exact absurd hrest (hnone here rest hhere)

/-- A layout reads what its items write, and meets the parts that the clock shows. -/
theorem readPieces?_write {m : Moment} (h : m.Readable) {pieces : List Piece}
    (hends : pieces.IsChain fun piece next => piece.endsAt next = true) {cs : List Char}
    (hwrite : writeItems? (pieces.map Piece.item) m = some cs) (parts : Parts) :
    readPieces? pieces parts cs =
      some (pieces.foldl (fun parts piece => piece.fill m.clock parts) parts) := by
  induction pieces generalizing cs parts with
  | nil =>
      cases hwrite
      rfl
  | cons piece pieces ih =>
      obtain ⟨here, rest, hhere, hrest, rfl⟩ := writeItems?_cons_eq_some.mp hwrite
      -- behind the piece stands the text of the next one, or nothing
      have hstops : Stops piece.takes rest := by
        cases pieces with
        | nil =>
            cases hrest
            intro c hc
            cases hc
        | cons next pieces =>
            obtain ⟨text, behind, htext, -, rfl⟩ := writeItems?_cons_eq_some.mp hrest
            exact Piece.stops_write (List.isChain_cons_cons.mp hends).1 h htext behind
      rw [readPieces?, Piece.read?_write h hhere hstops]
      exact ih hends.of_cons hrest _

end Placeholder.Moment

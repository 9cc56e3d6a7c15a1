/-! # Date patterns

A pattern is text in which `%` begins a directive; everything else stands for
itself. Reading a pattern gives a list of items, or nothing if some directive is
not known, and a pattern is valid when it can be read.

A directive that writes one number takes a flag for its padding, `-` for none,
`0` for zeros and `_` for blanks. Directives for names, and those that are short
for several items, take none.
-/

namespace Placeholder

/-- How a number is filled up to its width. -/
inductive Padding where
  | none | zeros | blanks
deriving DecidableEq, Repr

/-- A number that a directive writes. -/
inductive NumberField where
  | year | century | yearOfCentury
  | weekYear | weekYearOfCentury
  | quarter | month | day | dayOfYear
  | weekFromSunday | weekFromMonday | week
  | weekdayFromMonday | weekdayFromSunday
  | hour | hour12 | minute | second | nanos
  | unixSeconds
deriving DecidableEq, Repr

/-- The precision and the form of an offset. -/
inductive OffsetStyle where
  /-- Hours and minutes without a separator. -/
  | plain
  /-- Hours and minutes. -/
  | minutes
  /-- Hours, minutes and seconds. -/
  | seconds
  /-- Hours only. -/
  | hours
deriving DecidableEq, Repr

/-- A text that a directive writes. -/
inductive TextField where
  | shortMonth | longMonth | shortWeekday | longWeekday
  | lowerHalf | upperHalf
  /-- A point and as many digits of the fraction as it needs, in threes. -/
  | fraction
  /-- So many digits of the fraction, with or without a point. -/
  | fractionDigits (point : Bool) (digits : Nat)
  | offset (style : OffsetStyle)
  /-- The moment in the Internet format. -/
  | internet
  /-- An offset in a form that is only read, never written. -/
  | lenientOffset
deriving DecidableEq, Repr

/-- A part of a pattern. -/
inductive Item where
  | char (c : Char)
  | number (field : NumberField) (padding : Padding)
  | text (field : TextField)
deriving DecidableEq, Repr

namespace Pattern

/-- The directives that write one number, with the padding they have without a
flag. -/
def numberDirective? : Char → Option (NumberField × Padding)
  | 'Y' => some (.year, .zeros)
  | 'C' => some (.century, .zeros)
  | 'y' => some (.yearOfCentury, .zeros)
  | 'q' => some (.quarter, .none)
  | 'm' => some (.month, .zeros)
  | 'd' => some (.day, .zeros)
  | 'e' => some (.day, .blanks)
  | 'w' => some (.weekdayFromSunday, .none)
  | 'u' => some (.weekdayFromMonday, .none)
  | 'U' => some (.weekFromSunday, .zeros)
  | 'W' => some (.weekFromMonday, .zeros)
  | 'G' => some (.weekYear, .zeros)
  | 'g' => some (.weekYearOfCentury, .zeros)
  | 'V' => some (.week, .zeros)
  | 'j' => some (.dayOfYear, .zeros)
  | 'H' => some (.hour, .zeros)
  | 'k' => some (.hour, .blanks)
  | 'I' => some (.hour12, .zeros)
  | 'l' => some (.hour12, .blanks)
  | 'M' => some (.minute, .zeros)
  | 'S' => some (.second, .zeros)
  | 'f' => some (.nanos, .zeros)
  | 's' => some (.unixSeconds, .none)
  | _ => none

/-- A number with leading zeros. -/
def zeros (field : NumberField) : Item := .number field .zeros

/-- Month, day and year of the century. -/
def shortDate : List Item :=
  [zeros .month, .char '/', zeros .day, .char '/', zeros .yearOfCentury]

/-- Hour and minute. -/
def shortTime : List Item := [zeros .hour, .char ':', zeros .minute]

/-- Hour, minute and second. -/
def fullTime : List Item := shortTime ++ [.char ':', zeros .second]

/-- The other directives of one letter. -/
def textDirective? : Char → Option (List Item)
  | 'b' | 'h' => some [.text .shortMonth]
  | 'B' => some [.text .longMonth]
  | 'a' => some [.text .shortWeekday]
  | 'A' => some [.text .longWeekday]
  | 'p' => some [.text .upperHalf]
  | 'P' => some [.text .lowerHalf]
  | 'Z' => some [.text (.offset .minutes)]
  | 'z' => some [.text (.offset .plain)]
  | '+' => some [.text .internet]
  | 'D' | 'x' => some shortDate
  | 'F' => some [zeros .year, .char '-', zeros .month, .char '-', zeros .day]
  | 'v' => some [.number .day .blanks, .char '-', .text .shortMonth, .char '-', zeros .year]
  | 'R' => some shortTime
  | 'T' | 'X' => some fullTime
  | 'r' => some ([zeros .hour12, .char ':', zeros .minute, .char ':', zeros .second] ++
      [.char ' ', .text .upperHalf])
  | 'c' => some ([.text .shortWeekday, .char ' ', .text .shortMonth, .char ' '] ++
      [.number .day .blanks, .char ' '] ++ fullTime ++ [.char ' ', zeros .year])
  | 't' => some [.char '\t']
  | 'n' => some [.char '\n']
  | '%' => some [.char '%']
  | _ => none

/-- A directive with a padding flag. -/
def padded? (padding : Padding) : List Char → Option (List Item × List Char)
  | c :: rest => (numberDirective? c).map fun (field, _) => ([.number field padding], rest)
  | [] => none

/-- A number of digits of the fraction, with the letter that ends it. -/
def fractionDigits? (point : Bool) : List Char → Option (List Item × List Char)
  | '3' :: 'f' :: rest => some ([.text (.fractionDigits point 3)], rest)
  | '6' :: 'f' :: rest => some ([.text (.fractionDigits point 6)], rest)
  | '9' :: 'f' :: rest => some ([.text (.fractionDigits point 9)], rest)
  | _ => none

/-- The items of the directive behind a `%`, and what follows it. -/
def readDirective? : List Char → Option (List Item × List Char)
  | '-' :: rest => padded? .none rest
  | '0' :: rest => padded? .zeros rest
  | '_' :: rest => padded? .blanks rest
  | '#' :: 'z' :: rest => some ([.text .lenientOffset], rest)
  | ':' :: ':' :: ':' :: 'z' :: rest => some ([.text (.offset .hours)], rest)
  | ':' :: ':' :: 'z' :: rest => some ([.text (.offset .seconds)], rest)
  | ':' :: 'z' :: rest => some ([.text (.offset .minutes)], rest)
  | '.' :: 'f' :: rest => some ([.text .fraction], rest)
  | '.' :: rest => fractionDigits? true rest
  | c :: rest =>
      match numberDirective? c, textDirective? c with
      | some (field, padding), _ => some ([.number field padding], rest)
      | none, some items => some (items, rest)
      | none, none => fractionDigits? false (c :: rest)
  | [] => none

theorem padded?_shorter {padding : Padding} {cs rest : List Char} {items : List Item}
    (h : padded? padding cs = some (items, rest)) : rest.length < cs.length := by
  unfold padded? at h
  split at h
  · obtain ⟨_, _, heq⟩ := Option.map_eq_some_iff.mp h
    obtain ⟨-, rfl⟩ := by simpa using heq
    simp
  · simp at h

theorem fractionDigits?_shorter {point : Bool} {cs rest : List Char} {items : List Item}
    (h : fractionDigits? point cs = some (items, rest)) : rest.length < cs.length := by
  unfold fractionDigits? at h
  split at h
  case h_4 => simp at h
  all_goals
    obtain ⟨-, rfl⟩ := by simpa using h
    simp only [List.length_cons]
    omega

/-- A directive takes at least one character. -/
theorem readDirective?_shorter {cs rest : List Char} {items : List Item}
    (h : readDirective? cs = some (items, rest)) : rest.length < cs.length := by
  unfold readDirective? at h
  split at h
  case h_1 | h_2 | h_3 =>
    have := padded?_shorter h
    simp
    omega
  case h_9 =>
    have := fractionDigits?_shorter h
    simp
    omega
  case h_10 =>
    split at h
    · obtain ⟨-, rfl⟩ := by simpa using h
      simp
    · obtain ⟨-, rfl⟩ := by simpa using h
      simp
    · exact fractionDigits?_shorter h
  case h_11 => simp at h
  all_goals
    obtain ⟨-, rfl⟩ := by simpa using h
    simp only [List.length_cons]
    omega

/-- The items of a pattern. -/
def itemsFrom? (cs : List Char) : Option (List Item) :=
  match cs with
  | [] => some []
  | '%' :: rest =>
      match _h : readDirective? rest with
      | some (items, rest) => (itemsFrom? rest).map (items ++ ·)
      | none => none
  | c :: rest => (itemsFrom? rest).map (.char c :: ·)
termination_by cs.length
decreasing_by
  · have := readDirective?_shorter (by assumption)
    simp
    omega
  · simp

/-- The items of a pattern, if it is valid. -/
def items? (pattern : String) : Option (List Item) := itemsFrom? pattern.toList

/-- Whether every directive of a pattern is known. -/
def isValid (pattern : String) : Bool := (items? pattern).isSome

end Pattern

end Placeholder

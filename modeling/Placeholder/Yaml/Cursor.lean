import Placeholder.Text.Cut

/-! # Places in a YAML text

A cursor stands before a character of a text and knows the line and the column.
A text is prepared before a cursor walks over it: every line end that counts as a
line feed is one, so three line breaks are left, the line feed and the two
separators of Unicode, which differ in how lines are folded.
-/

namespace Placeholder.Yaml

/-! ## Characters -/

/-- A line break. -/
def isBreak (c : Char) : Bool := c == '\n' || c == '\u2028' || c == '\u2029'

/-- A space or a tab. -/
def isBlank (c : Char) : Bool := c == ' ' || c == '\t'

/-- A character of a name: of an anchor, a directive or a tag handle. -/
def isWordChar (c : Char) : Bool := c.isAlphanum || c == '_' || c == '-'

/-- A character that a text may hold. -/
def isAllowed (c : Char) : Bool :=
  let n := c.toNat
  n == 9 || n == 10 || n == 13 || (0x20 ≤ n && n ≤ 0x7E) || n == 0x85 ||
    (0xA0 ≤ n && n ≤ 0xFFFD) || 0x10000 ≤ n

/-- Whether a line ends here. -/
def endsLine : Option Char → Bool
  | none => true
  | some c => isBreak c

/-- Whether a word ends here. -/
def endsWord : Option Char → Bool
  | none => true
  | some c => isBlank c || isBreak c

/-- The text with every carriage return, with or without a line feed, and every
`next line` character as a line feed. -/
def unifyBreaks : List Char → List Char
  | [] => []
  | '\r' :: '\n' :: cs => '\n' :: unifyBreaks cs
  | '\r' :: cs => '\n' :: unifyBreaks cs
  | '\u0085' :: cs => '\n' :: unifyBreaks cs
  | c :: cs => c :: unifyBreaks cs

/-- A text made ready for a cursor, unless it holds a character that it must
not. -/
def prepare? (cs : List Char) : Option (List Char) :=
  if cs.all isAllowed then some (unifyBreaks cs) else none

/-! ## Cursors -/

/-- A place in a text: what follows it, the number of bytes before it, its line and
its column, which counts characters. -/
structure Cursor where
  rest : List Char
  offset : Nat := 0
  line : Nat := 0
  column : Nat := 0
deriving Repr

namespace Cursor

/-- The character so many places further on. -/
def peek (c : Cursor) (n : Nat := 0) : Option Char := c.rest[n]?

/-- Whether a certain character follows. -/
def sees (c : Cursor) (ch : Char) (n : Nat := 0) : Bool := c.peek n == some ch

/-- So many characters further on in the same line. -/
def skip (c : Cursor) (n : Nat := 1) : Cursor :=
  { c with
    rest := c.rest.drop n
    offset := c.offset + Text.byteLength (c.rest.take n)
    column := c.column + n }

/-- Behind the line break that follows. -/
def skipBreak (c : Cursor) : Cursor :=
  { rest := c.rest.drop 1
    offset := c.offset + Text.byteLength (c.rest.take 1)
    line := c.line + 1
    column := 0 }

/-- The run of characters with a property, and the place behind it. -/
def takeWhile (c : Cursor) (p : Char → Bool) : List Char × Cursor :=
  let run := c.rest.takeWhile p
  (run, c.skip run.length)

/-- The place behind the run of characters with a property. -/
def skipWhile (c : Cursor) (p : Char → Bool) : Cursor := (c.takeWhile p).2

/-- The end of the line. -/
def skipLine (c : Cursor) : Cursor := c.skipWhile fun ch => !isBreak ch

/-- Whether three dashes or three dots stand alone at the beginning of the
line. -/
def atMark (c : Cursor) (ch : Char) : Bool :=
  c.column == 0 && c.sees ch 0 && c.sees ch 1 && c.sees ch 2 && endsWord (c.peek 3)

/-- Whether a document ends or begins here. -/
def atDocumentMark (c : Cursor) : Bool := c.atMark '-' || c.atMark '.'

/-- Behind blanks and a comment, if the line ends there. -/
def skipToLineEnd? (c : Cursor) : Option Cursor :=
  let c := c.skipWhile isBlank
  let c := if c.sees '#' then c.skipLine else c
  if endsLine c.peek then some (if c.rest.isEmpty then c else c.skipBreak) else none

end Cursor

end Placeholder.Yaml

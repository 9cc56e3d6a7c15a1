import Placeholder.Json.Reader
import Placeholder.Yaml.Cursor

/-! # Written forms of scalars

A scalar is a text that is written plainly, between single or double quotes, or
as a block of lines that is kept or folded. Where a plain or quoted scalar goes
over several lines, one line feed becomes a space and further ones stay.

Each reader takes a place in the text and returns the text of the scalar with
the place behind it. The bound on the number of steps that some of them take is
the number of characters that are left.
-/

namespace Placeholder.Yaml

/-- How a scalar is written. -/
inductive Style where
  | plain | singleQuoted | doubleQuoted | literal | folded
deriving DecidableEq, Repr

/-! ## Gaps between words -/

/-- The blanks and line breaks between two words: the blanks, where there is no
line break; else the first line break and the further ones. -/
structure Gap where
  blanks : List Char := []
  first : List Char := []
  more : List Char := []
  broken : Bool := false
deriving Repr

/-- What a gap stands for in the text. -/
def Gap.text (g : Gap) : List Char :=
  if !g.broken then g.blanks
  else if g.first = ['\n'] then (if g.more.isEmpty then [' '] else g.more)
  else g.first ++ g.more

/-- A gap. Behind a line break no tab may stand to the left of a column. -/
def readGap? (fuel : Nat) (leftmost : Nat) (g : Gap) (c : Cursor) : Option (Gap × Cursor) :=
  match fuel, c.peek with
  | fuel + 1, some ch =>
      if isBlank ch then
        if g.broken then
          if ch = '\t' ∧ c.column < leftmost then none else readGap? fuel leftmost g c.skip
        else readGap? fuel leftmost { g with blanks := g.blanks ++ [ch] } c.skip
      else if isBreak ch then
        if g.broken then readGap? fuel leftmost { g with more := g.more ++ [ch] } c.skipBreak
        else readGap? fuel leftmost { first := [ch], broken := true } c.skipBreak
      else some (g, c)
  | _, _ => some (g, c)

/-! ## Plain scalars -/

/-- The characters that have a meaning of their own inside brackets. -/
def isFlowMark (c : Char) : Bool :=
  c == ',' || c == '[' || c == ']' || c == '\x7b' || c == '\x7d'

/-- A word of a plain scalar. Inside brackets a colon must not stand before one of
their marks. -/
def plainWord? (inFlow : Bool) : List Char → Option (List Char)
  | [] => some []
  | c :: cs =>
      if isBlank c || isBreak c then some []
      else if inFlow && c == ':' && cs.head?.any fun d => isFlowMark d || d == '?' then none
      else if (c == ':' && endsWord cs.head?) || (inFlow && isFlowMark c) then some []
      else (plainWord? inFlow cs).map (c :: ·)

/-- A plain scalar, given its text so far and the gap behind it. Outside brackets
it ends before a line that begins to the left of a column. The last part of the
result tells whether the scalar ends behind a line break. -/
def readPlain? (fuel : Nat) (inFlow : Bool) (leftmost : Nat) (text : List Char) (g : Gap)
    (c : Cursor) : Option (List Char × Cursor × Bool) :=
  match fuel with
  | 0 => none
  | fuel + 1 =>
      if c.atDocumentMark || c.sees '#' then some (text, c, g.broken)
      else do
        let word ← plainWord? inFlow c.rest
        let broken := word.isEmpty && g.broken
        let text := if word.isEmpty then text else text ++ g.text ++ word
        let c := c.skip word.length
        match c.peek with
        | none => some (text, c, broken)
        | some ch =>
            if !isBlank ch && !isBreak ch then some (text, c, broken)
            else
              let (g, c) ← readGap? (c.rest.length + 1) leftmost {} c
              if !inFlow && c.column < leftmost then some (text, c, g.broken)
              else readPlain? fuel inFlow leftmost text g c

/-! ## Quoted scalars -/

/-- A number of hexadecimal digits, as a number. -/
def readHex? : Nat → List Char → Option Nat
  | 0, _ => some 0
  | _ + 1, [] => none
  | n + 1, c :: cs => do
      let d ← Json.hexValue? c
      let rest ← readHex? n cs
      some (d * Nat.pow 16 n + rest)

/-- The character with a code of so many hexadecimal digits. -/
def readCode? (digits : Nat) (cs : List Char) : Option (Char × Nat) := do
  let n ← readHex? digits cs
  if (0xD800 ≤ n ∧ n ≤ 0xDFFF) ∨ 0x10FFFF < n then none
  else some (Char.ofNat n, digits + 1)

/-- The character that an escape stands for, and the length of the escape behind
its backslash. -/
def readEscape? : List Char → Option (Char × Nat)
  | [] => none
  | c :: cs =>
      match c with
      | '0' => some ('\x00', 1)
      | 'a' => some ('\x07', 1)
      | 'b' => some ('\x08', 1)
      | 't' | '\t' => some ('\t', 1)
      | 'n' => some ('\n', 1)
      | 'v' => some ('\x0b', 1)
      | 'f' => some ('\x0c', 1)
      | 'r' => some ('\r', 1)
      | 'e' => some ('\x1b', 1)
      | ' ' => some (' ', 1)
      | '\x22' => some ('\x22', 1)
      | '/' => some ('/', 1)
      | '\\' => some ('\\', 1)
      | 'N' => some ('\u0085', 1)
      | '_' => some ('\u00a0', 1)
      | 'L' => some ('\u2028', 1)
      | 'P' => some ('\u2029', 1)
      | 'x' => readCode? 2 cs
      | 'u' => readCode? 4 cs
      | 'U' => readCode? 8 cs
      | _ => none

/-- A word between quotes, up to a blank, a line break or the closing quote. The
last part of the result tells whether a backslash took away the line break behind
the word. -/
def readQuotedWord? (fuel : Nat) (single : Bool) (c : Cursor) :
    Option (List Char × Cursor × Bool) :=
  match fuel, c.peek with
  | fuel + 1, some ch =>
      if isBlank ch || isBreak ch then some ([], c, false)
      else if single && ch == '\x27' then
        if c.sees '\x27' 1 then
          (readQuotedWord? fuel single (c.skip 2)).map fun (word, rest) => ('\x27' :: word, rest)
        else some ([], c, false)
      else if !single && ch == '\x22' then some ([], c, false)
      else if !single && ch == '\\' then
        if (c.peek 1).any isBreak then some ([], c.skip.skipBreak, true)
        else do
          let (d, length) ← readEscape? (c.rest.drop 1)
          (readQuotedWord? fuel single (c.skip (length + 1))).map fun (word, rest) =>
            (d :: word, rest)
      else (readQuotedWord? fuel single c.skip).map fun (word, rest) => (ch :: word, rest)
  | _, _ => some ([], c, false)

/-- The rest of a quoted scalar, given its text so far. -/
def readQuoted? (fuel : Nat) (single : Bool) (text : List Char) (c : Cursor) :
    Option (List Char × Cursor) :=
  match fuel with
  | 0 => none
  | fuel + 1 =>
      if c.atDocumentMark || c.rest.isEmpty then none
      else do
        let (word, c, joined) ← readQuotedWord? (c.rest.length + 1) single c
        let text := text ++ word
        if c.sees (if single then '\x27' else '\x22') then some (text, c.skip)
        else
          let (g, c) ← readGap? (c.rest.length + 1) 0 { broken := joined } c
          readQuoted? fuel single (text ++ g.text) c

/-! ## Blocks -/

/-- What is done with the line breaks at the end of a block. -/
inductive Chomping where
  | strip | clip | keep
deriving DecidableEq, Repr

/-- The line breaks and the indentation in front of a line, given the indentation
of the block, or 0 if it is not known yet. Returns the line breaks, the greatest
indentation met and the place. -/
def readIndentation? (fuel : Nat) (indent : Nat) (breaks : List Char) (greatest : Nat)
    (c : Cursor) : Option (List Char × Nat × Cursor) :=
  match fuel with
  | 0 => some (breaks, greatest, c)
  | fuel + 1 =>
      let spaces := (c.rest.takeWhile (· == ' ')).length
      let c := c.skip (if indent = 0 then spaces else min spaces (indent - c.column))
      let greatest := max greatest c.column
      match c.peek with
      | none => some (breaks, greatest, c)
      | some ch =>
          if ch = '\t' ∧ (indent = 0 ∨ c.column < indent) then none
          else if isBreak ch then
            readIndentation? fuel indent (breaks ++ [ch]) greatest c.skipBreak
          else some (breaks, greatest, c)

/-- The lines of a block, given the text so far, the line break behind it, the
empty lines behind that, and whether the last line began with a blank. In a
folded block a line break between two lines that begin with no blank becomes a
space, or nothing before empty lines. -/
def readLines? (fuel : Nat) (keepBreaks : Bool) (indent : Nat) (text ending breaks : List Char)
    (blankBefore : Bool) (c : Cursor) : Option (List Char × List Char × List Char × Cursor) :=
  match fuel with
  | 0 => none
  | fuel + 1 =>
      if c.column != indent || c.rest.isEmpty then some (text, ending, breaks, c)
      else do
        let blankHere := c.peek.any isBlank
        let folds := !keepBreaks && ending == ['\n'] && !blankBefore && !blankHere
        let joint := if folds then (if breaks.isEmpty then [' '] else []) else ending
        let (line, c) := c.takeWhile fun ch => !isBreak ch
        let text := text ++ joint ++ breaks ++ line
        let (ending, c) := match c.peek with
          | some ch => ([ch], c.skipBreak)
          | none => ([], c)
        let (breaks, _, c) ← readIndentation? (c.rest.length + 1) indent [] 0 c
        readLines? fuel keepBreaks indent text ending breaks blankHere c

/-- The digit of an indentation, which is not zero. -/
def readIncrement? (c : Cursor) : Option (Nat × Cursor) :=
  match c.peek with
  | some ch =>
      if ch.isDigit then (if ch = '0' then none else some (ch.toNat - '0'.toNat, c.skip))
      else some (0, c)
  | none => some (0, c)

/-- The sign that tells what is done with the last line breaks. -/
def readChomping (c : Cursor) : Chomping × Cursor :=
  if c.sees '+' then (.keep, c.skip)
  else if c.sees '-' then (.strip, c.skip)
  else (.clip, c)

/-- The two signs behind the mark of a block, in either order. -/
def readBlockSigns? (c : Cursor) : Option (Chomping × Nat × Cursor) := do
  let (chomping, c) := readChomping c
  let (increment, c) ← readIncrement? c
  if chomping = .clip ∧ increment ≠ 0 then
    let (chomping, c) := readChomping c
    some (chomping, increment, c)
  else some (chomping, increment, c)

/-- A block behind its mark. `outer` is the indentation of the block around it, or
-1. -/
def readBlock? (keepBreaks : Bool) (outer : Int) (c : Cursor) : Option (List Char × Cursor) := do
  let (chomping, increment, c) ← readBlockSigns? c
  let c ← c.skipToLineEnd?
  let given : Nat := if increment = 0 then 0 else (max outer 0).toNat + increment
  let (breaks, greatest, c) ← readIndentation? (c.rest.length + 1) given [] 0 c
  let indent := if given = 0 then max greatest (max (outer + 1) 1).toNat else given
  let (text, ending, breaks, c) ←
    readLines? (c.rest.length + 2) keepBreaks indent [] [] breaks false c
  some (match chomping with
    | .strip => (text, c)
    | .clip => (text ++ ending, c)
    | .keep => (text ++ ending ++ breaks, c))

end Placeholder.Yaml

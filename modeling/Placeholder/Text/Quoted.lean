import Placeholder.Text.Ranges
import Placeholder.Text.VisibleTable

/-! # Quoted texts

A text between quotes in which every character can be seen: quotes and
backslashes have a backslash in front, and what would not show, or would melt
into the character before it, is written by its code point.
-/

namespace Placeholder.Text

/-- A code point in hexadecimal digits between braces. -/
def escapeCode (c : Char) : List Char :=
  ['\\', 'u', '\x7b'] ++ Nat.toDigits 16 c.toNat ++ ['\x7d']

/-- A character as it is written between quotes. -/
def escapeChar (c : Char) : List Char :=
  if c = '\x22' then ['\\', '\x22']
  else if c = '\\' then ['\\', '\\']
  else if c = '\n' then ['\\', 'n']
  else if c = '\r' then ['\\', 'r']
  else if c = '\t' then ['\\', 't']
  else if c.toNat = 0 then ['\\', '0']
  else if 32 ≤ c.toNat ∧ c.toNat < 127 then [c]
  else if inRanges VisibleTable.extending c.toNat then escapeCode c
  else if inRanges VisibleTable.invisible c.toNat then escapeCode c
  else [c]

/-- A text between quotes. -/
def quoted (s : String) : String :=
  String.ofList ('\x22' :: s.toList.flatMap escapeChar ++ ['\x22'])

end Placeholder.Text

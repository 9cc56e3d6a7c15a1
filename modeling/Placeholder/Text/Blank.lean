/-! # Blank characters

White space in the sense of the Unicode property `White_Space`, which is wider
than the ASCII spaces and tabs, and the cuts at the two ends of a text that
depend on it. `length_dropBlank_le` is what readers need to stop.
-/

namespace Placeholder.Text

/-- The characters with the Unicode property `White_Space`. Zero-width spaces,
the byte-order mark and the information separators are not among them. -/
def isBlank (c : Char) : Bool :=
  let n := c.toNat
  (9 ≤ n && n ≤ 13) || n == 0x20 || n == 0x85 || n == 0xA0 || n == 0x1680 ||
    (0x2000 ≤ n && n ≤ 0x200A) || n == 0x2028 || n == 0x2029 || n == 0x202F ||
    n == 0x205F || n == 0x3000

/-- What is left after a leading run of blanks. -/
def dropBlank (cs : List Char) : List Char := cs.dropWhile isBlank

theorem length_dropBlank_le (cs : List Char) : (dropBlank cs).length ≤ cs.length :=
  (List.dropWhile_sublist isBlank).length_le

/-- A list without its trailing run of characters with property `p`. -/
def dropEnd (p : Char → Bool) (cs : List Char) : List Char :=
  (cs.reverse.dropWhile p).reverse

/-- A list without the blanks at either end. -/
def trimList (cs : List Char) : List Char := dropEnd isBlank (dropBlank cs)

/-- A text without the blanks at either end. -/
def trim (s : String) : String := String.ofList (trimList s.toList)

end Placeholder.Text

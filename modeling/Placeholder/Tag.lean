import Placeholder.Text.Blank
import Placeholder.Text.Cut

/-! # Tags

A tag stands in a template for a value that is known later:
`{{ name : arguments | processor : arguments }}`. This module holds
what a tag is once it has been read, and the rule that turns the text of an
argument suffix into a list of arguments.
-/

namespace Placeholder

/-- The arguments of a call: absent, or a list that may hold empty texts. -/
abbrev Arguments := Option (List String)

/-- A name with its arguments: the processor part of a tag. -/
structure Call where
  name : String
  args : Arguments
deriving DecidableEq, Repr

/-- One occurrence of a tag in a template. `raw` is the text of the tag and
stands in the template at the bytes from `start` up to `stop`. -/
structure Tag where
  raw : String
  start : Nat
  stop : Nat
  name : String
  args : Arguments
  processor : Option Call
deriving DecidableEq, Repr

/-- The text between a pair of surrounding quotes, if there is such a pair. One
quote alone is not a pair, and quotes inside are left as they are. -/
def unquoted? : List Char → Option (List Char)
  | '\x22' :: cs =>
      match cs.reverse with
      | '\x22' :: inner => some inner.reverse
      | _ => none
  | _ => none

/-- The arguments that a suffix stands for: a surrounding pair of quotes and the
blanks inside it are dropped and the rest is split at every comma. Nothing is
escaped. A suffix with nothing left has no arguments, which differs from a list
of one empty argument. -/
def argumentsOf (suffix : List Char) : Arguments :=
  match Text.trimList ((unquoted? suffix).getD suffix) with
  | [] => none
  | cs => some ((Text.pieces ',' cs).map String.ofList)

end Placeholder

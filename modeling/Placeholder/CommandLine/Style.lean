/-! # Styles

How a terminal shows a text: in a colour, bold or dimmed. A style is put on by a
control sequence in front of the text and taken off by another one behind it.
-/

namespace Placeholder.CommandLine

/-- A way to show a text. -/
inductive Style where
  | cyan | green | yellow | bold | dimmed | alarm
deriving DecidableEq, Repr

namespace Style

/-- The codes of a style. -/
def codes : Style → String
  | .cyan => "36"
  | .green => "32"
  | .yellow => "33"
  | .bold => "1"
  | .dimmed => "2"
  | .alarm => "1;31"

/-- The sequence that puts a style on. -/
def start (s : Style) : String := "\x1b[" ++ s.codes ++ "m"

/-- The sequence that takes every style off. -/
def reset : String := "\x1b[0m"

/-- A text in which a sequence stands behind every reset. -/
def afterResets (again : List Char) : List Char → List Char
  | [] => []
  | '\x1b' :: '[' :: '0' :: 'm' :: cs => reset.toList ++ again ++ afterResets again cs
  | c :: cs => c :: afterResets again cs

/-- A text in a style, which is put on again behind every reset inside the text.
Without colours the text is left as it is. -/
def paint (colour : Bool) (s : Style) (text : String) : String :=
  if colour then
    s.start ++ String.ofList (afterResets s.start.toList text.toList) ++ reset
  else text

end Style

end Placeholder.CommandLine

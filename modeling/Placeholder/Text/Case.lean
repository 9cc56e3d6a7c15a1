import Placeholder.Text.CaseTable
import Placeholder.Text.CasedTable
import Placeholder.Text.Ranges

/-! # Upper and lower case

Full case conversion of texts: a character may become several, and the small
form of a capital sigma depends on whether it ends a word.
-/

namespace Placeholder.Text

/-- The characters with the code points of a mapping: those listed for it, or the
image under the runs. -/
def mapCase (expansions : List (Nat × List Nat)) (runs : List CaseTable.Run) (c : Char) :
    List Char :=
  match expansions.lookup c.toNat with
  | some ns => ns.map Char.ofNat
  | none => [Char.ofNat (CaseTable.image runs c.toNat)]

/-- A character in upper case. -/
def upperChar (c : Char) : List Char :=
  if c.toNat < 128 then [c.toUpper]
  else mapCase CaseTable.upperExpansions CaseTable.upperRuns c

/-- A character in lower case, without regard to its neighbours. -/
def lowerChar (c : Char) : List Char :=
  if c.toNat < 128 then [c.toLower]
  else mapCase CaseTable.lowerExpansions CaseTable.lowerRuns c

/-- Whether the first character that is not passed over is cased. -/
def meetsCased (cs : List Char) : Bool :=
  match cs.dropWhile fun c => inRanges CasedTable.caseIgnorable c.toNat with
  | [] => false
  | c :: _ => inRanges CasedTable.cased c.toNat

/-- The lower case of the characters that follow `before`, whose nearest
character stands first. A capital sigma at the end of a word has a form of its
own. -/
def lowerFrom (before : List Char) : List Char → List Char
  | [] => []
  | c :: cs =>
      let here :=
        if c = 'Σ' then (if meetsCased before && !meetsCased cs then ['ς'] else ['σ'])
        else lowerChar c
      here ++ lowerFrom (c :: before) cs

/-- A text in upper case. -/
def upper (s : String) : String := String.ofList (s.toList.flatMap upperChar)

/-- A text in lower case. -/
def lower (s : String) : String := String.ofList (lowerFrom [] s.toList)

/-- A text in lower case, except that its first character is in upper case. -/
def capitalize (s : String) : String :=
  match lowerFrom [] s.toList with
  | [] => ""
  | c :: cs => String.ofList (upperChar c ++ cs)

end Placeholder.Text

import Placeholder.Failure
import Placeholder.Json.Value
import Placeholder.Table
import Placeholder.Tag

/-! # Replacements

What a name in a template stands for: a fixed text, or a producer that answers
the arguments of each tag. Names that stand for nothing give the empty text.
-/

namespace Placeholder

/-- What a name stands for. -/
inductive Replacement where
  /-- The text itself; the arguments of the tag do not matter. -/
  | literal (text : String)
  /-- An answer to the arguments of the tag, given the arguments of the earlier
  calls, the latest one first. These are the calls of this producer; one that shares
  what it remembers with others is not covered. -/
  | producer (answer : List Arguments → Arguments → String) (calls : List Arguments)

namespace Replacement

/-- The value for one tag, and the replacement as it is afterwards. -/
def evaluate (r : Replacement) (args : Arguments) : String × Replacement :=
  match r with
  | .literal text => (text, .literal text)
  | .producer answer calls => (answer calls args, .producer answer (args :: calls))

end Replacement

/-- What the names stand for. -/
abbrev Replacements := Table Replacement

namespace Replacements

/-- The value of a name for one tag: the empty text, where the name stands for
nothing. -/
def evaluate (vars : Replacements) (name : String) (args : Arguments) : String × Replacements :=
  match vars.find? name with
  | some entry =>
      let (value, after) := entry.evaluate args
      (value, vars.insert name after)
  | none => ("", vars)

/-- The replacements with a fixed text set. -/
def setLiteral (vars : Replacements) (name text : String) : Replacements :=
  vars.insert name (.literal text)

/-- The replacements with a member of an object set: texts stand for themselves,
and other values have no text, so their names stand for nothing. -/
def setMember (vars : Replacements) (name : String) (value : Json.Value) : Replacements :=
  match value with
  | .string text => vars.setLiteral name text
  | _ => vars

/-- The replacements that an object gives. Of members with the same name the last
one counts, also where it has no text. -/
def ofJson : Json.Value → Except Failure Replacements
  | .object members =>
      let last : Table Json.Value := Table.ofList members
      .ok (last.entries.foldl (fun vars (name, value) => vars.setMember name value) Table.empty)
  | other => .error (.notAnObject other.kind)

end Replacements

end Placeholder

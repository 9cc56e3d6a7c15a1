import Placeholder.Calendar.Moment
import Placeholder.Failure
import Placeholder.Text.Cut

/-! # Surroundings of a run

What a run of the program finds: files, standard input, a terminal with or without
colours, and the time. Files and standard input are bytes, which have to be the
UTF-8 form of a text. The paths of files are texts themselves: a path of other bytes
is not covered.
-/

namespace Placeholder.CommandLine

/-- Why there are no bytes to read. -/
inductive ReadError where
  | missing
  | isDirectory
  | notDirectory
  | denied
  | nameTooLong
  | other (reason : String)
deriving DecidableEq, Repr

/-- What the system says about it. -/
def ReadError.message : ReadError → String
  | .missing => "No such file or directory (os error 2)"
  | .isDirectory => "Is a directory (os error 21)"
  | .notDirectory => "Not a directory (os error 20)"
  | .denied => "Permission denied (os error 13)"
  | .nameTooLong => "File name too long (os error 36)"
  | .other reason => reason

/-- What a run of the program finds. -/
structure Environment where
  files : String → Except ReadError ByteArray
  input : ByteArray
  colour : Bool
  now : Moment

/-- The message about bytes that are no text. -/
def notText : String := "stream did not contain valid UTF-8"

namespace Environment

/-- The text of a file. -/
def readText (env : Environment) (path : String) : Except Failure String :=
  match env.files path with
  | .error e => .error (.unreadableFile path e.message)
  | .ok bytes =>
      match String.fromUTF8? bytes with
      | some text => .ok text
      | none => .error (.unreadableFile path notText)

/-- The text of standard input. -/
def readInput (env : Environment) : Except Failure String :=
  match String.fromUTF8? env.input with
  | some text => .ok text
  | none => .error (.unreadableInput notText)

end Environment

/-- What stands behind the last dot in the name of a file, unless the name begins
with that dot. -/
def fileExtension? (path : String) : Option String := do
  let names := (Text.pieces '/' path.toList).filter fun name => !name.isEmpty && name != ['.']
  let name ← names.getLast?
  let backward := name.reverse
  let after := backward.takeWhile (· != '.')
  match backward.dropWhile (· != '.') with
  | _ :: _ :: _ => some (String.ofList after.reverse)
  | _ => none

end Placeholder.CommandLine

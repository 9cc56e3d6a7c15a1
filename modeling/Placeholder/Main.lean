import Placeholder.CommandLine.Run
import Std.Time.DateTime.Timestamp

/-! # The program

Gathers what a run of the program finds, and writes what it leaves.
-/

namespace Placeholder

open CommandLine

/-- The number that the system has for an error. It may come with a minus sign. -/
def systemNumber (code : UInt32) : Nat :=
  if code < 0x80000000 then code.toNat else (0 - code).toNat

/-- Why a file cannot be read. -/
def readErrorOf : IO.Error → ReadError
  | .noFileOrDirectory .. => .missing
  | .inappropriateType _ code _ => if systemNumber code = 20 then .notDirectory else .isDirectory
  | .permissionDenied .. => .denied
  | .invalidArgument _ code details =>
      if systemNumber code = 36 then .nameTooLong else .other details
  | e => .other (toString e)

/-- The bytes of a file. -/
def readBytes (path : String) : IO (Except ReadError ByteArray) := do
  try
    return .ok (← IO.FS.readBinFile path)
  catch e => return .error (readErrorOf e)

/-- All bytes of a stream. -/
partial def readAll (stream : IO.FS.Stream) (bytes : ByteArray) : IO ByteArray := do
  let more ← stream.read 65536
  if more.isEmpty then return bytes else readAll stream (bytes ++ more)

/-- The files that a request names. -/
def namedFiles (request : Request) : List String :=
  let vars := match request.command with
    | .render _ vars _ => vars
    | _ => none
  request.config.toList ++ vars.toList

/-- Whether a request renders standard input. -/
def rendersInput (request : Request) : Bool :=
  match request.command with
  | .render templates _ _ => templates.isEmpty
  | _ => false

/-- Whether a variable of the environment is set, and not to zero. -/
def isOn (name : String) : IO (Option Bool) := do
  return (← IO.getEnv name).map (· != "0")

/-- Whether to write in colours. -/
def usesColour : IO Bool := do
  if (← isOn "CLICOLOR_FORCE") == some true then return true
  if (← isOn "NO_COLOR").isSome then return false
  return (← isOn "CLICOLOR").getD true && (← (← IO.getStdout).isTty)

/-- What a run finds, as far as its request asks for it. The time is read once, and
as a time in UTC: the offset of the place is left out. -/
def environmentOf (request : Option Request) : IO Environment := do
  let paths := request.elim [] namedFiles
  let files ← paths.mapM fun path => return (path, ← readBytes path)
  let input ← if request.any rendersInput then readAll (← IO.getStdin) .empty else pure .empty
  let nanos := (← Std.Time.Timestamp.now).toNanosecondsSinceUnixEpoch.val
  return {
    files := fun path => (files.lookup path).getD (.error .missing)
    input := input
    colour := ← usesColour
    now := ⟨nanos / 1000000000, (nanos % 1000000000).toNat, 0⟩ }

end Placeholder

/-- Runs the program. -/
def main (words : List String) : IO UInt32 := do
  let request := (Placeholder.CommandLine.Request.ofWords words).toOption
  let report := Placeholder.CommandLine.run (← Placeholder.environmentOf request) words
  (← IO.getStdout).putStr report.output
  (← IO.getStderr).putStr report.errors
  return report.code.toUInt32

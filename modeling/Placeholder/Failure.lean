/-! # Failures

What can go wrong before anything is rendered: files that cannot be read,
documents that cannot be understood, settings and assignments that make no
sense. Every failure comes with a text that tells what happened and a text that
suggests what to do.
-/

namespace Placeholder

/-- Why the program cannot start its work. -/
inductive Failure where
  /-- Standard input cannot be read. -/
  | unreadableInput (reason : String)
  /-- A document is not YAML, or not of the right shape. -/
  | badYaml
  /-- A document is not JSON. -/
  | badJson
  /-- A file cannot be read. -/
  | unreadableFile (path : String) (reason : String)
  /-- A setting has a value that it cannot have. -/
  | badSetting (setting : String) (details : String)
  /-- The values for names are not given as an object. -/
  | notAnObject (found : String)
  /-- An assignment has no name or no equals sign. -/
  | badAssignment (text : String)
deriving DecidableEq, Repr

namespace Failure

/-- What happened. The details of a broken document are left to the reader of
the document. -/
def message : Failure → String
  | .unreadableInput reason => "IO error: " ++ reason
  | .badYaml => "YAML parse error:"
  | .badJson => "JSON parse error:"
  | .unreadableFile path reason => "Cannot read '" ++ path ++ "': " ++ reason
  | .badSetting setting details => "Invalid config: " ++ setting ++ ": " ++ details
  | .notAnObject found =>
      "Replacement map must be an object of name/value pairs, got " ++ found
  | .badAssignment text => "Invalid assignment '" ++ text ++ "' (expected NAME=VALUE)"

/-- What to do about it. -/
def fix : Failure → String
  | .unreadableInput _ => "Check file path and permissions"
  | .badYaml => "Check YAML syntax: indentation and quoting"
  | .badJson => "Check JSON syntax (try parsing with jq)"
  | .unreadableFile _ _ => "Check file path and permissions"
  | .badSetting _ _ => "Fix the config value or remove it to use the default"
  | .notAnObject _ => "Use a top-level object, e.g. \x7b\"name\": \"value\"\x7d"
  | .badAssignment _ => "Use --set name=value"

end Failure

end Placeholder

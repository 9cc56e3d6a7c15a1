/-! # Why a processor fails

The causes for which a processor gives no result. A failing processor never
stops a rendering: the value then stays as it was.
-/

namespace Placeholder.Processor

/-- Why a processor gives no result for a value. -/
inductive Error where
  /-- The value is no date or time that can be read. -/
  | unreadableDate (value : String)
  /-- The pattern for a date cannot be used. -/
  | badPattern (pattern : String)
  /-- The value is no finite number. -/
  | notANumber (value : String)
  /-- An argument is outside what the parameter takes. -/
  | badArgument (parameter : String) (argument : String)
  /-- No locale has this name. -/
  | unknownLocale (locale : String)
  /-- A currency code is not three letters. -/
  | badCurrencyCode (code : String)
  /-- The result cannot be written. -/
  | unwritable (reason : String)
deriving DecidableEq, Repr

/-- The text that tells a reader about a failure. -/
def Error.message : Error → String
  | .unreadableDate value => "'" ++ value ++ "' is not a recognised date/time"
  | .badPattern pattern => "invalid date pattern '" ++ pattern ++ "'"
  | .notANumber value => "'" ++ value ++ "' is not a number"
  | .badArgument parameter argument => "invalid argument '" ++ argument ++ "' for " ++ parameter
  | .unknownLocale locale => "unknown locale '" ++ locale ++ "'"
  | .badCurrencyCode code => "malformed currency code '" ++ code ++ "'"
  | .unwritable reason => "formatting failed: " ++ reason

end Placeholder.Processor

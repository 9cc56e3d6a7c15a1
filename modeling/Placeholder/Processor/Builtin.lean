import Placeholder.Calendar.Reader
import Placeholder.Calendar.Writer
import Placeholder.Config
import Placeholder.Money.Format
import Placeholder.Tag
import Placeholder.Text.Case

/-! # The processors that are always there

Six processors for dates, case, money and numbers. An argument that a tag does
not give comes from the configuration. For most parameters an empty argument
counts as not given; the separators of `number` may be empty.
-/

namespace Placeholder

/-- The processors that are always there. -/
inductive Builtin where
  | date | upper | lower | capitalize | currency | number
deriving DecidableEq, Repr

namespace Builtin

/-- All of them. -/
def all : List Builtin := [.date, .upper, .lower, .capitalize, .currency, .number]

/-- The name by which a tag asks for a processor. -/
def name : Builtin → String
  | .date => "date"
  | .upper => "upper"
  | .lower => "lower"
  | .capitalize => "capitalize"
  | .currency => "currency"
  | .number => "number"

/-- The processor with a name. -/
def ofName? (name : String) : Option Builtin := all.find? fun b => b.name == name

/-- The argument at a position, possibly empty. -/
def argument? (args : Arguments) (index : Nat) : Option String := args.bind fun xs => xs[index]?

/-- The argument at a position, unless it is empty. -/
def filledArgument? (args : Arguments) (index : Nat) : Option String :=
  (argument? args index).filter fun s => !s.isEmpty

/-- The number of decimals that an argument asks for. -/
def decimalsOf (argument : String) : Except Processor.Error Nat :=
  match Number.readNat64? (Text.trimList argument.toList) with
  | some n =>
      if n ≤ Number.maxDecimals then .ok n else .error (.badArgument "decimals" argument)
  | none => .error (.badArgument "decimals" argument)

/-- A date written by a pattern. -/
def runDate (defaults : DateDefaults) (now : Moment) (value : String) (args : Arguments) :
    Except Processor.Error String := do
  let moment ← Moment.parse now value
  moment.format ((filledArgument? args 0).getD defaults.pattern)

/-- An amount of money in a locale and a currency. -/
def runCurrency (defaults : MoneyDefaults) (value : String) (args : Arguments) :
    Except Processor.Error String := do
  let amount ← Number.parse value
  Money.format amount ((filledArgument? args 0).getD defaults.locale)
    ((filledArgument? args 1).getD defaults.code)

/-- A number with decimals and separators. -/
def runNumber (defaults : NumberDefaults) (value : String) (args : Arguments) :
    Except Processor.Error String := do
  let amount ← Number.parse value
  let decimals ← match filledArgument? args 0 with
    | some argument => decimalsOf argument
    | none => .ok defaults.decimals
  Number.format amount decimals ((argument? args 1).getD defaults.point)
    ((argument? args 2).getD defaults.separator)

/-- The result of a processor for a value and the arguments of a tag. -/
def run (config : Config) (now : Moment) (builtin : Builtin) (value : String)
    (args : Arguments) : Except Processor.Error String :=
  match builtin with
  | .date => runDate config.date now value args
  | .upper => .ok (Text.upper value)
  | .lower => .ok (Text.lower value)
  | .capitalize => .ok (Text.capitalize value)
  | .currency => runCurrency config.money value args
  | .number => runNumber config.number value args

end Builtin

end Placeholder

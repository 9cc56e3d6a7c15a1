import Placeholder.Calendar.Pattern
import Placeholder.Failure
import Placeholder.Money.Currency
import Placeholder.Money.Locale
import Placeholder.Number.Amount

/-! # Configuration

The settings of an engine: what the processors use where a tag gives no
argument, and how many templates are remembered. Every setting has a default.
-/

namespace Placeholder

/-- The settings of the processor `date`. -/
structure DateDefaults where
  pattern : String := "%Y-%m-%d %H:%M:%S"
deriving DecidableEq, Repr

/-- The settings of the processor `currency`. -/
structure MoneyDefaults where
  locale : String := "en_US"
  code : String := "USD"
deriving DecidableEq, Repr

/-- The settings of the processor `number`. -/
structure NumberDefaults where
  decimals : Nat := 0
  point : String := ","
  separator : String := " "
deriving DecidableEq, Repr

/-- Whether templates that were read are remembered, and how many of them. -/
structure CacheSettings where
  enabled : Bool := true
  capacity : Nat := 1024
deriving DecidableEq, Repr

/-- All settings. -/
structure Config where
  date : DateDefaults := {}
  money : MoneyDefaults := {}
  number : NumberDefaults := {}
  cache : CacheSettings := {}
deriving DecidableEq, Repr

namespace Config

/-- The first setting, in the order of the fields, that has a value it cannot
have. -/
def problem? (c : Config) : Option Failure :=
  if c.date.pattern.isEmpty then
    some (.badSetting "date.format" "must not be empty")
  else if !Pattern.isValid c.date.pattern then
    some (.badSetting "date.format" ("'" ++ c.date.pattern ++ "' is not a valid strftime pattern"))
  else if (Locale.find? c.money.locale).isNone then
    some (.badSetting "currency.locale" ("unknown locale '" ++ c.money.locale ++ "'"))
  else if !Currency.isCode c.money.code then
    some (.badSetting "currency.code" ("'" ++ c.money.code ++ "' is not a 3-letter ISO 4217 code"))
  else if Number.maxDecimals < c.number.decimals then
    some (.badSetting "number.decimals" ("must be at most " ++ toString Number.maxDecimals))
  else if c.cache.enabled && c.cache.capacity == 0 then
    some (.badSetting "cache.capacity" "must be greater than 0 when the cache is enabled")
  else none

/-- A configuration that has been checked. -/
def validate (c : Config) : Except Failure Config :=
  match c.problem? with
  | some failure => .error failure
  | none => .ok c

end Config

end Placeholder

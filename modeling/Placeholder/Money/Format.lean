import Placeholder.Money.Currency
import Placeholder.Money.Locale
import Placeholder.Number.Amount

/-! # Money

An amount of money is written as the amount without its sign in the way of the
locale, with the symbol of the currency before or after it and the sign in front
of both. As for plain amounts, the sign follows the digits that are written.
-/

namespace Placeholder.Money

/-- A sign, a symbol and the written amount put together. -/
def compose (placement : Placement) (sign symbol amount : String) : String :=
  match placement with
  | .before => sign ++ symbol ++ amount
  | .beforeSpaced => sign ++ symbol ++ Locale.hardSpace ++ amount
  | .afterSpaced => sign ++ amount ++ Locale.hardSpace ++ symbol

/-- An amount of money in a locale and a currency, both given by name. -/
def format (x : Binary64) (locale code : String) : Except Processor.Error String :=
  match Locale.find? locale with
  | none => .error (.unknownLocale locale)
  | some rules =>
      match Currency.ofCode? code with
      | none => .error (.badCurrencyCode code)
      | some currency =>
          match Number.format x.abs currency.decimals rules.point rules.separator with
          | .error e => .error e
          | .ok amount =>
              let negative := x.isNegative && Number.hasNonZero amount.toList
              .ok (compose rules.placement (if negative then "-" else "") currency.symbol amount)

end Placeholder.Money

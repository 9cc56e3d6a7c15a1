/-! # Currencies

A currency is named by a code of three ASCII letters, in any case. The table
gives symbols and the number of decimals; a code that it does not hold is its own
symbol and has two decimals.
-/

namespace Placeholder

/-- A currency: the code, the symbol and the number of decimals. -/
structure Currency where
  code : String
  symbol : String
  decimals : Nat
deriving DecidableEq, Repr

namespace Currency

/-- The currencies with a symbol of their own. -/
def all : List Currency :=
  [ ⟨"USD", "$", 2⟩,
    ⟨"EUR", "€", 2⟩,
    ⟨"GBP", "£", 2⟩,
    ⟨"JPY", "¥", 0⟩,
    ⟨"CNY", "CN¥", 2⟩,
    ⟨"CHF", "CHF", 2⟩,
    ⟨"CAD", "CA$", 2⟩,
    ⟨"AUD", "A$", 2⟩,
    ⟨"BRL", "R$", 2⟩,
    ⟨"PLN", "zł", 2⟩,
    ⟨"RUB", "₽", 2⟩,
    ⟨"UAH", "₴", 2⟩,
    ⟨"INR", "₹", 2⟩,
    ⟨"KRW", "₩", 0⟩,
    ⟨"SEK", "kr", 2⟩,
    ⟨"NOK", "kr", 2⟩,
    ⟨"DKK", "kr", 2⟩ ]

/-- Whether a text is a code: exactly three ASCII letters. -/
def isCode (text : String) : Bool := text.toList.length == 3 && text.toList.all Char.isAlpha

/-- The currency with a code, in any case. -/
def ofCode? (text : String) : Option Currency :=
  if isCode text then
    let code := String.ofList (text.toList.map Char.toUpper)
    some ((all.find? fun c => c.code == code).getD ⟨code, code, 2⟩)
  else none

end Currency

end Placeholder

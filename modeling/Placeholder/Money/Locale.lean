import Placeholder.Text.Blank
import Placeholder.Text.Cut

/-! # Locales

How amounts of money are written in a region: the decimal point, the separator
between groups of digits and the place of the currency symbol. A locale has a
language in small letters and a region in capitals; it is asked for by a text in
which case, blanks at the ends and the choice between `-` and `_` do not matter,
and a region that is not listed stands for the first one of its language.
-/

namespace Placeholder

/-- Where the symbol of a currency stands. -/
inductive Placement where
  /-- Directly before the amount. -/
  | before
  /-- Before the amount, with a space that does not break. -/
  | beforeSpaced
  /-- After the amount, with a space that does not break. -/
  | afterSpaced
deriving DecidableEq, Repr

/-- The way in which a region writes amounts. -/
structure Locale where
  language : String
  region : String
  point : String
  separator : String
  placement : Placement
deriving DecidableEq, Repr

namespace Locale

/-- The space that does not break a line. -/
def hardSpace : String := "\u00a0"

/-- The narrow space that does not break a line. -/
def narrowSpace : String := "\u202f"

/-- The locales, the first one of a language standing for the language. -/
def all : List Locale :=
  [ ⟨"en", "US", ".", ",", .before⟩,
    ⟨"en", "GB", ".", ",", .before⟩,
    ⟨"en", "CA", ".", ",", .before⟩,
    ⟨"en", "AU", ".", ",", .before⟩,
    ⟨"de", "DE", ",", ".", .afterSpaced⟩,
    ⟨"de", "CH", ".", "’", .beforeSpaced⟩,
    ⟨"fr", "FR", ",", narrowSpace, .afterSpaced⟩,
    ⟨"es", "ES", ",", ".", .afterSpaced⟩,
    ⟨"it", "IT", ",", ".", .afterSpaced⟩,
    ⟨"nl", "NL", ",", ".", .beforeSpaced⟩,
    ⟨"pt", "BR", ",", ".", .beforeSpaced⟩,
    ⟨"pl", "PL", ",", hardSpace, .afterSpaced⟩,
    ⟨"ru", "RU", ",", hardSpace, .afterSpaced⟩,
    ⟨"uk", "UA", ",", hardSpace, .afterSpaced⟩,
    ⟨"ja", "JP", ".", ",", .before⟩,
    ⟨"zh", "CN", ".", ",", .before⟩ ]

/-- The name of a locale: language and region. -/
def id (l : Locale) : String := l.language ++ "_" ++ l.region

/-- The language and the region that a text asks for. The first `-` or `_`
divides them, and further ones belong to the region. -/
def request (text : String) : String × Option String :=
  let cs := (Text.trimList text.toList).map fun c => if c = '-' then '_' else c
  let lower (cs : List Char) := String.ofList (cs.map Char.toLower)
  let upper (cs : List Char) := String.ofList (cs.map Char.toUpper)
  match Text.splitFirst? '_' cs with
  | some (language, region) => (lower language, some (upper region))
  | none => (lower cs, none)

/-- The locale that a text asks for. -/
def find? (text : String) : Option Locale :=
  let (language, region?) := request text
  let listed? := region?.bind fun region =>
    all.find? fun l => l.language == language && l.region == region
  listed?.or (all.find? fun l => l.language == language)

end Locale

end Placeholder

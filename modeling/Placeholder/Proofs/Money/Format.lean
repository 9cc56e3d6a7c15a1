import Placeholder.Processor.Builtin
import Placeholder.Proofs.Number.Format

/-! # Amounts of money and numbers

An amount of money is a number with the decimals of its currency and the separators of its locale,
to which the symbol is added (`currency_agrees_with_number`).

The two find their sign in different ways: a number from its digits before they are laid out, money
from the whole text of the amount without its sign. They agree because a number and its negative
have the same digits, and because no locale has a digit in its point or its separator
(`hasNonZero_separators`).
-/

namespace Placeholder

/-- Two failures are of one kind, whatever texts they carry. -/
def Processor.Error.SameKind (e other : Processor.Error) : Prop := e.ctorIdx = other.ctorIdx

/-! ## What locales and currencies are like -/

theorem Locale.mem_of_find? {text : String} {l : Locale} (h : Locale.find? text = some l) :
    l ∈ Locale.all := by
  unfold Locale.find? at h
  dsimp only at h
  rcases Option.or_eq_some_iff.mp h with hlisted | ⟨-, hlanguage⟩
  · rcases Option.bind_eq_some_iff.mp hlisted with ⟨region, -, hregion⟩
    exact List.mem_of_find?_eq_some hregion
  · exact List.mem_of_find?_eq_some hlanguage

theorem Locale.find?_empty : Locale.find? "" = none := by decide +kernel

/-- No locale has a digit in its point or between its groups. -/
theorem Locale.hasNonZero_separators : ∀ l ∈ Locale.all,
    Number.hasNonZero l.point.toList = false ∧ Number.hasNonZero l.separator.toList = false := by
  decide +kernel

/-- Currencies have no decimals or two. -/
theorem Currency.decimals_of_ofCode? {code : String} {currency : Currency}
    (h : Currency.ofCode? code = some currency) : currency.decimals = 0 ∨ currency.decimals = 2 := by
  have hlisted : ∀ c ∈ Currency.all, c.decimals = 0 ∨ c.decimals = 2 := by decide
  obtain ⟨-, h⟩ := Option.ite_none_right_eq_some.mp h
  have hcurrency := Option.some.inj h
  cases hfound : Currency.all.find? fun c =>
      c.code == String.ofList (code.toList.map Char.toUpper) with
  | none =>
      rw [hfound] at hcurrency
      rw [← hcurrency]
      exact .inr rfl
  | some c =>
      rw [hfound] at hcurrency
      rw [← hcurrency]
      exact hlisted c (List.mem_of_find?_eq_some hfound)

theorem Currency.ofCode?_empty : Currency.ofCode? "" = none := by decide +kernel

namespace Number

theorem hasNonZero_append (cs ds : List Char) :
    hasNonZero (cs ++ ds) = (hasNonZero cs || hasNonZero ds) := List.any_append

/-- A separator without digits adds none. -/
theorem hasNonZero_group {separator : List Char} (h : hasNonZero separator = false)
    (cs : List Char) : hasNonZero (group separator cs) = hasNonZero cs := by
  induction cs with
  | nil => rfl
  | cons d rest ih =>
      rcases group_cons separator d rest with ⟨between, hbetween, hgroup⟩
      have hnone : hasNonZero between = false := by
        rcases hbetween with rfl | rfl
        · rfl
        · exact h
      have hcons : ∀ ds, hasNonZero (d :: ds) = (hasNonZero [d] || hasNonZero ds) :=
        fun ds => hasNonZero_append [d] ds
      rw [hgroup, hcons, hasNonZero_append, hnone, Bool.false_or, ih, ← hcons]

theorem hasNonZero_tailOf {decimals : Nat} {point : String} {fraction : List Char}
    (hpoint : hasNonZero point.toList = false) (hfraction : fraction.length = decimals) :
    hasNonZero (tailOf decimals point fraction) = hasNonZero fraction := by
  unfold tailOf
  by_cases hnone : decimals = 0
  · have hempty : fraction = [] := List.eq_nil_of_length_eq_zero (hfraction.trans hnone)
    rw [if_pos hnone, hempty]
  · rw [if_neg hnone, hasNonZero_append, hpoint, Bool.false_or]

/-- Grouping leaves the first digit in front. -/
theorem head?_group (separator cs : List Char) : (group separator cs).head? = cs.head? := by
  cases cs with
  | nil => rfl
  | cons d rest =>
      rcases group_cons separator d rest with ⟨between, -, hgroup⟩
      rw [hgroup, List.head?_cons, List.head?_cons]

/-- A number that is read is finite. -/
theorem exists_finite_of_parse {text : String} {x : Binary64} (h : Number.parse text = .ok x) :
    ∃ negative magnitude, x = .finite negative magnitude := by
  unfold Number.parse at h
  split at h
  · next y _ =>
      by_cases hfinite : y.isFinite = true
      · rw [if_pos hfinite] at h
        cases h
        cases x with
        | finite negative magnitude => exact ⟨negative, magnitude, rfl⟩
        | infinite negative => cases hfinite
        | nan => cases hfinite
      · rw [if_neg hfinite] at h
        cases h
  · cases h

end Number

namespace Money

open Number

/-- An amount without its sign, with the symbol at its place. -/
def besideSymbol (placement : Placement) (symbol amount : String) : String :=
  match placement with
  | .before => symbol ++ amount
  | .beforeSpaced => symbol ++ Locale.hardSpace ++ amount
  | .afterSpaced => amount ++ Locale.hardSpace ++ symbol

/-- The sign comes first at every place of the symbol. -/
theorem compose_eq (placement : Placement) (sign symbol amount : String) :
    compose placement sign symbol amount = sign ++ besideSymbol placement symbol amount := by
  cases placement with
  | before => exact String.append_assoc
  | beforeSpaced =>
      show sign ++ symbol ++ Locale.hardSpace ++ amount =
        sign ++ (symbol ++ Locale.hardSpace ++ amount)
      rw [String.append_assoc, String.append_assoc, String.append_assoc]
  | afterSpaced =>
      show sign ++ amount ++ Locale.hardSpace ++ symbol =
        sign ++ (amount ++ Locale.hardSpace ++ symbol)
      rw [String.append_assoc, String.append_assoc, String.append_assoc]

variable {locale code : String} {rules : Locale} {currency : Currency}

/-- Where the amount without its sign can be written, the sign follows its digits. -/
theorem format_of_roundTo? (hlocale : Locale.find? locale = some rules)
    (hcode : Currency.ofCode? code = some currency) {magnitude rounded : Magnitude}
    (hrounded : roundTo? magnitude currency.decimals = some rounded) (negative : Bool) :
    ∃ sign unsigned, (sign = "" ∨ sign = "-") ∧
      (∃ d, unsigned.toList.head? = some d ∧ isDigit d = true) ∧
      Number.format (.finite negative magnitude) currency.decimals rules.point rules.separator =
        .ok (sign ++ unsigned) ∧
      format (.finite negative magnitude) locale code =
        .ok (sign ++ besideSymbol rules.placement currency.symbol unsigned) := by
  obtain ⟨hwhole, hfraction, -⟩ := fixedParts_spec rounded currency.decimals
  have hdigits := isDigit_of_mem_fixedParts rounded currency.decimals
  have hseparators := Locale.hasNonZero_separators rules (Locale.mem_of_find? hlocale)
  have hnumber := Number.format_of_roundTo? hrounded negative rules.point rules.separator
  have habs := Number.format_of_roundTo? hrounded false rules.point rules.separator
  generalize (rounded.fixedParts currency.decimals).1 = whole at *
  generalize (rounded.fixedParts currency.decimals).2 = fraction at *
  -- a magnitude has no sign, so its text is that of the digits alone
  have hnone : signOf (.finite false magnitude) (whole ++ fraction) = [] := by
    rw [signOf_eq hdigits]
    rfl
  rw [hnone, List.nil_append] at habs
  -- the test on the text of the magnitude is that on its digits
  have hsame : hasNonZero (group rules.separator.toList whole ++
      tailOf currency.decimals rules.point fraction) = hasNonZero (whole ++ fraction) := by
    rw [hasNonZero_append, hasNonZero_group hseparators.2,
      hasNonZero_tailOf hseparators.1 hfraction.length, hasNonZero_append]
  have hsign : String.ofList (signOf (.finite negative magnitude) (whole ++ fraction)) =
      if ((Binary64.finite negative magnitude).isNegative && hasNonZero (whole ++ fraction)) = true
        then "-" else "" := by
    rw [signOf_eq hdigits]
    split
    · rfl
    · rfl
  refine ⟨String.ofList (signOf (.finite negative magnitude) (whole ++ fraction)),
    String.ofList (group rules.separator.toList whole ++
      tailOf currency.decimals rules.point fraction), ?_, ?_, ?_, ?_⟩
  · rw [hsign]
    split
    · exact .inr rfl
    · exact .inl rfl
  · rcases List.exists_cons_of_ne_nil hwhole.ne_nil with ⟨d, rest, hcons⟩
    refine ⟨d, ?_, hwhole.digits d (by rw [hcons]; exact List.mem_cons_self)⟩
    rw [String.toList_ofList, List.head?_append, head?_group, hcons]
    rfl
  · rw [hnumber, List.append_assoc, String.ofList_append]
  · have hunsigned : (Binary64.finite negative magnitude).abs = .finite false magnitude := rfl
    simp only [format, hlocale, hcode, hunsigned, habs, String.toList_ofList, hsame, compose_eq,
      hsign]

/-- Where it cannot, both fail. -/
theorem format_of_not_roundTo? (hlocale : Locale.find? locale = some rules)
    (hcode : Currency.ofCode? code = some currency) {magnitude : Magnitude}
    (hrounded : roundTo? magnitude currency.decimals = none) (negative : Bool) :
    ∃ reason reason',
      Number.format (.finite negative magnitude) currency.decimals rules.point rules.separator =
        .error (.unwritable reason) ∧
      format (.finite negative magnitude) locale code = .error (.unwritable reason') := by
  obtain ⟨reason, hnumber⟩ :=
    Number.format_of_not_roundTo? hrounded negative rules.point rules.separator
  obtain ⟨reason', habs⟩ := Number.format_of_not_roundTo? hrounded false rules.point rules.separator
  refine ⟨reason, reason', hnumber, ?_⟩
  have hunsigned : (Binary64.finite negative magnitude).abs = .finite false magnitude := rfl
  simp only [format, hlocale, hcode, hunsigned, habs]

end Money

namespace Builtin

open Money Number

/-- Every number of decimals that is allowed can be asked for as an argument. -/
theorem decimalsOf_toString {decimals : Nat} (h : decimals ≤ Number.maxDecimals) :
    decimalsOf (toString decimals) = .ok decimals ∧ toString decimals ≠ "" := by
  have hsize : decimals < Nat.pow 2 64 := Nat.lt_of_le_of_lt h (by decide)
  have hdigits : ∀ c ∈ digitsOf decimals, Text.isBlank c = false :=
    fun c hc => isBlank_of_isDigit ((numeral_digitsOf decimals).digits c hc)
  constructor
  · unfold decimalsOf
    rw [toList_toString_nat, Text.trimList_of_not_blank hdigits, readNat64?_digitsOf hsize]
    exact if_pos h
  · intro hempty
    apply digitsOf_ne_nil decimals
    rw [← toList_toString_nat, hempty]
    rfl

/-- The decimals of a currency are allowed. -/
theorem decimalsOf_currency {code : String} {currency : Currency}
    (h : Currency.ofCode? code = some currency) :
    decimalsOf (toString currency.decimals) = .ok currency.decimals ∧
      toString currency.decimals ≠ "" := by
  apply decimalsOf_toString
  rcases Currency.decimals_of_ofCode? h with hdecimals | hdecimals
  · rw [hdecimals]
    decide
  · rw [hdecimals]
    decide

theorem filledArgument?_of_ne {args : List String} {index : Nat} {argument : String}
    (h : args[index]? = some argument) (hne : argument ≠ "") :
    filledArgument? (some args) index = some argument := by
  have hfilled : (!argument.isEmpty) = true := by
    rw [Bool.not_eq_true', ← Bool.not_eq_true, String.isEmpty_iff]
    exact hne
  rw [filledArgument?, argument?, Option.bind_some, h, Option.filter_some, if_pos hfilled]

/-- A number with its decimals and separators as arguments. -/
theorem runNumber_eq {decimals : Nat} (h : decimals ≤ Number.maxDecimals) (numbers : NumberDefaults)
    {value : String} {x : Binary64} (hvalue : Number.parse value = .ok x)
    (point separator : String) :
    runNumber numbers value (some [toString decimals, point, separator]) =
      Number.format x decimals point separator := by
  obtain ⟨hdecimals, hne⟩ := decimalsOf_toString h
  have hfirst : filledArgument? (some [toString decimals, point, separator]) 0 =
      some (toString decimals) := filledArgument?_of_ne rfl hne
  unfold runNumber
  rw [hvalue, hfirst]
  simp only [hdecimals, bind, Except.bind]
  rfl

/-- **Money agrees with numbers.** Take a locale that is listed and a currency, and write a value as
an amount of money in them, and as a number with the decimals of the currency and the separators of
the locale. Either both fail, in one kind, or both are written: the number as a sign, which may be
missing, and an amount that begins with a digit, and the money as the same sign, always first,
and the same amount with the symbol at its place. -/
theorem currency_agrees_with_number (money : MoneyDefaults) (numbers : NumberDefaults)
    {locale code : String} {rules : Locale} {currency : Currency} (value : String)
    (hlocale : Locale.find? locale = some rules) (hcode : Currency.ofCode? code = some currency) :
    (∃ e e', runCurrency money value (some [locale, code]) = .error e ∧
      runNumber numbers value (some [toString currency.decimals, rules.point, rules.separator]) =
        .error e' ∧ e.SameKind e') ∨
    ∃ sign unsigned, (sign = "" ∨ sign = "-") ∧
      (∃ d, unsigned.toList.head? = some d ∧ isDigit d = true) ∧
      runNumber numbers value (some [toString currency.decimals, rules.point, rules.separator]) =
        .ok (sign ++ unsigned) ∧
      runCurrency money value (some [locale, code]) = .ok (sign ++
        match rules.placement with
        | .before => currency.symbol ++ unsigned
        | .beforeSpaced => currency.symbol ++ "\u00a0" ++ unsigned
        | .afterSpaced => unsigned ++ "\u00a0" ++ currency.symbol) := by
  -- neither the locale nor the code is empty, so no default takes its place
  have hlocale' : locale ≠ "" := by
    rintro rfl
    rw [Locale.find?_empty] at hlocale
    cases hlocale
  have hcode' : code ≠ "" := by
    rintro rfl
    rw [Currency.ofCode?_empty] at hcode
    cases hcode
  obtain ⟨hdecimals, hdecimals'⟩ := decimalsOf_currency hcode
  have hfirst : filledArgument? (some [locale, code]) 0 = some locale :=
    filledArgument?_of_ne rfl hlocale'
  have hsecond : filledArgument? (some [locale, code]) 1 = some code :=
    filledArgument?_of_ne rfl hcode'
  have hthird : filledArgument? (some [toString currency.decimals, rules.point, rules.separator])
      0 = some (toString currency.decimals) := filledArgument?_of_ne rfl hdecimals'
  unfold runCurrency runNumber
  rw [hfirst, hsecond, hthird]
  -- both read the value first and round it to the same decimals, and fail where one of the
  -- two steps does
  cases hvalue : Number.parse value with
  | error e =>
      left
      exact ⟨e, e, rfl, rfl, rfl⟩
  | ok x =>
      rcases exists_finite_of_parse hvalue with ⟨negative, magnitude, rfl⟩
      simp only [hdecimals, bind, Except.bind]
      cases hrounded : roundTo? magnitude currency.decimals with
      | none =>
          left
          rcases Money.format_of_not_roundTo? hlocale hcode hrounded negative with
            ⟨reason, reason', hnumber, hmoney⟩
          exact ⟨.unwritable reason', .unwritable reason, hmoney, hnumber, rfl⟩
      | some rounded =>
          right
          rcases Money.format_of_roundTo? hlocale hcode hrounded negative with
            ⟨sign, unsigned, hsign, hdigit, hnumber, hmoney⟩
          exact ⟨sign, unsigned, hsign, hdigit, hnumber, hmoney⟩

/-- A negative amount with the symbol in front: the number settles what the money is. -/
theorem currency_agrees_with_number_swiss :
    let rules : Locale := ⟨"de", "CH", ".", "’", .beforeSpaced⟩
    Locale.find? " de-ch" = some rules ∧ Currency.ofCode? "eur" = some ⟨"EUR", "€", 2⟩ ∧
      runNumber {} "-1234567.5" (some [toString 2, rules.point, rules.separator]) =
        .ok "-1’234’567.50" ∧
      runCurrency {} "-1234567.5" (some [" de-ch", "eur"]) = .ok "-€\u00a01’234’567.50" := by
  intro rules
  have hlocale : Locale.find? " de-ch" = some rules := by decide +kernel
  have hcode : Currency.ofCode? "eur" = some ⟨"EUR", "€", 2⟩ := by decide +kernel
  have hnumber : runNumber {} "-1234567.5" (some [toString 2, rules.point, rules.separator]) =
      .ok "-1’234’567.50" := by decide +kernel
  refine ⟨hlocale, hcode, hnumber, ?_⟩
  rcases currency_agrees_with_number {} {} "-1234567.5" hlocale hcode with
    ⟨e, e', -, hfails, -⟩ | ⟨sign, unsigned, hsign, ⟨d, hfirst, hdigit⟩, hwritten, hmoney⟩
  · rw [hnumber] at hfails
    cases hfails
  · have htext : "-1’234’567.50" = sign ++ unsigned :=
      Except.ok.inj (hnumber.symm.trans hwritten)
    have hchars : "-1’234’567.50".toList = sign.toList ++ unsigned.toList := by
      rw [htext, String.toList_append]
    rcases hsign with rfl | rfl
    · -- the amount would begin with the minus sign
      have hhead : unsigned.toList.head? = some '-' := by
        rw [show "".toList = [] from rfl, List.nil_append] at hchars
        rw [← hchars]
        rfl
      rw [hhead] at hfirst
      cases hfirst
      cases hdigit
    · have hunsigned : unsigned = "1’234’567.50" := by
        apply String.toList_inj.mp
        exact (List.cons.inj hchars).2.symm
      rw [hmoney, hunsigned]
      rfl

end Builtin

end Placeholder

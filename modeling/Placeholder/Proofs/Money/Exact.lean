import Placeholder.Proofs.Money.Format
import Placeholder.Proofs.Number.Rounding

/-! # Amounts that fit

An amount fits a number of decimals if no more digits than these stand behind its point. Such an
amount is printed as it is written, up to zeros (`fitting_amount_is_exact`), as long as it has at
most `10 ^ 15` units of the last decimal place: the text, the product and the quotient are all
rounded to binary64, but the errors never reach half a unit.
-/

namespace Placeholder

namespace Number

/-- Digits without the zeros in front of them, of which one is left if there is nothing else. -/
def withoutZeros (cs : List Char) : List Char :=
  if cs.dropWhile (· == '0') = [] then ['0'] else cs.dropWhile (· == '0')

theorem isWhole_withoutZeros {cs : List Char} (h : ∀ c ∈ cs, isDigit c = true) :
    IsWhole (withoutZeros cs) := by
  unfold withoutZeros
  split
  · exact ⟨List.all_eq_true.mp rfl, by decide, .inl rfl⟩
  · next hne =>
      refine ⟨?_, hne, .inr ?_⟩
      · intro c hc
        exact h c ((List.dropWhile_sublist _).mem hc)
      · intro hhead
        have hzero := List.head?_dropWhile_not (· == '0') cs
        rw [hhead] at hzero
        cases hzero

/-- Zeros in front do not count. -/
theorem digitsValue_withoutZeros (cs : List Char) :
    digitsValue (withoutZeros cs) = digitsValue cs := by
  have hfront : cs.takeWhile (· == '0') =
      List.replicate (cs.takeWhile (· == '0')).length '0' := by
    apply List.eq_replicate_iff.mpr
    refine ⟨rfl, ?_⟩
    intro c hc
    have hzero : (c == '0') = true := List.mem_takeWhile_imp (p := (· == '0')) hc
    exact beq_iff_eq.mp hzero
  have hdrop : digitsValue (cs.dropWhile (· == '0')) = digitsValue cs := by
    conv_rhs =>
      rw [← List.takeWhile_append_dropWhile (p := (· == '0')) (l := cs), digitsValue_append, hfront,
        digitsValue_zeros, Nat.zero_mul, Nat.zero_add]
  rw [← hdrop]
  unfold withoutZeros
  split
  · next hnone =>
      rw [hnone]
      rfl
  · rfl

namespace WrittenDecimal

/-- The digits behind the point, with zeros up to a number of decimals. -/
def filled (w : WrittenDecimal) (decimals : ℕ) : List Char :=
  w.fraction ++ List.replicate (decimals - w.places) '0'

/-- The number that the digits write, zeros up to a number of decimals included. -/
def unitsFor (w : WrittenDecimal) (decimals : ℕ) : ℕ := digitsValue (w.whole ++ w.filled decimals)

variable (w : WrittenDecimal) {d : ℕ}

theorem unitsFor_eq (d : ℕ) : w.unitsFor d = w.digits * 10 ^ (d - w.places) := by
  rw [unitsFor, filled, ← List.append_assoc, digitsValue_append, digitsValue_zeros,
    List.length_replicate]
  rfl

theorem magnitude_mul (h : w.places ≤ d) : w.magnitude * 10 ^ d = w.unitsFor d := by
  have hsplit : (10 : ℚ) ^ d = 10 ^ w.places * 10 ^ (d - w.places) := by
    rw [← pow_add, Nat.add_sub_cancel' h]
  rw [unitsFor_eq, magnitude, hsplit, ← mul_assoc, div_mul_cancel₀ _ (by positivity)]
  push_cast
  rfl

theorem writesUnits_filled (h : w.places ≤ d) :
    WritesUnits d (w.unitsFor d) (withoutZeros w.whole) (w.filled d) where
  isWhole := isWhole_withoutZeros w.isDigit_of_mem_whole
  isFraction := by
    constructor
    · intro c hc
      rcases List.mem_append.mp hc with hc | hc
      · exact w.isDigit_of_mem_fraction c hc
      · rw [List.eq_of_mem_replicate hc]
        rfl
    · rw [filled, List.length_append, List.length_replicate]
      exact Nat.add_sub_cancel' h
  value := by
    rw [digitsValue_append, digitsValue_withoutZeros, unitsFor, digitsValue_append]

/-- The units of an amount that fits are those that its digits write. -/
theorem roundInteger_of_fits {x factor product rounded : Magnitude}
    (h : RoundedBy x w.magnitude d factor product rounded) (hplaces : w.places ≤ d)
    (hunits : w.unitsFor d ≤ 10 ^ 15) : product.roundInteger = w.unitsFor d := by
  have hbound : (w.unitsFor d : ℚ) ≤ 10 ^ 15 := by exact_mod_cast hunits
  have hsmall : (2 : ℚ) ^ (-200 : ℤ) ≤ 2 ^ (-10 : ℤ) := zpow_le_zpow_right₀ one_le_two (by omega)
  have hmagnitude := w.magnitude_mul hplaces
  -- the error is less than half a unit
  have herror : (w.unitsFor d : ℚ) * 2 ^ (-51 : ℤ) + 2 ^ (-200 : ℤ) < 1 / 2 := by
    have hrelative : (w.unitsFor d : ℚ) * 2 ^ (-51 : ℤ) ≤ 10 ^ 15 * 2 ^ (-51 : ℤ) :=
      mul_le_mul_of_nonneg_right hbound (by positivity)
    generalize (2 : ℚ) ^ (-200 : ℤ) = tiny at *
    norm_num at hsmall hrelative ⊢
    linarith
  apply h.roundInteger_eq
  · rw [hmagnitude]
    linarith
  · rw [hmagnitude]
    linarith

end WrittenDecimal

end Number

namespace Money

open Number

/-- The sign in front of a digit can be told from it. -/
theorem eq_of_sign_append {sign other cs ds : List Char} (hsign : sign = [] ∨ sign = ['-'])
    (hother : other = [] ∨ other = ['-']) (hcs : ∀ c ∈ cs.head?, c ≠ '-')
    (hds : ∀ c ∈ ds.head?, c ≠ '-') (h : sign ++ cs = other ++ ds) : sign = other ∧ cs = ds := by
  have hhead : ∀ rest : List Char, ('-' :: rest).head? = some '-' := fun rest => rfl
  rcases hsign with rfl | rfl
  · rcases hother with rfl | rfl
    · exact ⟨rfl, h⟩
    · rw [List.nil_append] at h
      exact absurd rfl (hcs '-' (h ▸ hhead ds))
  · rcases hother with rfl | rfl
    · rw [List.nil_append] at h
      exact absurd rfl (hds '-' (h ▸ hhead cs))
    · exact ⟨rfl, List.append_cancel_left h⟩

/-- The units settle what is written of an amount of money, too. -/
theorem format_of_roundedBy {locale code : String} {rules : Locale} {currency : Currency}
    (hlocale : Locale.find? locale = some rules) (hcode : Currency.ofCode? code = some currency)
    {x factor product rounded : Magnitude} {q : ℚ}
    (h : RoundedBy x q currency.decimals factor product rounded) {whole fraction : List Char}
    (hparts : WritesUnits currency.decimals product.roundInteger whole fraction)
    (negative : Bool) :
    format (.finite negative x) locale code =
      .ok (String.ofList (signFor negative product.roundInteger) ++
        besideSymbol rules.placement currency.symbol
          (String.ofList (group rules.separator.toList whole ++
            tailOf currency.decimals rules.point fraction))) := by
  have hminus : ∀ {c : Char}, isDigit c = true → c ≠ '-' := by
    rintro c hc rfl
    cases hc
  rcases format_of_roundTo? hlocale hcode h.rounded_eq negative with
    ⟨sign, unsigned, hsign, ⟨first, hfirst, hdigit⟩, hnumber, hmoney⟩
  rw [h.format_eq hparts] at hnumber
  have htexts := congrArg String.toList (Except.ok.inj hnumber)
  rw [String.toList_append, String.toList_ofList, List.append_assoc] at htexts
  have hsign' : sign.toList = [] ∨ sign.toList = ['-'] := by
    rcases hsign with rfl | rfl
    · exact .inl rfl
    · exact .inr rfl
  -- both texts go on with a digit behind the sign
  have hfirst' : ∀ c ∈ (group rules.separator.toList whole ++
      tailOf currency.decimals rules.point fraction).head?, c ≠ '-' := by
    rcases List.exists_cons_of_ne_nil hparts.isWhole.ne_nil with ⟨c, rest, rfl⟩
    rw [List.head?_append, head?_group]
    rintro d hd
    cases hd
    exact hminus (hparts.isWhole.digits c List.mem_cons_self)
  have hunsigned : ∀ c ∈ unsigned.toList.head?, c ≠ '-' := by
    rw [hfirst]
    rintro c hc
    cases hc
    exact hminus hdigit
  obtain ⟨hsame, hsame'⟩ :=
    eq_of_sign_append (signFor_cases negative product.roundInteger) hsign' hfirst' hunsigned htexts
  rw [hmoney, hsame, hsame', String.ofList_toList, String.ofList_toList]

end Money

namespace Builtin

open Money Number

/-- **An amount that fits is printed digit for digit.** A decimal with at most so many digits behind
the point as there are decimals, and at most `10 ^ 15` units of the last one of them, can be written
as a number. Its digits come back: those before the point without the zeros in front, those behind it
with zeros up to the number of decimals, and the minus sign unless all of them are zeros. The same
digits and the same sign make an amount of money in every currency with so many decimals, whether the
locale and the currency are arguments or defaults. -/
theorem fitting_amount_is_exact (w : WrittenDecimal) {d : ℕ} (hd : d ≤ 20) (hplaces : w.places ≤ d)
    (hunits : w.unitsFor d ≤ 10 ^ 15) :
    (∀ numbers point, runNumber numbers w.text (some [toString d, point, ""]) =
      .ok (String.ofList (signFor w.negative (w.unitsFor d) ++ withoutZeros w.whole ++
        tailOf d point (w.filled d)))) ∧
    ∀ money args rules currency,
      Locale.find? ((filledArgument? args 0).getD money.locale) = some rules →
      Currency.ofCode? ((filledArgument? args 1).getD money.code) = some currency →
      currency.decimals = d →
      runCurrency money w.text args =
        .ok (String.ofList (signFor w.negative (w.unitsFor d)) ++
          besideSymbol rules.placement currency.symbol
            (String.ofList (group rules.separator.toList (withoutZeros w.whole) ++
              tailOf d rules.point (w.filled d)))) := by
  have hmagnitude := w.magnitude_mul hplaces
  have hsize : w.magnitude * 10 ^ d ≤ 10 ^ 15 := by
    rw [hmagnitude]
    exact_mod_cast hunits
  have hdigits : w.digits ≤ 10 ^ 15 := by
    rw [w.unitsFor_eq] at hunits
    exact (Nat.le_mul_of_pos_right _ (Nat.pow_pos (by omega))).trans hunits
  rcases w.exists_parse_text hdigits with ⟨x, hparse, hnear⟩
  rcases exists_roundedBy hnear w.magnitude_nonneg hd hsize with ⟨factor, product, rounded, hsteps⟩
  have hinteger := w.roundInteger_of_fits hsteps hplaces hunits
  have hparts := w.writesUnits_filled hplaces
  rw [← hinteger] at hparts
  constructor
  · intro numbers point
    rw [runNumber_eq hd numbers hparse, hsteps.format_eq hparts, hinteger,
      show "".toList = [] from rfl, group_nil]
  · rintro money args rules currency hlocale hcode rfl
    unfold runCurrency
    rw [hparse]
    simp only [bind, Except.bind]
    rw [format_of_roundedBy hlocale hcode hsteps hparts, hinteger]

/-- A zero in front goes and one behind comes, close to the limit. -/
theorem fitting_amount_is_exact_limit :
    let w : WrittenDecimal :=
      ⟨['-'], "09999999999999".toList, ['9'], by decide, List.all_eq_true.mp rfl, by decide⟩
    w.text = "-09999999999999.9" ∧ 2 ≤ 20 ∧ w.places ≤ 2 ∧ w.unitsFor 2 ≤ 10 ^ 15 ∧
      runNumber {} "-09999999999999.9" (some ["2", ",", ""]) = .ok "-9999999999999,90" ∧
      runCurrency {} "-09999999999999.9" (some ["de", "eur"]) =
        .ok "-9.999.999.999.999,90\u00a0€" := by
  intro w
  have htext : w.text = "-09999999999999.9" := by decide +kernel
  have hplaces : w.places ≤ 2 := by decide
  have hunits : w.unitsFor 2 ≤ 10 ^ 15 := by decide +kernel
  obtain ⟨hnumber, hmoney⟩ := fitting_amount_is_exact w (by omega) hplaces hunits
  have hdigits : String.ofList (signFor w.negative (w.unitsFor 2) ++ withoutZeros w.whole ++
      tailOf 2 "," (w.filled 2)) = "-9999999999999,90" := by decide +kernel
  have hamount : String.ofList (signFor w.negative (w.unitsFor 2)) ++
      besideSymbol .afterSpaced "€" (String.ofList
        (group ".".toList (withoutZeros w.whole) ++ tailOf 2 "," (w.filled 2))) =
      "-9.999.999.999.999,90\u00a0€" := by decide +kernel
  refine ⟨htext, by omega, hplaces, hunits, ?_, ?_⟩
  · rw [← htext, ← hdigits]
    exact hnumber {} ","
  · rw [← htext, ← hamount]
    exact hmoney {} (some ["de", "eur"]) ⟨"de", "DE", ",", ".", .afterSpaced⟩ ⟨"EUR", "€", 2⟩
      (by decide +kernel) (by decide +kernel) rfl

end Builtin

end Placeholder

import Placeholder.Number.Amount
import Placeholder.Proofs.Number.Binary64
import Placeholder.Proofs.Number.Digits

/-! # Decimals that are read

A decimal as it is written (`WrittenDecimal`): possibly a sign, digits, and behind a point further
digits. It is read as the binary64 number that its digits and the place of its point say
(`parse_text`), and this number approximates what is written.
-/

namespace Placeholder.Number

open Text

/-- A decimal as it is written. There is no point if no digits stand behind it. -/
structure WrittenDecimal where
  sign : List Char
  whole : List Char
  fraction : List Char
  sign_mem : sign ∈ [[], ['-'], ['+']]
  isDigit_of_mem : ∀ c ∈ whole ++ fraction, isDigit c = true
  ne_nil : whole ++ fraction ≠ []

namespace WrittenDecimal

/-- The point and the digits behind it. -/
def pointed (w : WrittenDecimal) : List Char := if w.fraction = [] then [] else '.' :: w.fraction

/-- The decimal without its sign. -/
def unsigned (w : WrittenDecimal) : List Char := w.whole ++ w.pointed

/-- The whole text. -/
def text (w : WrittenDecimal) : String := String.ofList (w.sign ++ w.unsigned)

/-- Whether there is a minus sign. -/
def negative (w : WrittenDecimal) : Bool := w.sign == ['-']

/-- The number of digits behind the point. -/
def places (w : WrittenDecimal) : ℕ := w.fraction.length

/-- The number that the digits write without the point. -/
def digits (w : WrittenDecimal) : ℕ := digitsValue (w.whole ++ w.fraction)

/-- The number that is written, without its sign. -/
def magnitude (w : WrittenDecimal) : ℚ := w.digits / 10 ^ w.places

variable (w : WrittenDecimal)

theorem magnitude_nonneg : 0 ≤ w.magnitude := by
  unfold magnitude
  positivity

theorem isDigit_of_mem_whole : ∀ c ∈ w.whole, isDigit c = true :=
  fun c hc => w.isDigit_of_mem c (List.mem_append_left _ hc)

theorem isDigit_of_mem_fraction : ∀ c ∈ w.fraction, isDigit c = true :=
  fun c hc => w.isDigit_of_mem c (List.mem_append_right _ hc)

theorem pointed_stops : Stops isDigit w.pointed := by
  unfold pointed
  split
  · exact Stops.nil isDigit
  · exact Stops.cons rfl w.fraction

/-- A digit or the point comes first. -/
theorem exists_unsigned_eq_cons :
    ∃ c rest, w.unsigned = c :: rest ∧ (isDigit c = true ∨ c = '.') := by
  unfold unsigned pointed
  cases hwhole : w.whole with
  | nil =>
      have hfraction : w.fraction ≠ [] := by
        have hne := w.ne_nil
        rwa [hwhole, List.nil_append] at hne
      rw [if_neg hfraction]
      exact ⟨'.', w.fraction, rfl, .inr rfl⟩
  | cons c rest =>
      refine ⟨c, _, rfl, .inl (w.isDigit_of_mem_whole c ?_)⟩
      rw [hwhole]
      exact List.mem_cons_self

theorem endsInDigit_unsigned : EndsInDigit w.unsigned := by
  have hend : ∀ {cs : List Char}, cs ≠ [] → (∀ c ∈ cs, isDigit c = true) → EndsInDigit cs := by
    intro cs hne hcs
    rw [EndsInDigit, List.getLast?_eq_some_getLast hne, Option.any_some]
    exact hcs _ (List.getLast_mem hne)
  unfold unsigned pointed
  split
  · next hnone =>
      have hne := w.ne_nil
      rw [hnone, List.append_nil] at hne
      rw [List.append_nil]
      exact hend hne w.isDigit_of_mem_whole
  · next hsome => exact (hend hsome w.isDigit_of_mem_fraction).cons.append

theorem readDecimal?_unsigned :
    readDecimal? w.unsigned = some (w.digits, -(w.places : ℤ)) := by
  have hwhole := takeWhile_append_stops w.isDigit_of_mem_whole w.pointed_stops
  have hpointed := dropWhile_append_stops w.isDigit_of_mem_whole w.pointed_stops
  have hne : ¬ (w.whole.isEmpty && w.fraction.isEmpty) = true := by
    rw [Bool.and_eq_true, List.isEmpty_iff, List.isEmpty_iff, ← List.append_eq_nil_iff]
    exact w.ne_nil
  unfold readDecimal? unsigned
  dsimp only
  rw [hwhole, hpointed]
  by_cases hfraction : w.fraction = []
  · have hnone : w.pointed = [] := if_pos hfraction
    rw [hfraction] at hne
    rw [hnone, if_neg hne, digits, places, hfraction]
    rfl
  · have hsome : w.pointed = '.' :: w.fraction := if_neg hfraction
    have htake : w.fraction.takeWhile isDigit = w.fraction :=
      List.takeWhile_eq_self_iff.mpr w.isDigit_of_mem_fraction
    have hdrop : w.fraction.dropWhile isDigit = [] :=
      List.dropWhile_eq_nil_iff.mpr w.isDigit_of_mem_fraction
    rw [hsome]
    change (if (w.whole.isEmpty && (w.fraction.takeWhile isDigit).isEmpty) = true then none
      else (readExponent? (w.fraction.dropWhile isDigit)).map fun e =>
        (digitsValue (w.whole ++ w.fraction.takeWhile isDigit),
          e - ((w.fraction.takeWhile isDigit).length : ℤ))) = _
    rw [htake, hdrop, if_neg hne, readExponent?, Option.map_some, zero_sub]
    rfl

theorem sign_cases : w.sign = [] ∨ w.sign = ['-'] ∨ w.sign = ['+'] := by
  simpa using w.sign_mem

/-- A sign in front of a decimal is read as the sign. -/
theorem readSign_text : readSign (w.sign ++ w.unsigned) = (w.negative, w.unsigned) := by
  have hnone : readSign w.unsigned = (false, w.unsigned) := by
    rcases w.exists_unsigned_eq_cons with ⟨c, rest, hcons, hdigit | rfl⟩
    · rw [hcons, readSign_of_digit hdigit]
    · rw [hcons]
      rfl
  unfold negative
  rcases w.sign_cases with h | h | h
  · rw [h, List.nil_append, hnone]
    rfl
  · rw [h]
    rfl
  · rw [h]
    rfl

/-- A decimal is none of the words that stand for numbers. -/
theorem lower_unsigned_ne {first : Char} (word : String) (hword : word.toList.head? = some first)
    (hdigit : isDigit first = false) (hpoint : first ≠ '.') :
    String.ofList (w.unsigned.map Char.toLower) ≠ word := by
  rintro rfl
  rcases w.exists_unsigned_eq_cons with ⟨c, rest, hcons, hc⟩
  have hlower : c.toLower = c := by
    rcases hc with hc | rfl
    · exact toLower_of_isDigit hc
    · rfl
  rw [String.toList_ofList, hcons, List.map_cons, List.head?_cons, hlower] at hword
  obtain rfl := Option.some.inj hword
  rcases hc with hc | hc
  · rw [hdigit] at hc
    cases hc
  · exact hpoint hc

theorem readBinary64?_text : readBinary64? (w.sign ++ w.unsigned) =
    some (Binary64.ofMagnitude? w.negative (Magnitude.ofDecimal? w.digits (-(w.places : ℤ)))) := by
  unfold readBinary64?
  rw [w.readSign_text]
  dsimp only
  have hinf := w.lower_unsigned_ne "inf" rfl rfl (by decide)
  have hinfinity := w.lower_unsigned_ne "infinity" rfl rfl (by decide)
  have hnan := w.lower_unsigned_ne "nan" rfl rfl (by decide)
  rw [if_neg (not_or.mpr ⟨hinf, hinfinity⟩), if_neg hnan, w.readDecimal?_unsigned]
  rfl

theorem trimList_text : trimList w.text.toList = w.sign ++ w.unsigned := by
  rw [text, String.toList_ofList]
  apply trimList_of_stops
  · have hsign : ∀ c ∈ w.sign, isBlank c = false := by
      intro c hc
      rcases w.sign_cases with h | h | h
      · rw [h] at hc
        cases hc
      · rw [h] at hc
        cases List.mem_singleton.mp hc
        rfl
      · rw [h] at hc
        cases List.mem_singleton.mp hc
        rfl
    apply Stops.append hsign
    rcases w.exists_unsigned_eq_cons with ⟨c, rest, hcons, hdigit | rfl⟩
    · rw [hcons]
      exact Stops.cons (isBlank_of_isDigit hdigit) rest
    · rw [hcons]
      exact Stops.cons rfl rest
  · exact w.endsInDigit_unsigned.append.stops_isBlank

end WrittenDecimal

/-! ## Decimals that are rounded -/

/-- A decimal whose first digit is so far behind the point is too small for the format. -/
theorem le_of_far_behind {digits places : ℕ}
    (h : (Nat.toDigits 10 digits).length + 330 ≤ places) :
    (digits / 10 ^ places : ℚ) ≤ 2 ^ (-1075 : ℤ) := by
  have hdigits : digits < 10 ^ (Nat.toDigits 10 digits).length :=
    (Nat.length_toDigits_le_iff (by omega) (List.length_pos_iff.mpr Nat.toDigits_ne_nil)).mp le_rfl
  have hnat : digits * (10 ^ 10) ^ 33 ≤ 10 ^ places :=
    calc digits * (10 ^ 10) ^ 33 ≤ 10 ^ (Nat.toDigits 10 digits).length * (10 ^ 10) ^ 33 :=
          Nat.mul_le_mul_right _ hdigits.le
      _ = 10 ^ ((Nat.toDigits 10 digits).length + 10 * 33) := by rw [← pow_mul, ← pow_add]
      _ ≤ 10 ^ places := Nat.pow_le_pow_right (by omega) h
  have hcast : (digits * (10 ^ 10) ^ 33 : ℚ) ≤ 10 ^ places := by exact_mod_cast hnat
  calc (digits / 10 ^ places : ℚ) ≤ 1 / (10 ^ 10) ^ 33 := by
        rwa [div_le_div_iff₀ (by positivity) (by positivity), one_mul]
    _ ≤ 1 / (2 ^ (33 : ℤ)) ^ 33 := by
        apply one_div_le_one_div_of_le (by positivity)
        exact pow_le_pow_left₀ (by positivity) (by norm_num) 33
    _ = 2 ^ (-(33 * 33) : ℤ) := by
        rw [← zpow_natCast, ← zpow_mul, one_div, ← zpow_neg]
        rfl
    _ ≤ 2 ^ (-1075 : ℤ) := zpow_le_zpow_right₀ one_le_two (by omega)

/-- A decimal too small to be looked at is as good as zero. -/
theorem zero_approximates {q : ℚ} (hq : 0 ≤ q) (hsmall : q ≤ 2 ^ (-1075 : ℤ)) :
    Magnitude.zero.Approximates q := by
  have hrelative : 0 ≤ q * 2 ^ (-53 : ℤ) := by positivity
  rw [Magnitude.Approximates, Magnitude.value_zero, zero_sub, abs_neg, abs_of_nonneg hq]
  linarith

theorem exists_nearest?_decimal {digits : ℕ} (places : ℕ) (h : digits ≤ 10 ^ 15) :
    ∃ x, Magnitude.nearest? digits (Nat.pow 10 places) = some x ∧
      x.Approximates (digits / 10 ^ places) := by
  have hpos : 0 < Nat.pow 10 places := Nat.pow_pos (by omega)
  have hpow : ((Nat.pow 10 places : ℕ) : ℚ) = 10 ^ places := by
    rw [Nat.pow_eq, Nat.cast_pow, Nat.cast_ofNat]
  have hbound : (digits / (Nat.pow 10 places : ℕ) : ℚ) < 2 ^ (1023 : ℤ) :=
    calc (digits / (Nat.pow 10 places : ℕ) : ℚ) ≤ digits := by
          apply div_le_self (Nat.cast_nonneg _)
          rw [hpow]
          exact one_le_pow₀ (by norm_num)
      _ ≤ 10 ^ 15 := by exact_mod_cast h
      _ < 2 ^ (50 : ℤ) := by norm_num
      _ ≤ 2 ^ (1023 : ℤ) := zpow_le_zpow_right₀ one_le_two (by omega)
  rcases Magnitude.exists_nearest? hpos hbound with ⟨x, hx⟩
  have hnear := Magnitude.approximates_of_nearest? hpos hx
  rw [hpow] at hnear
  exact ⟨x, hx, hnear⟩

theorem exists_ofDecimal? {digits : ℕ} (places : ℕ) (h : digits ≤ 10 ^ 15) :
    ∃ x, Magnitude.ofDecimal? digits (-(places : ℤ)) = some x ∧
      x.Approximates (digits / 10 ^ places) := by
  have hquotient : (0 : ℚ) ≤ digits / 10 ^ places := by positivity
  have hlength : (Nat.toDigits 10 digits).length ≤ 16 :=
    (Nat.length_toDigits_le_iff (by omega) (by omega)).mpr (by omega)
  unfold Magnitude.ofDecimal?
  by_cases hzero : digits = 0
  · rw [if_pos hzero]
    refine ⟨_, rfl, zero_approximates hquotient ?_⟩
    rw [hzero, Nat.cast_zero, zero_div]
    positivity
  · rw [if_neg hzero]
    dsimp only
    rw [if_neg (by omega)]
    split
    · next hsmall =>
        exact ⟨_, rfl, zero_approximates hquotient (le_of_far_behind (by omega))⟩
    · -- the exponent is not positive, so the digits are divided and not multiplied
      have hnone : (-(places : ℤ)).toNat = 0 := by omega
      have hplaces : (-(-(places : ℤ))).toNat = places := by omega
      rw [hnone, hplaces, Nat.pow_eq, pow_zero, Nat.mul_one]
      exact exists_nearest?_decimal places h

/-- **A decimal is read as the binary64 number that it says.** -/
theorem WrittenDecimal.exists_parse_text (w : WrittenDecimal) (h : w.digits ≤ 10 ^ 15) :
    ∃ x, parse w.text = .ok (.finite w.negative x) ∧ x.Approximates w.magnitude := by
  rcases exists_ofDecimal? w.places h with ⟨x, hx, hnear⟩
  refine ⟨x, ?_, hnear⟩
  rw [parse, w.trimList_text, w.readBinary64?_text, hx]
  rfl

end Placeholder.Number

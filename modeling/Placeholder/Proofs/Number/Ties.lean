import Placeholder.Proofs.Money.Format
import Placeholder.Proofs.Number.Rounding

/-! # Amounts with too many digits

A decimal with more digits behind its point than there are decimals is rounded on the product of its
magnitude with a power of ten. With at most fifteen digits the error of this product is smaller than
the distance from the decimal to the next tie (`error_lt`, `roundHalfUp_gap`), so only a tie itself
can be misjudged: the decimal is rounded to the nearest in any case (`decimal_is_rounded_to_nearest`),
but a tie that binary64 does not hold may be rounded towards zero (`tie_is_rounded_towards_zero`).
-/

namespace Placeholder

namespace Number

open Magnitude

/-- A quotient that lies half way between two natural numbers. -/
def IsTie (num den : ℕ) : Prop := ∃ k, 2 * num = (2 * k + 1) * den

variable {num den : ℕ}

/-- A quotient half a unit below the integer that it is rounded to is a tie. -/
theorem isTie_of_eq (hden : 0 < den) (h : 2 * (roundHalfUp num den * den) = 2 * num + den) :
    IsTie num den := by
  have hpos : roundHalfUp num den ≠ 0 := by
    intro hzero
    rw [hzero] at h
    omega
  obtain ⟨k, hk⟩ := Nat.exists_eq_add_one_of_ne_zero hpos
  refine ⟨k, ?_⟩
  rw [hk, Nat.add_mul] at h
  rw [Nat.add_mul, Nat.mul_assoc]
  omega

/-- A tie is half a unit below the integer that it is rounded to. -/
theorem eq_of_isTie (hden : 0 < den) (h : IsTie num den) :
    2 * (roundHalfUp num den * den) = 2 * num + den := by
  rcases h with ⟨k, hk⟩
  have hround : roundHalfUp num den = k + 1 := by
    have htwice : 2 * num + den = (k + 1) * (2 * den) := by
      rw [hk]
      ring
    rw [roundHalfUp, htwice, Nat.mul_div_cancel _ (by omega)]
  rw [hround, hk]
  ring

variable {q : ℚ} {d : ℕ}

/-- The error of a product is less than the smallest distance to a tie. -/
theorem error_lt {A k : ℕ} (hA : A < 10 ^ 15) (hlarge : 10 ^ k ≤ 4 * A) :
    (A / 10 ^ k : ℚ) * 2 ^ (-51 : ℤ) + 2 ^ (-200 : ℤ) < 1 / 10 ^ k := by
  have hpow : (0 : ℚ) < 10 ^ k := by positivity
  have hA' : (A : ℚ) < 10 ^ 15 := by exact_mod_cast hA
  have hlarge' : (10 ^ k : ℚ) ≤ 4 * A := by exact_mod_cast hlarge
  have htiny : (2 : ℚ) ^ (-200 : ℤ) * 10 ^ k ≤ 1 / 10 := by
    calc (2 : ℚ) ^ (-200 : ℤ) * 10 ^ k ≤ 2 ^ (-200 : ℤ) * 10 ^ 16 := by
          apply mul_le_mul_of_nonneg_left _ (by positivity)
          linarith
      _ ≤ 1 / 10 := by norm_num
  rw [lt_div_iff₀ hpow, add_mul]
  have hfirst : (A / 10 ^ k : ℚ) * 2 ^ (-51 : ℤ) * 10 ^ k = A * 2 ^ (-51 : ℤ) := by
    field_simp
  have hrelative : (2 : ℚ) ^ (-51 : ℤ) = 1 / 2 ^ 51 := by norm_num
  rw [hfirst, hrelative]
  linarith

/-- A quotient by a power of ten stays away from the middle above the integer that it is rounded to,
and from the middle below it unless it is a tie. -/
theorem roundHalfUp_gap (A : ℕ) {k : ℕ} (hk : 0 < k) :
    (A / 10 ^ k : ℚ) + 1 / 10 ^ k ≤ roundHalfUp A (10 ^ k) + 1 / 2 ∧
      (IsTie A (10 ^ k) ∨ (roundHalfUp A (10 ^ k) : ℚ) - 1 / 2 + 1 / 10 ^ k ≤ A / 10 ^ k) := by
  have hpos : 0 < 10 ^ k := Nat.pow_pos (by omega)
  have hpow : (0 : ℚ) < 10 ^ k := by positivity
  obtain ⟨hlow, hhigh⟩ := roundHalfUp_near A hpos
  -- the numbers that are compared are even
  have heven : 10 ^ k % 2 = 0 := by
    obtain ⟨j, rfl⟩ := Nat.exists_eq_add_one_of_ne_zero hk.ne'
    omega
  constructor
  · have hnat : 2 * A + 2 ≤ 2 * (roundHalfUp A (10 ^ k) * 10 ^ k) + 10 ^ k := by omega
    have hcast : (2 * A + 2 : ℚ) ≤ 2 * (roundHalfUp A (10 ^ k) * 10 ^ k) + 10 ^ k := by
      exact_mod_cast hnat
    rw [← add_div, div_le_iff₀ hpow]
    linarith
  · by_cases htie : 2 * (roundHalfUp A (10 ^ k) * 10 ^ k) = 2 * A + 10 ^ k
    · exact .inl (isTie_of_eq hpos htie)
    · right
      have hnat : 2 * (roundHalfUp A (10 ^ k) * 10 ^ k) + 2 ≤ 2 * A + 10 ^ k := by omega
      have hcast : (2 * (roundHalfUp A (10 ^ k) * 10 ^ k) + 2 : ℚ) ≤ 2 * A + 10 ^ k := by
        exact_mod_cast hnat
      rw [le_div_iff₀ hpow, add_mul, one_div_mul_cancel hpow.ne']
      linarith

theorem IsTie.value {A k : ℕ} (h : IsTie A (10 ^ k)) :
    (A / 10 ^ k : ℚ) = roundHalfUp A (10 ^ k) - 1 / 2 := by
  have hpow : (0 : ℚ) < 10 ^ k := by positivity
  have hnat := eq_of_isTie (Nat.pow_pos (by omega)) h
  have hcast : (2 * (roundHalfUp A (10 ^ k) * 10 ^ k) : ℚ) = 2 * A + 10 ^ k := by
    exact_mod_cast hnat
  rw [div_eq_iff hpow.ne']
  linarith

/-- A small amount is rounded to zero, and it is no tie. -/
theorem roundHalfUp_of_small {A B : ℕ} (h : 4 * A < B) : roundHalfUp A B = 0 ∧ ¬ IsTie A B := by
  constructor
  · rw [roundHalfUp]
    exact Nat.div_eq_of_lt (by omega)
  · rintro ⟨k, hk⟩
    have hle : B ≤ (2 * k + 1) * B := Nat.le_mul_of_pos_left B (by omega)
    omega

variable {x factor product rounded : Magnitude} {A k : ℕ}

/-- An amount is rounded half up unless it is a tie and the product that takes its place falls below
it. The error of the product does not reach from an amount to a tie that it is not. -/
theorem roundInteger_eq_roundHalfUp (h : RoundedBy x q d factor product rounded)
    (hq : q * 10 ^ d = A / 10 ^ k) (hA : A < 10 ^ 15) (hk : 0 < k)
    (hkept : ¬ (IsTie A (10 ^ k) ∧ product.value < q * 10 ^ d)) :
    product.roundInteger = roundHalfUp A (10 ^ k) := by
  -- far below one half the error is not small against the amount, but both round to zero
  by_cases hsmall : 4 * A < 10 ^ k
  · have hquarter : (A / 10 ^ k : ℚ) < 1 / 4 := by
      rw [div_lt_div_iff₀ (by positivity) (by norm_num), one_mul, mul_comm]
      exact_mod_cast hsmall
    have hnonneg : (0 : ℚ) ≤ A / 10 ^ k := by positivity
    have hrelative : (2 : ℚ) ^ (-51 : ℤ) = 1 / 2 ^ 51 := by norm_num
    have htiny : (2 : ℚ) ^ (-200 : ℤ) ≤ 1 / 8 := by norm_num
    rw [(roundHalfUp_of_small hsmall).1]
    apply h.roundInteger_eq
    · rw [hq, hrelative, Nat.cast_zero]
      linarith
    · rw [hq, hrelative, Nat.cast_zero]
      linarith
  · obtain ⟨habove, hbelow⟩ := roundHalfUp_gap A hk
    have herror := error_lt hA (not_lt.mp hsmall)
    have hnear := abs_le.mp h.product_near
    rw [hq] at hnear hkept
    generalize (A / 10 ^ k : ℚ) * 2 ^ (-51 : ℤ) + 2 ^ (-200 : ℤ) = error at *
    rw [roundInteger_eq_iff]
    refine ⟨?_, by linarith [hnear.2]⟩
    rcases hbelow with htie | hbelow
    · rw [← htie.value]
      exact not_lt.mp fun hlt => hkept ⟨htie, hlt⟩
    · linarith [hnear.1]

/-- Where the product falls below a tie, the amount is rounded down. -/
theorem roundInteger_add_one_of_lost (h : RoundedBy x q d factor product rounded)
    (hq : q * 10 ^ d = A / 10 ^ k) (hA : A < 10 ^ 15) (htie : IsTie A (10 ^ k))
    (hlost : product.value < q * 10 ^ d) :
    product.roundInteger + 1 = roundHalfUp A (10 ^ k) := by
  have hlarge : 10 ^ k ≤ 4 * A := by
    by_contra hsmall
    exact (roundHalfUp_of_small (not_le.mp hsmall)).2 htie
  have herror := error_lt hA hlarge
  have hnear := abs_le.mp h.product_near
  have hone : (1 / 10 ^ k : ℚ) ≤ 1 := by
    rw [div_le_one (by positivity)]
    exact one_le_pow₀ (by norm_num)
  have hvalue := htie.value
  rw [hq] at hnear hlost
  generalize (A / 10 ^ k : ℚ) * 2 ^ (-51 : ℤ) + 2 ^ (-200 : ℤ) = error at *
  -- a tie is at least one half, so there is an integer below the one that it is rounded to
  have hpos : roundHalfUp A (10 ^ k) ≠ 0 := by
    intro hzero
    have hnonneg : (0 : ℚ) ≤ A / 10 ^ k := by positivity
    rw [hzero, Nat.cast_zero] at hvalue
    linarith
  obtain ⟨m, hm⟩ := Nat.exists_eq_add_one_of_ne_zero hpos
  rw [hm] at hvalue ⊢
  push_cast at hvalue
  congr 1
  rw [roundInteger_eq_iff]
  constructor
  · linarith [hnear.1]
  · linarith

/-- In both cases the integer is a nearest one. -/
theorem abs_roundInteger_sub_le (h : RoundedBy x q d factor product rounded)
    (hq : q * 10 ^ d = A / 10 ^ k) (hA : A < 10 ^ 15) (hk : 0 < k) :
    |(product.roundInteger : ℚ) - q * 10 ^ d| ≤ 1 / 2 := by
  by_cases hmissed : IsTie A (10 ^ k) ∧ product.value < q * 10 ^ d
  · obtain ⟨htie, hlost⟩ := hmissed
    have hnext : (product.roundInteger : ℚ) + 1 = roundHalfUp A (10 ^ k) := by
      exact_mod_cast roundInteger_add_one_of_lost h hq hA htie hlost
    rw [hq, htie.value, ← hnext, abs_le]
    constructor <;> linarith
  · have hround := roundInteger_eq_roundHalfUp h hq hA hk hmissed
    obtain ⟨hlow, hhigh⟩ := (roundHalfUp_eq_iff (Nat.pow_pos (by omega))).mp hround.symm
    push_cast at hlow hhigh
    rw [hq, abs_le]
    constructor <;> linarith

/-- The product falls below a tie only if the magnitude that is multiplied lies below the amount: a tie
is a number that the format holds, and rounding does not cross it. -/
theorem lt_of_lost (h : RoundedBy x q d factor product rounded) (hq : q * 10 ^ d = A / 10 ^ k)
    (hA : A < 10 ^ 15) (htie : IsTie A (10 ^ k)) (hlost : product.value < q * 10 ^ d) :
    x.value < q := by
  have hpow : (0 : ℚ) < 10 ^ d := by positivity
  rcases htie with ⟨m, hm⟩
  -- an odd number of halves below the limit is held by the format without loss
  have hmiddle : (A / 10 ^ k : ℚ) = (2 * m + 1 : ℕ) / 2 := by
    have hcast : (2 * A : ℚ) = (2 * m + 1 : ℕ) * 10 ^ k := by exact_mod_cast hm
    rw [div_eq_div_iff (by positivity) two_ne_zero]
    linarith
  have hodd : 2 * m + 1 ≤ 2 * A := by
    rw [hm]
    exact Nat.le_mul_of_pos_right _ (Nat.pow_pos (by omega))
  have hheld : Held (q * 10 ^ d) := by
    rw [hq, hmiddle]
    exact held_half (by omega)
  by_contra hge
  have hproduct : q * 10 ^ d ≤ x.value * factor.value := by
    rw [h.factor_value]
    exact mul_le_mul_of_nonneg_right (not_lt.mp hge) hpow.le
  exact absurd (le_value_of_mul? hheld h.product_eq hproduct) (not_le.mpr hlost)

/-- A decimal with more digits behind its point than there are decimals, in units of the last one. -/
theorem WrittenDecimal.magnitude_mul_of_lt (w : WrittenDecimal) {d : ℕ} (h : d < w.places) :
    w.magnitude * 10 ^ d = w.digits / 10 ^ (w.places - d) := by
  have hsplit : (10 : ℚ) ^ w.places = 10 ^ (w.places - d) * 10 ^ d := by
    rw [← pow_add, Nat.sub_add_cancel h.le]
  rw [magnitude, hsplit, ← div_div, div_mul_cancel₀ _ (by positivity)]

end Number

namespace Builtin

open Number

/-- **A decimal is rounded to the nearest, and half away from zero unless a tie gets lost.** Take a
decimal with at most fifteen digits from the first one that is not zero, and more digits behind its
point than there are decimals. It can be written as a number, without a sign if no units are left, and
the units are an integer nearest to it. If it is no tie, or the product of its magnitude and a power
of ten does not fall below it, then of two the one away from zero is chosen. If the product of a tie
falls below it, then the one towards zero is; in this case the magnitude itself lies below the tie,
which is no number of binary64. -/
theorem decimal_is_rounded_to_nearest (w : WrittenDecimal) {d : ℕ} (hd : d ≤ 20)
    (hdigits : w.digits < 10 ^ 15) (hplaces : d < w.places) :
    ∃ x factor product n whole fraction,
      parse w.text = .ok (.finite w.negative x) ∧
      Magnitude.powerOfTen? d = some factor ∧ x.mul? factor = some product ∧
      WritesUnits d n whole fraction ∧
      (∀ numbers, runNumber numbers w.text (some [toString d, ".", ""]) =
        .ok (String.ofList (signFor w.negative n ++ whole ++ tailOf d "." fraction))) ∧
      |(n : ℚ) - w.magnitude * 10 ^ d| ≤ 1 / 2 ∧
      (¬ (IsTie w.digits (10 ^ (w.places - d)) ∧ product.value < w.magnitude * 10 ^ d) →
        n = roundHalfUp w.digits (10 ^ (w.places - d))) ∧
      (IsTie w.digits (10 ^ (w.places - d)) ∧ product.value < w.magnitude * 10 ^ d →
        n + 1 = roundHalfUp w.digits (10 ^ (w.places - d)) ∧ x.value < w.magnitude) := by
  have hunits := w.magnitude_mul_of_lt hplaces
  -- some of the fifteen digits stand behind the last unit, so the units are fewer still
  have hsize : w.magnitude * 10 ^ d ≤ 10 ^ 15 := by
    have hbound : (w.digits : ℚ) ≤ 10 ^ 15 := by exact_mod_cast hdigits.le
    rw [hunits]
    exact (div_le_self (Nat.cast_nonneg _) (one_le_pow₀ (by norm_num))).trans hbound
  rcases w.exists_parse_text hdigits.le with ⟨x, hparse, hnear⟩
  rcases exists_roundedBy hnear w.magnitude_nonneg hd hsize with ⟨factor, product, rounded, hsteps⟩
  rcases exists_writesUnits rounded d with ⟨whole, fraction, hparts⟩
  rw [hsteps.units_eq] at hparts
  have hplaces' : 0 < w.places - d := by omega
  have hkept := roundInteger_eq_roundHalfUp hsteps hunits hdigits hplaces'
  have hlost := roundInteger_add_one_of_lost hsteps hunits hdigits
  refine ⟨x, factor, product, product.roundInteger, whole, fraction, hparse, hsteps.factor_eq,
    hsteps.product_eq, hparts, ?_, ?_, hkept, ?_⟩
  · intro numbers
    rw [runNumber_eq hd numbers hparse, hsteps.format_eq hparts, show "".toList = [] from rfl,
      group_nil]
  · exact abs_roundInteger_sub_le hsteps hunits hdigits hplaces'
  · rintro ⟨htie, hbelow⟩
    exact ⟨hlost htie hbelow, lt_of_lost hsteps hunits hdigits htie hbelow⟩

/-- A tie that binary64 holds goes away from zero. -/
theorem decimal_is_rounded_to_nearest_eighth :
    let w : WrittenDecimal :=
      ⟨['-'], ['0'], "125".toList, by decide, List.all_eq_true.mp rfl, by decide⟩
    w.text = "-0.125" ∧ 2 ≤ 20 ∧ w.digits < 10 ^ 15 ∧ 2 < w.places ∧
      IsTie w.digits (10 ^ (w.places - 2)) ∧
      runNumber {} "-0.125" (some ["2", ".", ""]) = .ok "-0.13" := by
  intro w
  have htext : w.text = "-0.125" := by decide +kernel
  have hdigits : w.digits < 10 ^ 15 := by decide
  have hplaces : 2 < w.places := by decide
  have htie : IsTie w.digits (10 ^ (w.places - 2)) := ⟨12, by decide⟩
  refine ⟨htext, by omega, hdigits, hplaces, htie, ?_⟩
  rcases decimal_is_rounded_to_nearest w (by omega) hdigits hplaces with
    ⟨x, factor, product, n, whole, fraction, hparse, -, -, hparts, hnumber, -, hkept, hlost⟩
  -- the text is read without an error, so the tie cannot get lost
  have hread : parse w.text = .ok (.finite true ⟨2 ^ 52, -55⟩) := by decide +kernel
  obtain ⟨-, rfl⟩ := Binary64.finite.inj (Except.ok.inj (hread.symm.trans hparse))
  have hexact : w.magnitude = 125 / 10 ^ 3 := by
    have hvalue : w.digits = 125 := by decide
    rw [WrittenDecimal.magnitude, hvalue]
    rfl
  have hn : n = roundHalfUp 125 10 := by
    apply hkept
    intro hmissed
    have hless := (hlost hmissed).2
    rw [hexact, Magnitude.value] at hless
    norm_num at hless
  have hunits : WritesUnits 2 13 ['0'] ['1', '3'] :=
    ⟨⟨List.all_eq_true.mp rfl, by decide, .inl rfl⟩, ⟨List.all_eq_true.mp rfl, rfl⟩, by decide⟩
  rw [show roundHalfUp 125 10 = 13 from rfl] at hn
  subst hn
  obtain ⟨rfl, rfl⟩ := hparts.unique hunits
  rw [← htext]
  exact hnumber {}

/-- That the magnitude lies below a tie does not mean that the product does. -/
example : runNumber {} "1.115" (some ["2", ".", ""]) = .ok "1.12" := by decide +kernel

/-- The tie 1.005 is written as 1.00. -/
theorem tie_is_rounded_towards_zero :
    ¬ ∀ (w : WrittenDecimal) (d : ℕ), d ≤ 20 → w.digits < 10 ^ 15 → d < w.places →
      ∃ whole fraction, WritesUnits d (roundHalfUp w.digits (10 ^ (w.places - d))) whole fraction ∧
        ∀ numbers, runNumber numbers w.text (some [toString d, ".", ""]) =
          .ok (String.ofList (signFor w.negative (roundHalfUp w.digits (10 ^ (w.places - d))) ++
            whole ++ tailOf d "." fraction)) := by
  intro h
  let w : WrittenDecimal :=
    ⟨[], ['1'], "005".toList, by decide, List.all_eq_true.mp rfl, by decide⟩
  rcases h w 2 (by omega) (by decide) (by decide) with ⟨whole, fraction, hparts, hnumber⟩
  have hround : roundHalfUp w.digits (10 ^ (w.places - 2)) = 101 := by decide
  rw [hround] at hparts hnumber
  have hunits : WritesUnits 2 101 ['1'] ['0', '1'] :=
    ⟨⟨List.all_eq_true.mp rfl, by decide, .inr (by decide)⟩, ⟨List.all_eq_true.mp rfl, rfl⟩, by decide⟩
  obtain ⟨rfl, rfl⟩ := hparts.unique hunits
  have hwritten : runNumber {} w.text (some [toString 2, ".", ""]) = .ok "1.00" := by
    decide +kernel
  rw [hnumber] at hwritten
  revert hwritten
  decide +kernel

end Builtin

end Placeholder

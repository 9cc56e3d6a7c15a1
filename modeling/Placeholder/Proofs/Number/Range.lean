import Placeholder.Proofs.Number.Binary64
import Placeholder.Proofs.Number.Format

/-! # Amounts beyond the format

The largest magnitude of binary64 is `(2 ^ 53 - 1) * 2 ^ 971`. A quotient is too large for the
format if it would be rounded above this magnitude, which begins half a unit of the last place above
it (`limit`, `nearest?_eq_none_iff`).

Rounding an amount to a number of decimals takes a product, an integer and a quotient. Only the
product can be too large: the integer next to a magnitude and what a division by a power of ten
leaves of it stay below the limit. So an amount can be written with so many decimals exactly if its
units, the exact product, are below the limit (`roundTo?_eq_none_iff`, `format_cases`).
-/

namespace Placeholder

/-! ## The limit -/

namespace Number

/-- A quotient that lies half a unit below an even number is rounded to it. -/
theorem le_roundHalfEven_iff {num den n : Nat} (hden : 0 < den) (heven : n % 2 = 0) :
    n ≤ roundHalfEven num den ↔ (n : ℚ) - 1 / 2 ≤ num / den := by
  have hden' : (0 : ℚ) < den := Nat.cast_pos.mpr hden
  have hnat : (n : ℚ) - 1 / 2 ≤ num / den ↔ 2 * (n * den) ≤ 2 * num + den := by
    rw [le_div_iff₀ hden', ← Nat.cast_le (α := ℚ)]
    push_cast
    constructor
    · intro h
      linarith
    · intro h
      linarith
  have hdiv : num / den * den + num % den = num := by
    rw [Nat.mul_comm]
    exact Nat.div_add_mod num den
  have hrest : num % den < den := Nat.mod_lt num hden
  -- a number is at most the quotient, or at least the next one
  have hle : ∀ k, n ≤ k → n * den ≤ k * den := fun k h => Nat.mul_le_mul_right den h
  have hge : ∀ k, k + 1 ≤ n → k * den + den ≤ n * den := by
    intro k h
    rw [← Nat.succ_mul]
    exact Nat.mul_le_mul_right den h
  rw [hnat]
  unfold roundHalfEven
  simp only
  generalize num / den = q at *
  generalize num % den = r at *
  have hle₀ := hle q
  have hge₀ := hge q
  have hle₁ := hle (q + 1)
  have hge₁ := hge (q + 1)
  rw [Nat.add_mul, Nat.one_mul] at hle₁ hge₁
  split
  · omega
  · split
    · omega
    · omega

end Number

namespace Magnitude

open Number

variable {num den : Nat} {x y : Magnitude} {d : ℕ}

/-- The largest magnitude that the format holds. -/
def largest : ℚ := (2 ^ 53 - 1) * 2 ^ (971 : ℤ)

/-- The least number that is too large for the format. -/
def limit : ℚ := 2 ^ (1024 : ℤ) - 2 ^ (970 : ℤ)

theorem limit_eq : limit = (2 ^ 53 - 1 / 2) * 2 ^ (971 : ℤ) := by
  have hnext : (2 : ℚ) ^ (1024 : ℤ) = 2 ^ (53 : ℤ) * 2 ^ (971 : ℤ) := zpow_add₀ two_ne_zero 53 971
  have hhalf : (2 : ℚ) ^ (970 : ℤ) = 2 ^ (-1 : ℤ) * 2 ^ (971 : ℤ) := zpow_add₀ two_ne_zero (-1) 971
  rw [limit, hnext, hhalf, ← sub_mul]
  norm_num

/-- The limit is half a unit above the largest magnitude. -/
theorem largest_add_half : largest + 2 ^ (971 : ℤ) / 2 = limit := by
  rw [limit_eq, largest]
  generalize (2 : ℚ) ^ (971 : ℤ) = unit
  ring

theorem two_zpow_le_limit : (2 : ℚ) ^ (1023 : ℤ) ≤ limit := by
  have hlast : (2 : ℚ) ^ (1023 : ℤ) = 2 ^ (52 : ℤ) * 2 ^ (971 : ℤ) := zpow_add₀ two_ne_zero 52 971
  rw [limit_eq, hlast]
  apply mul_le_mul_of_nonneg_right
  · norm_num
  · positivity

theorem limit_le_two_zpow : limit ≤ 2 ^ (1024 : ℤ) := by
  have hhalf : (0 : ℚ) < 2 ^ (970 : ℤ) := by positivity
  unfold limit
  generalize (2 : ℚ) ^ (970 : ℤ) = half at *
  linarith

/-- Units of the last place have 53 binary digits, except that rounding may carry to the next power
of two. -/
theorem units_le (hnum : num ≠ 0) (hden : 0 < den) : units num den ≤ 2 ^ 53 := by
  apply units_le_of_le hden
  have hsize : binaryExponent num den + 1 ≤ 53 + lastPlace num den := by
    unfold lastPlace
    omega
  calc (num / den : ℚ) ≤ 2 ^ (binaryExponent num den + 1) := (binaryExponent_spec hnum hden).2.le
    _ ≤ 2 ^ (53 + lastPlace num den) := zpow_le_zpow_right₀ one_le_two hsize
    _ = (2 ^ 53 : ℕ) * 2 ^ lastPlace num den := by
        rw [zpow_add₀ two_ne_zero]
        norm_num

/-- An even number of units of the last place is reached from half a unit below it. -/
theorem le_units_iff {n : ℕ} (hden : 0 < den) (heven : n % 2 = 0) :
    n ≤ units num den ↔ ((n : ℚ) - 1 / 2) * 2 ^ lastPlace num den ≤ num / den := by
  have hunit : (0 : ℚ) < 2 ^ lastPlace num den := by positivity
  have hscaled : ((num * Nat.pow 2 (-lastPlace num den).toNat : ℕ) /
      (den * Nat.pow 2 (lastPlace num den).toNat : ℕ) : ℚ) =
      num / den / 2 ^ lastPlace num den := by
    rw [two_zpow_eq_div, Nat.cast_mul, Nat.cast_mul, div_div_div_eq]
  have hpos : 0 < den * Nat.pow 2 (lastPlace num den).toNat := Nat.mul_pos hden (Nat.two_pow_pos _)
  rw [units, le_roundHalfEven_iff hpos heven, hscaled, le_div_iff₀ hunit]

/-- A quotient is too large if the unit of its last place is, or if it is carried to such a unit. -/
theorem nearest?_eq_none_iff_units (hnum : num ≠ 0) :
    nearest? num den = none ↔
      971 < lastPlace num den ∨ (lastPlace num den = 971 ∧ units num den = 2 ^ 53) := by
  have hnearest : nearest? num den =
      if 971 < (if units num den = Nat.pow 2 53
        then Magnitude.mk (Nat.pow 2 52) (lastPlace num den + 1)
        else ⟨units num den, lastPlace num den⟩).exponent then none
      else some (if units num den = Nat.pow 2 53 then ⟨Nat.pow 2 52, lastPlace num den + 1⟩
        else ⟨units num den, lastPlace num den⟩) := by
    rw [nearest?, if_neg hnum]
    rfl
  rw [hnearest, Nat.pow_eq]
  by_cases hcarry : units num den = 2 ^ 53
  · rw [if_pos hcarry, ite_eq_left_iff]
    simp only [hcarry, reduceCtorEq, imp_false, not_not, and_true]
    omega
  · rw [if_neg hcarry, ite_eq_left_iff]
    simp only [hcarry, reduceCtorEq, imp_false, not_not, and_false, or_false]

/-- A quotient is too large for the format from the limit on. -/
theorem nearest?_eq_none_iff (hden : 0 < den) : nearest? num den = none ↔ limit ≤ num / den := by
  by_cases hnum : num = 0
  · have hpower : (0 : ℚ) < 2 ^ (1023 : ℤ) := by positivity
    have hpos : 0 < limit := hpower.trans_le two_zpow_le_limit
    rw [nearest?, if_pos hnum, hnum, Nat.cast_zero, zero_div]
    exact iff_of_false (Option.some_ne_none _) (not_le.mpr hpos)
  · obtain ⟨hlow, hhigh⟩ := binaryExponent_spec hnum hden
    rw [nearest?_eq_none_iff_units hnum]
    -- only with the exponent of the largest magnitude the digits have to be looked at
    rcases lt_trichotomy (binaryExponent num den) 1023 with hsmall | hlast | hlarge
    · have hbelow : (num / den : ℚ) < limit := by
        calc (num / den : ℚ) < 2 ^ (binaryExponent num den + 1) := hhigh
          _ ≤ 2 ^ (1023 : ℤ) := zpow_le_zpow_right₀ one_le_two (by omega)
          _ ≤ limit := two_zpow_le_limit
      apply iff_of_false _ (not_le.mpr hbelow)
      unfold lastPlace
      omega
    · have hplace : lastPlace num den = 971 := by
        unfold lastPlace
        omega
      have hcarry : units num den = 2 ^ 53 ↔ 2 ^ 53 ≤ units num den := by
        have hle := units_le hnum hden
        omega
      have hround : 2 ^ 53 ≤ units num den ↔ limit ≤ (num / den : ℚ) := by
        rw [le_units_iff hden (by omega : 2 ^ 53 % 2 = 0), hplace, limit_eq, Nat.cast_pow,
          Nat.cast_ofNat]
      simp only [hplace, hcarry, hround, lt_irrefl, true_and, false_or]
    · have habove : limit ≤ (num / den : ℚ) := by
        calc limit ≤ 2 ^ (1024 : ℤ) := limit_le_two_zpow
          _ ≤ 2 ^ binaryExponent num den := zpow_le_zpow_right₀ one_le_two (by omega)
          _ ≤ num / den := hlow
      apply iff_of_true _ habove
      unfold lastPlace
      omega

/-! ## Magnitudes below it -/

/-- What comes out of rounding is at most the largest magnitude. -/
theorem value_le_of_nearest? (hden : 0 < den) (h : nearest? num den = some x) :
    x.value ≤ largest := by
  have hunit : (0 : ℚ) < 2 ^ (971 : ℤ) := by positivity
  by_cases hnum : num = 0
  · subst hnum
    obtain rfl := nearest?_zero h
    rw [value_zero, largest]
    exact mul_nonneg (by norm_num) hunit.le
  · have hsome : nearest? num den ≠ none := by
      rw [h]
      exact Option.some_ne_none x
    have hfits := (nearest?_eq_none_iff_units hnum).not.mp hsome
    have hle := units_le hnum hden
    rw [value_of_nearest? hnum h]
    -- 2 ^ 53 units of the highest last place would be too many, of a lower one they are not
    by_cases hplace : lastPlace num den = 971
    · have hdigits : (units num den : ℚ) + 1 ≤ 2 ^ 53 := by
        exact_mod_cast (by omega : units num den + 1 ≤ 2 ^ 53)
      rw [hplace, largest]
      apply mul_le_mul_of_nonneg_right _ hunit.le
      linarith
    · have hdigits : (units num den : ℚ) ≤ 2 ^ 53 := by exact_mod_cast hle
      have hhalf : (2 : ℚ) ^ (970 : ℤ) = 2 ^ (-1 : ℤ) * 2 ^ (971 : ℤ) :=
        zpow_add₀ two_ne_zero (-1) 971
      calc (units num den : ℚ) * 2 ^ lastPlace num den
          ≤ 2 ^ 53 * 2 ^ (970 : ℤ) := by
            apply mul_le_mul hdigits _ (by positivity) (by positivity)
            exact zpow_le_zpow_right₀ one_le_two (by omega)
        _ = (2 ^ 53 * 2 ^ (-1 : ℤ)) * 2 ^ (971 : ℤ) := by rw [hhalf, mul_assoc]
        _ ≤ largest := mul_le_mul_of_nonneg_right (by norm_num) hunit.le

/-- The integer next to a magnitude can be rounded. -/
theorem exists_nearest?_roundInteger (h : x.value ≤ largest) :
    ∃ y, nearest? x.roundInteger 1 = some y := by
  obtain ⟨hround, -⟩ := roundInteger_eq_iff.mp (rfl : x.roundInteger = x.roundInteger)
  have hbelow : (x.roundInteger / (1 : ℕ) : ℚ) < limit := by
    have hunit : (1 : ℚ) < 2 ^ (971 : ℤ) := one_lt_zpow₀ one_lt_two (by omega)
    rw [Nat.cast_one, div_one, ← largest_add_half]
    generalize (2 : ℚ) ^ (971 : ℤ) = unit at *
    linarith
  rw [← Option.ne_none_iff_exists', Ne, nearest?_eq_none_iff one_pos]
  exact not_le.mpr hbelow

/-- Dividing by a number that is not below one leaves no magnitude too large. -/
theorem exists_div?_of_one_le (hx : x.value < limit) (hy : 1 ≤ y.value) :
    ∃ z, x.div? y = some z := by
  have hpos : (0 : ℚ) < y.value := one_pos.trans_le hy
  have hden : 0 < x.denominator * y.numerator :=
    Nat.mul_pos x.denominator_pos (numerator_pos_of_value_pos hpos)
  rw [← Option.ne_none_iff_exists', Ne, div?, nearest?_eq_none_iff hden, ratio_div, not_le]
  have hnonneg : 0 ≤ x.value := by
    unfold value
    positivity
  exact (div_le_self hnonneg hy).trans_lt hx

end Magnitude

namespace Number

open Magnitude

variable {x : Magnitude} {d : ℕ}

/-! ## Amounts -/

/-- An amount cannot be rounded to so many decimals exactly if its units are not below the limit. -/
theorem roundTo?_eq_none_iff (x : Magnitude) (hd : d ≤ 20) :
    roundTo? x d = none ↔ limit ≤ x.value * 10 ^ d := by
  rcases exists_powerOfTen? hd with ⟨factor, hfactor, hpower⟩
  have hproduct : x.mul? factor = none ↔ limit ≤ x.value * 10 ^ d := by
    rw [mul?, nearest?_eq_none_iff (mul_denominators_pos x factor), ratio_mul, hpower]
  rw [← hproduct, roundTo?, hfactor, Option.bind_eq_bind, Option.bind_some]
  cases hscaled : x.mul? factor with
  | none => exact iff_of_true rfl rfl
  | some scaled =>
      -- the other two steps stay below the limit
      rcases exists_nearest?_roundInteger
        (value_le_of_nearest? (mul_denominators_pos x factor) hscaled) with ⟨integer, hinteger⟩
      have hbelow : integer.value < limit := by
        have hunit : (0 : ℚ) < 2 ^ (971 : ℤ) := by positivity
        rw [← largest_add_half]
        exact (value_le_of_nearest? one_pos hinteger).trans_lt
          (lt_add_of_pos_right _ (half_pos hunit))
      have hone : 1 ≤ factor.value := by
        rw [hpower]
        exact one_le_pow₀ (by norm_num)
      rcases exists_div?_of_one_le hbelow hone with ⟨rounded, hrounded⟩
      simp only [Option.bind_some, hinteger, hrounded, reduceCtorEq]

/-- An amount whose units are below the limit is written, and any other one is not. -/
theorem format_cases (negative : Bool) (x : Magnitude) (hd : d ≤ 20) (point separator : String) :
    (x.value * 10 ^ d < limit ∧ ∃ text, format (.finite negative x) d point separator = .ok text) ∨
      (limit ≤ x.value * 10 ^ d ∧
        ∃ reason, format (.finite negative x) d point separator = .error (.unwritable reason)) := by
  have hnone := roundTo?_eq_none_iff x hd
  cases hrounded : roundTo? x d with
  | none =>
      exact .inr ⟨hnone.mp hrounded, format_of_not_roundTo? hrounded negative point separator⟩
  | some rounded =>
      rw [hrounded] at hnone
      refine .inl ⟨not_le.mp fun h => Option.some_ne_none rounded (hnone.mpr h), _,
        format_of_roundTo? hrounded negative point separator⟩

end Number

end Placeholder

import Mathlib.Algebra.Order.Field.Power
import Mathlib.Data.Rat.Cast.Order
import Mathlib.Tactic.FieldSimp
import Mathlib.Tactic.Linarith
import Mathlib.Tactic.NormNum
import Mathlib.Tactic.Positivity
import Mathlib.Tactic.Ring
import Placeholder.Number.Binary64

/-! # Rounding errors of binary64

The magnitudes of binary64 as rational numbers, and how far a magnitude is from the quotient that
it was rounded from. A quotient is counted in units of its last binary place (`lastPlace`), and
rounding moves it by half a unit at most (`abs_units_sub_le`).

* `approximates_of_nearest?`: the error is at most `2 ^ -53` of the quotient, or half of the smallest
  magnitude.
* `le_value_of_le`, `value_le_of_le`: rounding does not cross a number that the format holds, and
  leaves it as it is (`value_of_held`).
* `exists_nearest?`: every quotient below `2 ^ 1023` can be rounded.
-/

namespace Placeholder.Number

/-! ## Rounded quotients -/

theorem abs_roundHalfEven_sub_le (num : Nat) {den : Nat} (h : 0 < den) :
    |(roundHalfEven num den : ℚ) - num / den| ≤ 1 / 2 := by
  have hden : (0 : ℚ) < den := Nat.cast_pos.mpr h
  have hlow : (2 * num : ℚ) ≤ 2 * (roundHalfEven num den * den) + den := by
    exact_mod_cast (roundHalfEven_near num h).1
  have hhigh : (2 * (roundHalfEven num den * den) : ℚ) ≤ 2 * num + den := by
    exact_mod_cast (roundHalfEven_near num h).2
  have hnum : (num / den : ℚ) * den = num := div_mul_cancel₀ _ hden.ne'
  rw [← hnum] at hlow hhigh
  rw [abs_le]
  constructor <;> nlinarith

/-- A number that lies less than half a unit from a natural number is rounded to it. -/
theorem roundHalfEven_eq {num den n : Nat} (hden : 0 < den)
    (h : |(num / den : ℚ) - n| < 1 / 2) : roundHalfEven num den = n := by
  have hnear := abs_lt.mp ((abs_sub_le _ (num / den : ℚ) _).trans_lt
    (add_lt_add_of_le_of_lt (abs_roundHalfEven_sub_le num hden) h))
  have hlow : (n : ℚ) < roundHalfEven num den + 1 := by linarith [hnear.1]
  have hhigh : (roundHalfEven num den : ℚ) < n + 1 := by linarith [hnear.2]
  have hlow' : n < roundHalfEven num den + 1 := by exact_mod_cast hlow
  have hhigh' : roundHalfEven num den < n + 1 := by exact_mod_cast hhigh
  omega

/-- Rounding half up finds the natural number from whose lower half unit to whose upper one the
quotient lies. -/
theorem roundHalfUp_eq_iff {num den n : Nat} (hden : 0 < den) :
    roundHalfUp num den = n ↔ (n : ℚ) - 1 / 2 ≤ num / den ∧ (num / den : ℚ) < n + 1 / 2 := by
  have hden' : (0 : ℚ) < den := Nat.cast_pos.mpr hden
  have hlow : (n : ℚ) - 1 / 2 ≤ num / den ↔ 2 * (n * den) ≤ 2 * num + den := by
    rw [le_div_iff₀ hden', ← Nat.cast_le (α := ℚ)]
    push_cast
    constructor <;> intro h <;> linarith
  have hhigh : (num / den : ℚ) < n + 1 / 2 ↔ 2 * num < 2 * (n * den) + den := by
    rw [div_lt_iff₀ hden', ← Nat.cast_lt (α := ℚ)]
    push_cast
    constructor <;> intro h <;> linarith
  obtain ⟨hnear, hnear'⟩ := roundHalfUp_near num hden
  rw [hlow, hhigh]
  constructor
  · rintro rfl
    exact ⟨hnear', hnear⟩
  · rintro ⟨hn, hn'⟩
    have hle : roundHalfUp num den * den < (n + 1) * den := by rw [Nat.add_mul]; omega
    have hge : n * den < (roundHalfUp num den + 1) * den := by rw [Nat.add_mul]; omega
    have hle' := Nat.lt_of_mul_lt_mul_right hle
    have hge' := Nat.lt_of_mul_lt_mul_right hge
    omega

end Placeholder.Number

namespace Placeholder.Magnitude

open Number

/-! ## Values -/

/-- The number that a magnitude stands for. -/
def value (x : Magnitude) : ℚ := x.mantissa * 2 ^ x.exponent

/-- A power of two as the quotient of two powers of which one is `1`. -/
theorem two_zpow_eq_div (e : ℤ) :
    (2 : ℚ) ^ e = (Nat.pow 2 e.toNat : ℕ) / (Nat.pow 2 (-e).toNat : ℕ) := by
  have hparts : e = (e.toNat : ℤ) - ((-e).toNat : ℤ) := by omega
  have hpow : (2 : ℚ) ^ e = 2 ^ (e.toNat : ℤ) / 2 ^ ((-e).toNat : ℤ) := by
    rw [← zpow_sub₀ two_ne_zero, ← hparts]
  rw [hpow, zpow_natCast, zpow_natCast, Nat.pow_eq, Nat.pow_eq, Nat.cast_pow, Nat.cast_pow,
    Nat.cast_two]

theorem value_eq_div (x : Magnitude) : x.value = x.numerator / x.denominator := by
  rw [value, two_zpow_eq_div, numerator, denominator, Nat.cast_mul, mul_div_assoc]

/-! ## The last binary place -/

variable {num den : Nat}

/-- The comparison by which the exponent of a quotient is found, on the quotient itself. -/
theorem lt_two_zpow_iff (hden : 0 < den) (e : ℤ) :
    num * Nat.pow 2 (-e).toNat < den * Nat.pow 2 e.toNat ↔ (num / den : ℚ) < 2 ^ e := by
  have hden' : (0 : ℚ) < den := Nat.cast_pos.mpr hden
  have hpow : (0 : ℚ) < (Nat.pow 2 (-e).toNat : ℕ) := Nat.cast_pos.mpr (Nat.two_pow_pos _)
  rw [two_zpow_eq_div, div_lt_div_iff₀ hden' hpow, ← Nat.cast_lt (α := ℚ), Nat.cast_mul,
    Nat.cast_mul, mul_comm (den : ℚ)]

/-- The exponent of the largest power of two that is not above a quotient. -/
theorem binaryExponent_spec (hnum : num ≠ 0) (hden : 0 < den) :
    (2 : ℚ) ^ binaryExponent num den ≤ num / den ∧
      (num / den : ℚ) < 2 ^ (binaryExponent num den + 1) := by
  have hden' : (0 : ℚ) < den := Nat.cast_pos.mpr hden
  have hnumlow : (2 : ℚ) ^ num.log2 ≤ num := by exact_mod_cast Nat.log2_self_le hnum
  have hnumhigh : (num : ℚ) < 2 ^ (num.log2 + 1) := by exact_mod_cast Nat.lt_log2_self
  have hdenlow : (2 : ℚ) ^ den.log2 ≤ den := by exact_mod_cast Nat.log2_self_le hden.ne'
  have hdenhigh : (den : ℚ) < 2 ^ (den.log2 + 1) := by exact_mod_cast Nat.lt_log2_self
  -- the logarithms of the two numbers leave one of two neighbouring exponents
  have hlow : (2 : ℚ) ^ ((num.log2 : ℤ) - den.log2 - 1) ≤ num / den := by
    rw [sub_sub, zpow_sub₀ two_ne_zero, zpow_natCast]
    have hone : (2 : ℚ) ^ ((den.log2 : ℤ) + 1) = 2 ^ (den.log2 + 1) := by
      exact_mod_cast zpow_natCast (2 : ℚ) (den.log2 + 1)
    rw [hone]
    exact div_le_div₀ (Nat.cast_nonneg num) hnumlow hden' hdenhigh.le
  have hhigh : (num / den : ℚ) < 2 ^ ((num.log2 : ℤ) - den.log2 + 1) := by
    have hsplit : (num.log2 : ℤ) - den.log2 + 1 = ((num.log2 + 1 : ℕ) : ℤ) - (den.log2 : ℕ) := by
      push_cast
      ring
    rw [hsplit, zpow_sub₀ two_ne_zero, zpow_natCast, zpow_natCast]
    exact div_lt_div₀ hnumhigh hdenlow (by positivity) (by positivity)
  unfold binaryExponent
  dsimp only
  split
  · next hsmall =>
      rw [lt_two_zpow_iff hden] at hsmall
      rw [sub_add_cancel]
      exact ⟨hlow, hsmall⟩
  · next hlarge =>
      rw [lt_two_zpow_iff hden, not_lt] at hlarge
      exact ⟨hlarge, hhigh⟩

/-- The exponent of the last binary place that a quotient is rounded to. -/
def lastPlace (num den : Nat) : ℤ := max (binaryExponent num den - 52) (-1074)

/-- The number of units of the last place that a quotient is rounded to. -/
def units (num den : Nat) : Nat :=
  roundHalfEven (num * Nat.pow 2 (-lastPlace num den).toNat)
    (den * Nat.pow 2 (lastPlace num den).toNat)

theorem value_of_nearest? {x : Magnitude} (hnum : num ≠ 0) (h : nearest? num den = some x) :
    x.value = units num den * 2 ^ lastPlace num den := by
  rw [nearest?, if_neg hnum] at h
  obtain ⟨-, hx⟩ := Option.ite_none_left_eq_some.mp h
  rw [← Option.some.inj hx]
  change (if units num den = Nat.pow 2 53 then Magnitude.mk (Nat.pow 2 52) (lastPlace num den + 1)
    else ⟨units num den, lastPlace num den⟩).value = _
  split
  · next hcarry =>
      -- the carry to the next power of two does not change the value
      have htwice : Nat.pow 2 53 = Nat.pow 2 52 * 2 := rfl
      rw [hcarry, value, zpow_add_one₀ two_ne_zero, htwice, Nat.cast_mul, Nat.cast_two]
      ring
  · rfl

theorem exists_nearest? (hden : 0 < den) (h : (num / den : ℚ) < 2 ^ (1023 : ℤ)) :
    ∃ x, nearest? num den = some x := by
  by_cases hnum : num = 0
  · exact ⟨zero, if_pos hnum⟩
  · have hexponent : binaryExponent num den < 1023 :=
      (zpow_lt_zpow_iff_right₀ one_lt_two).mp ((binaryExponent_spec hnum hden).1.trans_lt h)
    rw [nearest?, if_neg hnum]
    dsimp only
    rw [if_neg]
    · exact ⟨_, rfl⟩
    · split <;> dsimp only <;> omega

/-- Rounding moves a quotient by half a unit of its last place at most. -/
theorem abs_units_sub_le (num : Nat) (hden : 0 < den) :
    |(units num den : ℚ) - num / den / 2 ^ lastPlace num den| ≤ 1 / 2 := by
  have hscaled : (num / den / 2 ^ lastPlace num den : ℚ) =
      (num * Nat.pow 2 (-lastPlace num den).toNat : ℕ) /
        (den * Nat.pow 2 (lastPlace num den).toNat : ℕ) := by
    rw [two_zpow_eq_div, Nat.cast_mul, Nat.cast_mul, div_div_div_eq]
  rw [hscaled]
  exact abs_roundHalfEven_sub_le _ (Nat.mul_pos hden (Nat.two_pow_pos _))

theorem abs_value_sub_le {x : Magnitude} (hnum : num ≠ 0) (hden : 0 < den)
    (h : nearest? num den = some x) : |x.value - num / den| ≤ 2 ^ lastPlace num den / 2 := by
  have hunit : (0 : ℚ) < 2 ^ lastPlace num den := by positivity
  have herror := abs_units_sub_le num hden
  have hsplit : x.value - num / den =
      (units num den - num / den / 2 ^ lastPlace num den) * 2 ^ lastPlace num den := by
    rw [value_of_nearest? hnum h, sub_mul, div_mul_cancel₀ _ hunit.ne']
  rw [hsplit, abs_mul, abs_of_pos hunit]
  linarith [mul_le_mul_of_nonneg_right herror hunit.le]

/-- A quotient is at least `2 ^ 52` units of its last place, unless this is the last place of the
smallest magnitudes. -/
theorem two_zpow_le_of_lastPlace (hnum : num ≠ 0) (hden : 0 < den)
    (h : -1074 < lastPlace num den) : (2 : ℚ) ^ (lastPlace num den + 52) ≤ num / den := by
  have hplace : lastPlace num den + 52 = binaryExponent num den := by
    unfold lastPlace at h ⊢
    omega
  rw [hplace]
  exact (binaryExponent_spec hnum hden).1

/-! ## Errors -/

theorem value_zero : zero.value = 0 := by
  rw [value, zero, Nat.cast_zero, zero_mul]

theorem nearest?_zero {x : Magnitude} (h : nearest? 0 den = some x) : x = zero := by
  rw [nearest?, if_pos rfl] at h
  exact (Option.some.inj h).symm

/-- A magnitude is a number with a relative error of at most `2 ^ -53`, or with half of the smallest
magnitude as its error. -/
def Approximates (x : Magnitude) (q : ℚ) : Prop :=
  |x.value - q| ≤ q * 2 ^ (-53 : ℤ) + 2 ^ (-1075 : ℤ)

theorem approximates_of_nearest? {x : Magnitude} (hden : 0 < den)
    (h : nearest? num den = some x) : x.Approximates (num / den) := by
  have hquotient : (0 : ℚ) ≤ num / den := by positivity
  have hrelative : (0 : ℚ) ≤ num / den * 2 ^ (-53 : ℤ) := by positivity
  have hsmallest : (0 : ℚ) ≤ 2 ^ (-1075 : ℤ) := by positivity
  by_cases hnum : num = 0
  · subst hnum
    obtain rfl := nearest?_zero h
    rw [Approximates, value_zero, Nat.cast_zero, zero_div, sub_zero, abs_zero, zero_mul, zero_add]
    exact hsmallest
  · have hhalf := abs_value_sub_le hnum hden h
    -- half a unit is `2 ^ -53` of the quotient at most, except for the smallest magnitudes
    by_cases hplace : -1074 < lastPlace num den
    · have hlarge := two_zpow_le_of_lastPlace hnum hden hplace
      have hscale : (2 : ℚ) ^ lastPlace num den / 2 =
          2 ^ (lastPlace num den + 52) * 2 ^ (-53 : ℤ) := by
        rw [← zpow_add₀ two_ne_zero, div_eq_mul_inv, ← zpow_sub_one₀ two_ne_zero]
        congr 1
        ring
      have hbound := mul_le_mul_of_nonneg_right hlarge (by positivity : (0 : ℚ) ≤ 2 ^ (-53 : ℤ))
      unfold Approximates
      linarith
    · have hleast : lastPlace num den = -1074 := by
        unfold lastPlace at hplace ⊢
        omega
      have hscale : (2 : ℚ) ^ (-1074 : ℤ) / 2 = 2 ^ (-1075 : ℤ) := by
        rw [div_eq_mul_inv, ← zpow_sub_one₀ two_ne_zero]
        rfl
      rw [hleast, hscale] at hhalf
      unfold Approximates
      linarith

/-! ## What the format holds -/

/-- The numbers that the format holds. -/
def Held (q : ℚ) : Prop := ∃ (m : ℕ) (e : ℤ), m < 2 ^ 53 ∧ -1074 ≤ e ∧ q = m * 2 ^ e

/-- A number that the format holds is made of units of the last place of a quotient, or smaller than
all quotients with this last place. -/
theorem Held.cases {r : ℚ} (h : Held r) (hnum : num ≠ 0) (hden : 0 < den) :
    (∃ n : ℕ, r = n * 2 ^ lastPlace num den) ∨
      (r < 2 ^ (lastPlace num den + 52) ∧ (2 : ℚ) ^ (lastPlace num den + 52) ≤ num / den) := by
  rcases h with ⟨m, e, hm, he, rfl⟩
  -- with a higher exponent it is a multiple of the unit, with a lower one it has too few digits
  by_cases hle : lastPlace num den ≤ e
  · left
    obtain ⟨k, hk⟩ := Int.eq_ofNat_of_zero_le (sub_nonneg.mpr hle)
    refine ⟨m * 2 ^ k, ?_⟩
    have he' : e = k + lastPlace num den := by omega
    rw [he', zpow_add₀ two_ne_zero, zpow_natCast]
    push_cast
    ring
  · right
    refine ⟨?_, two_zpow_le_of_lastPlace hnum hden (by omega)⟩
    calc (m : ℚ) * 2 ^ e < 2 ^ (53 : ℤ) * 2 ^ e := by
          apply mul_lt_mul_of_pos_right _ (by positivity)
          exact_mod_cast hm
      _ = 2 ^ (e + 53) := by rw [← zpow_add₀ two_ne_zero, add_comm]
      _ ≤ 2 ^ (lastPlace num den + 52) := by
          apply zpow_le_zpow_right₀ one_le_two
          omega

theorem le_units_of_le {n : ℕ} (hden : 0 < den) (h : (n : ℚ) * 2 ^ lastPlace num den ≤ num / den) :
    n ≤ units num den := by
  obtain ⟨herror, -⟩ := abs_le.mp (abs_units_sub_le num hden)
  have hn : (n : ℚ) ≤ num / den / 2 ^ lastPlace num den := (le_div_iff₀ (by positivity)).mpr h
  have hlt : (n : ℚ) < units num den + 1 := by linarith
  exact Nat.lt_succ_iff.mp (by exact_mod_cast hlt)

theorem units_le_of_le {n : ℕ} (hden : 0 < den) (h : (num / den : ℚ) ≤ n * 2 ^ lastPlace num den) :
    units num den ≤ n := by
  obtain ⟨-, herror⟩ := abs_le.mp (abs_units_sub_le num hden)
  have hn : (num / den / 2 ^ lastPlace num den : ℚ) ≤ n := (div_le_iff₀ (by positivity)).mpr h
  have hlt : (units num den : ℚ) < n + 1 := by linarith
  exact Nat.lt_succ_iff.mp (by exact_mod_cast hlt)

/-- Rounding does not fall below a number that the format holds. -/
theorem le_value_of_le {r : ℚ} {x : Magnitude} (hr : Held r) (hden : 0 < den)
    (h : nearest? num den = some x) (hle : r ≤ num / den) : r ≤ x.value := by
  by_cases hnum : num = 0
  · subst hnum
    obtain rfl := nearest?_zero h
    rw [value_zero]
    rwa [Nat.cast_zero, zero_div] at hle
  · have hunit : (0 : ℚ) ≤ 2 ^ lastPlace num den := by positivity
    rw [value_of_nearest? hnum h]
    rcases hr.cases hnum hden with ⟨n, rfl⟩ | ⟨hsmall, hlarge⟩
    · exact mul_le_mul_of_nonneg_right (Nat.cast_le.mpr (le_units_of_le hden hle)) hunit
    · have hsplit : (2 : ℚ) ^ (lastPlace num den + 52) =
          (2 ^ 52 : ℕ) * 2 ^ lastPlace num den := by
        rw [zpow_add₀ two_ne_zero, mul_comm]
        norm_num
      rw [hsplit] at hsmall hlarge
      exact hsmall.le.trans
        (mul_le_mul_of_nonneg_right (Nat.cast_le.mpr (le_units_of_le hden hlarge)) hunit)

/-- Rounding does not rise above a number that the format holds. -/
theorem value_le_of_le {r : ℚ} {x : Magnitude} (hr : Held r) (hden : 0 < den)
    (h : nearest? num den = some x) (hle : num / den ≤ r) : x.value ≤ r := by
  by_cases hnum : num = 0
  · subst hnum
    obtain rfl := nearest?_zero h
    rw [value_zero]
    rwa [Nat.cast_zero, zero_div] at hle
  · rw [value_of_nearest? hnum h]
    rcases hr.cases hnum hden with ⟨n, rfl⟩ | ⟨hsmall, hlarge⟩
    · exact mul_le_mul_of_nonneg_right (Nat.cast_le.mpr (units_le_of_le hden hle)) (by positivity)
    · exact absurd (hsmall.trans_le hlarge) (not_lt.mpr hle)

/-- What the format holds is not changed. -/
theorem value_of_held {x : Magnitude} (hden : 0 < den) (h : nearest? num den = some x)
    (hheld : Held (num / den)) : x.value = num / den :=
  le_antisymm (value_le_of_le hheld hden h le_rfl) (le_value_of_le hheld hden h le_rfl)

/-! ## Integers, halves and powers of ten -/

theorem held_natCast {n : ℕ} (h : n < 2 ^ 53) : Held n :=
  ⟨n, 0, h, by omega, by rw [zpow_zero, mul_one]⟩

theorem held_half {n : ℕ} (h : n < 2 ^ 53) : Held (n / 2) :=
  ⟨n, -1, h, by omega, by rw [zpow_neg_one, div_eq_mul_inv]⟩

theorem exists_nearest?_natCast {n : ℕ} (h : n < 2 ^ 53) :
    ∃ x, nearest? n 1 = some x ∧ x.value = n := by
  have hsize : (n / (1 : ℕ) : ℚ) < 2 ^ (1023 : ℤ) := by
    rw [Nat.cast_one, div_one]
    calc (n : ℚ) < 2 ^ (53 : ℤ) := by exact_mod_cast h
      _ ≤ 2 ^ (1023 : ℤ) := zpow_le_zpow_right₀ one_le_two (by omega)
  rcases exists_nearest? one_pos hsize with ⟨x, hx⟩
  have hvalue := value_of_held one_pos hx (by rw [Nat.cast_one, div_one]; exact held_natCast h)
  rw [Nat.cast_one, div_one] at hvalue
  exact ⟨x, hx, hvalue⟩

/-- The format holds the powers of ten up to this one, and some beyond. -/
theorem exists_powerOfTen? {d : ℕ} (h : d ≤ 20) :
    ∃ x, powerOfTen? d = some x ∧ x.value = 10 ^ d := by
  have hratio : ((Nat.pow 10 d : ℕ) / (1 : ℕ) : ℚ) = 10 ^ d := by
    rw [Nat.cast_one, div_one, Nat.pow_eq, Nat.cast_pow, Nat.cast_ofNat]
  have hfive : 5 ^ d < 2 ^ 53 :=
    (Nat.pow_le_pow_right (by omega) h).trans_lt (by norm_num)
  have hheld : Held (10 ^ d) := by
    refine ⟨5 ^ d, d, hfive, by omega, ?_⟩
    rw [zpow_natCast, Nat.cast_pow, ← mul_pow]
    norm_num
  have hsize : (10 ^ d : ℚ) < 2 ^ (1023 : ℤ) := by
    calc (10 ^ d : ℚ) ≤ 10 ^ 20 := pow_le_pow_right₀ (by norm_num) h
      _ < 2 ^ (67 : ℤ) := by norm_num
      _ ≤ 2 ^ (1023 : ℤ) := zpow_le_zpow_right₀ one_le_two (by omega)
  rcases exists_nearest? one_pos (by rw [hratio]; exact hsize) with ⟨x, hx⟩
  refine ⟨x, ?_, ?_⟩
  · rw [powerOfTen?, if_pos (by omega), hx]
  · rw [value_of_held one_pos hx (by rw [hratio]; exact hheld), hratio]

/-! ## Products and quotients -/

variable {x y z : Magnitude}

theorem mul_denominators_pos (x y : Magnitude) : 0 < x.denominator * y.denominator :=
  Nat.mul_pos x.denominator_pos y.denominator_pos

theorem ratio_mul (x y : Magnitude) :
    ((x.numerator * y.numerator : ℕ) / (x.denominator * y.denominator : ℕ) : ℚ) =
      x.value * y.value := by
  rw [value_eq_div, value_eq_div, Nat.cast_mul, Nat.cast_mul, mul_div_mul_comm]

theorem exists_mul? (h : x.value * y.value < 2 ^ (1023 : ℤ)) : ∃ z, x.mul? y = some z :=
  exists_nearest? (mul_denominators_pos x y) (by rw [ratio_mul]; exact h)

theorem approximates_of_mul? (h : x.mul? y = some z) : z.Approximates (x.value * y.value) := by
  have hz := approximates_of_nearest? (mul_denominators_pos x y) h
  rwa [ratio_mul] at hz

theorem le_value_of_mul? {r : ℚ} (hr : Held r) (h : x.mul? y = some z)
    (hle : r ≤ x.value * y.value) : r ≤ z.value :=
  le_value_of_le hr (mul_denominators_pos x y) h (by rw [ratio_mul]; exact hle)

theorem numerator_pos_of_value_pos (h : 0 < x.value) : 0 < x.numerator := by
  rw [Nat.pos_iff_ne_zero]
  intro hzero
  rw [value_eq_div, hzero, Nat.cast_zero, zero_div] at h
  exact lt_irrefl 0 h

theorem ratio_div (x y : Magnitude) :
    ((x.numerator * y.denominator : ℕ) / (x.denominator * y.numerator : ℕ) : ℚ) =
      x.value / y.value := by
  rw [value_eq_div, value_eq_div, Nat.cast_mul, Nat.cast_mul, div_div_div_eq]

theorem exists_div? (hy : 0 < y.value) (h : x.value / y.value < 2 ^ (1023 : ℤ)) :
    ∃ z, x.div? y = some z ∧ z.Approximates (x.value / y.value) := by
  have hden : 0 < x.denominator * y.numerator :=
    Nat.mul_pos x.denominator_pos (numerator_pos_of_value_pos hy)
  rcases exists_nearest? hden (by rw [ratio_div]; exact h) with ⟨z, hz⟩
  have hnear := approximates_of_nearest? hden hz
  rw [ratio_div] at hnear
  exact ⟨z, hz, hnear⟩

/-- The integer that a magnitude is rounded to. -/
theorem roundInteger_eq_iff {n : ℕ} :
    x.roundInteger = n ↔ (n : ℚ) - 1 / 2 ≤ x.value ∧ x.value < n + 1 / 2 := by
  rw [roundInteger, roundHalfUp_eq_iff x.denominator_pos, value_eq_div]

end Placeholder.Magnitude

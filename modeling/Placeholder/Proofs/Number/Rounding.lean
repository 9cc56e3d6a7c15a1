import Placeholder.Proofs.Number.Format
import Placeholder.Proofs.Number.Reader

/-! # Amounts that are rounded

An amount is multiplied by a power of ten, the product is rounded to an integer and this is divided
again. `RoundedBy` names the steps. Two roundings stand between the amount and the product, and
together they are off by less than half a unit of the last place (`abs_product_sub_le`); the division
loses nothing that could be seen in so many decimals (`exists_div?_powerOfTen?`). So the integer next
to the product is what is written, digit for digit (`RoundedBy.format_eq`), and the question for an
amount is only which integer this is.
-/

namespace Placeholder.Number

open Magnitude

variable {x : Magnitude} {q : ℚ} {d : ℕ}

/-! ## Errors of scaled amounts -/

/-- A magnitude is multiplied by a power of ten, and its error with it. -/
theorem abs_value_mul_sub_le (h : x.Approximates q) (hd : d ≤ 20) :
    |x.value * 10 ^ d - q * 10 ^ d| ≤ q * 10 ^ d * 2 ^ (-53 : ℤ) + 2 ^ (-1000 : ℤ) := by
  have hfactor : (0 : ℚ) < 10 ^ d := by positivity
  have htiny : (2 : ℚ) ^ (-1075 : ℤ) * 10 ^ d ≤ 2 ^ (-1000 : ℤ) :=
    calc (2 : ℚ) ^ (-1075 : ℤ) * 10 ^ d ≤ 2 ^ (-1075 : ℤ) * 10 ^ 20 := by
          apply mul_le_mul_of_nonneg_left _ (by positivity)
          exact pow_le_pow_right₀ (by norm_num) hd
      _ ≤ 2 ^ (-1075 : ℤ) * 2 ^ (75 : ℤ) := by
          apply mul_le_mul_of_nonneg_left _ (by positivity)
          norm_num
      _ = 2 ^ (-1000 : ℤ) := by rw [← zpow_add₀ two_ne_zero]; rfl
  rw [← sub_mul, abs_mul, abs_of_pos hfactor]
  calc |x.value - q| * 10 ^ d ≤ (q * 2 ^ (-53 : ℤ) + 2 ^ (-1075 : ℤ)) * 10 ^ d :=
        mul_le_mul_of_nonneg_right h hfactor.le
    _ = q * 10 ^ d * 2 ^ (-53 : ℤ) + 2 ^ (-1075 : ℤ) * 10 ^ d := by ring
    _ ≤ q * 10 ^ d * 2 ^ (-53 : ℤ) + 2 ^ (-1000 : ℤ) := add_le_add_right htiny _

/-- Two roundings, that of the amount and that of its product with a power of ten, are off by less
than half a unit for amounts of at most fifteen digits. -/
theorem abs_product_sub_le {z : Magnitude} (h : x.Approximates q) (hq : 0 ≤ q) (hd : d ≤ 20)
    (hz : z.Approximates (x.value * 10 ^ d)) :
    |z.value - q * 10 ^ d| ≤ q * 10 ^ d * 2 ^ (-51 : ℤ) + 2 ^ (-200 : ℤ) := by
  have hfirst := abs_value_mul_sub_le h hd
  have hunits : 0 ≤ q * 10 ^ d := by positivity
  have hless : (2 : ℚ) ^ (-1075 : ℤ) ≤ 2 ^ (-1000 : ℤ) :=
    zpow_le_zpow_right₀ one_le_two (by omega)
  have htiny : 4 * (2 : ℚ) ^ (-1000 : ℤ) ≤ 2 ^ (-200 : ℤ) :=
    calc 4 * (2 : ℚ) ^ (-1000 : ℤ) = 2 ^ (2 : ℤ) * 2 ^ (-1000 : ℤ) := by norm_num
      _ = 2 ^ (-998 : ℤ) := by rw [← zpow_add₀ two_ne_zero]; rfl
      _ ≤ 2 ^ (-200 : ℤ) := zpow_le_zpow_right₀ one_le_two (by omega)
  unfold Approximates at hz
  -- what is left is linear; the small powers are kept from being computed
  generalize q * 10 ^ d = units at *
  generalize x.value * 10 ^ d = product at *
  generalize (2 : ℚ) ^ (-1075 : ℤ) = least at *
  generalize (2 : ℚ) ^ (-1000 : ℤ) = tiny at *
  generalize (2 : ℚ) ^ (-200 : ℤ) = small at *
  have hrelative : (2 : ℚ) ^ (-53 : ℤ) = 1 / 2 ^ 53 := by norm_num
  have hrelative' : (2 : ℚ) ^ (-51 : ℤ) = 1 / 2 ^ 51 := by norm_num
  rw [hrelative] at hfirst hz
  rw [hrelative']
  rw [abs_le] at hfirst hz ⊢
  constructor <;> linarith [hfirst.1, hfirst.2, hz.1, hz.2]

/-- The product is far from the largest magnitude. -/
theorem mul_lt_two_zpow (h : x.Approximates q) (hd : d ≤ 20) (hsize : q * 10 ^ d ≤ 10 ^ 15) :
    x.value * 10 ^ d < 2 ^ (51 : ℤ) := by
  have herror := abs_value_mul_sub_le h hd
  have hsmall : (2 : ℚ) ^ (-1000 : ℤ) ≤ 2 ^ (0 : ℤ) := zpow_le_zpow_right₀ one_le_two (by omega)
  generalize (2 : ℚ) ^ (-1000 : ℤ) = tiny at *
  rw [abs_le] at herror
  norm_num at hsmall herror hsize ⊢
  linarith [herror.2]

/-- So is the integer next to it from the first one that the format does not hold. -/
theorem roundInteger_lt {z : Magnitude} {units : ℚ}
    (h : |z.value - units| ≤ units * 2 ^ (-51 : ℤ) + 2 ^ (-200 : ℤ)) (hsize : units ≤ 10 ^ 15) :
    z.roundInteger < 2 ^ 50 := by
  obtain ⟨hround, -⟩ := roundInteger_eq_iff.mp (rfl : z.roundInteger = z.roundInteger)
  have hsmall : (2 : ℚ) ^ (-200 : ℤ) ≤ 2 ^ (0 : ℤ) := zpow_le_zpow_right₀ one_le_two (by omega)
  generalize (2 : ℚ) ^ (-200 : ℤ) = tiny at *
  rw [abs_le] at h
  have hlt : (z.roundInteger : ℚ) < (2 ^ 50 : ℕ) := by
    norm_num at hsmall h hsize hround
    push_cast
    linarith [h.2]
  exact Nat.cast_lt.mp hlt

/-! ## Rounding to a number of decimals -/

/-- Units of a decimal place stand for themselves: divided by the power of ten and written with so
many decimals, they come out again. -/
theorem exists_div?_powerOfTen? {integer factor : Magnitude} {n : ℕ} (hn : n < 2 ^ 50)
    (hd : d ≤ 20) (hinteger : integer.value = n) (hfactor : factor.value = 10 ^ d) :
    ∃ rounded, integer.div? factor = some rounded ∧
      roundHalfEven (rounded.numerator * Nat.pow 10 d) rounded.denominator = n := by
  have hpow : (0 : ℚ) < 10 ^ d := by positivity
  have hbound : (n : ℚ) < 2 ^ (50 : ℤ) := by exact_mod_cast hn
  have hsize : integer.value / factor.value < 2 ^ (1023 : ℤ) := by
    rw [hinteger, hfactor]
    calc (n / 10 ^ d : ℚ) ≤ n := div_le_self (Nat.cast_nonneg n) (one_le_pow₀ (by norm_num))
      _ < 2 ^ (50 : ℤ) := hbound
      _ ≤ 2 ^ (1023 : ℤ) := zpow_le_zpow_right₀ one_le_two (by omega)
  rcases exists_div? (by rw [hfactor]; exact hpow) hsize with ⟨rounded, hrounded, hnear⟩
  refine ⟨rounded, hrounded, roundHalfEven_eq rounded.denominator_pos ?_⟩
  have herror := abs_value_mul_sub_le hnear hd
  have hvalue : ((rounded.numerator * Nat.pow 10 d : ℕ) / rounded.denominator : ℚ) =
      rounded.value * 10 ^ d := by
    rw [value_eq_div, Nat.cast_mul, Nat.pow_eq, Nat.cast_pow, Nat.cast_ofNat]
    ring
  have hsmall : (2 : ℚ) ^ (-1000 : ℤ) ≤ 2 ^ (-3 : ℤ) := zpow_le_zpow_right₀ one_le_two (by omega)
  rw [hinteger, hfactor, div_mul_cancel₀ _ hpow.ne'] at herror
  rw [hvalue]
  generalize (2 : ℚ) ^ (-1000 : ℤ) = tiny at *
  have hrelative : (n : ℚ) * 2 ^ (-53 : ℤ) ≤ 2 ^ (50 : ℤ) * 2 ^ (-53 : ℤ) :=
    mul_le_mul_of_nonneg_right hbound.le (by positivity)
  norm_num at hsmall hrelative herror ⊢
  linarith

/-- The steps by which an amount is rounded: its product with a power of ten, which is near what it
should be, and the magnitude that writes the integer next to the product as its units. -/
structure RoundedBy (x : Magnitude) (q : ℚ) (d : ℕ) (factor product rounded : Magnitude) : Prop where
  factor_eq : powerOfTen? d = some factor
  factor_value : factor.value = 10 ^ d
  product_eq : x.mul? factor = some product
  product_near : |product.value - q * 10 ^ d| ≤ q * 10 ^ d * 2 ^ (-51 : ℤ) + 2 ^ (-200 : ℤ)
  rounded_eq : roundTo? x d = some rounded
  units_eq : roundHalfEven (rounded.numerator * Nat.pow 10 d) rounded.denominator =
    product.roundInteger

/-- An amount of at most fifteen digits can be rounded. -/
theorem exists_roundedBy (h : x.Approximates q) (hq : 0 ≤ q) (hd : d ≤ 20)
    (hsize : q * 10 ^ d ≤ 10 ^ 15) : ∃ factor product rounded, RoundedBy x q d factor product rounded := by
  rcases exists_powerOfTen? hd with ⟨factor, hfactor, hpower⟩
  have hbound : x.value * factor.value < 2 ^ (1023 : ℤ) := by
    rw [hpower]
    exact (mul_lt_two_zpow h hd hsize).trans_le (zpow_le_zpow_right₀ one_le_two (by omega))
  rcases exists_mul? hbound with ⟨product, hproduct⟩
  have hnear := approximates_of_mul? hproduct
  rw [hpower] at hnear
  have herror := abs_product_sub_le h hq hd hnear
  have hinteger : product.roundInteger < 2 ^ 50 := roundInteger_lt herror hsize
  rcases exists_nearest?_natCast (n := product.roundInteger) (by omega) with
    ⟨integer, hnearest, hvalue⟩
  rcases exists_div?_powerOfTen? hinteger hd hvalue hpower with ⟨rounded, hrounded, hunits⟩
  refine ⟨factor, product, rounded, hfactor, hpower, hproduct, herror, ?_, hunits⟩
  rw [roundTo?, hfactor]
  simp only [Option.bind_eq_bind, Option.bind_some, hproduct, hnearest, hrounded]

namespace RoundedBy

variable {factor product rounded : Magnitude}

/-- Of zero no units are written. -/
theorem roundInteger_of_zero (h : RoundedBy x q d factor product rounded) (hx : x.mantissa = 0) :
    product.roundInteger = 0 := by
  have hnumerator : x.numerator * factor.numerator = 0 := by
    rw [numerator, hx, Nat.zero_mul, Nat.zero_mul]
  have hproduct := h.product_eq
  rw [mul?, hnumerator] at hproduct
  rw [nearest?_zero hproduct, roundInteger_eq_iff, value_zero]
  norm_num

/-- An amount that the units come close to is written with these units. -/
theorem roundInteger_eq (h : RoundedBy x q d factor product rounded) {n : ℕ}
    (hlow : (n : ℚ) - 1 / 2 + (q * 10 ^ d * 2 ^ (-51 : ℤ) + 2 ^ (-200 : ℤ)) ≤ q * 10 ^ d)
    (hhigh : q * 10 ^ d + (q * 10 ^ d * 2 ^ (-51 : ℤ) + 2 ^ (-200 : ℤ)) < n + 1 / 2) :
    product.roundInteger = n := by
  obtain ⟨hbelow, habove⟩ := abs_le.mp h.product_near
  generalize q * 10 ^ d * 2 ^ (-51 : ℤ) + 2 ^ (-200 : ℤ) = error at *
  rw [roundInteger_eq_iff]
  constructor
  · linarith
  · linarith

end RoundedBy

/-! ## What is written -/

/-- Digits before the point, and as many behind it as there are decimals, that write a number of
units of the last decimal place. -/
structure WritesUnits (decimals n : ℕ) (whole fraction : List Char) : Prop where
  isWhole : IsWhole whole
  isFraction : IsFraction decimals fraction
  value : digitsValue (whole ++ fraction) = n

theorem WritesUnits.unique {decimals n : ℕ} {whole whole' fraction fraction' : List Char}
    (h : WritesUnits decimals n whole fraction) (h' : WritesUnits decimals n whole' fraction') :
    whole = whole' ∧ fraction = fraction' :=
  eq_of_digitsValue_parts h.isWhole h'.isWhole h.isFraction h'.isFraction
    (h.value.trans h'.value.symm)

theorem exists_writesUnits (rounded : Magnitude) (decimals : ℕ) :
    ∃ whole fraction, WritesUnits decimals
      (roundHalfEven (rounded.numerator * Nat.pow 10 decimals) rounded.denominator)
      whole fraction := by
  obtain ⟨hwhole, hfraction, hvalue⟩ := fixedParts_spec rounded decimals
  exact ⟨_, _, hwhole, hfraction, hvalue⟩

/-- Digits that write no units are zeros. -/
theorem any_ne_zero_iff {cs : List Char} (h : ∀ c ∈ cs, isDigit c = true) :
    cs.any (· != '0') = true ↔ digitsValue cs ≠ 0 := by
  rw [← not_iff_not, not_not, Bool.not_eq_true, List.any_eq_false]
  constructor
  · intro hzeros
    have hcs : cs = List.replicate cs.length '0' := by
      apply List.eq_replicate_iff.mpr
      refine ⟨rfl, ?_⟩
      intro c hc
      have hnot := hzeros c hc
      rwa [bne_iff_ne, not_not] at hnot
    rw [hcs, digitsValue_zeros]
  · intro hvalue c hc
    have hcs : cs = List.replicate cs.length '0' := by
      apply eq_of_digitsValue_eq h
      · intro d hd
        rw [List.eq_of_mem_replicate hd]
        rfl
      · rw [List.length_replicate]
      · rw [hvalue, digitsValue_zeros]
    rw [hcs] at hc
    rw [bne_iff_ne, not_not]
    exact List.eq_of_mem_replicate hc

/-- The sign of an amount of so many units. -/
def signFor (negative : Bool) (n : ℕ) : List Char := if negative = true ∧ n ≠ 0 then ['-'] else []

theorem signFor_cases (negative : Bool) (n : ℕ) :
    signFor negative n = [] ∨ signFor negative n = ['-'] := by
  unfold signFor
  split
  · exact .inr rfl
  · exact .inl rfl

theorem signOf_eq_signFor {n : ℕ} {whole fraction : List Char} (h : WritesUnits d n whole fraction)
    (hx : x.mantissa = 0 → n = 0) (negative : Bool) :
    signOf (.finite negative x) (whole ++ fraction) = signFor negative n := by
  have hdigits := any_ne_zero_iff (isDigit_of_mem_parts h.isWhole h.isFraction)
  rw [h.value] at hdigits
  unfold signOf signFor
  congr 1
  rw [Bool.and_eq_true, hdigits, Binary64.isNegative, Bool.and_eq_true, bne_iff_ne]
  apply propext
  constructor
  · rintro ⟨⟨hnegative, -⟩, hn⟩
    exact ⟨hnegative, hn⟩
  · rintro ⟨hnegative, hn⟩
    exact ⟨⟨hnegative, fun hzero => hn (hx hzero)⟩, hn⟩

/-- The units settle what is written. -/
theorem RoundedBy.format_eq {factor product rounded : Magnitude}
    (h : RoundedBy x q d factor product rounded) {whole fraction : List Char}
    (hparts : WritesUnits d product.roundInteger whole fraction) (negative : Bool)
    (point separator : String) :
    format (.finite negative x) d point separator =
      .ok (String.ofList (signFor negative product.roundInteger ++ group separator.toList whole ++
        tailOf d point fraction)) := by
  obtain ⟨hwhole, hfraction, hvalue⟩ := fixedParts_spec rounded d
  rw [h.units_eq] at hvalue
  obtain ⟨hsame, hsame'⟩ := WritesUnits.unique ⟨hwhole, hfraction, hvalue⟩ hparts
  rw [format_of_roundTo? h.rounded_eq, hsame, hsame',
    signOf_eq_signFor hparts h.roundInteger_of_zero]

end Placeholder.Number

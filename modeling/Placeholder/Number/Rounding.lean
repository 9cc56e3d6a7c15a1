/-! # Rounding quotients

Two ways to round a quotient of natural numbers to a natural number. Both give a
nearest one; they differ where two are equally near.

* `roundHalfEven_near`, `roundHalfUp_near`: the result is at most half a unit
  away from the quotient.
-/

namespace Placeholder.Number

/-- The natural number nearest to `num / den`, the even one of two. -/
def roundHalfEven (num den : Nat) : Nat :=
  let q := num / den
  let r := num % den
  if 2 * r < den then q
  else if den < 2 * r then q + 1
  else q + q % 2

/-- The natural number nearest to `num / den`, the larger one of two. -/
def roundHalfUp (num den : Nat) : Nat := (2 * num + den) / (2 * den)

theorem roundHalfEven_near (num : Nat) {den : Nat} (h : 0 < den) :
    2 * num ≤ 2 * (roundHalfEven num den * den) + den ∧
      2 * (roundHalfEven num den * den) ≤ 2 * num + den := by
  have hdiv : num / den * den + num % den = num := by
    rw [Nat.mul_comm]; exact Nat.div_add_mod num den
  have hr : num % den < den := Nat.mod_lt num h
  have hparity : num / den % 2 = 0 ∨ num / den % 2 = 1 := by omega
  unfold roundHalfEven
  simp only
  split
  · omega
  · split
    · rw [Nat.add_mul]; omega
    · rcases hparity with hp | hp <;> rw [hp, Nat.add_mul] <;> omega

theorem roundHalfUp_near (num : Nat) {den : Nat} (h : 0 < den) :
    2 * num < 2 * (roundHalfUp num den * den) + den ∧
      2 * (roundHalfUp num den * den) ≤ 2 * num + den := by
  have hdiv := Nat.div_add_mod (2 * num + den) (2 * den)
  have hr : (2 * num + den) % (2 * den) < 2 * den := Nat.mod_lt _ (by omega)
  have hcomm : 2 * den * ((2 * num + den) / (2 * den)) =
      2 * ((2 * num + den) / (2 * den) * den) := by
    rw [Nat.mul_assoc, Nat.mul_comm den]
  unfold roundHalfUp
  omega

end Placeholder.Number

/-!
# Rounding a quotient to the nearest integer

Every conversion between binary and decimal numbers in this library ends in one division of
natural numbers. `roundHalfEven` performs it: the nearest integer, and of two equally near
integers the even one.

## Main definitions

* `Sift.roundHalfEven`: the integer nearest to `n / d`.

## Main results

* `Sift.roundHalfEven_error`: the result is within half a unit of the quotient.
* `Sift.roundHalfEven_mono`: rounding keeps the order of two numerators.
-/

set_option autoImplicit false

namespace Sift

/-- The integer nearest to `n / d`, the even one of two equally near integers. -/
def roundHalfEven (n d : Nat) : Nat :=
  let q := n / d
  let r := n % d
  if d < 2 * r ∨ (2 * r = d ∧ q % 2 = 1) then q + 1 else q

/-- Rounding moves a quotient by at most one half. -/
theorem roundHalfEven_error (n d : Nat) (hd : 0 < d) :
    2 * (roundHalfEven n d * d) ≤ 2 * n + d ∧ 2 * n ≤ 2 * (roundHalfEven n d * d) + d := by
  have hn : n / d * d + n % d = n := by rw [Nat.mul_comm]; exact Nat.div_add_mod n d
  have hr := Nat.mod_lt n hd
  unfold roundHalfEven
  simp only
  generalize hq : n / d = q at *
  generalize n % d = r at *
  split
  · rw [Nat.add_mul]; omega
  · omega

/-- A quotient without remainder is not changed. -/
theorem roundHalfEven_mul (q d : Nat) (hd : 0 < d) : roundHalfEven (q * d) d = q := by
  unfold roundHalfEven
  simp only [Nat.mul_mod_left, Nat.mul_div_cancel q hd]
  split <;> omega

/-- Rounding gives the quotient or the next integer. -/
theorem roundHalfEven_bounds (n d : Nat) :
    n / d ≤ roundHalfEven n d ∧ roundHalfEven n d ≤ n / d + 1 := by
  unfold roundHalfEven
  simp only
  split <;> omega

/-- Rounding is monotone in the numerator. -/
theorem roundHalfEven_mono {n m d : Nat} (h : n ≤ m) : roundHalfEven n d ≤ roundHalfEven m d := by
  have hq : n / d ≤ m / d := Nat.div_le_div_right h
  rcases Nat.lt_or_ge (n / d) (m / d) with hlt | hge
  · exact Nat.le_trans (roundHalfEven_bounds n d).2
      (Nat.le_trans hlt (roundHalfEven_bounds m d).1)
  · have heq : n / d = m / d := Nat.le_antisymm hq hge
    have hr : n % d ≤ m % d := by
      have h1 := Nat.div_add_mod n d
      have h2 := Nat.div_add_mod m d
      rw [heq] at h1
      omega
    unfold roundHalfEven
    simp only [heq]
    split <;> split <;> omega

end Sift

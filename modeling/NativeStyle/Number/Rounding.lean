/-!
# Rounding a quotient

Quotients are rounded to the nearest integer, and a half goes to the even neighbour.

Main statements: `two_mul_roundQuotient` (the result is within half a unit),
`roundQuotient_mul_self` (an exact quotient stays).
-/

namespace NativeStyle

/-- The integer nearest to `n / d`; a half goes to the even neighbour. -/
def roundQuotient (n d : Nat) : Nat :=
  let floor := n / d
  let remainder := n % d
  if 2 * remainder < d then floor
  else if d < 2 * remainder then floor + 1
  else floor + floor % 2

/-- The rounded quotient is within half a unit of the quotient. -/
theorem two_mul_roundQuotient {n d : Nat} (hd : 0 < d) :
    2 * (roundQuotient n d * d) ≤ 2 * n + d ∧ 2 * n ≤ 2 * (roundQuotient n d * d) + d := by
  have hdiv : d * (n / d) + n % d = n := Nat.div_add_mod n d
  have hmod : n % d < d := Nat.mod_lt n hd
  have hcomm : n / d * d = d * (n / d) := Nat.mul_comm ..
  unfold roundQuotient
  simp only
  split
  · omega
  · split
    · rw [Nat.add_mul]; omega
    · rcases Nat.mod_two_eq_zero_or_one (n / d) with h | h <;> rw [h, Nat.add_mul] <;> omega

/-- An exact quotient stays. -/
theorem roundQuotient_mul_self {k d : Nat} (hd : 0 < d) : roundQuotient (k * d) d = k := by
  simp [roundQuotient, Nat.mul_div_cancel k hd, hd]

/-- A quotient of at most `k` rounds to at most `k`. -/
theorem roundQuotient_le {n d k : Nat} (hd : 0 < d) (h : n ≤ k * d) : roundQuotient n d ≤ k := by
  have hdiv : d * (n / d) + n % d = n := Nat.div_add_mod n d
  have hmod : n % d < d := Nat.mod_lt n hd
  unfold roundQuotient
  simp only
  by_cases hlt : n / d < k
  · split
    · omega
    · split
      · omega
      · omega
  · -- The floor has reached `k`, so nothing is left to round up.
    have hk : n / d ≤ k := Nat.div_le_of_le_mul (by rwa [Nat.mul_comm])
    have heq : n / d = k := by omega
    have hrem : n % d = 0 := by
      rw [heq, Nat.mul_comm] at hdiv
      omega
    simp [hrem, hd, heq]

end NativeStyle

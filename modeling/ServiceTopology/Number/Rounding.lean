/-!
# Rounding a quotient

Round the quotient of two naturals to the nearest natural, a half going to the even neighbour.

The lemmas fix the result for a positive divisor: it lies within half a unit of the exact quotient, and
it is even on a tie.
-/

namespace ServiceTopology.Number

/-- Round a quotient to the nearest natural, ties to even. -/
def roundQuotient (n d : Nat) : Nat :=
  let q := n / d
  let r := n % d
  if 2 * r < d then q else if d < 2 * r then q + 1 else q + q % 2

/-- The rounded quotient is within half a unit of the exact one. -/
theorem roundQuotient_near (n d : Nat) (h : 0 < d) :
    2 * (roundQuotient n d * d) ≤ 2 * n + d ∧ 2 * n ≤ 2 * (roundQuotient n d * d) + d := by
  have hsplit : d * (n / d) + n % d = n := Nat.div_add_mod n d
  have hlt : n % d < d := Nat.mod_lt _ h
  unfold roundQuotient
  simp only
  generalize n / d = q at *
  generalize n % d = r at *
  have hq : (q + 1) * d = d * q + d := by rw [Nat.add_mul, Nat.mul_comm]; simp
  have hq0 : q * d = d * q := Nat.mul_comm ..
  split
  · omega
  · split
    · omega
    · rcases Nat.mod_two_eq_zero_or_one q with hm | hm <;> rw [hm]
      · simp only [Nat.add_zero]; omega
      · omega

/-- A tie goes to the even neighbour. -/
theorem roundQuotient_tie_even (n d : Nat) (h : 2 * (n % d) = d) :
    roundQuotient n d % 2 = 0 := by
  unfold roundQuotient
  simp only
  rw [if_neg (by omega), if_neg (by omega)]
  omega

end ServiceTopology.Number

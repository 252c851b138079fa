import Reporting.Power

/-!
# Rounding a quotient

Decimal places are dropped, and binary significands found, by rounding one exact quotient to a
whole number. The two rules differ only where the remainder is exactly half of the divisor.
-/

namespace Reporting

/-- Where a quotient goes that lies halfway between two whole numbers. -/
inductive Tie
  | toEven
  | away
deriving DecidableEq, Repr

def roundQuotient (tie : Tie) (n d : Nat) : Nat :=
  if d < 2 * (n % d) ∨ (2 * (n % d) = d ∧ (tie = .away ∨ n / d % 2 = 1)) then n / d + 1 else n / d

theorem roundQuotient_one (tie : Tie) (n : Nat) : roundQuotient tie n 1 = n := by
  simp [roundQuotient, Nat.mod_one]

theorem roundQuotient_mul_le (tie : Tie) (n d : Nat) :
    2 * (roundQuotient tie n d * d) ≤ 2 * n + d := by
  have h := Nat.div_add_mod n d
  have hm : n / d * d = d * (n / d) := Nat.mul_comm _ _
  unfold roundQuotient
  split
  · rw [Nat.add_mul, Nat.one_mul]
    omega
  · omega

theorem le_roundQuotient_mul (tie : Tie) (n : Nat) {d : Nat} (hd : 0 < d) :
    2 * n ≤ 2 * (roundQuotient tie n d * d) + d := by
  have h := Nat.div_add_mod n d
  have hl := Nat.mod_lt n hd
  have hm : n / d * d = d * (n / d) := Nat.mul_comm _ _
  unfold roundQuotient
  split
  · rw [Nat.add_mul, Nat.one_mul]
    omega
  · omega

end Reporting

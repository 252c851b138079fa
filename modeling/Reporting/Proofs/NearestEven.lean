import Reporting.Proofs.Nearest

/-!
# Rounding ties to the even digit

Dropping the places of a decimal gives the nearest number with the places kept, and of two equally
near ones the even one (`nearestEven_round`). There is only one such number (`NearestEven.eq`).
-/

namespace Reporting

section Ties

variable {places : Nat} {x q : ℚ}

/-- The nearest number with the given places, of two that are equally near the even one. -/
structure NearestEven (places : Nat) (x q : ℚ) : Prop extends Nearest places x q where
  even : |q - x| * 10 ^ places = 1 / 2 → ∃ r : Int, q * 10 ^ places = 2 * r

theorem even_roundQuotient {n d : Nat} (hd : 0 < d)
    (h : |(roundQuotient .toEven n d : ℚ) - n / d| = 1 / 2) :
    roundQuotient .toEven n d % 2 = 0 := by
  have hpos : (0 : ℚ) < d := Nat.cast_pos.2 hd
  have hhalf : 2 * (roundQuotient .toEven n d * d) = 2 * n + d
      ∨ 2 * (roundQuotient .toEven n d * d) + d = 2 * n := by
    rcases (abs_eq (by norm_num)).1 h with h | h <;> field_simp at h
    · left
      have hcast : (2 * (roundQuotient .toEven n d * d) : ℚ) = 2 * n + d := by linarith
      exact_mod_cast hcast
    · right
      have hcast : (2 * (roundQuotient .toEven n d * d) + d : ℚ) = 2 * n := by linarith
      exact_mod_cast hcast
  have hdiv := Nat.div_add_mod' n d
  have hmod := Nat.mod_lt n hd
  unfold roundQuotient at hhalf ⊢
  split at hhalf <;> rename_i hbranch
  · rw [if_pos hbranch]
    rw [Nat.add_mul, Nat.one_mul] at hhalf
    obtain hlt | ⟨-, hodd | hodd⟩ := hbranch
    · omega
    · cases hodd
    · omega
  · rw [if_neg hbranch]
    simp only [not_or, not_and, reduceCtorEq, false_or] at hbranch
    have htie : 2 * (n % d) = d := by omega
    have := hbranch.2 htie
    omega

theorem NearestEven.eq {q' : ℚ} (h : NearestEven places x q) (h' : NearestEven places x q') :
    q = q' := by
  wlog hle : q ≤ q' generalizing q q'
  · exact (this h' h (le_of_not_ge hle)).symm
  have hpow : (0 : ℚ) < 10 ^ places := by positivity
  obtain ⟨r, hr⟩ := h.units
  obtain ⟨r', hr'⟩ := h'.units
  have hbelow : x * 10 ^ places - q * 10 ^ places ≤ |q - x| * 10 ^ places := by
    rw [← sub_mul, abs_sub_comm]
    gcongr
    exact le_abs_self _
  have habove : q' * 10 ^ places - x * 10 ^ places ≤ |q' - x| * 10 ^ places := by
    rw [← sub_mul]
    gcongr
    exact le_abs_self _
  have hunits : r ≤ r' := by
    have hcast : (r : ℚ) ≤ r' := by
      rw [← hr, ← hr']
      gcongr
    exact_mod_cast hcast
  rcases hunits.eq_or_lt with rfl | hlt
  · exact mul_right_cancel₀ hpow.ne' (hr.trans hr'.symm)
  · -- a whole unit apart, both are half a unit away and even
    have hunit : (r : ℚ) + 1 ≤ r' := by exact_mod_cast hlt
    have hclose := h.close
    have hclose' := h'.close
    obtain ⟨s, hs⟩ := h.even (by linarith)
    obtain ⟨s', hs'⟩ := h'.even (by linarith)
    have hr2 : r = 2 * s := by exact_mod_cast hr.symm.trans hs
    have hr2' : r' = 2 * s' := by exact_mod_cast hr'.symm.trans hs'
    have hnext : (r' : ℚ) ≤ r + 1 := by linarith
    have hnext' : r' ≤ r + 1 := by exact_mod_cast hnext
    omega

theorem nearestEven_of_quotient {negative : Bool} {n d : Nat} (hd : 0 < d)
    (hx : x * 10 ^ places = Decimal.sign negative * (n / d))
    (hq : q * 10 ^ places = Decimal.sign negative * roundQuotient .toEven n d) :
    NearestEven places x q := by
  have hsign (m : Nat) : ∃ r : Int, Decimal.sign negative * m = r ∧ r.natAbs = m := by
    cases negative
    · exact ⟨m, by simp [Decimal.sign], by simp⟩
    · exact ⟨-m, by simp [Decimal.sign], by simp⟩
  have hdist : |q - x| * 10 ^ places = |(roundQuotient .toEven n d : ℚ) - n / d| := by
    rw [← abs_of_pos (by positivity : (0 : ℚ) < 10 ^ places), ← abs_mul, sub_mul, hq, hx, ← mul_sub,
      abs_mul, Decimal.abs_sign, one_mul]
  obtain ⟨r, hr, habs⟩ := hsign (roundQuotient .toEven n d)
  refine ⟨⟨⟨r, hq.trans hr⟩, hdist.trans_le (abs_roundQuotient_sub_le hd .toEven)⟩, fun hhalf => ?_⟩
  have heven := even_roundQuotient hd (hdist.symm.trans hhalf)
  refine ⟨r / 2, ?_⟩
  rw [hq, hr]
  have : r = 2 * (r / 2) := by omega
  exact_mod_cast this

end Ties

namespace Decimal

/-- Dropping places rounds a tie to the even digit. -/
theorem nearestEven_round (places : Nat) (d : Decimal) :
    NearestEven places d.value (d.round .toEven places).value := by
  rw [round]
  split
  · rename_i hscale
    exact {
      units := ⟨_, (scaled_value hscale).symm⟩
      close := by simp
      even := fun h => by norm_num at h }
  · rename_i hscale
    obtain ⟨dropped, hdropped⟩ := Nat.exists_eq_add_of_le (Nat.le_of_not_le hscale)
    have hdrop : 0 < 10 ^ (d.scale - places) := by positivity
    have hvalue : d.value * 10 ^ places
        = sign d.negative * (d.mantissa / (10 ^ (d.scale - places) : Nat)) := by
      rw [value_eq, mul_assoc, hdropped, Nat.add_sub_cancel_left, pow_add]
      push_cast
      field_simp
    refine nearestEven_of_quotient hdrop hvalue ?_
    rw [value_eq, ← mul_div_assoc, sign_and_ne_zero, div_mul_cancel₀ _ (by positivity)]

end Decimal

end Reporting

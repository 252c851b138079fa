import Mathlib.Algebra.BigOperators.Fin
import Mathlib.Algebra.Order.Chebyshev
import Reporting.Proofs.Definedness

/-!
# How accurate statistics are

Of values that are neither too many nor too large the sum is exact, the mean is the exact one
rounded once, and variance and deviation are off by little more than a unit in the last place that
they show (`statistics_accurate`). The variance is computed from a rounded term and cut off at zero;
since the exact one is not negative either, cutting off does not move it away.
-/

namespace Reporting

namespace Summary

/-- Values whose number, places and size leave room for exact sums and squares. -/
structure Moderate (values : List Decimal) : Prop where
  ne_nil : values ≠ []
  length_le : values.length ≤ 10 ^ 9
  scale_le : ∀ d ∈ values, d.scale ≤ 4
  magnitude_le : magnitude values ≤ 10 ^ 9

section Exact

/-- The exact sum of values. -/
def total (values : List Decimal) : ℚ := (values.map Decimal.value).sum

/-- The exact sum of the squares of values less the square of their sum over their number. -/
def spread (values : List Decimal) : ℚ := squares values - total values ^ 2 / values.length

theorem abs_total_le (values : List Decimal) : |total values| ≤ magnitude values := by
  induction values with
  | nil => simp [total, magnitude]
  | cons d values ih =>
    rw [total, magnitude, List.map_cons, List.sum_cons, List.map_cons, List.sum_cons]
    exact (abs_add_le _ _).trans (add_le_add_right ih _)

/-- The inequality of Cauchy and Schwarz for the values and as many ones. -/
theorem total_sq_le (values : List Decimal) :
    total values ^ 2 ≤ values.length * squares values := by
  have h := sq_sum_le_card_mul_sum_sq (s := (Finset.univ : Finset (Fin values.length)))
    (f := fun i => values[i.1].value)
  rw [Finset.card_univ, Fintype.card_fin, Fin.sum_univ_fun_getElem values Decimal.value,
    Fin.sum_univ_fun_getElem values fun d => d.value ^ 2] at h
  exact h

theorem spread_nonneg {values : List Decimal} (h : values ≠ []) : 0 ≤ spread values := by
  have hpos : (0 : ℚ) < values.length := Nat.cast_pos.2 (List.length_pos_iff.2 h)
  rw [spread, sub_nonneg, div_le_iff₀ hpos, mul_comm]
  exact total_sq_le values

end Exact

/-- Rounding moves a number by half of a unit in the fourth place at most. -/
theorem abs_rounded_sub_le {d : Decimal} {x error : ℚ} (h : |d.value - x| ≤ error) :
    |(rounded d).value - x| ≤ 1 / 2 / 10 ^ 4 + error := by
  rw [value_rounded]
  exact (abs_sub_le _ d.value _).trans (add_le_add abs_halfAway_sub_le h)

section Accurate

variable {values : List Decimal} (h : Moderate values)

include h in
theorem sum_moderate :
    (ofValues values).sum.value = total values ∧ (ofValues values).sum.scale ≤ 4 :=
  sum_ofValues h.scale_le (h.magnitude_le.trans_lt (by norm_num))

include h in
theorem decimalCount_moderate : (ofValues values).decimalCount.value = values.length := by
  have hlt : (ofValues values).count < 2 ^ 96 := by
    rw [count_ofValues]
    exact h.length_le.trans_lt (by decide)
  rw [decimalCount_of_lt hlt, count_ofValues]

include h in
theorem magnitude_sq_moderate : magnitude values ^ 2 ≤ 10 ^ 18 :=
  calc magnitude values ^ 2 ≤ (10 ^ 9) ^ 2 :=
        pow_le_pow_left₀ (magnitude_nonneg values) h.magnitude_le 2
    _ = 10 ^ 18 := by norm_num

include h in
theorem total_sq_moderate : total values ^ 2 ≤ 10 ^ 18 :=
  (sq_le_sq' (neg_le_of_abs_le (abs_total_le values))
    (le_of_abs_le (abs_total_le values))).trans (magnitude_sq_moderate h)

include h in
theorem sumOfSquares_moderate : (ofValues values).sumOfSquares.value = squares values
    ∧ (ofValues values).sumOfSquares.scale ≤ 4 + 4 :=
  sumOfSquares_ofValues h.scale_le (by decide) ((magnitude_sq_moderate h).trans_lt (by norm_num))

include h in
/-- The quotient is rounded to the places that fit and then to four, but never across a tie. -/
theorem mean_accurate : ∃ m, (ofValues values).mean? = some m
    ∧ m.value = halfAway 4 (total values / values.length) := by
  obtain ⟨hsum, hscale⟩ := sum_moderate h
  have hfits : |(ofValues values).sum.value| * 10 ^ 14 ≤ (2 ^ 96 - 1 : Nat) := by
    rw [hsum]
    calc |total values| * 10 ^ 14 ≤ 10 ^ 9 * 10 ^ 14 := by
          gcongr
          exact (abs_total_le values).trans h.magnitude_le
      _ ≤ ((2 ^ 96 - 1 : Nat) : ℚ) := by norm_num
  obtain ⟨s, q, hs, hq, hnearest⟩ :=
    exists_div?_decimalCount (count_pos h.ne_nil) (by decide) hfits
  rw [hsum, decimalCount_moderate h] at hnearest
  refine ⟨_, mean?_eq (count_pos h.ne_nil) hq, ?_⟩
  rw [value_rounded]
  have hlength : 0 < values.length := List.length_pos_iff.2 h.ne_nil
  refine hnearest.halfAway_eq hlength ?_ ?_
  · calc values.length * 10 ^ 4 ≤ 10 ^ 9 * 10 ^ 4 := Nat.mul_le_mul_right _ h.length_le
      _ < 10 ^ 14 := by decide
      _ ≤ 10 ^ s := Nat.pow_le_pow_right (by decide) hs
  · have hunits := Decimal.scaled_value hscale
    rw [hsum] at hunits
    refine ⟨_, Eq.trans ?_ hunits.symm⟩
    field_simp

include h in
/-- The subtracted term is rounded twice as well. -/
theorem correction_accurate : ∃ q,
    ((ofValues values).sum.saturatingMul (ofValues values).sum).div?
      (ofValues values).decimalCount = some q
    ∧ |(rounded q).value - total values ^ 2 / values.length| ≤ 6 / 10 ^ 5 := by
  obtain ⟨hsum, hscale⟩ := sum_moderate h
  have hproduct : |(ofValues values).sum.value * (ofValues values).sum.value|
      < 2 ^ 96 / 10 ^ (4 + 4) := by
    rw [hsum, ← pow_two, abs_of_nonneg (sq_nonneg _)]
    exact (total_sq_moderate h).trans_lt (by norm_num)
  obtain ⟨hsquare, -⟩ := Decimal.value_saturatingMul hscale hscale (by decide) hproduct
  rw [hsum, ← pow_two] at hsquare
  have hfits : |((ofValues values).sum.saturatingMul (ofValues values).sum).value| * 10 ^ 5
      ≤ (2 ^ 96 - 1 : Nat) := by
    rw [hsquare, abs_of_nonneg (sq_nonneg _)]
    calc total values ^ 2 * 10 ^ 5 ≤ 10 ^ 18 * 10 ^ 5 := by
          gcongr
          exact total_sq_moderate h
      _ ≤ ((2 ^ 96 - 1 : Nat) : ℚ) := by norm_num
  obtain ⟨s, q, hs, hq, hnearest⟩ :=
    exists_div?_decimalCount (count_pos h.ne_nil) (by decide) hfits
  rw [hsquare, decimalCount_moderate h] at hnearest
  refine ⟨q, hq, (abs_rounded_sub_le (hnearest.abs_sub_le hs)).trans ?_⟩
  norm_num

include h in
/-- The difference is exact, so it is off by no more than the subtracted term. -/
theorem difference_accurate {q : Decimal}
    (hq : |(rounded q).value - total values ^ 2 / values.length| ≤ 6 / 10 ^ 5) :
    ∃ v, (ofValues values).sumOfSquares.sub? (rounded q) = some v
      ∧ |v.value - spread values| ≤ 6 / 10 ^ 5 := by
  obtain ⟨hsquares, hplaces⟩ := sumOfSquares_moderate h
  have hscale : (rounded q).scale ≤ 4 + 4 := (Decimal.scale_round_le .away 4 q).trans (by decide)
  have hfits : |(ofValues values).sumOfSquares.value - (rounded q).value|
      < 2 ^ 96 / 10 ^ (4 + 4) := by
    have hle := (squares_le_magnitude_sq values).trans (magnitude_sq_moderate h)
    have hspread := spread_nonneg h.ne_nil
    have hterm : 0 ≤ total values ^ 2 / values.length := by positivity
    obtain ⟨hlow, hhigh⟩ := abs_le.1 hq
    rw [spread] at hspread
    rw [hsquares, abs_lt]
    constructor <;> linarith
  obtain ⟨v, hv, hvalue⟩ := Decimal.value_sub? hplaces hscale hfits
  refine ⟨v, hv, ?_⟩
  rwa [hvalue, hsquares, spread, sub_sub_sub_cancel_left, abs_sub_comm]

include h in
theorem variance_accurate : ∃ v, (ofValues values).variance? = some v ∧ 0 ≤ v.value
    ∧ |v.value - spread values| ≤ 11 / 10 ^ 5 := by
  obtain ⟨q, hq, hcorrection⟩ := correction_accurate h
  obtain ⟨v, hv, hdifference⟩ := difference_accurate h hcorrection
  have hfloor : (greatest v .zero).value = max v.value 0 := by
    rw [value_greatest, Decimal.value_of_isZero (d := .zero) rfl]
  have hnear : |(greatest v .zero).value - spread values| ≤ 6 / 10 ^ 5 :=
    calc |(greatest v .zero).value - spread values|
        = |max v.value 0 - max (spread values) 0| := by
          rw [hfloor, max_eq_left (spread_nonneg h.ne_nil)]
      _ ≤ |v.value - spread values| := abs_max_sub_max_le_abs _ _ _
      _ ≤ 6 / 10 ^ 5 := hdifference
  refine ⟨_, variance?_eq (count_pos h.ne_nil) hq hv, ?_, ?_⟩
  · rw [value_rounded, hfloor]
    exact halfAway_nonneg (le_max_right _ _)
  · exact (abs_rounded_sub_le hnear).trans (by norm_num)

theorem deviation_accurate {s : Summary} {v : Decimal} (hv : s.variance? = some v)
    (hnonneg : 0 ≤ v.value) :
    ∃ r, s.deviation? = some r ∧ |(r.value : ℝ) - √v.value| ≤ 1 / 10 ^ 4 := by
  obtain ⟨r, hr, -, hroot⟩ := Decimal.exists_sqrt? hnonneg
  refine ⟨_, deviation?_eq hv hr, ?_⟩
  have hround : |((rounded r).value - r.value : ℝ)| ≤ 1 / 2 / 10 ^ 4 := by
    have hle : |halfAway 4 r.value - r.value| ≤ 1 / 2 / 10 ^ 4 := abs_halfAway_sub_le
    have hcast := (Rat.cast_le (K := ℝ)).2 hle
    rw [← value_rounded] at hcast
    push_cast at hcast
    exact hcast
  calc |((rounded r).value - √v.value : ℝ)|
      ≤ |((rounded r).value - r.value : ℝ)| + |(r.value - √v.value : ℝ)| := abs_sub_le _ _ _
    _ ≤ 1 / 2 / 10 ^ 4 + 1 / 2 / 10 ^ 4 := add_le_add hround hroot
    _ = 1 / 10 ^ 4 := by norm_num

end Accurate

/-- Moderate values have an exact sum, a mean that is the exact one rounded once, a variance within
0.00011 of the exact one, and a deviation within 0.0001 of the root of the variance. -/
theorem statistics_accurate {values : List Decimal} (h : Moderate values) :
    (ofValues values).sum.value = total values
      ∧ (∃ m, (ofValues values).mean? = some m
        ∧ m.value = halfAway 4 (total values / values.length))
      ∧ ∃ v r, (ofValues values).variance? = some v ∧ (ofValues values).deviation? = some r
        ∧ 0 ≤ v.value ∧ |v.value - spread values| ≤ 11 / 10 ^ 5
        ∧ |(r.value : ℝ) - √v.value| ≤ 1 / 10 ^ 4 := by
  obtain ⟨v, hv, hnonneg, hvariance⟩ := variance_accurate h
  obtain ⟨r, hr, hdeviation⟩ := deviation_accurate hv hnonneg
  exact ⟨(sum_moderate h).1, mean_accurate h, v, r, hv, hr, hnonneg, hvariance, hdeviation⟩

/-- A third is shown with four places. -/
theorem statistics_accurate_thirds :
    Moderate [.one, .zero, .zero] ∧ (ofValues [.one, .zero, .zero]).sum.value = 1
      ∧ (∃ m, (ofValues [.one, .zero, .zero]).mean? = some m ∧ m.value = 3333 / 10 ^ 4)
      ∧ ∃ v r, (ofValues [.one, .zero, .zero]).variance? = some v
        ∧ (ofValues [.one, .zero, .zero]).deviation? = some r
        ∧ |v.value - 2 / 3| ≤ 11 / 10 ^ 5 ∧ |(r.value : ℝ) - √v.value| ≤ 1 / 10 ^ 4 := by
  have hone : Decimal.one.value = 1 := by norm_num [Decimal.value, Decimal.signed, Decimal.one]
  have hzero : Decimal.zero.value = 0 := Decimal.value_of_isZero rfl
  have hmoderate : Moderate [.one, .zero, .zero] :=
    { ne_nil := List.cons_ne_nil _ _
      length_le := by decide
      scale_le := by decide
      magnitude_le := by norm_num [magnitude, hone, hzero] }
  have htotal : total [.one, .zero, .zero] = 1 := by norm_num [total, hone, hzero]
  have hspread : spread [.one, .zero, .zero] = 2 / 3 := by
    norm_num [spread, squares, htotal, hone, hzero]
  have hmean : halfAway 4 (1 / 3) = 3333 / 10 ^ 4 := by
    have hround : round ((1 : ℚ) / 3 * 10 ^ 4) = 3333 := by norm_num [round_eq_iff]
    rw [halfAway_of_nonneg (by norm_num), hround]
    norm_num
  obtain ⟨hsum, ⟨m, hm, hvalue⟩, v, r, hv, hr, -, hvariance, hdeviation⟩ :=
    statistics_accurate hmoderate
  rw [hspread] at hvariance
  refine ⟨hmoderate, hsum.trans htotal, ⟨m, hm, ?_⟩, v, r, hv, hr, hvariance, hdeviation⟩
  rw [hvalue, htotal, ← hmean]
  norm_num

end Summary

end Reporting

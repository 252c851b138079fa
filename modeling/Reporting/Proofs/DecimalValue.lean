import Mathlib.Algebra.Order.Field.Basic
import Mathlib.Algebra.Order.Ring.Abs
import Mathlib.Tactic.FieldSimp
import Mathlib.Tactic.Linarith
import Mathlib.Tactic.Positivity
import Mathlib.Tactic.Ring
import Mathlib.Algebra.Order.Ring.Rat
import Reporting.Decimal.Arithmetic

/-!
# The values of decimals

A decimal stands for a rational number. Comparisons see nothing but this number
(`compareValue_eq_lt_iff`), and a sum is exact while it fits with the places of both terms
(`value_saturatingAdd`).
-/

namespace Reporting.Decimal

/-- The number that a decimal stands for, whatever its places. -/
def value (d : Decimal) : ℚ := d.signed / 10 ^ d.scale

theorem compareValue_eq_lt_iff {a b : Decimal} : a.compareValue b = .lt ↔ a.value < b.value := by
  rw [compareValue, compare_lt_iff_lt, value, value,
    div_lt_div_iff₀ (by positivity) (by positivity)]
  norm_cast

theorem value_of_isZero {d : Decimal} (h : d.isZero) : d.value = 0 := by
  have hm : d.mantissa = 0 := of_decide_eq_true h
  simp [value, signed, hm]

section Parts

/-- One with the sign of a decimal. -/
def sign (negative : Bool) : ℚ := if negative then -1 else 1

theorem abs_sign (negative : Bool) : |sign negative| = 1 := by cases negative <;> simp [sign]

theorem sign_mul_sign (a b : Bool) : sign a * sign b = sign (a != b) := by
  cases a <;> cases b <;> simp [sign]

theorem sign_div_sign (a b : Bool) : sign a / sign b = sign (a != b) := by
  cases a <;> cases b <;> simp [sign]

/-- Nothing is lost with the sign of a zero. -/
theorem sign_and_ne_zero (negative : Bool) (m : Nat) :
    sign (negative && m != 0) * m = sign negative * m := by
  rcases Nat.eq_zero_or_pos m with rfl | hm
  · simp
  · rw [bne_iff_ne.2 hm.ne', Bool.and_true]

theorem sign_mul_natAbs (n : Int) : sign (n < 0) * n.natAbs = n := by
  rw [sign, Nat.cast_natAbs]
  split
  · rename_i hneg
    rw [abs_of_neg (of_decide_eq_true hneg)]
    push_cast
    ring
  · rename_i hneg
    rw [abs_of_nonneg (by simpa using hneg), one_mul]

theorem value_eq (d : Decimal) : d.value = sign d.negative * (d.mantissa / 10 ^ d.scale) := by
  rw [value, signed, sign]
  split
  · push_cast
    ring
  · rw [one_mul, Int.cast_natCast]

theorem abs_value (d : Decimal) : |d.value| = d.mantissa / 10 ^ d.scale := by
  rw [value_eq, abs_mul, abs_sign, one_mul, abs_of_nonneg (by positivity)]

theorem abs_value_le (d : Decimal) : |d.value| ≤ (2 ^ 96 - 1 : Nat) := by
  have hmantissa : (d.mantissa : ℚ) ≤ (2 ^ 96 - 1 : Nat) :=
    Nat.cast_le.2 (Nat.le_pred_of_lt d.mantissa_lt)
  rw [abs_value]
  exact (div_le_self (by positivity) (one_le_pow₀ (by norm_num))).trans hmantissa

theorem value_nonneg {d : Decimal} (h : d.negative = false) : 0 ≤ d.value := by
  rw [value_eq, h, sign, if_neg Bool.false_ne_true]
  positivity

theorem negative_eq_false {d : Decimal} (h : 0 ≤ d.value) (hzero : ¬d.isZero) :
    d.negative = false := by
  cases hsign : d.negative with
  | false => rfl
  | true =>
    have hm : 0 < d.mantissa := Nat.pos_of_ne_zero (by simpa [isZero] using hzero)
    have hpos : 0 < (d.mantissa : ℚ) / 10 ^ d.scale := by positivity
    rw [value_eq, hsign, sign, if_pos rfl] at h
    linarith

theorem exists_ofParts? (negative : Bool) {m s : Nat} (hm : m < 2 ^ 96) (hs : s ≤ maxScale) :
    ∃ d, ofParts? negative m s = some d ∧ d.scale = s :=
  ⟨_, dif_pos ⟨hm, hs⟩, rfl⟩

theorem value_ofParts? {negative : Bool} {m s : Nat} {d : Decimal}
    (h : ofParts? negative m s = some d) : d.value = sign negative * (m / 10 ^ s) := by
  rw [ofParts?] at h
  split at h
  · cases h
    rw [value_eq, ← mul_div_assoc, sign_and_ne_zero, mul_div_assoc]
  · cases h

theorem ofParts?_nonneg {m s : Nat} {d : Decimal} (h : ofParts? false m s = some d) :
    0 ≤ d.value := by
  rw [value_ofParts? h, sign, if_neg Bool.false_ne_true]
  positivity

theorem value_neg (d : Decimal) : d.neg.value = -d.value := by
  rw [value_eq, value_eq, neg, ← mul_div_assoc, sign_and_ne_zero]
  cases d.negative <;> simp [sign, neg_div]

theorem value_stripZeros (d : Decimal) : d.stripZeros.value = d.value := by
  rw [stripZeros]
  generalize d.scale = fuel
  induction fuel generalizing d with
  | zero => rfl
  | succ fuel ih =>
    rw [stripZeros.go]
    split
    · rename_i hzero
      obtain ⟨s, hs⟩ := Nat.exists_eq_succ_of_ne_zero hzero.1.ne'
      obtain ⟨m, hm⟩ := Nat.dvd_of_mod_eq_zero hzero.2
      rw [ih, value_eq, value_eq]
      dsimp only
      rw [hs, hm, Nat.succ_sub_one, Nat.mul_div_cancel_left m (by decide : 0 < 10), pow_succ]
      push_cast
      field_simp
    · rfl

end Parts

section Whole

theorem trunc_eq (d : Decimal) : d.trunc = d.signed.tdiv (10 ^ d.scale : Nat) := by
  rw [trunc, signed]
  split
  · rw [Int.neg_tdiv, Int.ofNat_tdiv]
  · rw [Int.ofNat_tdiv]

theorem trunc_of_value {d : Decimal} {i : Int} (h : d.value = i) : d.trunc = i := by
  have hsigned : d.signed = i * (10 ^ d.scale : Nat) := by
    rw [value, div_eq_iff (by positivity)] at h
    exact_mod_cast h
  have hpow : ((10 ^ d.scale : Nat) : Int) ≠ 0 := by positivity
  rw [trunc_eq, hsigned, Int.mul_tdiv_cancel _ hpow]

end Whole

section Sums

theorem fit_of_lt (negative : Bool) {m s : Nat} (hm : m < 2 ^ 96) (hs : s ≤ maxScale) :
    fit negative m s = ofParts? negative m s := by
  obtain ⟨d, hparts, -⟩ := exists_ofParts? negative hm hs
  have hdropped : s - maxScale = 0 := Nat.sub_eq_zero_of_le hs
  rw [fit, hdropped, fit.go, if_neg (Nat.not_lt_zero s), Nat.pow_zero, roundQuotient_one,
    Nat.sub_zero, hparts]

theorem value_fit (n : Int) {s : Nat} (hn : n.natAbs < 2 ^ 96) (hs : s ≤ maxScale) :
    ∃ d, fit (n < 0) n.natAbs s = some d ∧ d.value = n / 10 ^ s ∧ d.scale = s := by
  obtain ⟨d, hd, hscale⟩ := exists_ofParts? (decide (n < 0)) hn hs
  refine ⟨d, (fit_of_lt _ hn hs).trans hd, ?_, hscale⟩
  rw [value_ofParts? hd, ← mul_div_assoc, sign_mul_natAbs]

theorem scaled_value {d : Decimal} {s : Nat} (h : d.scale ≤ s) :
    ((d.signed * (10 ^ (s - d.scale) : Nat) : Int) : ℚ) = d.value * 10 ^ s := by
  obtain ⟨k, rfl⟩ := Nat.exists_eq_add_of_le h
  rw [value, Nat.add_sub_cancel_left, pow_add]
  push_cast
  field_simp

section Aligned

variable {a b : Decimal} {s : Nat} (ha : a.scale ≤ s) (hb : b.scale ≤ s)

include ha hb in
theorem aligned_value :
    ((a.signed * (10 ^ (s - a.scale) : Nat) + b.signed * (10 ^ (s - b.scale) : Nat) : Int) : ℚ)
      = (a.value + b.value) * 10 ^ s := by
  rw [Int.cast_add, scaled_value ha, scaled_value hb, add_mul]

include ha hb in
theorem aligned_magnitude :
    ((a.signed * (10 ^ (s - a.scale) : Nat) + b.signed * (10 ^ (s - b.scale) : Nat)).natAbs : ℚ)
      = |a.value + b.value| * 10 ^ s := by
  rw [Nat.cast_natAbs, Int.cast_abs, aligned_value ha hb, abs_mul,
    abs_of_pos (by positivity : (0 : ℚ) < 10 ^ s)]

end Aligned

/-- A sum that fits with `s` places, which both terms have room in, is exact. -/
theorem value_add? {a b : Decimal} {s : Nat} (ha : a.scale ≤ s) (hb : b.scale ≤ s)
    (h : |a.value + b.value| < 2 ^ 96 / 10 ^ s) :
    ∃ c, a.add? b = some c ∧ c.value = a.value + b.value ∧ c.scale ≤ s := by
  rw [add?]
  split
  · rename_i hzero
    exact ⟨b, rfl, by rw [value_of_isZero hzero, zero_add], hb⟩
  split
  · rename_i hzero
    exact ⟨a, rfl, by rw [value_of_isZero hzero, add_zero], ha⟩
  -- The common places of both terms are no more than `s`, so the sum fits with them too.
  set t := max a.scale b.scale
  have hts : t ≤ s := max_le ha hb
  have ht : t ≤ maxScale := max_le a.scale_le b.scale_le
  have hat : a.scale ≤ t := le_max_left _ _
  have hbt : b.scale ≤ t := le_max_right _ _
  set n : Int := a.signed * (10 ^ (t - a.scale) : Nat) + b.signed * (10 ^ (t - b.scale) : Nat)
  have hlt : n.natAbs < 2 ^ 96 := by
    have hcast : ((n.natAbs : Nat) : ℚ) < 2 ^ 96 :=
      calc ((n.natAbs : Nat) : ℚ) = |a.value + b.value| * 10 ^ t := aligned_magnitude hat hbt
        _ ≤ |a.value + b.value| * 10 ^ s := by gcongr; norm_num
        _ < 2 ^ 96 := by rwa [← lt_div_iff₀ (by positivity)]
    exact_mod_cast hcast
  obtain ⟨c, hc, hvalue, hscale⟩ := value_fit n hlt ht
  have hexact : c.value = a.value + b.value := by
    rw [hvalue, aligned_value hat hbt, mul_div_cancel_right₀ _ (by positivity)]
  exact ⟨c, hc, hexact, hscale.trans_le hts⟩

theorem value_saturatingAdd {a b : Decimal} {s : Nat} (ha : a.scale ≤ s) (hb : b.scale ≤ s)
    (h : |a.value + b.value| < 2 ^ 96 / 10 ^ s) :
    (a.saturatingAdd b).value = a.value + b.value ∧ (a.saturatingAdd b).scale ≤ s := by
  obtain ⟨c, hc, hvalue, hscale⟩ := value_add? ha hb h
  rw [saturatingAdd, hc]
  exact ⟨hvalue, hscale⟩

theorem value_sub? {a b : Decimal} {s : Nat} (ha : a.scale ≤ s) (hb : b.scale ≤ s)
    (h : |a.value - b.value| < 2 ^ 96 / 10 ^ s) :
    ∃ c, a.sub? b = some c ∧ c.value = a.value - b.value := by
  rw [sub_eq_add_neg, ← value_neg] at h ⊢
  obtain ⟨c, hc, hvalue, -⟩ := value_add? (b := b.neg) ha hb h
  exact ⟨c, hc, hvalue⟩

end Sums

section Products

/-- A product that fits with the places of both factors together is exact. -/
theorem value_mul? {a b : Decimal} {s t : Nat} (ha : a.scale ≤ s) (hb : b.scale ≤ t)
    (hst : s + t ≤ maxScale) (h : |a.value * b.value| < 2 ^ 96 / 10 ^ (s + t)) :
    ∃ c, a.mul? b = some c ∧ c.value = a.value * b.value ∧ c.scale ≤ s + t := by
  rw [mul?]
  split
  · rename_i hzero
    have hvalue : a.value * b.value = 0 := by
      rcases Bool.or_eq_true_iff.1 hzero with hzero | hzero
      · rw [value_of_isZero hzero, zero_mul]
      · rw [value_of_isZero hzero, mul_zero]
    exact ⟨zero, rfl, by rw [hvalue, value_of_isZero rfl], Nat.zero_le _⟩
  have hplaces : a.scale + b.scale ≤ s + t := Nat.add_le_add ha hb
  have hm : a.mantissa * b.mantissa < 2 ^ 96 := by
    have hcast : (a.mantissa * b.mantissa : ℚ) < 2 ^ 96 :=
      calc (a.mantissa * b.mantissa : ℚ) = |a.value * b.value| * 10 ^ (a.scale + b.scale) := by
            rw [abs_mul, abs_value, abs_value, pow_add]
            field_simp
        _ ≤ |a.value * b.value| * 10 ^ (s + t) := by gcongr; norm_num
        _ < 2 ^ 96 := by rwa [← lt_div_iff₀ (by positivity)]
    exact_mod_cast hcast
  obtain ⟨c, hc, hscale⟩ := exists_ofParts? (a.negative != b.negative) hm (hplaces.trans hst)
  refine ⟨c, (fit_of_lt _ hm (hplaces.trans hst)).trans hc, ?_, hscale.trans_le hplaces⟩
  rw [value_ofParts? hc, value_eq, value_eq, mul_mul_mul_comm, sign_mul_sign, div_mul_div_comm,
    pow_add]
  push_cast
  rfl

theorem value_saturatingMul {a b : Decimal} {s t : Nat} (ha : a.scale ≤ s) (hb : b.scale ≤ t)
    (hst : s + t ≤ maxScale) (h : |a.value * b.value| < 2 ^ 96 / 10 ^ (s + t)) :
    (a.saturatingMul b).value = a.value * b.value ∧ (a.saturatingMul b).scale ≤ s + t := by
  obtain ⟨c, hc, hvalue, hscale⟩ := value_mul? ha hb hst h
  rw [saturatingMul, hc]
  exact ⟨hvalue, hscale⟩

end Products

end Reporting.Decimal

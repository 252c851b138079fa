import Mathlib.Analysis.Real.Sqrt
import Mathlib.Data.Nat.Sqrt
import Mathlib.Tactic.Linarith
import Reporting.Proofs.Nearest

/-!
# Square roots

The mean of a bound of the root and its quotient is a bound again, half as far from the root, so the
fuel of the search for whole roots suffices and it ends at the root (`isqrt_eq_sqrt`). The root of a
decimal is then the nearest one with four places or more (`exists_sqrt?`).
-/

namespace Reporting.Decimal

theorem sqrt_le_mean {n x : Nat} (hx : 0 < x) : n.sqrt ≤ (x + n / x) / 2 := by
  by_contra hlt
  have hroot := Nat.sqrt_le n
  have hquotient := Nat.lt_mul_div_succ n hx
  have hmean : x + (n / x + 1) ≤ 2 * n.sqrt := by omega
  have hsquares : (x + (n / x + 1)) ^ 2 ≤ (2 * n.sqrt) ^ 2 := Nat.pow_le_pow_left hmean 2
  nlinarith only [hroot, hquotient, hsquares, four_mul_le_sq_add x (n / x + 1)]

theorem div_le_sqrt {n x : Nat} (hx : n.sqrt < x) : n / x ≤ n.sqrt := by
  have hlt : n / x < n.sqrt + 1 := by
    rw [Nat.div_lt_iff_lt_mul (by omega)]
    calc n < (n.sqrt + 1) * (n.sqrt + 1) := Nat.lt_succ_sqrt n
      _ ≤ (n.sqrt + 1) * x := Nat.mul_le_mul_left _ hx
  omega

/-- Each step halves the distance to the root. -/
theorem isqrt_go {n : Nat} : ∀ {fuel x : Nat}, n.sqrt ≤ x → x - n.sqrt < 2 ^ fuel →
    isqrt.go n (fuel + 1) x = n.sqrt
  | fuel, x, hle, hfuel => by
    rw [isqrt.go]
    rcases Nat.lt_or_eq_of_le hle with hlt | rfl
    · have hlow := sqrt_le_mean (n := n) (by omega : 0 < x)
      have hhigh := div_le_sqrt hlt
      rw [if_pos (by omega)]
      cases fuel with
      | zero => omega
      | succ fuel => exact isqrt_go hlow (by rw [pow_succ] at hfuel; omega)
    · rw [if_neg (not_lt.2 _)]
      rcases Nat.eq_zero_or_pos n.sqrt with hzero | hpos
      · rw [hzero]
        exact Nat.zero_le _
      · exact sqrt_le_mean hpos

theorem isqrt_eq_sqrt (n : Nat) : isqrt n = n.sqrt := by
  rw [isqrt]
  split
  · rename_i hzero
    rw [hzero, Nat.sqrt_zero]
  · rename_i hn
    have hbits : n < 2 ^ (n.log2 / 2 + 1) * 2 ^ (n.log2 / 2 + 1) :=
      calc n < 2 ^ (n.log2 + 1) := Nat.lt_log2_self
        _ ≤ 2 ^ (n.log2 / 2 + 1 + (n.log2 / 2 + 1)) :=
          Nat.pow_le_pow_right (by decide) (by omega)
        _ = _ := pow_add _ _ _
    have hbound : n.sqrt < 2 ^ (n.log2 / 2 + 1) := Nat.sqrt_lt.2 hbits
    have hpos : 0 < n.sqrt := Nat.sqrt_pos.2 (Nat.pos_of_ne_zero hn)
    refine isqrt_go hbound.le ?_
    calc 2 ^ (n.log2 / 2 + 1) - n.sqrt < 2 ^ (n.log2 / 2 + 1) := Nat.sub_lt (by positivity) hpos
      _ ≤ 2 ^ (n.log2 + 1) := Nat.pow_le_pow_right (by decide) (by omega)

/-- The whole number nearest to the square root of `n / d`. -/
def nearestRoot (n d : Nat) : Nat :=
  let root := (n / d).sqrt
  if (2 * root + 1) * (2 * root + 1) * d ≤ 4 * n then root + 1 else root

theorem nearestRoot_le (n d : Nat) : nearestRoot n d ≤ n.sqrt + 1 := by
  have hroot : (n / d).sqrt ≤ n.sqrt := Nat.sqrt_le_sqrt (Nat.div_le_self n d)
  rw [nearestRoot]
  split <;> omega

theorem abs_nearestRoot_sub_le {n d : Nat} (hd : 0 < d) :
    |(nearestRoot n d : ℝ) - √(n / d)| ≤ 1 / 2 := by
  have hpos : (0 : ℝ) < d := Nat.cast_pos.2 hd
  have hlow : ((n / d).sqrt : ℝ) ≤ √(n / d) := by
    have hle : (n / d).sqrt ^ 2 * d ≤ n :=
      (Nat.le_div_iff_mul_le hd).1 (Nat.sqrt_le' (n / d))
    refine Real.le_sqrt_of_sq_le ((le_div_iff₀ hpos).2 ?_)
    exact_mod_cast hle
  have hhigh : √(n / d) < (n / d).sqrt + 1 := by
    have hlt : n < ((n / d).sqrt + 1) ^ 2 * d :=
      (Nat.div_lt_iff_lt_mul hd).1 (Nat.lt_succ_sqrt' (n / d))
    rw [Real.sqrt_lt' (by positivity), div_lt_iff₀ hpos]
    exact_mod_cast hlt
  rw [nearestRoot, abs_le]
  split
  · rename_i habove
    have hhalf : ((n / d).sqrt : ℝ) + 1 / 2 ≤ √(n / d) := by
      have hle : ((2 * (n / d).sqrt + 1) * (2 * (n / d).sqrt + 1) * d : ℝ) ≤ 4 * n := by
        exact_mod_cast habove
      refine Real.le_sqrt_of_sq_le ((le_div_iff₀ hpos).2 ?_)
      linarith
    push_cast
    constructor <;> linarith
  · rename_i hbelow
    have hhalf : √(n / d) < (n / d).sqrt + 1 / 2 := by
      have hlt : (4 * n : ℝ) < (2 * (n / d).sqrt + 1) * (2 * (n / d).sqrt + 1) * d := by
        exact_mod_cast not_le.1 hbelow
      rw [Real.sqrt_lt' (by positivity), div_lt_iff₀ hpos]
      linarith
    constructor <;> linarith

section Roots

/-- The root of a decimal in units of a decimal place. -/
def rootUnits (d : Decimal) (places : Nat) : Nat :=
  nearestRoot (d.mantissa * 10 ^ (2 * places)) (10 ^ d.scale)

variable {d : Decimal}

theorem sqrt?_go (places : Nat) :
    sqrt?.go d (places + 1)
      = match ofParts? false (d.rootUnits places) places with
        | some r => some r.stripZeros
        | none => sqrt?.go d places := by
  rw [sqrt?.go, isqrt_eq_sqrt]
  rfl

theorem abs_root_sub_le (hd : 0 ≤ d.value) {places : Nat} {r : Decimal}
    (hr : ofParts? false (d.rootUnits places) places = some r) :
    |(r.value : ℝ) - √d.value| ≤ 1 / 2 / 10 ^ places := by
  have hpos : (0 : ℝ) < 10 ^ places := by positivity
  have hvalue : d.value = d.mantissa / 10 ^ d.scale := by rw [← abs_value, abs_of_nonneg hd]
  have hscaled : ((d.mantissa * 10 ^ (2 * places) : Nat) : ℝ) / (10 ^ d.scale : Nat)
      = d.value * (10 ^ places) ^ 2 := by
    rw [hvalue, ← pow_mul, mul_comm places]
    push_cast
    ring
  have hroot := abs_nearestRoot_sub_le (n := d.mantissa * 10 ^ (2 * places))
    (by positivity : 0 < 10 ^ d.scale)
  rw [hscaled, Real.sqrt_mul (by exact_mod_cast hd), Real.sqrt_sq hpos.le] at hroot
  rw [value_ofParts? hr, sign, if_neg Bool.false_ne_true, one_mul]
  push_cast
  rwa [div_sub' hpos.ne', abs_div, abs_of_pos hpos, div_le_div_iff_of_pos_right hpos,
    mul_comm (10 ^ places)]

theorem exists_sqrt?_go (hd : 0 ≤ d.value) {p : Nat} (hfits : d.rootUnits p < 2 ^ 96) :
    ∀ {most : Nat}, p ≤ most → most ≤ maxScale →
      ∃ r, sqrt?.go d (most + 1) = some r ∧ 0 ≤ r.value
        ∧ |(r.value : ℝ) - √d.value| ≤ 1 / 2 / 10 ^ p := by
  intro most hp hmost
  rw [sqrt?_go]
  split
  · rename_i r hr
    refine ⟨_, rfl, ?_⟩
    rw [value_stripZeros]
    refine ⟨ofParts?_nonneg hr, (abs_root_sub_le hd hr).trans ?_⟩
    gcongr
    norm_num
  · rename_i hnone
    have hne : p ≠ most := by
      rintro rfl
      obtain ⟨r, hr, -⟩ := exists_ofParts? false hfits hmost
      cases hnone.symm.trans hr
    cases most with
    | zero => omega
    | succ most => exact exists_sqrt?_go hd hfits (by omega) (by omega)

/-- A root is off by no more than half of a unit in the fourth place. -/
theorem exists_sqrt? (hd : 0 ≤ d.value) :
    ∃ r, d.sqrt? = some r ∧ 0 ≤ r.value ∧ |(r.value : ℝ) - √d.value| ≤ 1 / 2 / 10 ^ 4 := by
  rw [sqrt?]
  split
  · rename_i hzero
    refine ⟨zero, rfl, value_nonneg rfl, ?_⟩
    rw [value_of_isZero hzero, value_of_isZero rfl, Rat.cast_zero, Real.sqrt_zero, sub_zero,
      abs_zero]
    positivity
  · rename_i hzero
    rw [if_neg (by rw [negative_eq_false hd hzero]; exact Bool.false_ne_true)]
    have hfits : d.rootUnits 4 < 2 ^ 96 := by
      have hmantissa := d.mantissa_lt
      have hroot : (d.mantissa * 10 ^ (2 * 4)).sqrt < 2 ^ 64 := Nat.sqrt_lt.2 (by omega)
      exact (nearestRoot_le _ _).trans_lt (by omega)
    exact exists_sqrt?_go hd hfits (by decide) le_rfl

end Roots

end Reporting.Decimal

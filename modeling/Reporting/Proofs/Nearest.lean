import Mathlib.Algebra.Order.Round
import Mathlib.Data.Rat.Floor
import Mathlib.Data.Sign.Basic
import Mathlib.Tactic.Linarith
import Reporting.Proofs.DecimalValue

/-!
# Nearest decimals

A quotient is the nearest decimal with as many places as fit (`exists_div?`), and dropping places
rounds half away from zero (`value_round`). Rounding a quotient a second time gives what rounding
the exact one gives, as long as its divisor is small against the places dropped
(`Nearest.halfAway_eq`).
-/

namespace Reporting

section Quotients

variable {n d : Nat} (hd : 0 < d)

include hd in
theorem roundQuotient_le (tie : Tie) {bound : Nat} (h : n ≤ bound * d) :
    roundQuotient tie n d ≤ bound := by
  have hround := roundQuotient_mul_le tie n d
  have hlt : roundQuotient tie n d * d < (bound + 1) * d := by
    rw [Nat.add_mul, Nat.one_mul]
    omega
  exact Nat.le_of_lt_succ (Nat.lt_of_mul_lt_mul_right hlt)

include hd in
theorem abs_roundQuotient_sub_le (tie : Tie) : |(roundQuotient tie n d : ℚ) - n / d| ≤ 1 / 2 := by
  have hpos : (0 : ℚ) < d := Nat.cast_pos.2 hd
  have hlow : (2 * n : ℚ) ≤ 2 * (roundQuotient tie n d * d) + d :=
    mod_cast le_roundQuotient_mul tie n hd
  have hhigh : (2 * (roundQuotient tie n d * d) : ℚ) ≤ 2 * n + d :=
    mod_cast roundQuotient_mul_le tie n d
  refine abs_sub_le_iff.2 ⟨le_of_mul_le_mul_right ?_ hpos, le_of_mul_le_mul_right ?_ hpos⟩ <;>
    rw [sub_mul, div_mul_cancel₀ _ hpos.ne'] <;> linarith

include hd in
/-- Quotients of natural numbers have no sign, so away from zero is up. -/
theorem roundQuotient_away : (roundQuotient .away n d : ℤ) = round ((n : ℚ) / d) := by
  have hpos : (0 : ℚ) < d := Nat.cast_pos.2 hd
  have hlow : (2 * (roundQuotient .away n d * d) : ℚ) ≤ 2 * n + d :=
    mod_cast roundQuotient_mul_le .away n d
  have habove : 2 * n < 2 * (roundQuotient .away n d * d) + d := by
    have hdiv := Nat.div_add_mod' n d
    have hmod := Nat.mod_lt n hd
    rw [roundQuotient]
    split
    · rw [Nat.add_mul, Nat.one_mul]
      omega
    · rename_i hdown
      have hbelow : ¬d < 2 * (n % d) := fun h => hdown (.inl h)
      have htie : 2 * (n % d) ≠ d := fun h => hdown (.inr ⟨h, .inl rfl⟩)
      omega
  have hhigh : (2 * n : ℚ) < 2 * (roundQuotient .away n d * d) + d := mod_cast habove
  symm
  rw [round_eq_iff, Set.mem_Ico, le_div_iff₀ hpos, div_lt_iff₀ hpos, Int.cast_natCast]
  constructor <;> linarith

end Quotients

section HalfAway

/-- A number rounded to decimal places, a tie going away from zero. -/
def halfAway (places : Nat) (x : ℚ) : ℚ :=
  SignType.sign x * round (|x| * 10 ^ places) / 10 ^ places

variable {places : Nat} {x : ℚ}

theorem halfAway_neg : halfAway places (-x) = -halfAway places x := by
  rw [halfAway, halfAway, abs_neg, Left.sign_neg]
  push_cast
  ring

theorem halfAway_of_nonneg (hx : 0 ≤ x) :
    halfAway places x = round (x * 10 ^ places) / 10 ^ places := by
  rcases hx.eq_or_lt with rfl | hx
  · simp [halfAway]
  · rw [halfAway, sign_pos hx, abs_of_pos hx, SignType.coe_one, one_mul]

theorem halfAway_nonneg (hx : 0 ≤ x) : 0 ≤ halfAway places x := by
  have hround : 0 ≤ round (x * 10 ^ places) := by
    rw [round_eq]
    positivity
  rw [halfAway_of_nonneg hx]
  positivity

theorem abs_halfAway_sub_le : |halfAway places x - x| ≤ 1 / 2 / 10 ^ places := by
  wlog hx : 0 ≤ x generalizing x
  · have h := this (x := -x) (by linarith)
    rwa [halfAway_neg, ← neg_sub', abs_neg] at h
  have hpos : (0 : ℚ) < 10 ^ places := by positivity
  rw [halfAway_of_nonneg hx, div_sub' hpos.ne', abs_div, abs_of_pos hpos, mul_comm, abs_sub_comm]
  gcongr
  exact abs_sub_round _

/-- A number that has no more places stays as it is. -/
theorem halfAway_of_units {r : Int} (h : x * 10 ^ places = r) : halfAway places x = x := by
  wlog hx : 0 ≤ x generalizing x r
  · have hneg := this (x := -x) (r := -r) (by push_cast; linarith) (by linarith)
    rwa [halfAway_neg, neg_inj] at hneg
  rw [halfAway_of_nonneg hx, h, round_intCast, ← h, mul_div_cancel_right₀ _ (by positivity)]

end HalfAway

/-- A number with the given places and no more than half of a unit in the last away from `x`. -/
structure Nearest (places : Nat) (x q : ℚ) : Prop where
  units : ∃ r : Int, q * 10 ^ places = r
  close : |q - x| * 10 ^ places ≤ 1 / 2

namespace Nearest

variable {places : Nat} {x q : ℚ}

theorem neg (h : Nearest places x q) : Nearest places (-x) (-q) where
  units := by
    obtain ⟨r, hr⟩ := h.units
    exact ⟨-r, by push_cast; linarith⟩
  close := by
    rw [← neg_sub', abs_neg]
    exact h.close

/-- Whole units below the number are below the nearest one. -/
theorem units_le (h : Nearest places x q) {r : Int} (hr : r ≤ x * 10 ^ places) :
    r ≤ q * 10 ^ places := by
  obtain ⟨r', hq⟩ := h.units
  have hclose : x * 10 ^ places - q * 10 ^ places ≤ 1 / 2 :=
    calc x * 10 ^ places - q * 10 ^ places = -(q - x) * 10 ^ places := by ring
      _ ≤ |q - x| * 10 ^ places := by gcongr; exact neg_le_abs _
      _ ≤ 1 / 2 := h.close
  have hlt : (r : ℚ) < r' + 1 := by linarith
  have hle : r ≤ r' := Int.lt_add_one_iff.1 (by exact_mod_cast hlt)
  rw [hq]
  exact_mod_cast hle

theorem nonneg (h : Nearest places x q) (hx : 0 ≤ x) : 0 ≤ q := by
  have hunits := h.units_le (r := 0) (by rw [Int.cast_zero]; positivity)
  rw [Int.cast_zero] at hunits
  exact nonneg_of_mul_nonneg_left hunits (by positivity)

theorem abs_sub_le (h : Nearest places x q) {fewer : Nat} (hplaces : fewer ≤ places) :
    |q - x| ≤ 1 / 2 / 10 ^ fewer := by
  rw [le_div_iff₀ (by positivity)]
  calc |q - x| * 10 ^ fewer ≤ |q - x| * 10 ^ places := by gcongr; norm_num
    _ ≤ 1 / 2 := h.close

variable {fewer n : Nat} {m : Int}

/-- A tie has one place more than is asked for, so a nearest number with more does not fall below
it. -/
theorem tie_le (h : Nearest places x q) (hmore : fewer < places)
    (hm : (m : ℚ) - 1 / 2 ≤ x * 10 ^ fewer) : (m : ℚ) - 1 / 2 ≤ q * 10 ^ fewer := by
  obtain ⟨k, rfl⟩ := Nat.exists_eq_add_of_lt hmore
  have hpow (y : ℚ) : y * 10 ^ (fewer + k + 1) = y * 10 ^ fewer * (10 * 10 ^ k) := by ring
  have htie : (((10 * m - 5) * 10 ^ k : Int) : ℚ) = (m - 1 / 2) * (10 * 10 ^ k) := by
    push_cast
    ring
  have hunits := h.units_le (r := (10 * m - 5) * 10 ^ k) (by rw [htie, hpow]; gcongr)
  rw [htie, hpow] at hunits
  exact le_of_mul_le_mul_right hunits (by positivity)

/-- A quotient below a tie is half a unit over its divisor below it, too far to be rounded to it. -/
theorem lt_tie (h : Nearest places x q) (hn : 0 < n) (hlt : n * 10 ^ fewer < 10 ^ places)
    (hx : ∃ r : Int, x * (n * 10 ^ fewer) = r) (hm : x * 10 ^ fewer < m + 1 / 2) :
    q * 10 ^ fewer < m + 1 / 2 := by
  obtain ⟨r, hr⟩ := hx
  have hpos : (0 : ℚ) < n := Nat.cast_pos.2 hn
  have hfar : x * (n * 10 ^ fewer) + 1 / 2 ≤ (m + 1 / 2) * n := by
    have hbelow : (2 * r : ℚ) < (2 * m + 1) * n :=
      calc (2 * r : ℚ) = 2 * (x * 10 ^ fewer * n) := by rw [← hr]; ring
        _ < 2 * ((m + 1 / 2) * n) := by gcongr
        _ = (2 * m + 1) * n := by ring
    have hstep : 2 * r + 1 ≤ (2 * m + 1) * n := by exact_mod_cast hbelow
    have hcast : (2 * r + 1 : ℚ) ≤ (2 * m + 1) * n := by exact_mod_cast hstep
    linarith
  have hnear : q * (n * 10 ^ fewer) - x * (n * 10 ^ fewer) < 1 / 2 := by
    have hroom : (n * 10 ^ fewer : ℚ) < 10 ^ places := by exact_mod_cast hlt
    have hclose := (le_abs_self _).trans (h.abs_sub_le le_rfl)
    calc q * (n * 10 ^ fewer) - x * (n * 10 ^ fewer) = (q - x) * (n * 10 ^ fewer) := by ring
      _ ≤ 1 / 2 / 10 ^ places * (n * 10 ^ fewer) := by gcongr
      _ < 1 / 2 / 10 ^ places * 10 ^ places := by gcongr
      _ = 1 / 2 := div_mul_cancel₀ _ (by positivity)
  have hscaled : q * 10 ^ fewer * n < (m + 1 / 2) * n := by linarith
  exact lt_of_mul_lt_mul_right hscaled hpos.le

/-- A quotient and the nearest number with places enough lie between the same ties. -/
theorem halfAway_eq (h : Nearest places x q) (hn : 0 < n) (hlt : n * 10 ^ fewer < 10 ^ places)
    (hx : ∃ r : Int, x * (n * 10 ^ fewer) = r) : halfAway fewer q = halfAway fewer x := by
  wlog hnonneg : 0 ≤ x generalizing x q
  · obtain ⟨r, hr⟩ := hx
    have hneg := this h.neg ⟨-r, by push_cast; linarith⟩ (by linarith)
    rwa [halfAway_neg, halfAway_neg, neg_inj] at hneg
  have hmore : fewer < places := by
    rw [← Nat.pow_lt_pow_iff_right (by decide : 1 < 10)]
    exact (Nat.le_mul_of_pos_left _ hn).trans_lt hlt
  obtain ⟨hlow, hhigh⟩ := round_eq_iff.1 (rfl : round (x * 10 ^ fewer) = _)
  have hround : round (q * 10 ^ fewer) = round (x * 10 ^ fewer) :=
    round_eq_iff.2 ⟨h.tie_le hmore hlow, h.lt_tie hn hlt hx hhigh⟩
  rw [halfAway_of_nonneg hnonneg, halfAway_of_nonneg (h.nonneg hnonneg), hround]

end Nearest

namespace Decimal

theorem halfAway_sign (negative : Bool) (places : Nat) (x : ℚ) :
    halfAway places (sign negative * x) = sign negative * halfAway places x := by
  cases negative
  · simp [sign]
  · simp [sign, halfAway_neg]

theorem scale_round_le (tie : Tie) (places : Nat) (d : Decimal) :
    (d.round tie places).scale ≤ places := by
  rw [round]
  split
  · assumption
  · exact le_rfl

/-- Dropping places rounds half away from zero. -/
theorem value_round (places : Nat) (d : Decimal) :
    (d.round .away places).value = halfAway places d.value := by
  rw [round]
  split
  · rename_i hscale
    exact (halfAway_of_units (scaled_value hscale).symm).symm
  · rename_i hscale
    obtain ⟨dropped, hdropped⟩ := Nat.exists_eq_add_of_le (Nat.le_of_not_le hscale)
    have hpos : 0 < 10 ^ (d.scale - places) := by positivity
    have hquotient : (d.mantissa : ℚ) / 10 ^ d.scale * 10 ^ places
        = d.mantissa / (10 ^ (d.scale - places) : Nat) := by
      rw [hdropped, Nat.add_sub_cancel_left, pow_add]
      push_cast
      field_simp
    rw [value_eq, value_eq, halfAway_sign, halfAway_of_nonneg (by positivity), hquotient,
      ← roundQuotient_away hpos, ← mul_div_assoc, sign_and_ne_zero, mul_div_assoc, Int.cast_natCast]

section Quotients

theorem nearest_ofParts? {negative : Bool} {n d s : Nat} (hd : 0 < d) {q : Decimal}
    (hq : ofParts? negative (roundQuotient .toEven (n * 10 ^ s) d) s = some q) :
    Nearest s (sign negative * (n / d)) q.value where
  units := by
    rw [value_ofParts? hq, mul_assoc, div_mul_cancel₀ _ (by positivity)]
    cases negative
    · exact ⟨roundQuotient .toEven (n * 10 ^ s) d, by simp [sign]⟩
    · exact ⟨-(roundQuotient .toEven (n * 10 ^ s) d : Int), by simp [sign]⟩
  close := by
    have hpow : (0 : ℚ) < 10 ^ s := by positivity
    have hround := abs_roundQuotient_sub_le (n := n * 10 ^ s) hd .toEven
    rw [value_ofParts? hq, ← mul_sub, abs_mul, abs_sign, one_mul]
    calc |(roundQuotient .toEven (n * 10 ^ s) d / 10 ^ s - n / d : ℚ)| * 10 ^ s
        = |(roundQuotient .toEven (n * 10 ^ s) d / 10 ^ s - n / d : ℚ) * 10 ^ s| := by
          rw [abs_mul, abs_of_pos hpow]
      _ = |(roundQuotient .toEven (n * 10 ^ s) d - (n * 10 ^ s : Nat) / d : ℚ)| := by
          rw [sub_mul, div_mul_cancel₀ _ hpow.ne', div_mul_eq_mul_div]
          push_cast
          rfl
      _ ≤ 1 / 2 := hround

/-- The quotient has at least as many places as there is room for. -/
theorem exists_quotient? (negative : Bool) {n d p : Nat} (hd : 0 < d)
    (hfits : roundQuotient .toEven (n * 10 ^ p) d < 2 ^ 96) : ∀ {most : Nat}, p ≤ most →
    most ≤ maxScale → ∃ s q, p ≤ s ∧ quotient? negative n d most = some q
      ∧ Nearest s (sign negative * (n / d)) q.value
  | 0, hp, hmost => by
    obtain rfl := Nat.le_zero.1 hp
    obtain ⟨q, hq, -⟩ := exists_ofParts? negative hfits hmost
    refine ⟨0, q, le_rfl, ?_, nearest_ofParts? hd hq⟩
    rwa [pow_zero, mul_one] at hq
  | most + 1, hp, hmost => by
    rw [quotient?]
    split
    · rename_i q hq
      exact ⟨most + 1, q, hp, rfl, nearest_ofParts? hd hq⟩
    · -- it does not fit, so these are not the places that there is room for
      rename_i hnone
      have hne : p ≠ most + 1 := by
        rintro rfl
        obtain ⟨q, hq, -⟩ := exists_ofParts? negative hfits hmost
        cases hnone.symm.trans hq
      exact exists_quotient? negative hd hfits (by omega) (by omega)

theorem exists_div? {a b : Decimal} {p : Nat} (hb : b.isZero = false) (hp : p ≤ maxScale)
    (hfits : |a.value / b.value| * 10 ^ p ≤ (2 ^ 96 - 1 : Nat)) :
    ∃ s q, p ≤ s ∧ a.div? b = some q ∧ Nearest s (a.value / b.value) q.value := by
  have hm : 0 < b.mantissa := Nat.pos_of_ne_zero (of_decide_eq_false hb)
  have hd : 0 < b.mantissa * 10 ^ a.scale := by positivity
  have hvalue : a.value / b.value = sign (a.negative != b.negative)
      * ((a.mantissa * 10 ^ b.scale : Nat) / (b.mantissa * 10 ^ a.scale : Nat)) := by
    rw [value_eq, value_eq, mul_div_mul_comm, sign_div_sign, div_div_div_eq,
      mul_comm (10 ^ a.scale)]
    push_cast
    rfl
  have hroom : a.mantissa * 10 ^ b.scale * 10 ^ p ≤ (2 ^ 96 - 1) * (b.mantissa * 10 ^ a.scale) := by
    rw [hvalue, abs_mul, abs_sign, one_mul, abs_of_nonneg (by positivity), div_mul_eq_mul_div,
      div_le_iff₀ (by exact_mod_cast hd)] at hfits
    exact_mod_cast hfits
  obtain ⟨s, q, hs, hq, hnearest⟩ := exists_quotient? (a.negative != b.negative) hd
    (Nat.lt_of_le_pred (by decide) (roundQuotient_le hd .toEven hroom)) hp le_rfl
  refine ⟨s, q.stripZeros, hs, ?_, ?_⟩
  · rw [div?, if_neg (by simp [hb]), hq, Option.map_some]
  · rwa [value_stripZeros, hvalue]

end Quotients

end Decimal

end Reporting

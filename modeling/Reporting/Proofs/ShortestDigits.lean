import Mathlib.Algebra.Order.Field.Power
import Mathlib.Data.List.DropRight
import Mathlib.Data.Nat.Cast.Order.Field
import Reporting.Binary.Shortest
import Reporting.Proofs.Digits
import Reporting.Proofs.Nearest

/-!
# The digits of binary numbers

The search for the shortest decimal of a binary number ends on a grid that is fine enough for one
(`onGrid?_ne_none`), so that there always is one, neither zero nor with more digits than a decimal
has room for. Its first and last digits are not zeros (`trimmed_shortest`).
-/

namespace Reporting.Binary

open Reporting.Text (digits digitsValue isDigit)

section Grid

variable {f : BinaryFormat} {m c : Nat} {e g : Int}

theorem ratioOf_snd_pos (m : Nat) (e : Int) : 0 < (ratioOf m e).2 := by
  unfold ratioOf
  split
  · exact Nat.one_pos
  · exact Nat.two_pow_pos _

theorem ratioOf_div (m : Nat) (e : Int) :
    ((ratioOf m e).1 : ℚ) / (ratioOf m e).2 = m * 2 ^ e := by
  unfold ratioOf
  split
  · rename_i h
    obtain ⟨k, rfl⟩ := Int.eq_ofNat_of_zero_le h
    simp
  · rename_i h
    obtain ⟨k, hk⟩ := Int.eq_ofNat_of_zero_le (Int.le_of_lt (Int.neg_pos_of_neg (Int.not_le.1 h)))
    obtain rfl : e = -k := by omega
    simp [div_eq_mul_inv]

/-- A quotient in units of a power of ten. -/
def inUnits (p q : Nat) (g : Int) : Nat × Nat :=
  if 0 ≤ g then (p, q * 10 ^ g.toNat) else (p * 10 ^ (-g).toNat, q)

theorem inUnits_snd_pos {p q : Nat} (hq : 0 < q) : 0 < (inUnits p q g).2 := by
  unfold inUnits
  split
  · positivity
  · exact hq

theorem inUnits_div (p q : Nat) (g : Int) :
    ((inUnits p q g).1 : ℚ) / (inUnits p q g).2 = p / q / 10 ^ g := by
  unfold inUnits
  split
  · rename_i h
    obtain ⟨k, rfl⟩ := Int.eq_ofNat_of_zero_le h
    simp [div_div]
  · rename_i h
    obtain ⟨k, hk⟩ := Int.eq_ofNat_of_zero_le (Int.le_of_lt (Int.neg_pos_of_neg (Int.not_le.1 h)))
    obtain rfl : g = -k := by omega
    simp
    ring

/-- The number `m · 2 ^ e` in units of a power of ten. -/
def onGrid (m : Nat) (e g : Int) : Nat × Nat := inUnits (ratioOf m e).1 (ratioOf m e).2 g

theorem onGrid_snd_pos (m : Nat) (e g : Int) : 0 < (onGrid m e g).2 :=
  inUnits_snd_pos (ratioOf_snd_pos m e)

theorem onGrid_div (m : Nat) (e g : Int) :
    ((onGrid m e g).1 : ℚ) / (onGrid m e g).2 = m * 2 ^ e / 10 ^ g := by
  rw [onGrid, inUnits_div, ratioOf_div]

/-- A multiple of a power of ten as a quotient. -/
def multiple (c : Nat) (g : Int) : Nat × Nat :=
  if 0 ≤ g then (c * 10 ^ g.toNat, 1) else (c, 10 ^ (-g).toNat)

theorem multiple_snd_pos : 0 < (multiple c g).2 := by
  unfold multiple
  split
  · exact Nat.one_pos
  · exact Nat.pow_pos (by decide)

theorem multiple_div (c : Nat) (g : Int) :
    ((multiple c g).1 : ℚ) / (multiple c g).2 = c * 10 ^ g := by
  unfold multiple
  split
  · rename_i h
    obtain ⟨k, rfl⟩ := Int.eq_ofNat_of_zero_le h
    simp
  · rename_i h
    obtain ⟨k, hk⟩ := Int.eq_ofNat_of_zero_le (Int.le_of_lt (Int.neg_pos_of_neg (Int.not_le.1 h)))
    obtain rfl : g = -k := by omega
    simp [div_eq_mul_inv]

theorem roundsTo_eq : roundsTo f m e c g =
    (let low := (4 * m - (gaps f m e).1) * (ratioOf 1 (e - 2)).1 * (multiple c g).2
     let high := (4 * m + (gaps f m e).2) * (ratioOf 1 (e - 2)).1 * (multiple c g).2
     let value := (multiple c g).1 * (ratioOf 1 (e - 2)).2
     if m % 2 = 0 then low ≤ value && value ≤ high else low < value && value < high) := rfl

theorem onGrid?_eq : onGrid? f m e g =
    (let p := (onGrid m e g).1
     let q := (onGrid m e g).2
     let near := roundQuotient .toEven p q
     let far := if near = p / q then p / q + 1 else p / q
     if roundsTo f m e near g then some near
     else if roundsTo f m e far g then some far
     else none) := rfl

/-- A multiple compared with a multiple of quarters of `2 ^ e`, over their denominators. -/
theorem quarters_lt_iff {n : Nat} :
    n * (ratioOf 1 (e - 2)).1 * (multiple c g).2 < (multiple c g).1 * (ratioOf 1 (e - 2)).2
      ↔ (n : ℚ) * 2 ^ (e - 2) < c * 10 ^ g := by
  have hq : (0 : ℚ) < (ratioOf 1 (e - 2)).2 := Nat.cast_pos.2 (ratioOf_snd_pos 1 (e - 2))
  have hy : (0 : ℚ) < (multiple c g).2 := Nat.cast_pos.2 multiple_snd_pos
  have hp := ratioOf_div 1 (e - 2)
  rw [Nat.cast_one, one_mul] at hp
  rw [← hp, ← multiple_div, ← mul_div_assoc, div_lt_div_iff₀ hq hy]
  norm_cast

theorem lt_quarters_iff {n : Nat} :
    (multiple c g).1 * (ratioOf 1 (e - 2)).2 < n * (ratioOf 1 (e - 2)).1 * (multiple c g).2
      ↔ (c : ℚ) * 10 ^ g < n * 2 ^ (e - 2) := by
  have hq : (0 : ℚ) < (ratioOf 1 (e - 2)).2 := Nat.cast_pos.2 (ratioOf_snd_pos 1 (e - 2))
  have hy : (0 : ℚ) < (multiple c g).2 := Nat.cast_pos.2 multiple_snd_pos
  have hp := ratioOf_div 1 (e - 2)
  rw [Nat.cast_one, one_mul] at hp
  rw [← hp, ← multiple_div, ← mul_div_assoc, div_lt_div_iff₀ hy hq]
  norm_cast

/-- A multiple within a quarter of the last place of a number rounds to that number. -/
theorem roundsTo_of_abs_lt (hm : 0 < m) (h : |(c : ℚ) * 10 ^ g - m * 2 ^ e| < 2 ^ (e - 2)) :
    roundsTo f m e c g = true := by
  have hpower : (2 : ℚ) ^ e = 4 * 2 ^ (e - 2) := by
    rw [zpow_sub₀ (by norm_num)]
    norm_num
    ring
  have hgap : (0 : ℚ) < 2 ^ (e - 2) := by positivity
  have hbelow : 1 ≤ (gaps f m e).1 := by
    unfold gaps
    split <;> decide
  obtain ⟨hlow, hhigh⟩ := abs_lt.1 h
  rw [hpower] at hlow hhigh
  have hlow' : (4 * m - (gaps f m e).1) * (ratioOf 1 (e - 2)).1 * (multiple c g).2
      < (multiple c g).1 * (ratioOf 1 (e - 2)).2 := by
    have hle : ((4 * m - (gaps f m e).1 : Nat) : ℚ) ≤ 4 * m - 1 := by
      rw [le_sub_iff_add_le]
      exact_mod_cast (by omega : 4 * m - (gaps f m e).1 + 1 ≤ 4 * m)
    refine quarters_lt_iff.2 ((mul_le_mul_of_nonneg_right hle hgap.le).trans_lt ?_)
    linarith
  have hhigh' : (multiple c g).1 * (ratioOf 1 (e - 2)).2
      < (4 * m + (gaps f m e).2) * (ratioOf 1 (e - 2)).1 * (multiple c g).2 := by
    have habove : (gaps f m e).2 = 2 := rfl
    rw [habove, lt_quarters_iff]
    push_cast
    linarith
  rw [roundsTo_eq]
  simp only
  split
  · exact Bool.and_eq_true_iff.2 ⟨decide_eq_true hlow'.le, decide_eq_true hhigh'.le⟩
  · exact Bool.and_eq_true_iff.2 ⟨decide_eq_true hlow', decide_eq_true hhigh'⟩

/-- Zero rounds to no other number. -/
theorem roundsTo_zero (hm : 0 < m) : roundsTo f m e 0 g = false := by
  have hvalue : (multiple 0 g).1 = 0 := by
    unfold multiple
    split <;> simp
  have hlow : 0 < (4 * m - (gaps f m e).1) * (ratioOf 1 (e - 2)).1 * (multiple 0 g).2 := by
    have hbelow : (gaps f m e).1 ≤ 2 := by
      unfold gaps
      split <;> decide
    have hp : 0 < (ratioOf 1 (e - 2)).1 := by
      unfold ratioOf
      split <;> simp
    have hquarters : 0 < 4 * m - (gaps f m e).1 := by omega
    have hy : 0 < (multiple 0 g).2 := multiple_snd_pos
    positivity
  rw [roundsTo_eq, hvalue]
  simp only [Nat.zero_mul]
  split
  · rw [decide_eq_false hlow.not_ge, Bool.false_and]
  · rw [decide_eq_false (Nat.not_lt_zero _), Bool.false_and]

theorem abs_nearest_onGrid_sub_le (m : Nat) (e g : Int) :
    |(roundQuotient .toEven (onGrid m e g).1 (onGrid m e g).2 : ℚ) - m * 2 ^ e / 10 ^ g|
      ≤ 1 / 2 := by
  rw [← onGrid_div]
  exact abs_roundQuotient_sub_le (onGrid_snd_pos m e g) .toEven

/-- A decimal that is found rounds to the number and is no more than a unit above it. -/
theorem onGrid?_cases (h : onGrid? f m e g = some c) :
    roundsTo f m e c g = true ∧ (c : ℚ) ≤ m * 2 ^ e / 10 ^ g + 1 := by
  have hnear := (abs_sub_le_iff.1 (abs_nearest_onGrid_sub_le m e g)).1
  have hfloor : ((onGrid m e g).1 / (onGrid m e g).2 : Nat) ≤ (m * 2 ^ e / 10 ^ g : ℚ) :=
    Nat.cast_div_le.trans_eq (onGrid_div m e g)
  rw [onGrid?_eq] at h
  simp only at h
  generalize roundQuotient .toEven (onGrid m e g).1 (onGrid m e g).2 = near at h hnear
  generalize (onGrid m e g).1 / (onGrid m e g).2 = floor at h hfloor
  have hfar : ((if near = floor then floor + 1 else floor : Nat) : ℚ)
      ≤ m * 2 ^ e / 10 ^ g + 1 := by
    split
    · push_cast
      linarith
    · linarith
  generalize (if near = floor then floor + 1 else floor) = far at h hfar
  split at h
  · cases h
    exact ⟨‹_›, by linarith⟩
  · split at h
    · cases h
      exact ⟨‹_›, hfar⟩
    · cases h

theorem onGrid?_ne_none (hm : 0 < m) (h : (10 : ℚ) ^ g < 2 ^ (e - 1)) :
    onGrid? f m e g ≠ none := by
  have hnear := abs_nearest_onGrid_sub_le m e g
  have hunit : (0 : ℚ) < 10 ^ g := by positivity
  have hrounds : roundsTo f m e
      (roundQuotient .toEven (onGrid m e g).1 (onGrid m e g).2) g = true := by
    refine roundsTo_of_abs_lt hm ?_
    have hhalf : (2 : ℚ) ^ (e - 1) = 2 * 2 ^ (e - 2) := by
      rw [show e - 1 = 1 + (e - 2) by ring, zpow_add₀ (by norm_num), zpow_one]
    have hscale := mul_le_mul_of_nonneg_right hnear hunit.le
    rw [← abs_of_pos hunit, ← abs_mul, sub_mul, abs_of_pos hunit, div_mul_cancel₀ _ hunit.ne']
      at hscale
    linarith
  rw [onGrid?_eq]
  simp only
  rw [if_pos hrounds]
  exact Option.some_ne_none _

end Grid

section Exponent

variable {n d : Nat}

/-- The decimal exponent of a quotient is that of the greatest power of ten below it. -/
theorem decimalExponent_spec (hn : 0 < n) (hd : 0 < d) :
    (10 : ℚ) ^ decimalExponent n d ≤ n / d ∧ (n / d : ℚ) < 10 ^ (decimalExponent n d + 1) := by
  obtain ⟨hnlow, hnhigh⟩ := Text.length_digits_bounds hn
  obtain ⟨hdlow, hdhigh⟩ := Text.length_digits_bounds hd
  have hnlength : 0 < (digits n).length := List.length_pos_iff.2 Nat.toDigits_ne_nil
  have hdlength : 0 < (digits d).length := List.length_pos_iff.2 Nat.toDigits_ne_nil
  have hd' : (0 : ℚ) < d := Nat.cast_pos.2 hd
  set k : Int := (digits n).length - (digits d).length with hk
  have hbelow : (10 : ℚ) ^ (k - 1) < n / d := by
    have hpower : (10 : ℚ) ^ (k - 1) = 10 ^ ((digits n).length - 1) / 10 ^ (digits d).length := by
      rw [← zpow_natCast, ← zpow_natCast, ← zpow_sub₀ (by norm_num)]
      congr 1
      omega
    rw [hpower, div_lt_div_iff₀ (by positivity) hd']
    exact_mod_cast Nat.mul_lt_mul_of_le_of_lt hnlow hdhigh hn
  have habove : (n / d : ℚ) < 10 ^ (k + 1) := by
    have hpower : (10 : ℚ) ^ (k + 1) = 10 ^ (digits n).length / 10 ^ ((digits d).length - 1) := by
      rw [← zpow_natCast, ← zpow_natCast, ← zpow_sub₀ (by norm_num)]
      congr 1
      omega
    rw [hpower, div_lt_div_iff₀ hd' (by positivity)]
    exact_mod_cast Nat.mul_lt_mul_of_lt_of_le hnhigh hdlow (by positivity)
  have hq : (0 : ℚ) < (inUnits n d k).2 := Nat.cast_pos.2 (inUnits_snd_pos hd)
  have hunit : (0 : ℚ) < 10 ^ k := by positivity
  have hle : (inUnits n d k).2 ≤ (inUnits n d k).1 ↔ (10 : ℚ) ^ k ≤ n / d := by
    rw [← Nat.cast_le (α := ℚ), ← one_le_div hq, inUnits_div, one_le_div hunit]
  have hexponent : decimalExponent n d
      = if (inUnits n d k).2 ≤ (inUnits n d k).1 then k else k - 1 := rfl
  rw [hexponent]
  split
  · exact ⟨hle.1 ‹_›, habove⟩
  · rw [sub_add_cancel]
    exact ⟨hbelow.le, not_le.1 (mt hle.2 ‹_›)⟩

end Exponent

section Search

variable {f : BinaryFormat} {m : Nat} {e k : Int}

/-- The search stops at the first grid that has a decimal, at the latest where one surely is. -/
theorem exists_shortestFrom : ∀ {fuel n : Nat}, onGrid? f m e (k - (n + fuel : Nat)) ≠ none →
    ∃ c j, j ≤ n + fuel ∧ shortestFrom f m e k fuel n = (c, k - (j : Nat))
      ∧ onGrid? f m e (k - (j : Nat)) = some c
  | 0, n, h => by
    obtain ⟨c, hc⟩ := Option.ne_none_iff_exists'.1 h
    have hread : shortestFrom f m e k 0 n = ((onGrid? f m e (k - (n : Nat))).getD 0, k - n) := rfl
    exact ⟨c, n, Nat.le_refl n, by rw [hread, show onGrid? f m e (k - n) = some c from hc]; rfl, hc⟩
  | fuel + 1, n, h => by
    rw [shortestFrom]
    cases hc : onGrid? f m e (k - n) with
    | some c => exact ⟨c, n, by omega, rfl, hc⟩
    | none =>
      rw [show n + (fuel + 1) = n + 1 + fuel by omega] at h ⊢
      exact exists_shortestFrom h

end Search

/-- Digits without a zero at either end, few enough for a decimal. -/
structure Trimmed (cs : List Char) : Prop where
  isDigit : ∀ c ∈ cs, isDigit c = true
  ne_nil : cs ≠ []
  length_le : cs.length ≤ 22
  first : ∀ c ∈ cs.head?, c ≠ '0'
  last : ∀ c ∈ cs.getLast?, c ≠ '0'

theorem trimmed_rdropWhile {c : Nat} (hpos : 0 < c) (hlt : c < 10 ^ 22) :
    Trimmed ((digits c).rdropWhile (· == '0')) := by
  obtain ⟨d, ds, hdigits, hd⟩ := Text.exists_digits hpos
  have hsub := List.rdropWhile_prefix (· == '0') (digits c)
  have hne : (digits c).rdropWhile (· == '0') ≠ [] := by
    rw [Ne, List.rdropWhile_eq_nil_iff, hdigits]
    exact fun h => hd (beq_iff_eq.1 (h d List.mem_cons_self))
  refine ⟨fun x hx => Text.isDigit_of_mem_digits c x (hsub.subset hx), hne, ?_, ?_, ?_⟩
  · exact hsub.length_le.trans ((Nat.length_toDigits_le_iff (by decide) (by decide)).2 hlt)
  · intro x hx
    obtain ⟨rest, hrest⟩ := hsub
    obtain ⟨y, ys, hys⟩ := List.exists_cons_of_ne_nil hne
    rw [hys, hdigits, List.cons_append, List.cons.injEq] at hrest
    rw [hys, List.head?_cons] at hx
    cases hx
    exact hrest.1 ▸ hd
  · intro x hx
    rw [List.getLast?_eq_some_getLast hne] at hx
    cases hx
    have := List.rdropWhile_last_not (· == '0') (digits c) hne
    simpa using this

/-- The shortest digits of a number of 53 bits. The finest grid of the search has 21 digits. -/
theorem trimmed_shortest (f : BinaryFormat) {m : Nat} (e : Int) (hm : 0 < m) (hlt : m < 2 ^ 53) :
    Trimmed (shortest f m e).digits := by
  have hp : 0 < (ratioOf m e).1 := by
    unfold ratioOf
    split
    · positivity
    · exact hm
  obtain ⟨hlow, hhigh⟩ := decimalExponent_spec hp (ratioOf_snd_pos m e)
  set k := decimalExponent (ratioOf m e).1 (ratioOf m e).2 with hk
  rw [ratioOf_div] at hlow hhigh
  have hfine : (10 : ℚ) ^ (k - (0 + 20 : Nat)) < 2 ^ (e - 1) := by
    have hbits : (m : ℚ) < 2 ^ 53 := by exact_mod_cast hlt
    have hpower : (0 : ℚ) < 2 ^ e := by positivity
    rw [zpow_sub₀ (by norm_num), zpow_sub₀ (by norm_num), zpow_one, zpow_natCast,
      div_lt_div_iff₀ (by positivity) (by norm_num)]
    calc (10 : ℚ) ^ k * 2 ≤ m * 2 ^ e * 2 := by gcongr
      _ < 2 ^ 53 * 2 ^ e * 2 := by gcongr
      _ = 2 ^ e * (2 ^ 53 * 2) := by ring
      _ ≤ 2 ^ e * 10 ^ (0 + 20) := mul_le_mul_of_nonneg_left (by norm_num) hpower.le
  obtain ⟨c, j, hj, hsearch, hgrid⟩ := exists_shortestFrom (onGrid?_ne_none (f := f) hm hfine)
  obtain ⟨hrounds, hle⟩ := onGrid?_cases hgrid
  have hpos : 0 < c := by
    refine Nat.pos_of_ne_zero fun hzero => ?_
    rw [hzero, roundsTo_zero hm] at hrounds
    cases hrounds
  have hsize : c < 10 ^ 22 := by
    have hunits : (m : ℚ) * 2 ^ e / 10 ^ (k - (j : Nat)) < 10 ^ (j + 1) := by
      rw [div_lt_iff₀ (by positivity), ← zpow_natCast, ← zpow_add₀ (by norm_num)]
      refine hhigh.trans_eq (congrArg _ ?_)
      push_cast
      ring
    have hgrids : (10 : ℚ) ^ (j + 1) ≤ 10 ^ 21 := pow_le_pow_right₀ (by norm_num) (by omega)
    have hcast : (c : ℚ) < 10 ^ 22 := by linarith
    exact_mod_cast hcast
  have hdigits : (shortest f m e).digits
      = (digits (shortestFrom f m e k 20 0).1).rdropWhile (· == '0') := by
    rw [shortest, if_neg hm.ne']
    rfl
  rw [hdigits, hsearch]
  exact trimmed_rdropWhile hpos hsize

end Reporting.Binary

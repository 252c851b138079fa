import Reporting.Proofs.SquareRoot
import Reporting.Proofs.Statistics

/-!
# Where statistics are defined

Statistics of values of any size are defined once there is one value, and neither variance nor
deviation is ever negative (`statistics_defined`): quotients by a count have room, so have
differences of numbers that are not negative, and no sum of squares ever becomes negative.
-/

namespace Reporting

namespace Decimal

section Room

theorem exists_fit_go (negative : Bool) {m s : Nat} (h : m ≤ (2 ^ 96 - 1) * 10 ^ s) :
    ∀ {fuel dropped : Nat}, dropped ≤ s → s ≤ maxScale + dropped → s < fuel + dropped →
      ∃ d, fit.go negative m s fuel dropped = some d
  | 0, dropped, _, _, hfuel => by omega
  | fuel + 1, dropped, hdropped, hscale, hfuel => by
    rw [fit.go, if_neg (not_lt.2 hdropped)]
    split
    · rename_i d _
      exact ⟨d, rfl⟩
    · -- with all places dropped it fits, so there are more places to drop
      rename_i hnone
      have hne : dropped ≠ s := by
        rintro rfl
        have hle := roundQuotient_le (by positivity : 0 < 10 ^ dropped) .toEven h
        obtain ⟨d, hd, -⟩ := exists_ofParts? negative (Nat.lt_of_le_pred (by decide) hle)
          (by omega : dropped - dropped ≤ maxScale)
        cases hnone.symm.trans hd
      exact exists_fit_go negative h (by omega) (by omega) (by omega)

/-- A number fits as soon as its whole part does. -/
theorem exists_fit (negative : Bool) {m s : Nat} (h : m ≤ (2 ^ 96 - 1) * 10 ^ s) :
    ∃ d, fit negative m s = some d :=
  exists_fit_go negative h (Nat.sub_le _ _) (by omega) (by omega)

/-- A difference of numbers that are not negative is no larger than they are. -/
theorem exists_sub? {a b : Decimal} (ha : 0 ≤ a.value) (hb : 0 ≤ b.value) :
    ∃ c, a.sub? b = some c := by
  rw [sub?, add?]
  split
  · exact ⟨_, rfl⟩
  split
  · exact ⟨_, rfl⟩
  have hle : |a.value + b.neg.value| ≤ (2 ^ 96 - 1 : Nat) := by
    have hale := (le_abs_self _).trans (abs_value_le a)
    have hble := (le_abs_self _).trans (abs_value_le b)
    rw [value_neg, abs_le]
    constructor <;> linarith
  refine exists_fit _ ?_
  have hroom : |a.value + b.neg.value| * 10 ^ max a.scale b.neg.scale
      ≤ (2 ^ 96 - 1 : Nat) * 10 ^ max a.scale b.neg.scale := by gcongr
  rw [← aligned_magnitude (le_max_left _ _) (le_max_right _ _)] at hroom
  exact_mod_cast hroom

end Room

section Signs

theorem fit_go_nonneg {m s : Nat} {d : Decimal} : ∀ {fuel dropped : Nat},
    fit.go false m s fuel dropped = some d → 0 ≤ d.value
  | 0, _, h => by cases h
  | fuel + 1, dropped, h => by
    rw [fit.go] at h
    split at h
    · cases h
    split at h
    · rename_i hparts
      cases h
      exact ofParts?_nonneg hparts
    · exact fit_go_nonneg h

theorem fit_getD_nonneg (m s : Nat) : 0 ≤ ((fit false m s).getD (extreme false)).value := by
  cases h : fit false m s with
  | none => exact value_nonneg rfl
  | some d => exact fit_go_nonneg h

theorem saturatingAdd_nonneg {a b : Decimal} (ha : 0 ≤ a.value) (hb : 0 ≤ b.value) :
    0 ≤ (a.saturatingAdd b).value := by
  rw [saturatingAdd, add?]
  split
  · exact hb
  split
  · exact ha
  rename_i hzero
  have hexact := aligned_value (le_max_left a.scale b.scale) (le_max_right _ _)
  have hn : 0 ≤ a.signed * (10 ^ (max a.scale b.scale - a.scale) : Nat)
      + b.signed * (10 ^ (max a.scale b.scale - b.scale) : Nat) := by
    rw [← Int.cast_nonneg_iff (R := ℚ), hexact]
    positivity
  -- the second term gives a sum that is out of range its sign
  dsimp only
  rw [decide_eq_false (not_lt.2 hn), negative_eq_false hb hzero]
  exact fit_getD_nonneg _ _

theorem saturatingMul_self_nonneg (d : Decimal) : 0 ≤ (d.saturatingMul d).value := by
  rw [saturatingMul, mul?, bne_self_eq_false]
  split
  · exact value_nonneg rfl
  · exact fit_getD_nonneg _ _

end Signs

end Decimal

namespace Summary

variable {s : Summary}

theorem decimalCount_of_lt (h : s.count < 2 ^ 96) : s.decimalCount.value = s.count := by
  obtain ⟨d, hd, -⟩ := Decimal.exists_ofParts? (decide ((s.count : Int) < 0))
    (m := (s.count : Int).natAbs) h (Nat.zero_le _)
  rw [decimalCount, Decimal.ofInt?, hd, Option.getD_some, Decimal.value_ofParts? hd, pow_zero,
    div_one, Decimal.sign_mul_natAbs, Int.cast_natCast]

theorem one_le_decimalCount (h : 0 < s.count) : 1 ≤ s.decimalCount.value := by
  rcases Nat.lt_or_ge s.count (2 ^ 96) with hlt | hge
  · rw [decimalCount_of_lt hlt]
    exact_mod_cast h
  · have hnone : Decimal.ofInt? s.count = none := dif_neg fun hfits => absurd hfits.1 (not_lt.2 hge)
    rw [decimalCount, hnone, Option.getD_none, Decimal.value_eq]
    norm_num [Decimal.extreme, Decimal.sign]

/-- Dividing by a count makes no number larger, so there is room for what it has room for. -/
theorem exists_div?_decimalCount (h : 0 < s.count) {d : Decimal} {p : Nat}
    (hp : p ≤ Decimal.maxScale) (hfits : |d.value| * 10 ^ p ≤ (2 ^ 96 - 1 : Nat)) :
    ∃ places q, p ≤ places ∧ d.div? s.decimalCount = some q
      ∧ Nearest places (d.value / s.decimalCount.value) q.value := by
  have hcount := one_le_decimalCount h
  have hpos : 0 < s.decimalCount.value := one_pos.trans_le hcount
  have hzero : s.decimalCount.isZero = false := by
    by_contra hzero
    exact hpos.ne' (Decimal.value_of_isZero (by simpa using hzero))
  refine Decimal.exists_div? hzero hp ((mul_le_mul_of_nonneg_right ?_ (by positivity)).trans hfits)
  rw [abs_div, abs_of_pos hpos]
  exact div_le_self (abs_nonneg _) hcount

theorem exists_quotient (h : 0 < s.count) (d : Decimal) :
    ∃ q, d.div? s.decimalCount = some q ∧ (0 ≤ d.value → 0 ≤ q.value) := by
  obtain ⟨places, q, -, hq, hnearest⟩ := exists_div?_decimalCount h (Nat.zero_le _)
    (by rw [pow_zero, mul_one]; exact d.abs_value_le)
  have hcount : 0 ≤ s.decimalCount.value := zero_le_one.trans (one_le_decimalCount h)
  exact ⟨q, hq, fun hd => hnearest.nonneg (div_nonneg hd hcount)⟩

theorem value_rounded (d : Decimal) : (rounded d).value = halfAway 4 d.value :=
  Decimal.value_round 4 d

section Parts

variable {q v r : Decimal} (h : 0 < s.count)

include h in
theorem mean?_eq (hq : s.sum.div? s.decimalCount = some q) : s.mean? = some (rounded q) := by
  rw [mean?, isEmpty, if_neg (by simpa using h.ne'), hq]
  rfl

include h in
theorem variance?_eq (hq : (s.sum.saturatingMul s.sum).div? s.decimalCount = some q)
    (hv : s.sumOfSquares.sub? (rounded q) = some v) :
    s.variance? = some (rounded (greatest v .zero)) := by
  have hcount : s.isEmpty = false := decide_eq_false h.ne'
  simp [variance?, hcount, hq, hv]

theorem deviation?_eq (hv : s.variance? = some v) (hr : v.sqrt? = some r) :
    s.deviation? = some (rounded r) := by
  simp [deviation?, hv, hr]

end Parts

/-- Without values the sum is zero and the other statistics are undefined. -/
structure Undefined (s : Summary) : Prop where
  sum : s.sum = .zero
  minimum : s.minimum? = none
  maximum : s.maximum? = none
  mean : s.mean? = none
  variance : s.variance? = none
  deviation : s.deviation? = none

/-- The statistics of values are defined. -/
structure Defined (values : List Decimal) (s : Summary) : Prop where
  minimum : ∃ m, s.minimum? = some m ∧ m.value ∈ values.map Decimal.value
    ∧ ∀ d ∈ values, m.value ≤ d.value
  maximum : ∃ m, s.maximum? = some m ∧ m.value ∈ values.map Decimal.value
    ∧ ∀ d ∈ values, d.value ≤ m.value
  mean : ∃ m, s.mean? = some m
  variance : ∃ v, s.variance? = some v ∧ 0 ≤ v.value
  deviation : ∃ r, s.deviation? = some r ∧ 0 ≤ r.value

theorem undefined_empty : Undefined empty := ⟨rfl, rfl, rfl, rfl, rfl, rfl⟩

section Values

variable {values : List Decimal} (h : values ≠ [])

theorem exists_of_map_eq {found : Option Decimal} {best : Option ℚ}
    (h : found.map Decimal.value = best) (hbest : best ≠ none) :
    ∃ m, found = some m ∧ best = some m.value := by
  subst h
  cases found with
  | none => exact absurd rfl hbest
  | some m => exact ⟨m, rfl, rfl⟩

include h in
theorem exists_minimum : ∃ m, (ofValues values).minimum? = some m
    ∧ m.value ∈ values.map Decimal.value ∧ ∀ d ∈ values, m.value ≤ d.value := by
  have hbest : (values.map Decimal.value).min? ≠ none := by simpa [List.min?_eq_none_iff] using h
  obtain ⟨m, hm, hmin⟩ := exists_of_map_eq (minimum?_ofValues values) hbest
  obtain ⟨hmem, hle⟩ := List.min?_eq_some_iff.1 hmin
  exact ⟨m, hm, hmem, List.forall_mem_map.1 hle⟩

include h in
theorem exists_maximum : ∃ m, (ofValues values).maximum? = some m
    ∧ m.value ∈ values.map Decimal.value ∧ ∀ d ∈ values, d.value ≤ m.value := by
  have hbest : (values.map Decimal.value).max? ≠ none := by simpa [List.max?_eq_none_iff] using h
  obtain ⟨m, hm, hmax⟩ := exists_of_map_eq (maximum?_ofValues values) hbest
  obtain ⟨hmem, hle⟩ := List.max?_eq_some_iff.1 hmax
  exact ⟨m, hm, hmem, List.forall_mem_map.1 hle⟩

theorem foldl_saturatingAdd_nonneg (terms : List Decimal) : ∀ {start : Decimal},
    0 ≤ start.value → (∀ d ∈ terms, 0 ≤ d.value) →
      0 ≤ (terms.foldl Decimal.saturatingAdd start).value := by
  induction terms with
  | nil => exact fun hstart _ => hstart
  | cons d terms ih =>
    intro start hstart hterms
    obtain ⟨hd, hrest⟩ := List.forall_mem_cons.1 hterms
    exact ih (Decimal.saturatingAdd_nonneg hstart hd) hrest

/-- No sum of squares is negative, saturated or not. -/
theorem sumOfSquares_nonneg (values : List Decimal) : 0 ≤ (ofValues values).sumOfSquares.value := by
  rw [ofValues, sumOfSquares_foldl_insert]
  exact foldl_saturatingAdd_nonneg _ (Decimal.value_nonneg rfl)
    (List.forall_mem_map.2 fun d _ => d.saturatingMul_self_nonneg)

include h in
theorem count_pos : 0 < (ofValues values).count := by
  rw [count_ofValues]
  exact List.length_pos_iff.2 h

include h in
theorem exists_variance : ∃ v, (ofValues values).variance? = some v ∧ 0 ≤ v.value := by
  obtain ⟨q, hq, hnonneg⟩ := exists_quotient (count_pos h)
    ((ofValues values).sum.saturatingMul (ofValues values).sum)
  have hcorrection : 0 ≤ (rounded q).value := by
    rw [value_rounded]
    exact halfAway_nonneg (hnonneg (Decimal.saturatingMul_self_nonneg _))
  obtain ⟨v, hv⟩ := Decimal.exists_sub? (sumOfSquares_nonneg values) hcorrection
  refine ⟨_, variance?_eq (count_pos h) hq hv, ?_⟩
  rw [value_rounded, value_greatest]
  exact halfAway_nonneg (le_max_of_le_right (Decimal.value_nonneg rfl))

theorem exists_deviation {v : Decimal} (hv : s.variance? = some v) (h : 0 ≤ v.value) :
    ∃ r, s.deviation? = some r ∧ 0 ≤ r.value := by
  obtain ⟨r, hr, hnonneg, -⟩ := Decimal.exists_sqrt? h
  refine ⟨_, deviation?_eq hv hr, ?_⟩
  rw [value_rounded]
  exact halfAway_nonneg hnonneg

include h in
theorem defined_ofValues : Defined values (ofValues values) := by
  obtain ⟨q, hq, -⟩ := exists_quotient (count_pos h) (ofValues values).sum
  obtain ⟨v, hv, hnonneg⟩ := exists_variance h
  exact
    { minimum := exists_minimum h
      maximum := exists_maximum h
      mean := ⟨_, mean?_eq (count_pos h) hq⟩
      variance := ⟨v, hv, hnonneg⟩
      deviation := exists_deviation hv hnonneg }

end Values

/-- Running totals count the values that are there. They have an extreme one, a mean, a variance and
a deviation if there is any, the latter two not negative, and otherwise none of these. -/
theorem statistics_defined (contributions : List (Option Decimal)) :
    (contributions.foldl insert? empty).count = (contributions.filterMap id).length
      ∧ if (contributions.foldl insert? empty).count = 0
        then Undefined (contributions.foldl insert? empty)
        else Defined (contributions.filterMap id) (contributions.foldl insert? empty) := by
  have hvalues : contributions.foldl insert? empty = ofValues (contributions.filterMap id) := by
    rw [ofValues, ← foldl_insert?_map, List.map_id]
  rw [hvalues, count_ofValues]
  refine ⟨rfl, ?_⟩
  split
  · rename_i hnone
    rw [List.length_eq_zero_iff.1 hnone]
    exact undefined_empty
  · rename_i hsome
    exact defined_ofValues fun hnil => hsome (List.length_eq_zero_iff.2 hnil)

end Summary

end Reporting

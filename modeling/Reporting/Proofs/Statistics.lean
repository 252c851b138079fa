import Mathlib.Algebra.BigOperators.Group.List.Basic
import Mathlib.Algebra.Order.BigOperators.Group.List
import Mathlib.Order.OrderDual
import Mathlib.Tactic.Linarith
import Reporting.Proofs.DecimalValue
import Reporting.Summary

/-!
# What running totals hold

The running totals of values hold their number, the least and the greatest of the numbers that they
stand for (`minimum?_ofValues`, `maximum?_ofValues`) and, as long as everything fits, the exact sum
(`value_sum_ofValues`) and the exact sum of the squares (`sumOfSquares_ofValues`).
-/

namespace Reporting

section Extremes

variable {α β : Type} [LinearOrder α]

/-- Lists that bound each other from below have one minimum. -/
theorem min?_congr {l l' : List α} (h : ∀ a ∈ l, ∃ b ∈ l', b ≤ a) (h' : ∀ b ∈ l', ∃ a ∈ l, a ≤ b) :
    l.min? = l'.min? := by
  cases hm : l'.min? with
  | none =>
    rw [List.min?_eq_none_iff] at hm ⊢
    refine List.eq_nil_iff_forall_not_mem.2 fun a ha => ?_
    obtain ⟨b, hb, -⟩ := h a ha
    rw [hm] at hb
    cases hb
  | some m =>
    obtain ⟨hmem, hle⟩ := List.min?_eq_some_iff.1 hm
    have hbound : ∀ a ∈ l, m ≤ a := fun a ha => by
      obtain ⟨b, hb, hba⟩ := h a ha
      exact (hle b hb).trans hba
    obtain ⟨a, ha, ham⟩ := h' m hmem
    obtain rfl : a = m := le_antisymm ham (hbound a ha)
    exact List.min?_eq_some_iff.2 ⟨ha, hbound⟩

theorem min?_perm {l l' : List α} (h : l.Perm l') : l.min? = l'.min? :=
  min?_congr (fun a ha => ⟨a, h.mem_iff.1 ha, le_rfl⟩) fun b hb => ⟨b, h.mem_iff.2 hb, le_rfl⟩

/-- The minimum of parts is the least of their minima, those of empty parts left out. -/
theorem min?_flatMap (f : β → List α) (l : List β) :
    (l.flatMap f).min? = (l.filterMap fun b => (f b).min?).min? := by
  refine min?_congr (fun a ha => ?_) fun m hm => ?_
  · obtain ⟨b, hb, ha⟩ := List.mem_flatMap.1 ha
    cases hm : (f b).min? with
    | none =>
      rw [List.min?_eq_none_iff.1 hm] at ha
      cases ha
    | some m =>
      exact ⟨m, List.mem_filterMap.2 ⟨b, hb, hm⟩, (List.min?_eq_some_iff.1 hm).2 a ha⟩
  · obtain ⟨b, hb, hm⟩ := List.mem_filterMap.1 hm
    exact ⟨m, List.mem_flatMap.2 ⟨b, hb, (List.min?_eq_some_iff.1 hm).1⟩, le_rfl⟩

/-- A maximum is a minimum in the opposite order. -/
theorem max?_eq_min?_dual (l : List α) : l.max? = List.min? (α := αᵒᵈ) l := by
  cases l <;> rfl

theorem max?_perm {l l' : List α} (h : l.Perm l') : l.max? = l'.max? := by
  rw [max?_eq_min?_dual, max?_eq_min?_dual]
  exact min?_perm (α := αᵒᵈ) h

theorem max?_flatMap (f : β → List α) (l : List β) :
    (l.flatMap f).max? = (l.filterMap fun b => (f b).max?).max? := by
  simp only [max?_eq_min?_dual]
  exact min?_flatMap (α := αᵒᵈ) f l

end Extremes

namespace Summary

theorem value_least (a b : Decimal) : (least a b).value = min a.value b.value := by
  rw [least]
  split
  · rename_i h
    exact (min_eq_right (Decimal.compareValue_eq_lt_iff.1 h).le).symm
  · rename_i h
    exact (min_eq_left (not_lt.1 (mt Decimal.compareValue_eq_lt_iff.2 h))).symm

theorem value_greatest (a b : Decimal) : (greatest a b).value = max a.value b.value := by
  rw [greatest]
  split
  · rename_i h
    exact (max_eq_right (Decimal.compareValue_eq_lt_iff.1 h).le).symm
  · rename_i h
    exact (max_eq_left (not_lt.1 (mt Decimal.compareValue_eq_lt_iff.2 h))).symm

/-- The running totals of values taken in one after another. -/
def ofValues (values : List Decimal) : Summary := values.foldl insert empty

theorem foldl_insert?_map {α : Type} (f : α → Option Decimal) (l : List α) :
    ∀ s : Summary, (l.map f).foldl insert? s = (l.filterMap f).foldl insert s := by
  induction l with
  | nil => exact fun _ => rfl
  | cons a l ih =>
    intro s
    rw [List.map_cons, List.foldl_cons, List.filterMap_cons, ih]
    cases f a <;> rfl

theorem count_foldl_insert (values : List Decimal) :
    ∀ s : Summary, (values.foldl insert s).count = s.count + values.length := by
  induction values with
  | nil => exact fun _ => rfl
  | cons d values ih =>
    intro s
    rw [List.foldl_cons, ih, List.length_cons]
    simp only [insert]
    omega

theorem count_ofValues (values : List Decimal) : (ofValues values).count = values.length :=
  (count_foldl_insert values empty).trans (Nat.zero_add _)

/-- An extreme value is kept up by choosing between the one so far and each next value. -/
theorem value_extreme_foldl_insert {extreme? : Summary → Option Decimal}
    {choose : Decimal → Decimal → Decimal} {op : ℚ → ℚ → ℚ}
    (hinsert : ∀ s d, extreme? (s.insert d) = some ((extreme? s).elim d (choose · d)))
    (hchoose : ∀ a b, (choose a b).value = op a.value b.value) (values : List Decimal) :
    ∀ {s : Summary} {m : Decimal}, extreme? s = some m →
      (extreme? (values.foldl insert s)).map Decimal.value
        = some ((values.map Decimal.value).foldl op m.value) := by
  induction values with
  | nil => exact fun h => by rw [List.foldl_nil, h]; rfl
  | cons d values ih =>
    intro s m h
    have hnext : extreme? (s.insert d) = some (choose m d) := by rw [hinsert, h]; rfl
    rw [List.foldl_cons, ih hnext, List.map_cons, List.foldl_cons, hchoose]

theorem minimum?_ofValues : ∀ values : List Decimal,
    (ofValues values).minimum?.map Decimal.value = (values.map Decimal.value).min?
  | [] => rfl
  | _ :: values => value_extreme_foldl_insert (fun _ _ => rfl) value_least values rfl

theorem maximum?_ofValues : ∀ values : List Decimal,
    (ofValues values).maximum?.map Decimal.value = (values.map Decimal.value).max?
  | [] => rfl
  | _ :: values => value_extreme_foldl_insert (fun _ _ => rfl) value_greatest values rfl

section Sums

/-- The magnitudes of values taken together. -/
def magnitude (values : List Decimal) : ℚ := (values.map fun d => |d.value|).sum

/-- The exact squares of values taken together. -/
def squares (values : List Decimal) : ℚ := (values.map fun d => d.value ^ 2).sum

theorem magnitude_nonneg (values : List Decimal) : 0 ≤ magnitude values :=
  List.sum_nonneg (List.forall_mem_map.2 fun _ _ => abs_nonneg _)

theorem abs_value_le_magnitude {values : List Decimal} {d : Decimal} (h : d ∈ values) :
    |d.value| ≤ magnitude values :=
  List.single_le_sum (List.forall_mem_map.2 fun _ _ => abs_nonneg _) _ (List.mem_map_of_mem h)

theorem squares_le_magnitude_sq (values : List Decimal) :
    squares values ≤ magnitude values ^ 2 := by
  induction values with
  | nil => simp [squares, magnitude]
  | cons d values ih =>
    have hrest := magnitude_nonneg values
    have hcross : 0 ≤ |d.value| * magnitude values := mul_nonneg (abs_nonneg _) hrest
    calc squares (d :: values) = |d.value| ^ 2 + squares values := by
          rw [squares, List.map_cons, List.sum_cons, sq_abs]
          rfl
      _ ≤ |d.value| ^ 2 + magnitude values ^ 2 := by gcongr
      _ ≤ (|d.value| + magnitude values) ^ 2 := by linarith [add_sq |d.value| (magnitude values)]
      _ = magnitude (d :: values) ^ 2 := by rw [magnitude, magnitude, List.map_cons, List.sum_cons]

/-- Sums are exact as long as the magnitudes fit with the places of every term. -/
theorem value_foldl_saturatingAdd {places : Nat} (values : List Decimal) : ∀ {start : Decimal},
    (∀ d ∈ values, d.scale ≤ places) → start.scale ≤ places →
    |start.value| + magnitude values < 2 ^ 96 / 10 ^ places →
      (values.foldl Decimal.saturatingAdd start).value
          = start.value + (values.map Decimal.value).sum
        ∧ (values.foldl Decimal.saturatingAdd start).scale ≤ places := by
  induction values with
  | nil => exact fun _ hstart _ => ⟨by simp, hstart⟩
  | cons d values ih =>
    intro start hscale hstart hfits
    obtain ⟨hd, hvalues⟩ := List.forall_mem_cons.1 hscale
    have hrest := magnitude_nonneg values
    have htriangle : |start.value + d.value| ≤ |start.value| + |d.value| := abs_add_le _ _
    rw [magnitude, List.map_cons, List.sum_cons] at hfits
    change |start.value| + (|d.value| + magnitude values) < _ at hfits
    obtain ⟨hvalue, hplaces⟩ := Decimal.value_saturatingAdd hstart hd (by linarith)
    obtain ⟨hsum, hscale⟩ := ih hvalues hplaces (by rw [hvalue]; linarith)
    rw [List.foldl_cons, List.map_cons, List.sum_cons]
    exact ⟨by rw [hsum, hvalue, add_assoc], hscale⟩

theorem sum_foldl_insert (values : List Decimal) :
    ∀ s : Summary, (values.foldl insert s).sum = values.foldl .saturatingAdd s.sum := by
  induction values with
  | nil => exact fun _ => rfl
  | cons d values ih => exact fun s => ih (s.insert d)

theorem sumOfSquares_foldl_insert (values : List Decimal) : ∀ s : Summary,
    (values.foldl insert s).sumOfSquares
      = (values.map fun d => d.saturatingMul d).foldl .saturatingAdd s.sumOfSquares := by
  induction values with
  | nil => exact fun _ => rfl
  | cons d values ih => exact fun s => ih (s.insert d)

variable {values : List Decimal} {places : Nat} (hscale : ∀ d ∈ values, d.scale ≤ places)

include hscale in
theorem value_foldl_zero (hfits : magnitude values < 2 ^ 96 / 10 ^ places) :
    (values.foldl Decimal.saturatingAdd .zero).value = (values.map Decimal.value).sum
      ∧ (values.foldl Decimal.saturatingAdd .zero).scale ≤ places := by
  have hzero : Decimal.zero.value = 0 := Decimal.value_of_isZero rfl
  have hscale_zero : Decimal.zero.scale ≤ places := Nat.zero_le _
  have h := value_foldl_saturatingAdd values hscale hscale_zero
    (by rwa [hzero, abs_zero, zero_add])
  rwa [hzero, zero_add] at h

include hscale in
theorem sum_ofValues (hfits : magnitude values < 2 ^ 96 / 10 ^ places) :
    (ofValues values).sum.value = (values.map Decimal.value).sum
      ∧ (ofValues values).sum.scale ≤ places := by
  rw [ofValues, sum_foldl_insert]
  exact value_foldl_zero hscale hfits

include hscale in
/-- Values of `places` places sum up exactly as long as their magnitudes fit with these places. -/
theorem value_sum_ofValues (hfits : magnitude values < 2 ^ 96 / 10 ^ places) :
    (ofValues values).sum.value = (values.map Decimal.value).sum :=
  (sum_ofValues hscale hfits).1

include hscale in
/-- Squares have twice the places, and they sum up exactly if the square of all fits with these. -/
theorem sumOfSquares_ofValues (hplaces : places + places ≤ Decimal.maxScale)
    (hfits : magnitude values ^ 2 < 2 ^ 96 / 10 ^ (places + places)) :
    (ofValues values).sumOfSquares.value = squares values
      ∧ (ofValues values).sumOfSquares.scale ≤ places + places := by
  have hsquare : ∀ d ∈ values, (d.saturatingMul d).value = d.value ^ 2
      ∧ (d.saturatingMul d).scale ≤ places + places := by
    intro d hd
    have hle : |d.value| ^ 2 ≤ magnitude values ^ 2 := by
      gcongr
      exact abs_value_le_magnitude hd
    rw [pow_two]
    refine Decimal.value_saturatingMul (hscale d hd) (hscale d hd) hplaces ?_
    rw [abs_mul, ← pow_two]
    exact hle.trans_lt hfits
  have hsum : ((values.map fun d => d.saturatingMul d).map Decimal.value).sum = squares values := by
    rw [List.map_map, squares]
    exact congrArg _ (List.map_congr_left fun d hd => (hsquare d hd).1)
  have hmagnitude : magnitude (values.map fun d => d.saturatingMul d) = squares values := by
    rw [magnitude, List.map_map, squares]
    refine congrArg _ (List.map_congr_left fun d hd => ?_)
    rw [Function.comp_apply, (hsquare d hd).1, abs_of_nonneg (sq_nonneg _)]
  rw [ofValues, sumOfSquares_foldl_insert, ← hsum]
  refine value_foldl_zero (List.forall_mem_map.2 fun d hd => (hsquare d hd).2) ?_
  rw [hmagnitude]
  exact (squares_le_magnitude_sq values).trans_lt hfits

end Sums

end Summary

end Reporting

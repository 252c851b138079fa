import Reporting.Proofs.RollUp

/-!
# Totals and the order of rows

Rows fall into the same groups in whatever order they are fed, and a group takes in the same values
(`Totals.fed_perm`). Only an inexact sum depends on the order of its values.
-/

namespace Reporting

open GroupTotals (added contributions)
open RankTotals (keyOf keysOf members)

namespace Summary

/-- Totals of values that count the same and stand for the same extremes. Sums do as long as the
values fit. -/
structure SameTotals (values : List Decimal) (s t : Summary) : Prop where
  count : s.count = t.count
  minimum? : s.minimum?.map Decimal.value = t.minimum?.map Decimal.value
  maximum? : s.maximum?.map Decimal.value = t.maximum?.map Decimal.value
  sum : ∀ places, (∀ d ∈ values, d.scale ≤ places) → magnitude values < 2 ^ 96 / 10 ^ places →
    s.sum.value = t.sum.value

theorem magnitude_perm {values values' : List Decimal} (h : values.Perm values') :
    magnitude values = magnitude values' :=
  (h.map fun d : Decimal => |d.value|).sum_eq

theorem sameTotals_of_perm {values values' : List Decimal} (h : values.Perm values') :
    SameTotals values (ofValues values) (ofValues values') where
  count := by rw [count_ofValues, count_ofValues, h.length_eq]
  minimum? := by rw [minimum?_ofValues, minimum?_ofValues, min?_perm (h.map _)]
  maximum? := by rw [maximum?_ofValues, maximum?_ofValues, max?_perm (h.map _)]
  sum places hscale hfits := by
    have hscale' : ∀ d ∈ values', d.scale ≤ places := fun d hd => hscale d (h.mem_iff.2 hd)
    have hfits' : magnitude values' < 2 ^ 96 / 10 ^ places := magnitude_perm h ▸ hfits
    rw [value_sum_ofValues hscale hfits, value_sum_ofValues hscale' hfits', (h.map _).sum_eq]

end Summary

section Rows

variable {axes summarized : List Int} {rows rows' : List Row} (h : rows.Perm rows')

include h in
theorem GroupTotals.added_perm (item : Int) :
    (added summarized item rows).Perm (added summarized item rows') :=
  (h.filterMap _).flatMap_right _

include h in
theorem RankTotals.members_perm (key : GroupKey) :
    (members axes rows key).Perm (members axes rows' key) :=
  h.filter _

include h in
theorem RankTotals.keysOf_perm : keysOf axes rows = keysOf axes rows' := by
  rw [keysOf, keysOf, List.toFinset_eq_of_perm _ _ (h.map _)]

end Rows

namespace Totals

theorem keys_of_length_le {axes summarized : List Int} {rows : List Row} {rank : Nat}
    (h : axes.length ≤ rank) : (fed axes summarized rows).keys rank = [] := by
  rw [keys, ranks_fed, List.getElem?_eq_none (by simpa using h)]
  rfl

/-- Whatever the order in which rows are fed, the groups of every rank are the same, and so are
their totals. -/
theorem fed_perm {axes summarized : List Int} {rows rows' : List Row} (h : rows.Perm rows') :
    (∀ rank, (fed axes summarized rows).keys rank = (fed axes summarized rows').keys rank)
      ∧ ∀ rank key item, Option.Rel
        (Summary.SameTotals (added summarized item (members (axes.take (rank + 1)) rows key)))
        ((fed axes summarized rows).summary? rank key item)
        ((fed axes summarized rows').summary? rank key item) := by
  constructor
  · intro rank
    rcases Nat.lt_or_ge rank axes.length with hrank | hrank
    · rw [keys_fed hrank, keys_fed hrank, RankTotals.keysOf_perm h]
    · rw [keys_of_length_le hrank, keys_of_length_le hrank]
  · intro rank key item
    have hgroup : (item ∈ summarized ∧ rank < axes.length
          ∧ ∃ r ∈ rows, keyOf (axes.take (rank + 1)) r = key)
        ↔ item ∈ summarized ∧ rank < axes.length
          ∧ ∃ r ∈ rows', keyOf (axes.take (rank + 1)) r = key := by
      simp only [h.mem_iff]
    rw [summary?_fed, summary?_fed]
    split
    · rename_i hrows
      rw [if_pos (hgroup.1 hrows), GroupTotals.totalOf_eq_ofValues_added,
        GroupTotals.totalOf_eq_ofValues_added]
      exact .some (Summary.sameTotals_of_perm
        (GroupTotals.added_perm (RankTotals.members_perm h key) item))
    · rename_i hrows
      rw [if_neg (mt hgroup.2 hrows)]
      exact .none

/-- Two amounts in one region that are the same but for their places. -/
def soldAlike : List Row :=
  [soldBy "EU" "Alice" ⟨false, 150, 2, by decide, by decide⟩, soldBy "US" "Carl" (.ofInt 40),
    soldBy "EU" "Bob" ⟨false, 15, 1, by decide, by decide⟩]

/-- The least amount in the other order has other places and the same value. -/
theorem fed_perm_soldAlike : soldAlike.Perm soldAlike.reverse
    ∧ ∃ s t, (fed [1, 2] [3] soldAlike).summary? 0 ["EU"] 3 = some s
      ∧ (fed [1, 2] [3] soldAlike.reverse).summary? 0 ["EU"] 3 = some t
      ∧ s.minimum? ≠ t.minimum?
      ∧ s.count = t.count
      ∧ s.minimum?.map Decimal.value = t.minimum?.map Decimal.value
      ∧ s.sum.value = t.sum.value := by
  have hperm : soldAlike.Perm soldAlike.reverse := (List.reverse_perm soldAlike).symm
  have hrel := (@fed_perm [1, 2] [3] _ _ hperm).2 0 ["EU"] 3
  obtain ⟨s, hs⟩ := Option.isSome_iff_exists.1
    (show ((fed [1, 2] [3] soldAlike).summary? 0 ["EU"] 3).isSome by decide +kernel)
  obtain ⟨t, ht⟩ := Option.isSome_iff_exists.1
    (show ((fed [1, 2] [3] soldAlike.reverse).summary? 0 ["EU"] 3).isSome by decide +kernel)
  have hleast : ((fed [1, 2] [3] soldAlike).summary? 0 ["EU"] 3).bind (·.minimum?)
      ≠ ((fed [1, 2] [3] soldAlike.reverse).summary? 0 ["EU"] 3).bind (·.minimum?) := by
    decide +kernel
  have hadded : added [3] 3 (members [1] soldAlike ["EU"])
      = [⟨false, 150, 2, by decide, by decide⟩, ⟨false, 15, 1, by decide, by decide⟩] := by
    decide +kernel
  rw [hs, ht] at hrel hleast
  obtain ⟨hsame⟩ := hrel
  refine ⟨hperm, s, t, hs, ht, hleast, hsame.count, hsame.minimum?, hsame.sum 2 ?_ ?_⟩
  · exact hadded ▸ by decide
  · exact hadded ▸ by decide +kernel

end Totals

end Reporting

import Reporting.Proofs.Assembly

/-!
# The labels of totals

A total shows the label of its group on every item that the group is keyed by, as long as the item
has no totals of its own. A summarized item shows its sum in the place of the label
(`labels_forDefinition`).
-/

namespace Reporting

open RankTotals (keyOf members keysOf)
open GroupTotals (totalOf)

namespace Totals

variable {axes summarized : List Int} {rows : List Row}

/-- What a total shows on the items its group is keyed by, outermost first. -/
structure IsLabelled (axes summarized : List Int) (rows : List Row) (rank : Nat) (key : GroupKey)
    (total : Row) : Prop where
  level : total.level = rank
  isSummary : total.isSummary
  label : ∀ j ≤ rank, ∀ item, axes[j]? = some item → ∃ label, key[j]? = some label
    ∧ total.sortText item
      = if item ∈ summarized then
          (Cell.ofSummary (totalOf summarized item (members (axes.take (rank + 1)) rows key))).display
        else label

theorem getElem?_keyOf (r : Row) {j rank : Nat} (hj : j ≤ rank) {item : Int}
    (hitem : axes[j]? = some item) :
    (keyOf (axes.take (rank + 1)) r)[j]? = some (r.sortText item) := by
  rw [keyOf, List.getElem?_map, List.getElem?_take_of_lt (Nat.lt_succ_of_le hj), hitem,
    Option.map_some]

/-- A total shows an item that it is keyed by as the first row of its group does. -/
theorem sortText_of_isTotal {rank : Nat} {key : GroupKey} {total first : Row} {rest : List Row}
    (h : IsTotal axes summarized rank key rows total)
    (hfirst : members (axes.take (rank + 1)) rows key = first :: rest) {item : Int}
    (hitem : item ∈ axes.take (rank + 1)) :
    total.sortText item
      = if item ∈ summarized then (Cell.ofSummary (totalOf summarized item (first :: rest))).display
        else first.sortText item := by
  rw [Row.sortText, h.cell? item, hfirst, if_pos hitem]
  split <;> rfl

theorem isLabelled_toRow {rank : Nat} {key : GroupKey} {g : GroupTotals}
    (h : (RankTotals.fed (axes.take (rank + 1)) summarized rows).groups.get? key = some g) :
    IsLabelled axes summarized rows rank key (g.toRow rank) := by
  have htotal := isTotal_toRow h
  refine ⟨rfl, rfl, fun j hj item hitem => ?_⟩
  rw [RankTotals.get?_fed] at h
  rcases hm : members (axes.take (rank + 1)) rows key with _ | ⟨first, rest⟩
  · simp [hm] at h
  · have hfirst : first ∈ members (axes.take (rank + 1)) rows key := by simp [hm]
    have hkey : keyOf (axes.take (rank + 1)) first = key :=
      of_decide_eq_true (List.mem_filter.1 hfirst).2
    have hmem : item ∈ axes.take (rank + 1) :=
      List.mem_of_getElem? ((List.getElem?_take_of_lt (Nat.lt_succ_of_le hj)).trans hitem)
    refine ⟨first.sortText item, hkey ▸ getElem?_keyOf first hj hitem, ?_⟩
    exact sortText_of_isTotal htotal hm hmem

/-- The totals of a report are those of its groups, rank by rank and in the order of their keys,
each with the label of its group on the items that have no totals. -/
theorem labels_forDefinition (d : Definition) (rows : List Row) :
    List.Forall₂ (fun group total => IsLabelled d.axes d.summarized rows group.1 group.2 total)
      ((List.range d.axes.length).flatMap fun rank =>
        (keysOf (d.axes.take (rank + 1)) rows).map (rank, ·))
      (rows.foldl addRow (forDefinition d)).rows :=
  forall₂_rows fun _ _ _ => isLabelled_toRow

section Regions

/-- Sales that are grouped by region, with the regions counted. -/
def byCountedRegion : Definition where
  id := 1
  name := "Regions"
  tableName := "Sales"
  items := [{
    id := 1
    name := "Region"
    columnName := some "Region"
    displayType := .string
    groupBy := true
    counted := true }]

def european : Row where
  cells := .ofList [(1, { value := .text "EU" })]
  level := 1

/-- The total of a region that is counted shows the length of its label. -/
theorem labels_lost :
    byCountedRegion.axes[0]? = some 1 ∧ keyOf (byCountedRegion.axes.take 1) european = ["EU"]
      ∧ ([european].foldl addRow (forDefinition byCountedRegion)).rows.map
          (fun total => (total.level, total.sortText 1)) = [(0, "2")] := by
  refine ⟨by decide +kernel, by decide +kernel, by decide +kernel⟩

end Regions

end Totals

end Reporting

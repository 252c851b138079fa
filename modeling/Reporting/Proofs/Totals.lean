import Mathlib.Data.Finset.Sort
import Mathlib.Data.List.Lex
import Mathlib.Data.String.Basic
import Reporting.Proofs.SortedMap
import Reporting.Rows.Totals

/-!
# What group totals hold

Every row adds its value of a summarized item to its group of each rank, and to no other
(`summary?_fed`). The groups of a rank are those that rows have fallen into, and they are listed in
the order of their keys (`rows_fed`).
-/

namespace Reporting

open RankTotals (keyOf)

namespace GroupTotals

/-- The totals of an item over rows, each row taken in as often as the item is summarized. -/
def totalOf (summarized : List Int) (item : Int) (rows : List Row) : Summary :=
  (rows.flatMap fun r => List.replicate (summarized.count item) (contribution r item)).foldl
    Summary.insert? .empty

theorem get?_foldl_alter (f : Int → Option Decimal) (item : Int) :
    ∀ (summarized : List Int) (m : SortedMap Int Summary),
      (summarized.foldl (fun m i => m.alter i fun s? => (s?.getD .empty).insert? (f i)) m).get? item
        = if item ∈ summarized then
            some ((List.replicate (summarized.count item) (f item)).foldl Summary.insert?
              ((m.get? item).getD .empty))
          else m.get? item
  | [], m => by simp
  | i :: summarized, m => by
    rw [List.foldl_cons, get?_foldl_alter f item summarized, SortedMap.get?_alter]
    by_cases hi : item = i
    · subst hi
      by_cases hs : item ∈ summarized
      · simp [hs, List.replicate_succ]
      · simp [hs, List.count_eq_zero_of_not_mem hs]
    · simp [hi, Ne.symm hi]

theorem get?_addRow (summarized : List Int) (r : Row) (g : GroupTotals) (item : Int) :
    (g.addRow summarized r).summaries.get? item
      = if item ∈ summarized then
          some ((List.replicate (summarized.count item) (contribution r item)).foldl
            Summary.insert? ((g.summaries.get? item).getD .empty))
        else g.summaries.get? item :=
  get?_foldl_alter (contribution r) item summarized g.summaries

/-- A group opened by its first row, with all of its rows added. -/
def ofRows (axes summarized : List Int) (first : Row) (rest : List Row) : GroupTotals :=
  (first :: rest).foldl (fun g r => g.addRow summarized r) (.opened axes first)

theorem keyCells_foldl_addRow (summarized : List Int) :
    ∀ (rows : List Row) (g : GroupTotals),
      (rows.foldl (fun g r => g.addRow summarized r) g).keyCells = g.keyCells
  | [], _ => rfl
  | _ :: rows, g => by rw [List.foldl_cons, keyCells_foldl_addRow summarized rows]; rfl

theorem get?_foldl_addRow {summarized : List Int} {item : Int} (hi : item ∈ summarized) :
    ∀ (rows : List Row) (g : GroupTotals) (s : Summary), g.summaries.get? item = some s →
      (rows.foldl (fun g r => g.addRow summarized r) g).summaries.get? item
        = some ((rows.flatMap fun r =>
            List.replicate (summarized.count item) (contribution r item)).foldl Summary.insert? s)
  | [], _, _, h => by simpa using h
  | r :: rows, g, s, h => by
    rw [List.foldl_cons, List.flatMap_cons, List.foldl_append]
    apply get?_foldl_addRow hi rows
    rw [get?_addRow, if_pos hi, h, Option.getD_some]

theorem get?_foldl_addRow_of_not_mem {summarized : List Int} {item : Int}
    (hi : item ∉ summarized) :
    ∀ (rows : List Row) (g : GroupTotals),
      (rows.foldl (fun g r => g.addRow summarized r) g).summaries.get? item
        = g.summaries.get? item
  | [], _ => rfl
  | r :: rows, g => by
    rw [List.foldl_cons, get?_foldl_addRow_of_not_mem hi rows, get?_addRow, if_neg hi]

theorem get?_ofRows (axes summarized : List Int) (first : Row) (rest : List Row) (item : Int) :
    (ofRows axes summarized first rest).summaries.get? item
      = if item ∈ summarized then some (totalOf summarized item (first :: rest)) else none := by
  unfold ofRows
  split
  · rename_i hi
    rw [List.foldl_cons, totalOf, List.flatMap_cons, List.foldl_append]
    apply get?_foldl_addRow hi rest
    rw [get?_addRow, if_pos hi]
    rfl
  · rename_i hi
    rw [get?_foldl_addRow_of_not_mem hi]
    rfl

theorem keyCells_ofRows (axes summarized : List Int) (first : Row) (rest : List Row) :
    (ofRows axes summarized first rest).keyCells = (opened axes first).keyCells :=
  keyCells_foldl_addRow summarized _ _

theorem get?_ofList_opened (axes : List Int) (r : Row) (item : Int) :
    (SortedMap.ofList (opened axes r).keyCells).get? item
      = if item ∈ axes then r.cell? item else none := by
  have hcell : ∀ e ∈ (opened axes r).keyCells, e.1 ∈ axes ∧ r.cell? e.1 = some e.2 := by
    intro e he
    obtain ⟨i, hi, hc⟩ := List.mem_filterMap.1 he
    obtain ⟨c, hcell, rfl⟩ := Option.map_eq_some_iff.1 hc
    exact ⟨hi, hcell⟩
  by_cases h : item ∈ axes ∧ (r.cell? item).isSome
  · obtain ⟨hi, hs⟩ := h
    obtain ⟨c, hc⟩ := Option.isSome_iff_exists.1 hs
    have hmem : (item, c) ∈ (opened axes r).keyCells :=
      List.mem_filterMap.2 ⟨item, hi, by simp [hc]⟩
    obtain ⟨e, he, hk, hget⟩ :=
      SortedMap.exists_get?_foldl_insert (f := id) ⟨(item, c), hmem, rfl⟩ .empty
    have hce := (hcell e he).2
    simp only [id] at hk hget
    rw [if_pos hi, ← hk, hce, hk]
    exact hget
  · have hnone : (if item ∈ axes then r.cell? item else none) = none := by
      split
      · rename_i hi
        simpa [hi] using h
      · rfl
    rw [hnone]
    refine (SortedMap.get?_foldl_insert_of_not_mem (f := id) (fun e he hk => ?_) _).trans
      (SortedMap.get?_empty item)
    obtain ⟨hi, hc⟩ := hcell e he
    simp only [id] at hk
    rw [hk] at hi hc
    exact h ⟨hi, by simp [hc]⟩

/-- The row of a group shows the sum of a summarized item and its first row's cell of an item that
it is keyed by. -/
theorem cell?_toRow (level : Int) (g : GroupTotals) (item : Int) :
    (g.toRow level).cell? item
      = ((g.summaries.get? item).map Cell.ofSummary).or
          ((SortedMap.ofList g.keyCells).get? item) := by
  unfold toRow Row.cell?
  rcases hs : g.summaries.get? item with _ | s
  · rw [Option.map_none, Option.none_or]
    refine SortedMap.get?_foldl_insert_of_not_mem
      (f := fun e : Int × Summary => (e.1, Cell.ofSummary e.2)) (fun e he hk => ?_) _
    have := SortedMap.get?_eq_some_iff.2 (show (e.1, e.2) ∈ g.summaries.entries from he)
    simp only at hk
    rw [hk, hs] at this
    simp at this
  · obtain ⟨e, he, hk, hget⟩ := SortedMap.exists_get?_foldl_insert
      (f := fun e : Int × Summary => (e.1, Cell.ofSummary e.2))
      ⟨(item, s), SortedMap.get?_eq_some_iff.1 hs, rfl⟩ (.ofList g.keyCells)
    have := SortedMap.get?_eq_some_iff.2 (show (e.1, e.2) ∈ g.summaries.entries from he)
    simp only at hk
    rw [hk, hs] at this
    rw [Option.map_some, Option.some_or, Option.some.inj this]
    exact hget

end GroupTotals

namespace RankTotals

/-- The rows of a group. -/
def members (axes : List Int) (rows : List Row) (key : GroupKey) : List Row :=
  rows.filter (keyOf axes · = key)

theorem get?_foldl_addRow (summarized : List Int) (key : GroupKey) :
    ∀ (rows : List Row) (t : RankTotals),
      (rows.foldl (fun t r => t.addRow summarized r) t).groups.get? key
        = (members t.axes rows key).foldl
            (fun g? r => some ((g?.getD (.opened t.axes r)).addRow summarized r))
            (t.groups.get? key)
  | [], _ => rfl
  | r :: rows, t => by
    rw [List.foldl_cons, get?_foldl_addRow summarized key rows]
    have hget : (t.addRow summarized r).groups.get? key
        = if key = keyOf t.axes r then
            some (((t.groups.get? (keyOf t.axes r)).getD (.opened t.axes r)).addRow summarized r)
          else t.groups.get? key :=
      SortedMap.get?_alter _ _ _ _
    have haxes : (t.addRow summarized r).axes = t.axes := rfl
    rw [hget, haxes]
    by_cases hk : keyOf t.axes r = key
    · simp [members, hk]
    · simp [members, hk, Ne.symm hk]

theorem foldl_addRow_some (axes summarized : List Int) :
    ∀ (rows : List Row) (g : GroupTotals),
      rows.foldl (fun g? r => some ((g?.getD (.opened axes r)).addRow summarized r)) (some g)
        = some (rows.foldl (fun g r => g.addRow summarized r) g)
  | [], _ => rfl
  | _ :: rows, g => by
    rw [List.foldl_cons, List.foldl_cons, Option.getD_some, foldl_addRow_some axes summarized rows]

/-- The groups of one rank of rows fed one after another. -/
def fed (axes summarized : List Int) (rows : List Row) : RankTotals :=
  rows.foldl (fun t r => t.addRow summarized r) { axes := axes }

theorem get?_fed (axes summarized : List Int) (rows : List Row) (key : GroupKey) :
    (fed axes summarized rows).groups.get? key
      = match members axes rows key with
        | [] => none
        | first :: rest => some (.ofRows axes summarized first rest) := by
  rw [fed, get?_foldl_addRow]
  rcases members axes rows key with _ | ⟨first, rest⟩
  · rfl
  · rw [List.foldl_cons, foldl_addRow_some]
    rfl

theorem members_eq_nil_iff {axes : List Int} {rows : List Row} {key : GroupKey} :
    members axes rows key = [] ↔ ¬ ∃ r ∈ rows, keyOf axes r = key := by
  simp [members, List.filter_eq_nil_iff]

/-- The keys of a rank that rows have, each once and in lexicographic order. -/
def keysOf (axes : List Int) (rows : List Row) : List GroupKey :=
  (rows.map (keyOf axes)).toFinset.sort

theorem lt_of_compare_eq_lt : ∀ {a b : GroupKey}, compare a b = .lt → a < b
  | [], [], h => by simp [Std.ReflCmp.compare_self] at h
  | [], _ :: _, _ => List.nil_lt_cons _ _
  | _ :: _, [], h => by simp [List.compare_cons_nil] at h
  | x :: xs, y :: ys, h => by
    rw [List.compare_cons_cons, Ordering.then_eq_lt] at h
    rw [List.cons_lt_cons_iff]
    rcases h with h | ⟨hxy, h⟩
    · exact .inl (compare_lt_iff_lt.1 h)
    · exact .inr ⟨Std.LawfulEqCmp.eq_of_compare hxy, lt_of_compare_eq_lt h⟩

theorem keys_fed (axes summarized : List Int) (rows : List Row) :
    (fed axes summarized rows).groups.keys = keysOf axes rows := by
  have hlt : (fed axes summarized rows).groups.keys.Pairwise (· < ·) :=
    (SortedMap.pairwise_keys _).imp lt_of_compare_eq_lt
  have hset : (fed axes summarized rows).groups.keys.toFinset
      = (rows.map (keyOf axes)).toFinset := by
    ext key
    rw [List.mem_toFinset, SortedMap.mem_keys_iff, get?_fed]
    rcases h : members axes rows key with _ | ⟨first, rest⟩
    · simpa using members_eq_nil_iff.1 h
    · have : members axes rows key ≠ [] := by simp [h]
      rw [Ne, members_eq_nil_iff, not_not] at this
      simpa using this
  rw [keysOf, ← hset]
  exact ((List.toFinset_sort (· ≤ ·) hlt.nodup).2 (hlt.imp le_of_lt)).symm

end RankTotals

namespace Totals

open RankTotals (members keysOf)
open GroupTotals (totalOf)

/-- The totals of rows fed one after another. -/
def fed (axes summarized : List Int) (rows : List Row) : Totals :=
  rows.foldl addRow (start axes summarized)

theorem foldl_addRow_eq :
    ∀ (rows : List Row) (t : Totals),
      rows.foldl addRow t
        = { t with
            ranks := t.ranks.map fun rank =>
              rows.foldl (fun rank r => rank.addRow t.summarized r) rank }
  | [], t => by simp
  | r :: rows, t => by
    rw [List.foldl_cons, foldl_addRow_eq rows]
    simp [addRow]

theorem axes_fed (axes summarized : List Int) (rows : List Row) :
    (fed axes summarized rows).axes = axes := by
  rw [fed, foldl_addRow_eq]
  rfl

theorem ranks_fed (axes summarized : List Int) (rows : List Row) :
    (fed axes summarized rows).ranks
      = (List.range axes.length).map fun rank =>
          RankTotals.fed (axes.take (rank + 1)) summarized rows := by
  rw [fed, foldl_addRow_eq]
  simp only [start, List.map_map]
  rfl

theorem summary?_fed (axes summarized : List Int) (rows : List Row) (rank : Nat) (key : GroupKey)
    (item : Int) :
    (fed axes summarized rows).summary? rank key item
      = if item ∈ summarized ∧ rank < axes.length
            ∧ ∃ r ∈ rows, keyOf (axes.take (rank + 1)) r = key then
          some (totalOf summarized item (members (axes.take (rank + 1)) rows key))
        else none := by
  unfold summary?
  rw [ranks_fed]
  by_cases hr : rank < axes.length
  · rw [List.getElem?_map, List.getElem?_range hr]
    simp only [Option.map_some, Option.bind_eq_bind, Option.bind_some, RankTotals.get?_fed]
    rcases h : members (axes.take (rank + 1)) rows key with _ | ⟨first, rest⟩
    · have := RankTotals.members_eq_nil_iff.1 h
      simp [this]
    · have hne : members (axes.take (rank + 1)) rows key ≠ [] := by simp [h]
      rw [Ne, RankTotals.members_eq_nil_iff, not_not] at hne
      simp [hne, hr, GroupTotals.get?_ofRows]
  · rw [List.getElem?_eq_none (by simpa using hr)]
    simp [hr]

/-- The row of totals of a group: a summarized item shows its sum, and any other item that the rank
is keyed by shows the cell of the group's first row. -/
structure IsTotal (axes summarized : List Int) (rank : Nat) (key : GroupKey) (rows : List Row)
    (r : Row) : Prop where
  level : r.level = rank
  isSummary : r.isSummary
  cell? : ∀ item, r.cell? item
    = if item ∈ summarized then
        some (.ofSummary (totalOf summarized item (members (axes.take (rank + 1)) rows key)))
      else if item ∈ axes.take (rank + 1) then
        (members (axes.take (rank + 1)) rows key).head?.bind (·.cell? item)
      else none

theorem isTotal_toRow {axes summarized : List Int} {rank : Nat} {key : GroupKey} {rows : List Row}
    {g : GroupTotals}
    (h : (RankTotals.fed (axes.take (rank + 1)) summarized rows).groups.get? key = some g) :
    IsTotal axes summarized rank key rows (g.toRow rank) := by
  rw [RankTotals.get?_fed] at h
  rcases hm : members (axes.take (rank + 1)) rows key with _ | ⟨first, rest⟩
  · simp [hm] at h
  · rw [hm] at h
    obtain rfl := Option.some.inj h
    refine ⟨rfl, rfl, fun item => ?_⟩
    rw [GroupTotals.cell?_toRow, GroupTotals.get?_ofRows, GroupTotals.keyCells_ofRows,
      GroupTotals.get?_ofList_opened, hm]
    by_cases hs : item ∈ summarized
    · simp [hs]
    · simp [hs]

theorem rows_fed (axes summarized : List Int) (rows : List Row) :
    (fed axes summarized rows).rows
      = (List.range axes.length).flatMap fun rank =>
          (RankTotals.fed (axes.take (rank + 1)) summarized rows).groups.values.map
            (GroupTotals.toRow rank) := by
  have hrange : (List.range axes.length).zipIdx
      = (List.range axes.length).map fun rank => (rank, rank) := by
    rw [List.zipIdx_eq_zip_range', ← List.range_eq_range', List.length_range, List.zip,
      List.zipWith_self]
  unfold Totals.rows
  rw [ranks_fed, List.zipIdx_map, hrange, List.flatMap_map, List.flatMap_map]
  rfl

/-- What holds of the row of each group holds along the list of rows, rank by rank and in the order
of the keys. -/
theorem forall₂_rows {axes summarized : List Int} {rows : List Row}
    {R : Nat × GroupKey → Row → Prop}
    (h : ∀ rank key g,
      (RankTotals.fed (axes.take (rank + 1)) summarized rows).groups.get? key = some g →
        R (rank, key) (g.toRow rank)) :
    List.Forall₂ R
      ((List.range axes.length).flatMap fun rank =>
        (keysOf (axes.take (rank + 1)) rows).map (rank, ·))
      (fed axes summarized rows).rows := by
  have hrank : ∀ rank, List.Forall₂ R ((keysOf (axes.take (rank + 1)) rows).map (rank, ·))
      ((RankTotals.fed (axes.take (rank + 1)) summarized rows).groups.values.map
        (GroupTotals.toRow rank)) := by
    intro rank
    rw [← RankTotals.keys_fed _ summarized, SortedMap.keys, SortedMap.values]
    simp only [List.forall₂_map_left_iff, List.forall₂_map_right_iff, List.forall₂_same]
    exact fun e he => h rank e.1 e.2 (SortedMap.get?_eq_some_iff.2 he)
  rw [rows_fed]
  refine List.rel_flatMap (R := (· = ·)) (List.forall₂_refl _) ?_
  rintro rank _ rfl
  exact hrank rank

end Totals

end Reporting

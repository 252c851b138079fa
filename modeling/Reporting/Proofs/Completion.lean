import Mathlib.Data.List.Nodup
import Reporting.Proofs.Placement
import Reporting.Proofs.RowOrder

/-!
# What completion shows

Completion turns every source into one row of the cells that the mappings show, in the order for a
tree (`complete_iff_shown`). Nothing is measured but these cells.
-/

namespace Reporting

/-- What the mapping of an item shows for a row, which need not have a cell of it. -/
def ReportOptions.mapped (options : ReportOptions) (r : Row) (item : Item) :
    Except ReportError Cell :=
  options.mappings.get item.id { item := item, locale := options.locale }
    ((r.cell? item.id).getD .empty)

/-- A row is another one with the cells that the mappings of the items show for it, and no more. -/
structure Row.ShownAs (options : ReportOptions) (items : List Item) (source r : Row) : Prop where
  level : r.level = source.level
  sequence : r.sequence = source.sequence
  isSummary : r.isSummary = source.isSummary
  cell : ∀ item ∈ items, ∃ c, options.mapped source item = .ok c ∧ r.cell? item.id = some c
  no_cell : ∀ id, id ∉ items.map Item.id → r.cell? id = none

theorem Definition.nodup_printedItems {d : Definition} (h : (d.items.map Item.id).Nodup) :
    (d.printedItems.map Item.id).Nodup := by
  have hperm : d.printedItems.Perm _ := List.mergeSort_perm _ _
  exact (hperm.map Item.id).nodup_iff.2 (h.sublist (List.filter_sublist.map Item.id))

namespace Assembly

variable {a : Assembly} {r : Row} {item : Item}

theorem shownAs_shown (hids : (a.items.map Item.id).Nodup)
    (hr : ∃ cells, a.readyCells r = .ok cells) : r.ShownAs a.options a.items (a.shown r) where
  level := rfl
  sequence := rfl
  isSummary := rfl
  cell item hitem := by
    rcases cell?_shown hr item.id with ⟨hnot, -⟩ | ⟨item', hitem', hid, c, hc, hcell⟩
    · exact absurd (List.mem_map_of_mem hitem) hnot
    · obtain rfl := List.inj_on_of_nodup_map hids hitem' hitem hid
      exact ⟨c, hc, hcell⟩
  no_cell id hid := by
    rcases cell?_shown hr id with ⟨-, hcell⟩ | ⟨item, hitem, rfl, -⟩
    · exact hcell
    · exact absurd (List.mem_map_of_mem hitem) hid

section Widths

theorem get?_foldl_widen (id : Int) (cells : List (Int × Cell)) (widths : SortedMap Int Nat) :
    ((cells.foldl widen widths).get? id).getD 0
      = ((cells.filter (·.1 = id)).map (·.2.display.length)).foldl max
          ((widths.get? id).getD 0) := by
  induction cells generalizing widths with
  | nil => rfl
  | cons cell cells ih =>
    rw [List.foldl_cons, ih, widen, SortedMap.get?_alter]
    by_cases h : cell.1 = id
    · simp [h]
    · simp [h, Ne.symm h]

theorem filter_id_eq (hids : (a.items.map Item.id).Nodup) (hitem : item ∈ a.items) :
    a.items.filter (·.id = item.id) = [item] := by
  have hid : ∀ i ∈ a.items, decide (i.id = item.id) = decide (i = item) := fun i hi =>
    decide_eq_decide.2 ⟨List.inj_on_of_nodup_map hids hi hitem, congrArg Item.id⟩
  rw [List.filter_congr hid, List.filter_eq, List.count_eq_one_of_mem (hids.of_map _) hitem]
  rfl

/-- The one cell of an item that is measured is the one that is shown. -/
theorem measured_eq (hids : (a.items.map Item.id).Nodup) (hitem : item ∈ a.items)
    (hr : ∃ cells, a.readyCells r = .ok cells) :
    (((a.readyCells r).toOption.getD []).filter (·.1 = item.id)).map (·.2.display.length)
      = [((a.shown r).sortText item.id).length] := by
  obtain ⟨c, hc, hcell⟩ := (shownAs_shown hids hr).cell item hitem
  obtain ⟨cells, hcells⟩ := hr
  have hready : a.readyCell r item = .ok c := hc
  rw [hcells, (readyCells_eq_ok.1 hcells).2, Row.sortText, hcell]
  change List.map _ (List.filter _ (List.map _ _)) = _
  rw [List.filter_map]
  change List.map _ (List.map _ (List.filter (fun i => decide (i.id = item.id)) a.items)) = _
  rw [filter_id_eq hids hitem]
  simp [hready, Except.toOption]

theorem get?_widths_completed (hids : (a.items.map Item.id).Nodup) (hitem : item ∈ a.items)
    (hready : ∀ r ∈ a.sources, ∃ cells, a.readyCells r = .ok cells) :
    (a.completed.widths.get? item.id).getD 0
      = (a.completed.rows.map fun r => (r.sortText item.id).length).max?.getD 0 := by
  have hmeasured : ∀ r ∈ Row.sortedBy (Row.treeOrder a.sorting) a.sources,
      (((a.readyCells r).toOption.getD []).filter (·.1 = item.id)).map (·.2.display.length)
        = [((a.shown r).sortText item.id).length] := fun r hr =>
    measured_eq hids hitem (hready r ((List.mergeSort_perm _ _).mem_iff.1 hr))
  simp only [completed]
  rw [get?_foldl_widen, List.filter_flatMap, List.map_flatMap, List.flatMap_congr hmeasured,
    List.foldl_max, ← List.map_eq_flatMap, List.map_map]
  exact Nat.zero_max _

end Widths

theorem exists_readyCells_iff : (∃ cells, a.readyCells r = .ok cells)
    ↔ ∀ item ∈ a.items, ∃ c, a.options.mapped r item = .ok c := by
  simp only [readyCells_eq_ok, exists_and_left, exists_eq, and_true]
  rfl

theorem exists_complete_iff : (∃ b, a.complete = .ok b)
    ↔ ∀ r ∈ a.sources, ∀ item ∈ a.items, ∃ c, a.options.mapped r item = .ok c := by
  simp only [complete_eq_ok, exists_and_left, exists_eq, and_true, exists_readyCells_iff]

theorem sources_readAll (d : Definition) (options : ReportOptions) (calls : List Reading) :
    ((start d options).readAll calls).sources
      = (if d.isSummary then [] else ((start d options).readAll calls).details)
        ++ (Totals.fed d.axes d.summarized ((start d options).readAll calls).details).rows := by
  rw [sources, (options_readAll (start d options) calls).1, totals_readAll]
  rfl

/-- Completion succeeds if the mappings show the cells of every source, and shows each source in one
row. The rows are in the order for a tree, and among those alike in it details stand as they were
read, before the totals. -/
theorem complete_iff_shown {d : Definition} (hids : (d.items.map Item.id).Nodup)
    (options : ReportOptions) (calls : List Reading) :
    let details := ((start d options).readAll calls).details
    let totals := (Totals.fed d.axes d.summarized details).rows
    let sources := (if d.isSummary then [] else details) ++ totals
    ((∃ b, ((start d options).readAll calls).complete = .ok b) ↔
        ∀ r ∈ sources, ∀ item ∈ d.printedItems, ∃ c, options.mapped r item = .ok c)
      ∧ ∀ b, ((start d options).readAll calls).complete = .ok b →
        (∃ placed : List (Row × Nat), placed.Perm sources.zipIdx
            ∧ placed.Pairwise (Row.Precedes (Row.treeOrder (d.sortingItems.map Item.id)))
            ∧ List.Forall₂ (fun p r => p.1.ShownAs options d.printedItems r)
              placed b.completion.rows)
          ∧ b.completion.summaryRows = b.completion.rows.filter
              (fun r => r.isSummary || (r.level = 0 && d.tableName = options.financialTable))
          ∧ b.completion.totalRows = totals
          ∧ ∀ item ∈ d.printedItems, b.width item
              = (b.completion.rows.map fun r => (r.sortText item.id).length).max?.getD 0 := by
  intro details totals sources
  have hsources : ((start d options).readAll calls).sources = sources :=
    sources_readAll d options calls
  have htotals : ((start d options).readAll calls).totals.rows = totals :=
    congrArg Totals.rows (totals_readAll d options calls)
  obtain ⟨hd, ho⟩ := options_readAll (start d options) calls
  clear_value sources totals
  generalize (start d options).readAll calls = a at hd ho hsources htotals
  obtain rfl : a.definition = d := hd
  obtain rfl : a.options = options := ho
  subst hsources htotals
  refine ⟨exists_complete_iff, fun b hb => ?_⟩
  obtain ⟨hready, rfl⟩ := complete_eq_ok.1 hb
  have hids' := Definition.nodup_printedItems hids
  refine ⟨?_, rfl, rfl, fun item hitem => get?_widths_completed hids' hitem hready⟩
  obtain ⟨placed, hperm, hsorted, hrows⟩ := Row.sortedBy_stable (Row.treeOrder a.sorting) a.sources
  refine ⟨placed, hperm, hsorted, ?_⟩
  simp only [completed, ← hrows, List.map_map]
  rw [List.forall₂_map_right_iff, List.forall₂_same]
  intro p hp
  refine shownAs_shown hids' (hready _ ?_)
  exact List.fst_mem_of_mem_zipIdx (hperm.mem_iff.1 hp)

/-- Two regions and their totals, which are as wide as the names of the regions. -/
theorem complete_iff_shown_regions :
    (byRegion.items.map Item.id).Nodup
      ∧ ∃ b, ((start byRegion plainOptions).readAll regions).complete = .ok b
        ∧ b.completion.rows.map (fun r => (r.level, r.sortText 1))
          = [(1, "EU"), (1, "US"), (0, "EU"), (0, "US")]
        ∧ b.completion.summaryRows = b.completion.rows.filter (fun r =>
            r.isSummary || (r.level = 0 && byRegion.tableName = plainOptions.financialTable))
        ∧ ∀ item ∈ byRegion.printedItems, b.width item
            = (b.completion.rows.map fun r => (r.sortText item.id).length).max?.getD 0 := by
  have h : ((start byRegion plainOptions).readAll regions).complete.map
      (fun b => b.completion.rows.map fun r => (r.level, r.sortText 1))
      = .ok [(1, "EU"), (1, "US"), (0, "EU"), (0, "US")] := by
    cbv
  obtain ⟨b, hb, hrows⟩ := map_eq_ok.1 h
  have hids : (byRegion.items.map Item.id).Nodup := by decide
  obtain ⟨-, hsummary, -, hwidth⟩ := (complete_iff_shown hids plainOptions regions).2 b hb
  exact ⟨hids, b, hb, hrows, hsummary, hwidth⟩

end Assembly

end Reporting

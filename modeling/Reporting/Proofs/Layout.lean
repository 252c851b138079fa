import Reporting.Proofs.Completion
import Reporting.Proofs.Stability

/-!
# Reports without their details

Whether a report shows its details has no bearing on what is read and totalled (`readAll_inLayout`),
nor on the totals as they are shown. Without them a report that is not financial shows the same
totals in the same order and nothing else (`complete_hides_details`).
-/

namespace Reporting

/-- The report that shows only its totals, or its details as well. -/
def Definition.inLayout (d : Definition) (summary : Bool) : Definition :=
  { d with isSummary := summary }

theorem foldl_max_le_of_subset {l l' : List Nat} (h : l ⊆ l') :
    l.foldl max 0 ≤ l'.foldl max 0 := by
  rw [List.foldl_max, List.foldl_max]
  refine max_le_max le_rfl ?_
  cases hmax : l.max? with
  | none => exact Nat.zero_le _
  | some n => exact List.le_max?_getD_of_mem (h (List.max?_mem hmax))

namespace Assembly

def inLayout (a : Assembly) (summary : Bool) : Assembly :=
  { a with definition := a.definition.inLayout summary }

/-- What a report shows without its details: all that it shows with them but the details. -/
structure HidesDetails (full brief : Assembly) : Prop where
  recordCount : brief.recordCount = full.recordCount
  totalRows : brief.completion.totalRows = full.completion.totalRows
  summaryRows : brief.completion.summaryRows = full.completion.summaryRows
  rows : brief.completion.rows = full.completion.rows.filter Row.isSummary
  hidden : full.completion.rows.length = full.recordCount + brief.completion.rows.length
  width : ∀ item, brief.width item ≤ full.width item

section Reading

theorem read_inLayout (a : Assembly) (summary : Bool) (reading : Reading) :
    (a.inLayout summary).read reading = (a.read reading).inLayout summary := by
  obtain ⟨_, _, _, staged, _, _⟩ := a
  cases reading <;> cases staged <;> rfl

theorem readAll_inLayout (a : Assembly) (summary : Bool) (readings : List Reading) :
    (a.inLayout summary).readAll readings = (a.readAll readings).inLayout summary := by
  induction readings generalizing a with
  | nil => rfl
  | cons reading readings ih =>
    change ((a.inLayout summary).read reading).readAll readings = _
    rw [read_inLayout]
    exact ih (a.read reading)

end Reading

section Completing

variable {a : Assembly}

theorem sources_inLayout_false : (a.inLayout false).sources = a.details ++ a.totals.rows := rfl

theorem sources_inLayout_true : (a.inLayout true).sources = a.totals.rows := rfl

/-- The totals are the sources that are marked as such. -/
theorem filter_sources (h : Consistent a) :
    (a.inLayout false).sources.filter Row.isSummary = (a.inLayout true).sources := by
  have hdetails : a.details.filter Row.isSummary = [] :=
    List.filter_eq_nil_iff.2 fun r hr => by simp [h.details r hr]
  have htotals : a.totals.rows.filter Row.isSummary = a.totals.rows := by
    rw [h.totals]
    exact List.filter_eq_self.2 fun r hr => (Totals.mem_rows hr).1
  rw [sources_inLayout_false, sources_inLayout_true, List.filter_append, hdetails, htotals,
    List.nil_append]

theorem sortedBy_sources (h : Consistent a) :
    Row.sortedBy (Row.treeOrder a.sorting) (a.inLayout true).sources
      = (Row.sortedBy (Row.treeOrder a.sorting) (a.inLayout false).sources).filter
        Row.isSummary := by
  rw [← Row.sortedBy_filter, filter_sources h]

theorem rows_completed_inLayout (h : Consistent a) :
    (a.inLayout true).completed.rows
      = (a.inLayout false).completed.rows.filter Row.isSummary := by
  change (Row.sortedBy (Row.treeOrder a.sorting) (a.inLayout true).sources).map a.shown
    = ((Row.sortedBy (Row.treeOrder a.sorting) (a.inLayout false).sources).map a.shown).filter _
  rw [sortedBy_sources h, List.filter_map]
  rfl

theorem isSummaryRow_eq (hplain : a.isFinancial = false) : a.isSummaryRow = Row.isSummary := by
  funext r
  simp [isSummaryRow, hplain]

theorem widths_completed_inLayout (h : Consistent a) (id : Int) :
    ((a.inLayout true).completed.widths.get? id).getD 0
      ≤ ((a.inLayout false).completed.widths.get? id).getD 0 := by
  have hcells : ((Row.sortedBy (Row.treeOrder a.sorting) (a.inLayout true).sources).flatMap
      fun r => (a.readyCells r).toOption.getD []).Sublist
        ((Row.sortedBy (Row.treeOrder a.sorting) (a.inLayout false).sources).flatMap
          fun r => (a.readyCells r).toOption.getD []) := by
    rw [sortedBy_sources h]
    exact List.filter_sublist.flatMap _
  change ((List.foldl widen .empty _).get? id).getD 0 ≤ ((List.foldl widen .empty _).get? id).getD 0
  rw [get?_foldl_widen, get?_foldl_widen]
  exact foldl_max_le_of_subset ((hcells.filter _).map _).subset

theorem hidesDetails_completed (h : Consistent a) (hplain : a.isFinancial = false) :
    HidesDetails { a.inLayout false with completion := (a.inLayout false).completed }
      { a.inLayout true with completion := (a.inLayout true).completed } where
  recordCount := rfl
  totalRows := rfl
  summaryRows := by
    change (a.inLayout true).completed.rows.filter a.isSummaryRow
      = (a.inLayout false).completed.rows.filter a.isSummaryRow
    rw [rows_completed_inLayout h, isSummaryRow_eq hplain, List.filter_filter]
    simp only [Bool.and_self]
  rows := rows_completed_inLayout h
  hidden := by
    change (List.map _ (Row.sortedBy _ (a.inLayout false).sources)).length
      = a.details.length + (List.map _ (Row.sortedBy _ (a.inLayout true).sources)).length
    rw [List.length_map, List.length_map, Row.sortedBy, Row.sortedBy, List.length_mergeSort,
      List.length_mergeSort, sources_inLayout_false, sources_inLayout_true, List.length_append]
  width item := widths_completed_inLayout h item.id

/-- A report that is not financial can be completed without its details if the mappings show its
totals, and with them if they show its details as well. Without them, it shows the rest. -/
theorem complete_hides_details {d : Definition} {options : ReportOptions}
    (hplain : d.tableName ≠ options.financialTable) (calls : List Reading) :
    let full := (start (d.inLayout false) options).readAll calls
    let brief := (start (d.inLayout true) options).readAll calls
    ((∃ b, full.complete = .ok b) ↔ ∀ r ∈ full.details ++ full.totals.rows,
        ∀ item ∈ d.printedItems, ∃ c, options.mapped r item = .ok c)
      ∧ ((∃ s, brief.complete = .ok s) ↔ ∀ r ∈ full.totals.rows,
        ∀ item ∈ d.printedItems, ∃ c, options.mapped r item = .ok c)
      ∧ ∀ b s, full.complete = .ok b → brief.complete = .ok s → HidesDetails b s := by
  have hreadAll (summary : Bool) : (start (d.inLayout summary) options).readAll calls
      = ((start d options).readAll calls).inLayout summary :=
    readAll_inLayout (start d options) summary calls
  obtain ⟨hd, ho⟩ := options_readAll (start d options) calls
  have hconsistent := consistent_readAll (consistent_start d options) calls
  simp only [hreadAll]
  generalize (start d options).readAll calls = a at hd ho hconsistent
  obtain rfl : a.definition = d := hd
  obtain rfl : a.options = options := ho
  refine ⟨exists_complete_iff, exists_complete_iff, fun b s hb hs => ?_⟩
  obtain ⟨-, rfl⟩ := complete_eq_ok.1 hb
  obtain ⟨-, rfl⟩ := complete_eq_ok.1 hs
  exact hidesDetails_completed hconsistent (decide_eq_false hplain)

/-- Of two regions and their totals, only the totals are left. -/
theorem complete_hides_details_regions :
    byRegion.tableName ≠ plainOptions.financialTable
      ∧ ∃ b s, ((start (byRegion.inLayout false) plainOptions).readAll regions).complete = .ok b
        ∧ ((start (byRegion.inLayout true) plainOptions).readAll regions).complete = .ok s
        ∧ b.completion.rows.map (fun r => (r.level, r.sortText 1))
          = [(1, "EU"), (1, "US"), (0, "EU"), (0, "US")]
        ∧ s.completion.rows.map (fun r => (r.level, r.sortText 1)) = [(0, "EU"), (0, "US")]
        ∧ HidesDetails b s := by
  have hplain : byRegion.tableName ≠ plainOptions.financialTable := by decide
  have hfull : ((start (byRegion.inLayout false) plainOptions).readAll regions).complete.map
      (fun b => b.completion.rows.map fun r => (r.level, r.sortText 1))
      = .ok [(1, "EU"), (1, "US"), (0, "EU"), (0, "US")] := by
    cbv
  have hbrief : ((start (byRegion.inLayout true) plainOptions).readAll regions).complete.map
      (fun s => s.completion.rows.map fun r => (r.level, r.sortText 1))
      = .ok [(0, "EU"), (0, "US")] := by
    cbv
  obtain ⟨b, hb, hrows⟩ := map_eq_ok.1 hfull
  obtain ⟨s, hs, hrows'⟩ := map_eq_ok.1 hbrief
  obtain ⟨-, -, hhides⟩ := complete_hides_details hplain regions
  exact ⟨hplain, b, s, hb, hs, hrows, hrows', hhides b s hb hs⟩

end Completing

end Assembly

end Reporting

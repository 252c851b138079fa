import Mathlib.Algebra.Module.Submodule.Lattice
import Mathlib.Data.List.Permutation
import Reporting.Proofs.Assembly
import Reporting.Proofs.Formatting
import Reporting.Proofs.Places

/-!
# Where detail rows stand in the tree of a report

Making cells ready leaves their values alone (`agree_shown`), so that the shown rows nest as their
sources do: every detail row is a leaf once for each of its places (`detailLeaves_tree`).
-/

namespace Reporting

open RankTotals (keyOf)
open RowTree (agree detailLeaves)

namespace Definition

theorem axes_subset_items (d : Definition) : d.axes ⊆ d.printedItems.map Item.id := by
  refine List.map_subset _ fun item h => ?_
  exact (List.mem_filter.1 ((List.mergeSort_perm _ _).mem_iff.1 h)).1

end Definition

namespace Assembly

section Shown

variable {a : Assembly}

/-- The default mapping shows every value as it is. -/
theorem value_shown (hmap : ∀ item, a.options.mappings.get item = Formatting.mapping) {r : Row}
    (hr : ∃ cells, a.readyCells r = .ok cells) {item : Int} (hi : item ∈ a.items.map Item.id) :
    (a.shown r).value item = r.value item := by
  rcases cell?_shown hr item with ⟨hnot, -⟩ | ⟨item, -, rfl, c, hc, hcell⟩
  · exact absurd hi hnot
  · rw [readyCell, hmap] at hc
    rw [Row.value, hcell]
    exact Formatting.value_mapping rfl hc

theorem agree_shown (hmap : ∀ item, a.options.mappings.get item = Formatting.mapping)
    {axes : List Int} (haxes : axes ⊆ a.items.map Item.id) {r s : Row}
    (hr : ∃ cells, a.readyCells r = .ok cells) (hs : ∃ cells, a.readyCells s = .ok cells) :
    agree axes (a.shown r) (a.shown s) = agree axes r s :=
  RowTree.agree_congr (fun _ hi => value_shown hmap hr (haxes hi))
    fun _ hi => value_shown hmap hs (haxes hi)

end Shown

section Completed

variable {a b : Assembly} (h : Consistent a) (hb : a.complete = .ok b)
  (hdetails : ∀ r ∈ a.details, r.level = a.definition.axes.length)
  (hsummary : a.definition.isSummary = false)

include hb in
theorem rows_perm : b.completion.rows.Perm (a.sources.map a.shown) := by
  rw [(rows_complete hb).1]
  exact (List.mergeSort_perm _ _).map _

include hsummary in
theorem sources_eq : a.sources = a.details ++ a.totals.rows := by
  simp [sources, hsummary]

include h hb hdetails hsummary in
theorem leveled_rows : RowTree.Leveled a.definition.axes b.completion.rows := by
  intro r hr
  obtain ⟨source, hs, rfl⟩ := List.mem_map.1 ((rows_perm hb).mem_iff.1 hr)
  rw [sources_eq hsummary] at hs
  rcases List.mem_append.1 hs with hs | hs
  · have hsum : (a.shown source).isSummary = false := h.details source hs
    simp only [hsum, Bool.false_eq_true, if_false]
    exact hdetails source hs
  · rw [h.totals] at hs
    obtain ⟨hsum, hlevel⟩ := Totals.mem_rows hs
    have hsum : (a.shown source).isSummary = true := hsum
    simp only [hsum, if_true]
    exact hlevel

include h hb hsummary in
theorem filter_details_perm :
    (b.completion.rows.filter (!·.isSummary)).Perm (a.details.map a.shown) := by
  have hdetails : a.details.filter (!·.isSummary) = a.details :=
    List.filter_eq_self.2 fun r hr => by simp [h.details r hr]
  have htotals : a.totals.rows.filter (!·.isSummary) = [] := by
    rw [h.totals]
    exact List.filter_eq_nil_iff.2 fun r hr => by simp [(Totals.mem_rows hr).1]
  have hfilter : (a.sources.map a.shown).filter (!·.isSummary) = a.details.map a.shown := by
    rw [List.filter_map, sources_eq hsummary]
    change List.map a.shown (List.filter (fun r => !r.isSummary) (a.details ++ a.totals.rows)) = _
    rw [List.filter_append, hdetails, htotals, List.append_nil]
  exact hfilter ▸ (rows_perm hb).filter _

include h hb hdetails hsummary in
theorem filter_level_perm {rank : Nat} (hrank : rank < a.definition.axes.length) :
    (b.completion.rows.filter (·.level = (rank : Int))).Perm
      ((a.totals.rankRows rank).map a.shown) := by
  have hnone : a.details.filter (·.level = (rank : Int)) = [] := by
    refine List.filter_eq_nil_iff.2 fun r hr => ?_
    have := hdetails r hr
    simp only [decide_eq_true_eq]
    omega
  have hfilter : (a.sources.map a.shown).filter (·.level = (rank : Int))
      = (a.totals.rankRows rank).map a.shown := by
    rw [List.filter_map, sources_eq hsummary]
    change List.map a.shown
      (List.filter (fun r => r.level = (rank : Int)) (a.details ++ a.totals.rows)) = _
    rw [List.filter_append, hnone, List.nil_append, h.totals, Totals.filter_level_rows hrank]
  exact hfilter ▸ (rows_perm hb).filter _

include h hb hdetails hsummary in
/-- The totals that a shown row stands below are those that its source has the values of. -/
theorem placesFrom_perm (hmap : ∀ item, a.options.mappings.get item = Formatting.mapping) {r : Row}
    (hr : r ∈ a.details) :
    (RowTree.placesFrom a.definition.axes b.completion.rows 0 (a.shown r)).Perm
      ((a.totals.places r).map (List.map a.shown)) := by
  have haxes : a.totals.axes = a.definition.axes := by rw [h.totals, Totals.axes_fed]
  have hready := (rows_complete hb).2.1
  rw [sources_eq hsummary] at hready
  rw [RowTree.placesFrom, Totals.places, ← sections_map_map, List.map_map, haxes, Nat.sub_zero,
    ← List.range_eq_range']
  refine sections_perm ?_
  rw [List.forall₂_map_left_iff, List.forall₂_map_right_iff, List.forall₂_same]
  intro rank hrank
  have hlt := List.mem_range.1 hrank
  have hagree : ∀ total ∈ a.totals.rankRows rank,
      agree (a.definition.axes.take (rank + 1)) (a.shown total) (a.shown r)
        = agree (a.definition.axes.take (rank + 1)) total r := by
    intro total ht
    have htotal : total ∈ a.totals.rows := by
      rw [h.totals, Totals.rows_eq_flatMap, ← h.totals]
      exact List.mem_flatMap.2 ⟨rank, hrank, ht⟩
    exact agree_shown hmap
      (fun _ hi => a.definition.axes_subset_items (List.mem_of_mem_take hi))
      (hready total (List.mem_append_right _ htotal)) (hready r (List.mem_append_left _ hr))
  have hfilter : ((a.totals.rankRows rank).map a.shown).filter
        (fun t => agree (a.definition.axes.take (rank + 1)) t (a.shown r))
      = ((a.totals.rankRows rank).filter
          fun t => agree (a.definition.axes.take (rank + 1)) t r).map a.shown := by
    rw [List.filter_map]
    exact congrArg _ (List.filter_congr hagree)
  simp only [Function.comp_apply]
  rw [← hfilter]
  exact (filter_level_perm h hb hdetails hsummary hlt).filter _

include h hb hdetails hsummary in
theorem detailLeaves_perm (hmap : ∀ item, a.options.mappings.get item = Formatting.mapping)
    (haxes : a.definition.axes ≠ []) :
    (detailLeaves (RowTree.grouped b.completion.rows a.definition.axes)).Perm
      (a.details.flatMap fun r =>
        (a.totals.places r).map fun above => (above.map a.shown, a.shown r)) := by
  refine (RowTree.detailLeaves_grouped haxes (leveled_rows h hb hdetails hsummary)).trans ?_
  refine ((filter_details_perm h hb hsummary).flatMap_right _).trans ?_
  rw [List.flatMap_map]
  refine List.Perm.flatMap_left _ fun r hr => ?_
  refine ((placesFrom_perm h hb hdetails hsummary hmap hr).map _).trans (.of_eq ?_)
  rw [List.map_map]
  rfl

end Completed

/-- Every detail row is a leaf once for each way of choosing totals, one of each rank, that have its
values, and below these. So a row that lacks a value stands nowhere, and a row stands once and below
its own totals exactly if these are the only ones with its values; this holds where no item grouped
by is summarized and exactly the rows with the texts of the row have its values. -/
theorem detailLeaves_tree {d : Definition} {options : ReportOptions} {calls : List Reading}
    {b : Assembly} (hcalls : ∀ call ∈ calls, call.addressed = false)
    (htable : d.tableName ≠ options.financialTable) (hsummary : d.isSummary = false)
    (haxes : d.axes ≠ []) (hmap : ∀ item, options.mappings.get item = Formatting.mapping)
    (hb : ((start d options).readAll calls).complete = .ok b) :
    (detailLeaves b.tree).Perm
        (b.details.flatMap fun r =>
          (b.totals.places r).map fun above => (above.map b.shown, b.shown r))
      ∧ (∀ r ∈ b.details, r.hasValues d.axes = false → b.totals.places r = [])
      ∧ (∀ r ∈ b.details, b.totals.places r = [b.totals.placeOf r] ↔ b.totals.Separates r)
      ∧ ((∀ item ∈ d.axes, item ∉ d.summarized) → ∀ r ∈ b.details,
          (∀ s ∈ b.details, ∀ rank < d.axes.length,
            (keyOf (d.axes.take (rank + 1)) s = keyOf (d.axes.take (rank + 1)) r
              ↔ agree (d.axes.take (rank + 1)) s r)) →
          b.totals.Separates r) := by
  obtain ⟨hd, ho⟩ := options_readAll (start d options) calls
  have h := consistent_readAll (consistent_start d options) calls
  have hlevel := level_readAll hcalls (consistent_start d options) nofun
  generalize (start d options).readAll calls = a at hd ho h hlevel hb
  obtain rfl : a.definition = d := hd
  obtain rfl : a.options = options := ho
  have hlevel : ∀ r ∈ a.details, r.level = a.definition.axes.length := hlevel
  obtain ⟨-, -, completion, rfl⟩ := rows_complete hb
  have htree : tree { a with completion := completion }
      = RowTree.grouped completion.rows a.definition.axes := by
    rw [← Totals.axes_fed a.definition.axes a.definition.summarized a.details, ← h.totals]
    exact if_neg fun hfinancial => htable (of_decide_eq_true hfinancial)
  refine ⟨htree ▸ detailLeaves_perm h hb hlevel hsummary hmap haxes, ?_⟩
  simp only [h.totals]
  exact ⟨fun r _ hr => Totals.places_eq_nil hr, fun r hr => Totals.places_eq_iff hr,
    fun hplain r _ hr => Totals.separates_of_keys hplain hr⟩

/-- Sales by region. -/
def byRegion : Definition where
  id := 1
  name := "Regions"
  tableName := "Sales"
  items := [{ id := 1, name := "Region", displayType := .string, groupBy := true }]

def plainOptions : ReportOptions where
  mappings := { byItem := .empty, fallback := Formatting.mapping }
  locale := {}
  financialTable := "Statements"

def regions : List Reading :=
  [.cell 1 { value := .text "EU" }, .row, .cell 1 { value := .text "US" }, .row]

/-- Two regions that are shown alike. -/
def regionsAlike : List Reading :=
  [.cell 1 { value := .text "EU" }, .row, .cell 1 { value := .text "E", text := some "EU" }, .row]

theorem detailLeaves_regions :
    ∃ b, ((start byRegion plainOptions).readAll regions).complete = .ok b
      ∧ (detailLeaves b.tree).Perm
          (b.details.flatMap fun r =>
            (b.totals.places r).map fun above => (above.map b.shown, b.shown r))
      ∧ (detailLeaves b.tree).map (·.2.value 1) = [.text "EU", .text "US"] := by
  have h : ((start byRegion plainOptions).readAll regions).complete.map
      (fun b => (detailLeaves b.tree).map (·.2.value 1)) = .ok [.text "EU", .text "US"] := by
    cbv
  obtain ⟨b, hb, hleaves⟩ := map_eq_ok.1 h
  have hcalls : ∀ call ∈ regions, call.addressed = false := by decide
  have haxes : byRegion.axes ≠ [] := by
    have : byRegion.axes = [1] := by cbv
    simp [this]
  exact ⟨b, hb, (detailLeaves_tree hcalls (by decide) rfl haxes (fun _ => rfl) hb).1, hleaves⟩

/-- Of two rows that are shown alike, the one whose value the total does not have is lost. -/
theorem detailLeaves_regionsAlike :
    ∃ b, ((start byRegion plainOptions).readAll regionsAlike).complete = .ok b
      ∧ ∃ r ∈ b.details, r.hasValues byRegion.axes
          ∧ ∀ leaf ∈ detailLeaves b.tree, leaf.2.value 1 ≠ r.value 1 := by
  have h : ((start byRegion plainOptions).readAll regionsAlike).complete.map
      (fun b => ((b.details.filter (·.hasValues byRegion.axes)).map (·.value 1),
        (detailLeaves b.tree).map (·.2.value 1)))
      = .ok ([.text "EU", .text "E"], [.text "EU"]) := by
    cbv
  obtain ⟨b, hb, hvalues⟩ := map_eq_ok.1 h
  obtain ⟨hdetails, hleaves⟩ := Prod.mk.inj hvalues
  have hlost : CellValue.text "E"
      ∈ (b.details.filter (·.hasValues byRegion.axes)).map (·.value 1) := by
    simp [hdetails]
  obtain ⟨r, hr, hvalue⟩ := List.mem_map.1 hlost
  obtain ⟨hr, hhas⟩ := List.mem_filter.1 hr
  refine ⟨b, hb, r, hr, hhas, fun leaf hleaf heq => ?_⟩
  have hmem := List.mem_map_of_mem (f := fun leaf : List Row × Row => leaf.2.value 1) hleaf
  rw [hleaves, List.mem_singleton, heq, hvalue] at hmem
  exact absurd (CellValue.text.inj hmem) (by decide)

end Assembly

end Reporting

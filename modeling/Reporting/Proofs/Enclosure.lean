import Reporting.Proofs.Completion
import Reporting.Proofs.GroupLabels
import Reporting.Proofs.RollUp

/-!
# Totals before the rows that they total

A total shows what the rows of its group show on the items that key the group, and nothing on other
items that are not summarized (`sortText_total`). So no row that it encloses comes before it in the
order for a tree (`totals_before_members`).
-/

namespace Reporting

open RankTotals (keyOf keysOf members)
open Totals (IsTotal)

/-- A line of a report: a detail row, or the total of a group. -/
inductive ReportLine
  | detail (r : Row)
  | total (rank : Nat) (key : GroupKey)

namespace ReportLine

/-- The first line is the total of a group that the row or the smaller group of the second is in. -/
def Encloses (axes : List Int) : ReportLine → ReportLine → Prop
  | total rank key, detail r => keyOf (axes.take (rank + 1)) r = key
  | total rank key, total rank' key' => rank < rank' ∧ key <+: key'
  | detail _, _ => False

/-- The row of a line before its cells are made ready. -/
inductive IsSource (d : Definition) (details : List Row) : ReportLine → Row → Prop
  | detail {r : Row} : r ∈ details → IsSource d details (.detail r) r
  | total {rank : Nat} {key : GroupKey} {member t : Row} :
    rank < d.axes.length → member ∈ details → keyOf (d.axes.take (rank + 1)) member = key →
      IsTotal d.axes d.summarized rank key details t → IsSource d details (.total rank key) t

end ReportLine

namespace Definition

/-- The details, unless only totals are shown, and after them the totals of every rank. -/
def lines (d : Definition) (details : List Row) : List ReportLine :=
  (if d.isSummary then [] else details.map .detail)
    ++ (List.range d.axes.length).flatMap fun rank =>
      (keysOf (d.axes.take (rank + 1)) details).map (.total rank)

theorem total_mem_lines (d : Definition) {details : List Row} {rank : Nat}
    (hrank : rank < d.axes.length) {r : Row} (hr : r ∈ details) :
    .total rank (keyOf (d.axes.take (rank + 1)) r) ∈ d.lines details :=
  List.mem_append_right _ (List.mem_flatMap.2 ⟨rank, List.mem_range.2 hrank,
    List.mem_map_of_mem (Totals.mem_keysOf.2 ⟨r, hr, rfl⟩)⟩)

theorem sortingItems_subset (d : Definition) : d.sortingItems ⊆ d.printedItems := fun _ h =>
  (List.mem_filter.1 ((List.mergeSort_perm _ _).mem_iff.1 h)).1

/-- With distinct identifiers, an item that asks for no totals is not summarized by another one. -/
theorem id_notMem_summarized {d : Definition} (hids : (d.items.map Item.id).Nodup) {item : Item}
    (hitem : item ∈ d.printedItems) (h : item.isSummarizable = false) :
    item.id ∉ d.summarized := by
  intro hmem
  obtain ⟨item', hitem', hid⟩ := List.mem_map.1 hmem
  obtain ⟨hprinted, hsummarizable⟩ := List.mem_filter.1 hitem'
  obtain rfl := List.inj_on_of_nodup_map (nodup_printedItems hids) hprinted hitem hid
  rw [h] at hsummarizable
  cases hsummarizable

end Definition

section Sources

variable {d : Definition} {details : List Row}

theorem isSource_totals :
    List.Forall₂ (ReportLine.IsSource d details)
      ((List.range d.axes.length).flatMap fun rank =>
        (keysOf (d.axes.take (rank + 1)) details).map (.total rank))
      (Totals.fed d.axes d.summarized details).rows := by
  have hgroups : ((List.range d.axes.length).flatMap fun rank =>
        (keysOf (d.axes.take (rank + 1)) details).map (ReportLine.total rank))
      = ((List.range d.axes.length).flatMap fun rank =>
          (keysOf (d.axes.take (rank + 1)) details).map (rank, ·)).map
            fun group => .total group.1 group.2 := by
    simp only [List.map_flatMap, List.map_map]
    rfl
  have hrows : List.Forall₂ (fun (group : Nat × GroupKey) t =>
      IsTotal d.axes d.summarized group.1 group.2 details t) _
      (Totals.fed d.axes d.summarized details).rows :=
    Totals.forall₂_rows fun _ _ _ => Totals.isTotal_toRow
  obtain ⟨hlength, htotals⟩ := List.forall₂_iff_zip.1 hrows
  rw [hgroups, List.forall₂_map_left_iff, List.forall₂_iff_zip]
  refine ⟨hlength, fun {group t} hzip => ?_⟩
  obtain ⟨rank, hrank, hgroup⟩ := List.mem_flatMap.1 (List.of_mem_zip hzip).1
  obtain ⟨key, hkey, rfl⟩ := List.mem_map.1 hgroup
  obtain ⟨member, hmember, hkeyOf⟩ := Totals.mem_keysOf.1 hkey
  exact .total (List.mem_range.1 hrank) hmember hkeyOf (htotals hzip)

theorem isSource_lines :
    List.Forall₂ (ReportLine.IsSource d details) (d.lines details)
      ((if d.isSummary then [] else details) ++ (Totals.fed d.axes d.summarized details).rows) := by
  refine List.rel_append ?_ isSource_totals
  split
  · exact .nil
  · rw [List.forall₂_map_left_iff, List.forall₂_same]
    exact fun r hr => .detail hr

end Sources

section Enclosed

variable {d : Definition} {details : List Row} {line line' : ReportLine} {r r' : Row} {item : Int}

theorem sortText_total {axes summarized : List Int} {rows : List Row} {rank : Nat} {key : GroupKey}
    {t member : Row} (h : IsTotal axes summarized rank key rows t) (hmember : member ∈ rows)
    (hkey : keyOf (axes.take (rank + 1)) member = key) (hitem : item ∉ summarized) :
    t.sortText item = if item ∈ axes.take (rank + 1) then member.sortText item else "" := by
  have hgroup : member ∈ members (axes.take (rank + 1)) rows key :=
    List.mem_filter.2 ⟨hmember, decide_eq_true hkey⟩
  split
  · rename_i hkeyed
    obtain ⟨first, rest, hfirst⟩ := List.exists_cons_of_ne_nil (List.ne_nil_of_mem hgroup)
    have hmem : first ∈ members (axes.take (rank + 1)) rows key := by simp [hfirst]
    have hfirstKey : keyOf (axes.take (rank + 1)) first = key :=
      of_decide_eq_true (List.mem_filter.1 hmem).2
    have halike := List.map_inj_left.1 (hfirstKey.trans hkey.symm) item hkeyed
    rw [Totals.sortText_of_isTotal h hfirst hkeyed, if_neg hitem, halike]
  · rename_i hother
    rw [Row.sortText, h.cell? item, if_neg hitem, if_neg hother]
    rfl

theorem keyOf_take {axes : List Int} {r : Row} {m n : Nat} (h : m ≤ n) :
    (keyOf (axes.take n) r).take m = keyOf (axes.take m) r := by
  rw [keyOf, ← List.map_take, List.take_take, Nat.min_eq_left h, keyOf]

theorem sortText_of_encloses (h : line.IsSource d details r) (h' : line'.IsSource d details r')
    (hencloses : line.Encloses d.axes line') (hitem : item ∉ d.summarized) :
    r.sortText item = r'.sortText item ∨ r.sortText item = "" := by
  cases h with
  | detail => cases hencloses
  | @total rank key member _ hrank hmember hkey htotal =>
    cases h' with
    | detail hr' =>
      rw [sortText_total htotal hr' hencloses hitem]
      split
      · exact .inl rfl
      · exact .inr rfl
    | @total rank' key' member' _ hrank' hmember' hkey' htotal' =>
      obtain ⟨hlt, hprefix⟩ := hencloses
      -- every row of the smaller group is in the larger one as well
      have hwithin : keyOf (d.axes.take (rank + 1)) member' = key := by
        have hlength : key.length = rank + 1 := by
          rw [← hkey, keyOf, List.length_map, List.length_take, Nat.min_eq_left hrank]
        rw [List.prefix_iff_eq_take.1 hprefix, hlength, ← hkey', keyOf_take (by omega)]
      rw [sortText_total htotal hmember' hwithin hitem,
        sortText_total htotal' hmember' hkey' hitem]
      split
      · rename_i hkeyed
        have hsub : item ∈ d.axes.take (rank' + 1) :=
          (List.take_sublist_take_left (by omega)).subset hkeyed
        exact .inl (if_pos hsub).symm
      · exact .inr rfl

theorem level_of_encloses (hlevel : ∀ r ∈ details, r.level = d.axes.length)
    (h : line.IsSource d details r) (h' : line'.IsSource d details r')
    (hencloses : line.Encloses d.axes line') : r.level < r'.level := by
  cases h with
  | detail => cases hencloses
  | total hrank _ _ htotal =>
    rw [htotal.level]
    cases h' with
    | detail hr' =>
      rw [hlevel _ hr']
      exact_mod_cast hrank
    | total _ _ _ htotal' =>
      rw [htotal'.level]
      exact_mod_cast hencloses.1

theorem treeOrder_of_encloses {sorting : List Int} (hsorting : sorting ≠ [])
    (hplain : ∀ item ∈ sorting, item ∉ d.summarized)
    (hlevel : ∀ r ∈ details, r.level = d.axes.length) (h : line.IsSource d details r)
    (h' : line'.IsSource d details r') (hencloses : line.Encloses d.axes line') :
    Row.treeOrder sorting r r' = .lt := by
  have hcolumns := Row.compareColumns_eq fun item hitem =>
    sortText_of_encloses h h' hencloses (hplain item hitem)
  rw [Row.treeOrder, if_neg (by simpa using hsorting), hcolumns]
  split
  · exact compare_lt_iff_lt.2 (level_of_encloses hlevel h h' hencloses)
  · rfl

end Enclosed

namespace Assembly

/-- A row shows a line: it is the source of the line with its cells made ready. -/
def ShowsLine (a : Assembly) (line : ReportLine) (r : Row) : Prop :=
  ∃ source ∈ a.sources, line.IsSource a.definition a.details source ∧ r = a.shown source

/-- Without dates among its items, the default mapping makes every report ready. -/
theorem exists_complete_of_undated {a : Assembly}
    (hmap : ∀ item, a.options.mappings.get item = Formatting.mapping)
    (hitems : ∀ item ∈ a.definition.items, item.displayType.isDate = false) :
    ∃ b, a.complete = .ok b := by
  refine exists_complete_iff.2 fun r _ item hitem => ?_
  have hundated := hitems item
    (List.mem_filter.1 ((List.mergeSort_perm _ _).mem_iff.1 hitem)).1
  rw [ReportOptions.mapped, hmap]
  exact Formatting.exists_mapping (fun hdate => by simp [hundated] at hdate) _

/-- Completed rows show every line of the report once, one line before another if its source comes
first in the order for a tree. -/
theorem exists_lines {a b : Assembly} (h : Consistent a) (hb : a.complete = .ok b) :
    ∃ lines : List ReportLine, lines.Perm (a.definition.lines a.details)
      ∧ List.Forall₂ b.ShowsLine lines b.completion.rows
      ∧ ∀ {i j : Nat} {first later : ReportLine}, lines[i]? = some first →
        lines[j]? = some later →
        (∀ r r', first.IsSource a.definition a.details r →
          later.IsSource a.definition a.details r' → Row.treeOrder a.sorting r r' = .lt) →
        i < j := by
  have hsources : List.Forall₂ (fun line r => r ∈ a.sources
      ∧ ReportLine.IsSource a.definition a.details line r) (a.definition.lines a.details)
      a.sources := by
    have hlines : List.Forall₂ (ReportLine.IsSource a.definition a.details)
        (a.definition.lines a.details) a.sources := by
      rw [sources, h.totals]
      exact isSource_lines
    obtain ⟨hlength, hzip⟩ := List.forall₂_iff_zip.1 hlines
    exact List.forall₂_iff_zip.2 ⟨hlength, fun hmem => ⟨(List.of_mem_zip hmem).2, hzip hmem⟩⟩
  obtain ⟨hrows, -, completion, rfl⟩ := rows_complete hb
  obtain ⟨lines, hperm, hshows, hfirst⟩ :=
    Row.exists_arranged (Row.treeOrder a.sorting) hsources
  refine ⟨lines, hperm, ?_, fun hi hj hlt => hfirst hi hj fun r r' hr hr' => hlt r r' hr.2 hr'.2⟩
  rw [hrows, List.forall₂_map_right_iff]
  exact hshows.imp fun line source hsource => ⟨source, hsource.1, hsource.2, rfl⟩

/-- Completed rows show every line of the report once, and each total stands before the details of
its group and before the totals of the groups within it. -/
theorem totals_before_members {d : Definition} {options : ReportOptions} {calls : List Reading}
    {b : Assembly} (hids : (d.items.map Item.id).Nodup) (hsorting : d.sortingItems ≠ [])
    (hplain : ∀ item ∈ d.sortingItems, item.isSummarizable = false)
    (hcalls : ∀ call ∈ calls, call.addressed = false)
    (hb : ((start d options).readAll calls).complete = .ok b) :
    ∃ lines : List ReportLine, lines.Perm (d.lines b.details)
      ∧ List.Forall₂ b.ShowsLine lines b.completion.rows
      ∧ ∀ (i j : Nat) (total member : ReportLine), lines[i]? = some total →
        lines[j]? = some member → total.Encloses d.axes member → i < j := by
  have h := consistent_readAll (consistent_start d options) calls
  have hlevel := level_readAll hcalls (consistent_start d options) nofun
  obtain ⟨hd, -⟩ := options_readAll (start d options) calls
  generalize (start d options).readAll calls = a at h hlevel hd hb
  obtain rfl : a.definition = d := hd
  have hunsummarized : ∀ item ∈ a.sorting, item ∉ a.definition.summarized :=
    List.forall_mem_map.2 fun item hitem =>
      Definition.id_notMem_summarized hids (a.definition.sortingItems_subset hitem)
        (hplain item hitem)
  have hnonempty : a.sorting ≠ [] := List.map_eq_nil_iff.not.2 hsorting
  obtain ⟨lines, hperm, hshows, hfirst⟩ := exists_lines h hb
  obtain ⟨-, -, completion, rfl⟩ := rows_complete hb
  exact ⟨lines, hperm, hshows, fun i j total member hi hj hencloses => hfirst hi hj
    fun r r' hr hr' => treeOrder_of_encloses hnonempty hunsummarized hlevel hr hr' hencloses⟩

/-- Sales by region and representative, in this order. -/
def byRepresentative : Definition where
  id := 1
  name := "Representatives"
  tableName := "Sales"
  items := [
    { id := 1, name := "Region", displayType := .string, groupBy := true, orderBy := true },
    { id := 2, name := "Representative", displayType := .string, groupBy := true, orderBy := true }]

def representatives : List Reading :=
  [.cell 1 { value := .text "EU" }, .cell 2 { value := .text "Alice" }, .row,
    .cell 2 { value := .text "Carl" }, .row]

theorem sortingItems_byRepresentative :
    byRepresentative.sortingItems = byRepresentative.items := by cbv

theorem axes_byRepresentative : byRepresentative.axes = [1, 2] := by cbv

/-- Groups of rank zero are regions. -/
theorem keyOf_region (r : Row) : keyOf (byRepresentative.axes.take 1) r = [r.sortText 1] := by
  rw [axes_byRepresentative]
  rfl

theorem exists_total_detail {lines : List ReportLine} {details : List Row}
    (h : lines.Perm (byRepresentative.lines details)) {r : Row} (hr : r ∈ details) :
    ∃ i j : Nat, lines[i]? = some (.total 0 [r.sortText 1]) ∧ lines[j]? = some (.detail r) := by
  have htotal : .total 0 [r.sortText 1] ∈ byRepresentative.lines details :=
    keyOf_region r ▸ byRepresentative.total_mem_lines (by simp [axes_byRepresentative]) hr
  obtain ⟨i, hi⟩ := List.mem_iff_getElem?.1 (h.mem_iff.2 htotal)
  obtain ⟨j, hj⟩ := List.mem_iff_getElem?.1
    (h.mem_iff.2 (List.mem_append_left _ (List.mem_map_of_mem hr)))
  exact ⟨i, j, hi, hj⟩

theorem exists_complete_representatives :
    ∃ b, ((start byRepresentative plainOptions).readAll representatives).complete = .ok b
      ∧ b.details.map (fun r => (r.sortText 1, r.sortText 2))
        = [("EU", "Alice"), ("", "Carl")] := by
  obtain ⟨b, hb⟩ := exists_complete_of_undated (a := (start byRepresentative plainOptions).readAll
    representatives) (fun _ => rfl) (by decide)
  obtain ⟨-, rfl⟩ := complete_eq_ok.1 hb
  refine ⟨_, hb, ?_⟩
  change ((start byRepresentative plainOptions).readAll representatives).details.map _ = _
  cbv

/-- The total of a region stands before the sales in it, whoever has made them. -/
theorem totals_before_members_representatives :
    (byRepresentative.items.map Item.id).Nodup ∧ byRepresentative.sortingItems ≠ []
      ∧ (∀ item ∈ byRepresentative.sortingItems, item.isSummarizable = false)
      ∧ (∀ call ∈ representatives, call.addressed = false)
      ∧ ∃ b, ((start byRepresentative plainOptions).readAll representatives).complete = .ok b
        ∧ b.details.map (fun r => (r.sortText 1, r.sortText 2)) = [("EU", "Alice"), ("", "Carl")]
        ∧ ∃ lines : List ReportLine, lines.Perm (byRepresentative.lines b.details)
          ∧ List.Forall₂ b.ShowsLine lines b.completion.rows
          ∧ ∀ r ∈ b.details, ∃ i j : Nat, lines[i]? = some (.total 0 [r.sortText 1])
            ∧ lines[j]? = some (.detail r) ∧ i < j := by
  have hids : (byRepresentative.items.map Item.id).Nodup := by decide
  have hsorting : byRepresentative.sortingItems ≠ [] := sortingItems_byRepresentative ▸ nofun
  have hplain : ∀ item ∈ byRepresentative.sortingItems, item.isSummarizable = false :=
    sortingItems_byRepresentative ▸ by decide
  have hcalls : ∀ call ∈ representatives, call.addressed = false := by decide
  obtain ⟨b, hb, hdetails⟩ := exists_complete_representatives
  obtain ⟨lines, hperm, hshows, hfirst⟩ :=
    totals_before_members hids hsorting hplain hcalls hb
  refine ⟨hids, hsorting, hplain, hcalls, b, hb, hdetails, lines, hperm, hshows, fun r hr => ?_⟩
  obtain ⟨i, j, hi, hj⟩ := exists_total_detail hperm hr
  exact ⟨i, j, hi, hj, hfirst i j _ _ hi hj (keyOf_region r)⟩

end Assembly

end Reporting

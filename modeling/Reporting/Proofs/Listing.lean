import Reporting.Proofs.Enclosure

/-!
# Totals after the rows that they total

In a listing a total comes after a row of its group as long as the row shows nothing on the sorted
items that do not key the group, and before it otherwise, since the total shows nothing there
(`total_after_member_iff`). So the totals of the innermost rank come after all of their rows.
-/

namespace Reporting

open RankTotals (keyOf)

namespace Formatting

theorem valueText?_of_isText {item : Item} (h : item.displayType.isText) (l : Locale)
    (v : CellValue) : valueText? item l v = .ok none := by
  have hdate : item.displayType.isDate = false := by
    cases hd : item.displayType <;> simp_all [DisplayType.isText, DisplayType.isDate]
  have hnumeric : item.displayType.isNumeric = false := by
    cases hd : item.displayType <;> simp_all [DisplayType.isText, DisplayType.isNumeric]
  have hflag : item.displayType ≠ .yesNo := fun hd => by simp [hd, DisplayType.isText] at h
  cases v <;> simp [valueText?, hdate, hnumeric, hflag] <;> rfl

/-- Without a record, the cells of a text column are shown as they are. -/
theorem display_mapping {context : CellContext} {c c' : Cell} (hr : context.record = none)
    (htext : context.item.displayType.isText) (h : mapping context c = .ok c') :
    c'.display = c.display := by
  unfold mapping at h
  rw [hr] at h
  obtain ⟨text, hvalue, h⟩ := bind_eq_ok.1 h
  rw [valueText?_of_isText htext] at hvalue
  cases hvalue
  cases h
  rfl

end Formatting

namespace Assembly

variable {a : Assembly}

theorem sortText_shown (hmap : ∀ item, a.options.mappings.get item = Formatting.mapping) {r : Row}
    (hr : ∃ cells, a.readyCells r = .ok cells) {id : Int} (hid : id ∈ a.items.map Item.id)
    (htext : ∀ item ∈ a.items, item.id = id → item.displayType.isText) :
    (a.shown r).sortText id = r.sortText id := by
  rcases cell?_shown hr id with ⟨hnot, -⟩ | ⟨item, hitem, rfl, c, hc, hcell⟩
  · exact absurd hid hnot
  · rw [readyCell, hmap] at hc
    rw [Row.sortText, hcell, Option.map_some, Option.getD_some,
      Formatting.display_mapping rfl (htext item hitem rfl) hc, Row.sortText]
    cases r.cell? item.id <;> rfl

section Listed

variable {rank : Nat} {key : GroupKey} {total detail r : Row}

/-- The order in which a listing has a total and a row of its group. -/
theorem listingOrder_total (hsorting : a.sorting ≠ [])
    (hplain : ∀ item ∈ a.sorting, item ∉ a.definition.summarized)
    (hlevel : ∀ r ∈ a.details, r.level = a.definition.axes.length)
    (hshown : ∀ r ∈ a.sources, ∀ item ∈ a.sorting, (a.shown r).sortText item = r.sortText item)
    (htotal : a.ShowsLine (.total rank key) total) (hdetail : a.ShowsLine (.detail r) detail)
    (hkey : keyOf (a.definition.axes.take (rank + 1)) r = key) :
    Row.listingOrder a.sorting total detail
      = if ∀ item ∈ a.sorting, item ∉ a.definition.axes.take (rank + 1) → r.sortText item = ""
        then .gt else .lt := by
  obtain ⟨t, ht, htotal, rfl⟩ := htotal
  obtain ⟨_, hr, ⟨hmember⟩, rfl⟩ := hdetail
  have hbelow : t.level < r.level := level_of_encloses hlevel htotal (.detail hmember) hkey
  have htexts : ∀ item ∈ a.sorting, (a.shown t).sortText item
      = if item ∈ a.definition.axes.take (rank + 1) then (a.shown r).sortText item else "" := by
    intro item hitem
    cases htotal with
    | total _ _ _ htotal =>
      rw [hshown t ht item hitem, hshown r hr item hitem,
        sortText_total htotal hmember hkey (hplain item hitem)]
  have halike : (∀ item ∈ a.sorting, (a.shown t).sortText item = (a.shown r).sortText item)
      ↔ ∀ item ∈ a.sorting, item ∉ a.definition.axes.take (rank + 1) → r.sortText item = "" := by
    refine forall₂_congr fun item hitem => ?_
    rw [htexts item hitem, hshown r hr item hitem, ite_eq_left_iff]
    exact ⟨fun h hother => (h hother).symm, fun h hother => (h hother).symm⟩
  have hcolumns : Row.compareColumns a.sorting (a.shown t) (a.shown r)
      = if ∀ item ∈ a.sorting, (a.shown t).sortText item = (a.shown r).sortText item
        then .eq else .lt := by
    refine Row.compareColumns_eq fun item hitem => ?_
    rw [htexts item hitem]
    split
    · exact .inl rfl
    · exact .inr rfl
  rw [Row.listingOrder, if_neg (by simpa using hsorting), hcolumns, if_congr halike rfl rfl]
  split
  · exact compare_gt_iff_gt.2 hbelow
  · rfl

end Listed

section Placed

variable {b : Assembly} {d : Definition} (hd : a.definition = d) (hsorting : d.sortingItems ≠ [])
  (hkeyed : ∀ item ∈ d.sortingItems, item.id ∈ d.axes ∧ item.id ∉ d.summarized)
  (htext : ∀ item ∈ d.printedItems, item.id ∈ d.axes → item.displayType.isText)
  (hmap : ∀ item, a.options.mappings.get item = Formatting.mapping)

include hd hkeyed htext hmap in
theorem sortText_sorting {r : Row} (hr : ∃ cells, a.readyCells r = .ok cells) :
    ∀ item ∈ a.sorting, (a.shown r).sortText item = r.sortText item := by
  subst hd
  refine List.forall_mem_map.2 fun item hitem => ?_
  have haxis := (hkeyed item hitem).1
  exact sortText_shown hmap hr (a.definition.axes_subset_items haxis)
    fun other hother hid => htext other hother (hid ▸ haxis)

include hd hsorting hkeyed htext hmap in
/-- A listing shows every line of the report once, and has a total after a row of its group if the
row shows nothing where the total shows nothing, and before it otherwise. -/
theorem exists_listed (h : Consistent a) (hlevel : ∀ r ∈ a.details, r.level = d.axes.length)
    (hb : a.complete = .ok b) :
    ∃ lines : List ReportLine, lines.Perm (d.lines b.details)
      ∧ List.Forall₂ b.ShowsLine lines b.listing
      ∧ ∀ (i j rank : Nat) (key : GroupKey) (r : Row), lines[i]? = some (.total rank key) →
        lines[j]? = some (.detail r) → keyOf (d.axes.take (rank + 1)) r = key →
        (j < i ↔ ∀ item ∈ d.sortingItems, item.id ∉ d.axes.take (rank + 1) →
          r.sortText item.id = "") := by
  have hshown (r : Row) (hr : r ∈ a.sources) :=
    sortText_sorting hd hkeyed htext hmap ((rows_complete hb).2.1 r hr)
  subst hd
  have hplain : ∀ item ∈ a.sorting, item ∉ a.definition.summarized :=
    List.forall_mem_map.2 fun item hitem => (hkeyed item hitem).2
  obtain ⟨lines, hlines, hshows, -⟩ := exists_lines h hb
  obtain ⟨-, -, completion, rfl⟩ := rows_complete hb
  obtain ⟨listed, hperm, hlisted, hfirst⟩ :=
    Row.exists_arranged (Row.listingOrder a.sorting) hshows
  refine ⟨listed, hperm.trans hlines, hlisted, fun i j rank key r hi hj hkey => ?_⟩
  have horder {total detail : Row} (htotal : a.ShowsLine (.total rank key) total)
      (hdetail : a.ShowsLine (.detail r) detail) :=
    listingOrder_total (List.map_eq_nil_iff.not.2 hsorting) hplain hlevel hshown htotal hdetail hkey
  have hitems : (∀ item ∈ a.definition.sortingItems,
      item.id ∉ a.definition.axes.take (rank + 1) → r.sortText item.id = "")
      ↔ ∀ item ∈ a.sorting, item ∉ a.definition.axes.take (rank + 1) → r.sortText item = "" :=
    List.forall_mem_map (P := fun item =>
      item ∉ a.definition.axes.take (rank + 1) → r.sortText item = "") |>.symm
  rw [hitems]
  split_ifs at horder with hempty
  · refine iff_of_true (hfirst hj hi fun detail total hdetail htotal => ?_) hempty
    exact Std.OrientedCmp.gt_iff_lt.1 (horder htotal hdetail)
  · exact iff_of_false (Nat.lt_asymm (hfirst hi hj fun _ _ => horder)) hempty

end Placed

/-- Where every sorted item keys the totals and all that key them show text, the listing has a total
after a row of its group just if the row shows nothing on the sorted items past the key. -/
theorem total_after_member_iff {d : Definition} {options : ReportOptions} {calls : List Reading}
    {b : Assembly} (hsorting : d.sortingItems ≠ [])
    (hkeyed : ∀ item ∈ d.sortingItems, item.id ∈ d.axes ∧ item.id ∉ d.summarized)
    (htext : ∀ item ∈ d.printedItems, item.id ∈ d.axes → item.displayType.isText)
    (hmap : ∀ item, options.mappings.get item = Formatting.mapping)
    (hcalls : ∀ call ∈ calls, call.addressed = false)
    (hb : ((start d options).readAll calls).complete = .ok b) :
    ∃ lines : List ReportLine, lines.Perm (d.lines b.details)
      ∧ List.Forall₂ b.ShowsLine lines b.listing
      ∧ ∀ (i j rank : Nat) (key : GroupKey) (r : Row), lines[i]? = some (.total rank key) →
        lines[j]? = some (.detail r) → keyOf (d.axes.take (rank + 1)) r = key →
        (j < i ↔ ∀ item ∈ d.sortingItems, item.id ∉ d.axes.take (rank + 1) →
          r.sortText item.id = "") := by
  obtain ⟨hd, ho⟩ := options_readAll (start d options) calls
  exact exists_listed hd hsorting hkeyed htext (ho ▸ hmap)
    (consistent_readAll (consistent_start d options) calls)
    (level_readAll hcalls (consistent_start d options) nofun) hb

section Representatives

theorem keyed_byRepresentative : ∀ item ∈ byRepresentative.sortingItems,
    item.id ∈ byRepresentative.axes ∧ item.id ∉ byRepresentative.summarized := by
  have hsummarized : byRepresentative.summarized = [] := by cbv
  rw [sortingItems_byRepresentative, axes_byRepresentative, hsummarized]
  decide

theorem isText_byRepresentative : ∀ item ∈ byRepresentative.printedItems,
    item.id ∈ byRepresentative.axes → item.displayType.isText := by
  have hprinted : byRepresentative.printedItems = byRepresentative.items := by cbv
  rw [hprinted, axes_byRepresentative]
  decide

/-- A region is totalled after the sales that name no representative, and before the others. -/
theorem total_after_member_iff_representatives :
    byRepresentative.sortingItems ≠ []
      ∧ (∀ item ∈ byRepresentative.sortingItems,
        item.id ∈ byRepresentative.axes ∧ item.id ∉ byRepresentative.summarized)
      ∧ (∀ item ∈ byRepresentative.printedItems, item.id ∈ byRepresentative.axes →
        item.displayType.isText)
      ∧ (∀ item, plainOptions.mappings.get item = Formatting.mapping)
      ∧ (∀ call ∈ representatives, call.addressed = false)
      ∧ ∃ b, ((start byRepresentative plainOptions).readAll representatives).complete = .ok b
        ∧ b.details.map (fun r => (r.sortText 1, r.sortText 2)) = [("EU", "Alice"), ("", "Carl")]
        ∧ ∃ lines : List ReportLine, lines.Perm (byRepresentative.lines b.details)
          ∧ List.Forall₂ b.ShowsLine lines b.listing
          ∧ ∀ r ∈ b.details, ∃ i j : Nat, lines[i]? = some (.total 0 [r.sortText 1])
            ∧ lines[j]? = some (.detail r) ∧ (j < i ↔ r.sortText 2 = "") := by
  have hsorting : byRepresentative.sortingItems ≠ [] := sortingItems_byRepresentative ▸ nofun
  have hmap : ∀ item, plainOptions.mappings.get item = Formatting.mapping := fun _ => rfl
  have hcalls : ∀ call ∈ representatives, call.addressed = false := by decide
  obtain ⟨b, hb, hdetails⟩ := exists_complete_representatives
  obtain ⟨lines, hperm, hshows, hplaces⟩ := total_after_member_iff hsorting keyed_byRepresentative
    isText_byRepresentative hmap hcalls hb
  refine ⟨hsorting, keyed_byRepresentative, isText_byRepresentative, hmap, hcalls, b, hb, hdetails,
    lines, hperm, hshows, fun r hr => ?_⟩
  obtain ⟨i, j, hi, hj⟩ := exists_total_detail hperm hr
  refine ⟨i, j, hi, hj, (hplaces i j 0 _ r hi hj (keyOf_region r)).trans ?_⟩
  rw [sortingItems_byRepresentative, axes_byRepresentative]
  simp [byRepresentative]

/-- The total of a region stands before a sale in it: not every total follows its rows. -/
theorem total_before_member_representatives :
    ∃ b, ((start byRepresentative plainOptions).readAll representatives).complete = .ok b
      ∧ ∃ lines : List ReportLine, lines.Perm (byRepresentative.lines b.details)
        ∧ List.Forall₂ b.ShowsLine lines b.listing
        ∧ ∃ (i j : Nat) (r : Row), lines[i]? = some (.total 0 ["EU"])
          ∧ lines[j]? = some (.detail r) ∧ keyOf (byRepresentative.axes.take 1) r = ["EU"]
          ∧ i < j := by
  have hlevel : ∀ r ∈ ((start byRepresentative plainOptions).readAll representatives).details,
      r.level = byRepresentative.axes.length :=
    level_readAll (by decide) (consistent_start byRepresentative plainOptions) nofun
  obtain ⟨b, hb, hdetails⟩ := exists_complete_representatives
  obtain ⟨lines, hperm, hshows, hplaces⟩ := exists_listed (d := byRepresentative)
    (options_readAll _ _).1 (sortingItems_byRepresentative ▸ nofun) keyed_byRepresentative
    isText_byRepresentative (fun _ => rfl)
    (consistent_readAll (consistent_start byRepresentative plainOptions) representatives) hlevel hb
  obtain ⟨r, hr, htexts⟩ : ∃ r ∈ b.details, (r.sortText 1, r.sortText 2) = ("EU", "Alice") :=
    List.mem_map.1 (hdetails ▸ List.mem_cons_self)
  obtain ⟨hregion, hname⟩ := Prod.mk.inj htexts
  obtain ⟨i, j, hi, hj⟩ := exists_total_detail hperm hr
  have hkey : keyOf (byRepresentative.axes.take 1) r = [r.sortText 1] := keyOf_region r
  rw [hregion] at hi hkey
  have hbefore : ¬j < i := by
    rw [hplaces i j 0 _ r hi hj hkey, sortingItems_byRepresentative]
    intro hempty
    have hrest : r.sortText 2 = "" := hempty _ (List.mem_of_getElem? (i := 1) rfl)
      (by rw [axes_byRepresentative]; decide)
    exact absurd (hname.symm.trans hrest) (by decide)
  have hdistinct : i ≠ j := by
    rintro rfl
    cases hi.symm.trans hj
  exact ⟨b, hb, lines, hperm, hshows, i, j, r, hi, hj, hkey, by omega⟩

end Representatives

end Assembly

end Reporting

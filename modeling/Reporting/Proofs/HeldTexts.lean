import Reporting.Mapping.Entity
import Reporting.Proofs.ReadBack

/-!
# Texts that completion keeps

A text that is looked up for a cell while its record is read, in a column of the query or by the
entity mapping, stays with a value that has no text of its own: a value of a lookup, or the
identifier of a row (`Formatting.Settled`). Completion, which formats values once more, leaves such
texts as they are (`texts_survive`), unless another printed item has the same id, whose type then
formats the value (`text_lost_repeated`).
-/

namespace Reporting

open Projection (rawColumn displayColumn)

namespace Formatting

section Texts

variable {item : Item} {l : Locale} {c c' : Cell}

/-- Values of lookups have no text of their own, whatever they are. -/
theorem valueText?_of_lookupKind (h : item.lookupKind ≠ .plain) (v : CellValue) :
    valueText? item l v = .ok none := by
  have htype : ∀ (hasReference : Bool) (t : DisplayType), t.lookupKind hasReference ≠ .plain →
      t.isDate = false ∧ t.isNumeric = false ∧ t ≠ .yesNo := by
    intro hasReference t
    cases t <;> cases hasReference <;> decide
  obtain ⟨hdate, hnumeric, hflag⟩ := htype _ _ h
  cases v <;> simp [valueText?, hdate, hnumeric, hflag] <;> rfl

theorem format_eq_ok : format item l c = .ok c' ↔ ∃ text, valueText? item l c.value = .ok text
    ∧ c' = { c with text := text.or c.text, statisticTexts := statisticText item l c } := by
  unfold format
  rw [bind_eq_ok]
  exact exists_congr fun text => and_congr_right fun _ =>
    ⟨fun h => by cases h; rfl, fun h => h ▸ rfl⟩

/-- Formatting a cell again changes nothing more. -/
theorem format_again (h : format item l c = .ok c') : format item l c' = .ok c' := by
  obtain ⟨text, htext, rfl⟩ := format_eq_ok.1 h
  refine format_eq_ok.2 ⟨text, htext, ?_⟩
  cases text <;> rfl

/-- The text that a cell has is the one that its value is formatted as, if it is formatted. -/
def Settled (item : Item) (l : Locale) (c : Cell) : Prop :=
  ∀ s, c.text = some s → ∀ t, valueText? item l c.value = .ok (some t) → t = s

theorem settled_of_text_eq_none (h : c.text = none) : Settled item l c := by
  intro s hs
  rw [h] at hs
  cases hs

theorem settled_of_valueText?_eq_none (h : valueText? item l c.value = .ok none) :
    Settled item l c := by
  intro s _ t ht
  rw [h] at ht
  cases ht

theorem settled_format (h : format item l c = .ok c') :
    Settled item l c' := by
  obtain ⟨text, hvalue, rfl⟩ := format_eq_ok.1 h
  intro s hs t ht
  cases hvalue.symm.trans ht
  exact Option.some.inj hs

theorem text_format_of_settled (hc : Settled item l c) {s : String} (hs : c.text = some s)
    (h : format item l c = .ok c') : c'.text = some s := by
  obtain ⟨text, hvalue, rfl⟩ := format_eq_ok.1 h
  cases text with
  | none => exact hs
  | some t => exact congrArg some (hc s hs t hvalue)

end Texts

theorem isIdentifier_of_isRecordColumn {column : QueryColumn} (h : isRecordColumn column = true) :
    isIdentifier column = true := by
  rw [isIdentifier, h, Bool.or_true]

end Formatting

/-- The mappings that there are for the columns of a report: formatting, and the entity mapping with
a lookup of any kind. -/
inductive ColumnMapping.Standard : ColumnMapping → Prop
  | formatting : Standard Formatting.mapping
  | entity (lookup : EntityLookup) : Standard (Entity.mapping lookup)

namespace ColumnMapping.Standard

open Formatting (Settled)

variable {m : ColumnMapping} {context : CellContext} {c c' : Cell}

/-- Without a record both mappings format. -/
theorem eq_format (h : m.Standard) (hrecord : context.record = none) (c : Cell) :
    m context c = Formatting.format context.item context.locale c := by
  have hformat : Formatting.mapping context c
      = Formatting.format context.item context.locale c := by
    rw [Formatting.mapping, hrecord]
  cases h with
  | formatting => exact hformat
  | entity lookup =>
    rw [Entity.mapping, hformat, hrecord]
    cases Formatting.format context.item context.locale c <;> rfl

/-- Without a record the value and its table stay, and nothing changes the second time. -/
theorem again (h : m.Standard) (hrecord : context.record = none) (hc : m context c = .ok c') :
    c'.value = c.value ∧ c'.tableName = c.tableName ∧ m context c' = .ok c' := by
  rw [h.eq_format hrecord] at hc
  rw [h.eq_format hrecord]
  obtain ⟨text, -, hcell⟩ := Formatting.format_eq_ok.1 hc
  exact ⟨by rw [hcell], by rw [hcell], Formatting.format_again hc⟩

end ColumnMapping.Standard

section Reading

open Formatting (Settled)

variable {item : Item} {column : QueryColumn} {r : Record} {l : Locale} {c : Cell}

/-- Where a record has no identifier, the raw value is none either. -/
theorem int64?_rawCellValue (h : r.int64? column.label = none) :
    (rawCellValue item column r).int64? = none := by
  unfold rawCellValue
  split
  · rw [h]
    rfl
  · rw [Record.int64?] at h
    cases hv : r.get? column.label with
    | none => rfl
    | some v =>
      rw [hv] at h
      exact h

/-- The text that a lookup of entities finds stands for the identifier of a row. -/
theorem settled_entityText {lookup : EntityLookup}
    (h : c = Formatting.readIdentifier column r { value := rawCellValue item column r }) :
    Settled item l { c with text := (Entity.text? lookup c).or c.text } := by
  have htext : c.text = none := by rw [h]; rfl
  cases hid : r.int64? column.label with
  | none =>
    have hvalue : c.value.int64? = none := by
      rw [h, Formatting.readIdentifier, hid]
      exact int64?_rawCellValue hid
    have hnone : Entity.text? lookup c = none := by
      unfold Entity.text?
      rw [hvalue]
      cases c.tableName <;> rfl
    exact Formatting.settled_of_text_eq_none (by rw [hnone, htext]; rfl)
  | some id =>
    refine Formatting.settled_of_valueText?_eq_none ?_
    have hvalue : c.value = .reference id := by
      rw [h, Formatting.readIdentifier, hid]
      rfl
    simp only [hvalue]
    rfl

/-- The cell that a mapping makes of the raw value of an item. -/
def rawCell (m : ColumnMapping) (l : Locale) (item : Item) (column : QueryColumn) (r : Record) :
    Except ReportError Cell :=
  m { item := item, column := some column, locale := l, record := some r }
    { value := rawCellValue item column r }

theorem rawCell_formatting : rawCell Formatting.mapping l item column r
    = if Formatting.isIdentifier column then
        .ok (Formatting.readIdentifier column r { value := rawCellValue item column r })
      else Formatting.format item l { value := rawCellValue item column r } := rfl

theorem rawCell_entity_eq_ok {lookup : EntityLookup} :
    rawCell (Entity.mapping lookup) l item column r = .ok c ↔
      ∃ c', rawCell Formatting.mapping l item column r = .ok c'
        ∧ c = if Formatting.isRecordColumn column then
            { c' with text := (Entity.text? lookup c').or c'.text } else c' := by
  have hentity : rawCell (Entity.mapping lookup) l item column r
      = rawCell Formatting.mapping l item column r >>= fun c' =>
        if Formatting.isRecordColumn column then
          .ok { c' with text := (Entity.text? lookup c').or c'.text } else .ok c' := rfl
  rw [hentity, bind_eq_ok]
  refine exists_congr fun c' => and_congr_right fun _ => ?_
  split <;> exact ⟨fun h => (Except.ok.inj h).symm, fun h => congrArg Except.ok h.symm⟩

/-- However an item is mapped, the text of its cell is one that formatting leaves as it is. -/
theorem settled_rawCell {m : ColumnMapping} (hm : m.Standard)
    (h : rawCell m l item column r = .ok c) : Settled item l c := by
  have hformatted : ∀ {c'}, rawCell Formatting.mapping l item column r = .ok c' →
      Settled item l c' := by
    intro c' hc'
    rw [rawCell_formatting] at hc'
    split at hc'
    · cases hc'
      exact Formatting.settled_of_text_eq_none rfl
    · exact Formatting.settled_format hc'
  cases hm with
  | formatting => exact hformatted h
  | entity lookup =>
    obtain ⟨c', hc', rfl⟩ := rawCell_entity_eq_ok.1 h
    split
    · rename_i hrecord
      rw [rawCell_formatting, if_pos (Formatting.isIdentifier_of_isRecordColumn hrecord)] at hc'
      exact settled_entityText (Except.ok.inj hc').symm
    · exact hformatted hc'

/-- On the record column the entity mapping sets the text that its lookup finds, or none. -/
theorem text_rawCell_entity {lookup : EntityLookup}
    (hrecord : Formatting.isRecordColumn column = true)
    (h : rawCell (Entity.mapping lookup) l item column r = .ok c) :
    c.text = Entity.text? lookup c := by
  obtain ⟨c', hc', rfl⟩ := rawCell_entity_eq_ok.1 h
  rw [rawCell_formatting, if_pos (Formatting.isIdentifier_of_isRecordColumn hrecord)] at hc'
  cases hc'
  rw [if_pos hrecord]
  exact Option.or_none

/-- The columns of an item are read into the cell of its raw value, with the looked-up text if there
is a column for it. -/
theorem foldlM_readColumn_eq_ok {a : Assembly} {table name label : String}
    {text? : Option Sql.Expr} :
    (rawColumn table item name :: (text?.map (displayColumn item name label)).toList).foldlM
        (readColumn a item r) .empty = .ok c ↔
      ∃ c', rawCell (a.options.mappings.get item.id) a.options.locale item
          (rawColumn table item name) r = .ok c'
        ∧ c = if text?.isSome then { c' with text := r.text? label } else c' := by
  rw [List.foldlM_cons, bind_eq_ok]
  refine exists_congr fun c' => and_congr Iff.rfl ?_
  cases text? with
  | none => exact ⟨fun h => by cases h; rfl, fun h => h ▸ rfl⟩
  | some text => exact ⟨fun h => by cases h; rfl, fun h => h ▸ rfl⟩

/-- A cell as it is read: the text of a lookup is the one in its display column, and the text in the
record column is the one that the entity mapping looks up. -/
structure ReadCell (item : Item) (name : String) (m : ColumnMapping) (l : Locale) (r : Record)
    (c : Cell) : Prop where
  looked : item.lookupKind ≠ .plain →
    ∃ label, item.displayAlias = some label ∧ c.text = r.text? label
  entity : item.lookupKind = .plain → name = Formatting.recordColumn →
    ∀ lookup, m = Entity.mapping lookup → c.text = Entity.text? lookup c
  settled : Settled item l c

end Reading

section Survival

variable {dialect : Sql.Dialect} {access : AccessControl} {options : QueryOptions} {d : Definition}
  {resolver : Resolver} {filters : List Filter} {page : Page} {q : ReportQuery} {item : Item}
  {name : String} {a b : Assembly} {r : Record}

/-- What the columns of an item in a query are read as. -/
theorem readCell_of_build
    (h : ReportQuery.build dialect access options d resolver filters page = .ok q)
    (halone : d.Alone item) (hname : item.columnName = some name)
    (hm : (a.options.mappings.get item.id).Standard) {c : Cell}
    (hc : (q.columnsOf item.id).foldlM (readColumn a item r) .empty = .ok c) :
    ReadCell item name (a.options.mappings.get item.id) a.options.locale r c := by
  obtain ⟨label, text?, hlabel, hcolumns, hplain, -⟩ :=
    ReportQuery.exists_columnsOf_eq h halone hname
  rw [hcolumns] at hc
  obtain ⟨c', hc', rfl⟩ := foldlM_readColumn_eq_ok.1 hc
  cases text? with
  | none =>
    refine ⟨fun hkind => absurd (hplain.1 rfl) hkind, fun _ hrecord lookup hentity => ?_,
      settled_rawCell hm hc'⟩
    rw [hentity] at hc'
    exact text_rawCell_entity (beq_iff_eq.2 hrecord) hc'
  | some text =>
    have hkind : item.lookupKind ≠ .plain := fun hkind => Option.some_ne_none text (hplain.2 hkind)
    exact ⟨fun _ => ⟨label, hlabel, rfl⟩, fun hplain => absurd hplain hkind,
      Formatting.settled_of_valueText?_eq_none (Formatting.valueText?_of_lookupKind hkind _)⟩

/-- A record gives a row with a cell of every item that stands alone and has a column. -/
theorem exists_readCell
    (h : ReportQuery.build dialect access options d resolver filters page = .ok q)
    (halone : d.Alone item) (hname : item.columnName = some name)
    {financial : FinancialSettings} (hd : a.definition = d)
    (hm : (a.options.mappings.get item.id).Standard)
    (hadd : addRecord q financial a r = .ok b) :
    ∃ row c, b.details = a.details ++ [row] ∧ row.cell? item.id = some c
      ∧ ReadCell item name (a.options.mappings.get item.id) a.options.locale r c := by
  obtain ⟨label, text?, -, hcolumns, -⟩ := ReportQuery.exists_columnsOf_eq h halone hname
  have hne : q.columnsOf item.id ≠ [] := hcolumns ▸ List.cons_ne_nil _ _
  obtain ⟨a', hread, -⟩ := bind_eq_ok.1 hadd
  rw [foldlM_readItem] at hread
  obtain ⟨staged, hstage, -⟩ := map_eq_ok.1 hread
  obtain ⟨before, after, hitems, hids⟩ := halone
  have hsplit : a.items = before ++ item :: after := by rw [Assembly.items, hd, hitems]
  have hstage' := hstage
  rw [hsplit] at hstage'
  have hafter : item.id ∉ after.map Item.id := by
    intro hmem
    obtain ⟨i, hi, hid⟩ := List.mem_map.1 hmem
    exact hids i (List.mem_append_right _ hi) hid
  obtain ⟨c, hc, hcell⟩ := cell?_foldlM_of_alone hstage' hafter hne
  obtain ⟨row, rfl, hrow⟩ := Option.bind_eq_some_iff.1 hcell
  rw [addRecord_eq hstage] at hadd
  cases hadd
  refine ⟨_, c, rfl, (cell?_placed financial row item.id).trans hrow, ?_⟩
  exact readCell_of_build h ⟨before, after, hitems, hids⟩ hname hm hc

theorem options_addRecord {financial : FinancialSettings} (h : addRecord q financial a r = .ok b) :
    b.definition = a.definition ∧ b.options = a.options := by
  obtain ⟨a', hread, h⟩ := bind_eq_ok.1 h
  rw [foldlM_readItem] at hread
  obtain ⟨staged, -, rfl⟩ := map_eq_ok.1 hread
  split at h
  · cases h
    exact Assembly.options_read { a with staged := staged } (.rowAt _ _)
  · cases h
    exact Assembly.options_read { a with staged := staged } .row

/-- What completion shows for an item that stands alone is made of the cell that the row has. -/
theorem readyCell_of_complete {later done : Assembly} {row : Row} {c : Cell}
    (halone : later.definition.Alone item) (hrow : row ∈ later.sources)
    (hcell : row.cell? item.id = some c) (h : later.complete = .ok done) :
    later.shown row ∈ done.completion.rows
      ∧ ∃ shown, (later.shown row).cell? item.id = some shown
        ∧ later.options.mappings.get item.id { item := item, locale := later.options.locale } c
          = .ok shown := by
  obtain ⟨hrows, hready, -⟩ := Assembly.rows_complete h
  constructor
  · rw [hrows]
    exact List.mem_map_of_mem ((List.mergeSort_perm _ _).mem_iff.2 hrow)
  · rcases Assembly.cell?_shown (hready row hrow) item.id
      with ⟨hnot, -⟩ | ⟨i, hi, hid, shown, hshown, hget⟩
    · exact absurd (List.mem_map_of_mem halone.mem) hnot
    · obtain rfl := halone.eq_of_id hi hid
      refine ⟨shown, hget, ?_⟩
      rw [← hshown, Assembly.readyCell, hcell, Option.getD_some]

/-- Completion keeps values, tables and, for an item with an id of its own, the texts that cells
hold once their record has been read. -/
theorem texts_survive :
    (∀ m : ColumnMapping, m.Standard → ∀ (context : CellContext) (c c' : Cell),
      context.record = none → m context c = .ok c' →
        c'.value = c.value ∧ c'.tableName = c.tableName ∧ m context c' = .ok c')
    ∧ ∀ (dialect : Sql.Dialect) (access : AccessControl) (options : QueryOptions) (d : Definition)
        (resolver : Resolver) (filters : List Filter) (page : Page) (q : ReportQuery) (item : Item)
        (name : String) (financial : FinancialSettings) (a b : Assembly) (r : Record),
      ReportQuery.build dialect access options d resolver filters page = .ok q →
      d.Alone item → item.columnName = some name → a.definition = d →
      (a.options.mappings.get item.id).Standard → addRecord q financial a r = .ok b →
        b.definition = d ∧ b.options = a.options
          ∧ ∃ row c, b.details = a.details ++ [row] ∧ row.cell? item.id = some c
          ∧ ReadCell item name (a.options.mappings.get item.id) a.options.locale r c
          ∧ ∀ later done : Assembly, later.definition = d → later.options = a.options →
            row ∈ later.sources → later.complete = .ok done →
              later.shown row ∈ done.completion.rows
                ∧ ∃ shown, (later.shown row).cell? item.id = some shown
                  ∧ shown.value = c.value ∧ shown.tableName = c.tableName
                  ∧ ∀ s, c.text = some s → shown.display = s := by
  refine ⟨fun m hm context c c' => hm.again, ?_⟩
  intro dialect access options d resolver filters page q item name financial a b r hbuild halone
    hname hd hm hadd
  obtain ⟨row, c, hdetails, hcell, hread⟩ := exists_readCell hbuild halone hname hd hm hadd
  obtain ⟨hdefinition, hoptions⟩ := options_addRecord hadd
  refine ⟨hdefinition.trans hd, hoptions, row, c, hdetails, hcell, hread, ?_⟩
  rintro later done rfl hoptions hrow hdone
  obtain ⟨hmem, shown, hget, hshown⟩ := readyCell_of_complete halone hrow hcell hdone
  rw [hoptions] at hshown
  obtain ⟨hvalue, htable, -⟩ := hm.again rfl hshown
  refine ⟨hmem, shown, hget, hvalue, htable, fun s hs => ?_⟩
  rw [hm.eq_format rfl] at hshown
  rw [Cell.display, Formatting.text_format_of_settled hread.settled hs hshown]

end Survival

section Orders

open ReportQuery (orderOptions)

def orderStatus : Item where
  id := 1
  name := "Status"
  columnName := some "Status"
  displayType := .list
  referenceValueId := some 5

/-- Orders with their status, in front of other items. -/
def statusOrders (others : List Item) : Definition where
  id := 1
  name := "Orders"
  tableName := "C_Order"
  items := orderStatus :: others

/-- A flag under the id of the status. -/
def openFlag : Item where
  id := 1
  name := "Open"
  displayType := .yesNo
  sequence := 1

/-- Nothing has been read, and cells are formatted. -/
def noStatus (others : List Item) : Assembly :=
  .start (statusOrders others) {
    mappings := { byItem := .empty, fallback := Formatting.mapping }
    locale := {}
    financialTable := "" }

def completedOrder : Record :=
  .ofPairs [("Status", .text "CO"), ("Status_1_DisplayValue", .text "Completed")]

/-- A query that selects a status with its text, which is looked up in the list it refers to. -/
def statusQuery : ReportQuery where
  query := ""
  columns := [rawColumn "C_Order" orderStatus "Status",
    displayColumn orderStatus "Status" "Status_1_DisplayValue" (Projection.joinedText
      (Resolver.listLookup 5) false (.ofTable "C_Order" "Status") "en_US" 0).2]
  orderBy := none
  groupBy := none
  filters := []
  params := []
  condition := none
  complete := ""
  count := ""
  page := .unlimited

/-- Of a query only the columns matter to the records. -/
theorem addRecord_congr {q q' : ReportQuery} (h : q.columns = q'.columns) :
    addRecord q = addRecord q' := by
  have hread : readItem q = readItem q' := by
    funext r a item
    simp only [readItem, ReportQuery.columnsOf, h]
  funext financial a r
  simp only [addRecord, hread]

theorem build_status {others : List Item}
    (hprinted : (statusOrders others).printedItems = (statusOrders others).items)
    (hothers : others = [] ∨ others = [openFlag]) :
    ∃ q, ReportQuery.build .ansi .unrestricted orderOptions (statusOrders others)
        (.conventional fun _ => none) [] .unlimited = .ok q
      ∧ addRecord q = addRecord statusQuery := by
  rw [ReportQuery.build, Projection.ofDefinition, hprinted]
  rcases hothers with rfl | rfl <;> exact ⟨_, rfl, addRecord_congr rfl⟩

theorem texts_survive_status : ∃ q b done row shown,
    ReportQuery.build .ansi .unrestricted orderOptions (statusOrders [])
        (.conventional fun _ => none) [] .unlimited = .ok q
      ∧ addRecord q {} (noStatus []) completedOrder = .ok b ∧ b.details = [row]
      ∧ b.complete = .ok done ∧ (b.shown row).cell? 1 = some shown
      ∧ shown.display = "Completed" := by
  have hprinted : (statusOrders []).printedItems = (statusOrders []).items :=
    Definition.printedItems_of_sorted (by decide) (by decide)
  obtain ⟨q, hq, hread⟩ := build_status hprinted (.inl rfl)
  have hrun : ((addRecord statusQuery {} (noStatus []) completedOrder) >>=
      fun b => b.complete.map fun done => done.completion.rows.length) = .ok 1 := by
    decide +kernel
  obtain ⟨b, hb, h⟩ := bind_eq_ok.1 hrun
  obtain ⟨done, hdone, -⟩ := map_eq_ok.1 h
  rw [← hread] at hb
  obtain ⟨hd, ho, row, c, hdetails, hcell, htext, hafter⟩ :=
    texts_survive.2 .ansi .unrestricted orderOptions (statusOrders []) (.conventional fun _ => none)
      [] .unlimited q orderStatus "Status" {} (noStatus []) b completedOrder hq
      ⟨[], [], hprinted, by simp⟩ rfl rfl .formatting hb
  have hsource : row ∈ b.sources := by
    rw [Assembly.sources, hd, hdetails]
    simp [statusOrders]
  obtain ⟨-, shown, hget, -, -, hshown⟩ := hafter b done hd ho hsource hdone
  obtain ⟨label, hlabel, hc⟩ := htext.looked (by decide)
  have halias : orderStatus.displayAlias = some "Status_1_DisplayValue" := by decide +kernel
  have hheld : c.text = some "Completed" := by
    rw [hc, ← Option.some.inj (halias.symm.trans hlabel)]
    decide +kernel
  exact ⟨q, b, done, row, shown, hq, hb, hdetails, hdone, hget, hshown _ hheld⟩

theorem printedItems_flagged :
    (statusOrders [openFlag]).printedItems = [orderStatus, openFlag] :=
  Definition.printedItems_of_sorted (by decide) (by decide)

theorem addRecord_flagged :
    ∃ b row c, addRecord statusQuery {} (noStatus [openFlag]) completedOrder = .ok b
      ∧ b.details = [row] ∧ b.totals.ranks = [] ∧ row.cell? 1 = some c
      ∧ c.value = .text "CO" ∧ c.display = "Completed" := by
  have htotals : Totals.forDefinition (statusOrders [openFlag]) = .start [] [] := by
    have hgroups : (statusOrders [openFlag]).groupItems = [] := by
      rw [Definition.groupItems, printedItems_flagged]
      exact List.mergeSort_nil
    rw [Totals.forDefinition, hgroups, printedItems_flagged]
    rfl
  have h : (addRecord statusQuery {} (noStatus [openFlag]) completedOrder).map (fun b =>
      (b.details.map fun r => (r.cell? 1).map fun c => (c.value, c.display),
        b.totals.ranks.length))
        = .ok ([some (.text "CO", "Completed")], 0) := by
    rw [addRecord, Assembly.items, noStatus, Assembly.start, printedItems_flagged, htotals]
    decide +kernel
  obtain ⟨b, hb, h⟩ := map_eq_ok.1 h
  obtain ⟨hcells, hranks⟩ := Prod.mk.inj h
  obtain ⟨row, hdetails, hcell⟩ := List.map_eq_singleton_iff.1 hcells
  obtain ⟨c, hcell, hc⟩ := Option.map_eq_some_iff.1 hcell
  obtain ⟨hvalue, hdisplay⟩ := Prod.mk.inj hc
  exact ⟨b, row, c, hb, hdetails, List.length_eq_zero_iff.1 hranks, hcell, hvalue, hdisplay⟩

/-- The flag has the same cell, and formats the value of the status as its own. -/
theorem text_lost_repeated : ∃ q b done,
    ReportQuery.build .ansi .unrestricted orderOptions (statusOrders [openFlag])
        (.conventional fun _ => none) [] .unlimited = .ok q
      ∧ addRecord q {} (noStatus [openFlag]) completedOrder = .ok b
      ∧ b.details.map (·.sortText 1) = ["Completed"]
      ∧ b.complete = .ok done ∧ done.completion.rows.map (·.sortText 1) = ["N"] := by
  obtain ⟨q, hq, hread⟩ := build_status printedItems_flagged (.inr rfl)
  obtain ⟨b, row, c, hb, hdetails, hranks, hcell, hvalue, hdisplay⟩ := addRecord_flagged
  obtain ⟨hd, ho⟩ := options_addRecord hb
  have hsources : b.sources = [row] := by
    rw [Assembly.sources, hd, hdetails, Totals.rows, hranks]
    rfl
  have hready (item : Item) (hid : item.id = 1) :
      b.readyCell row item = Formatting.format item {} c := by
    rw [Assembly.readyCell, ho, hid, hcell]
    rfl
  have hitems : b.items = [orderStatus, openFlag] := by
    rw [Assembly.items, hd]
    exact printedItems_flagged
  have hstatus : ∃ first, Formatting.format orderStatus {} c = .ok first := by
    rw [Formatting.format, hvalue]
    exact ⟨_, rfl⟩
  have hflag : ∃ last, Formatting.format openFlag {} c = .ok last ∧ last.text = some "N" := by
    rw [Formatting.format, hvalue]
    exact ⟨_, rfl, rfl⟩
  obtain ⟨first, hfirst⟩ := hstatus
  obtain ⟨last, hlast, htext⟩ := hflag
  have hcells : b.readyCells row = .ok [(1, first), (1, last)] := by
    simp only [Assembly.readyCells, hitems, List.mapM_cons, hready orderStatus rfl,
      hready openFlag rfl, hfirst, hlast]
    rfl
  have hshown : (b.shown row).sortText 1 = "N" := by
    have hcell : (b.shown row).cell? 1 = some last := by
      rw [Assembly.shown, hcells]
      rfl
    rw [Row.sortText, hcell, Option.map_some, Cell.display, htext]
    rfl
  refine ⟨q, b, _, hq, hread ▸ hb, ?_, Assembly.complete_eq_ok.2 ⟨?_, rfl⟩, ?_⟩
  · rw [hdetails, List.map_singleton, Row.sortText, hcell, Option.map_some, hdisplay]
    rfl
  · rw [hsources, List.forall_mem_singleton]
    exact ⟨_, hcells⟩
  · rw [Assembly.completed, hsources, Row.sortedBy, List.mergeSort_singleton, List.map_singleton,
      List.map_singleton, hshown]
end Orders

end Reporting

import Reporting.Proofs.Completion
import Reporting.Proofs.Scopes
import Reporting.Proofs.Staging

/-!
# Reading back what is selected

The columns of a query stand in its select list in their order, and the cell that a record gives an
item has the value and the text that stand at the item's own columns (`reads_back`). Names of
entries must differ by more than the case of letters, since that is how values are found.
-/

namespace Reporting

open Projection (rawColumn displayColumn)
open Sql (Expr SelectItem)

section Labels

/-- Different names are not the same but for the case of letters. -/
def Distinct (names : List String) : Prop :=
  names.Pairwise fun a b => Text.sameAsciiCase a b = false

theorem Text.sameAsciiCase_self (s : String) : Text.sameAsciiCase s s = true := beq_self_eq_true _

instance (names : List String) : Decidable (Distinct names) :=
  inferInstanceAs (Decidable (names.Pairwise _))

/-- A column is found by its name. -/
theorem Record.get?_of_distinct {r : Record} (h : Distinct r.columns) {i : Nat} {name : String}
    (hi : r.columns[i]? = some name) : r.get? name = r.values[i]? := by
  obtain ⟨hlt, rfl⟩ := List.getElem?_eq_some_iff.1 hi
  have hfind : r.columns.findIdx? (Text.sameAsciiCase · r.columns[i]) = some i := by
    rw [List.findIdx?_eq_some_iff_getElem]
    refine ⟨hlt, Text.sameAsciiCase_self _, fun j hj => ?_⟩
    rw [List.pairwise_iff_getElem.1 h j i _ hlt hj]
    decide
  rw [get?, hfind, Option.bind_some]

end Labels

section Alone

variable {d : Definition} {item : Item}

/-- The item is printed, and no other printed item has its id. -/
def Definition.Alone (d : Definition) (item : Item) : Prop :=
  ∃ before after, d.printedItems = before ++ item :: after
    ∧ ∀ i ∈ before ++ after, i.id ≠ item.id

theorem Definition.alone_of_nodup (hids : (d.items.map Item.id).Nodup)
    (hitem : item ∈ d.printedItems) : d.Alone item := by
  obtain ⟨before, after, hitems⟩ := List.append_of_mem hitem
  have hnodup := nodup_printedItems hids
  rw [hitems, (List.perm_middle.map Item.id).nodup_iff, List.map_cons, List.nodup_cons] at hnodup
  refine ⟨before, after, hitems, fun i hi hid => hnodup.1 ?_⟩
  exact List.mem_map.2 ⟨i, hi, hid⟩

theorem Definition.Alone.mem (h : d.Alone item) : item ∈ d.printedItems := by
  obtain ⟨before, after, hitems, -⟩ := h
  simp [hitems]

theorem Definition.Alone.eq_of_id (h : d.Alone item) {i : Item} (hi : i ∈ d.printedItems)
    (hid : i.id = item.id) : i = item := by
  obtain ⟨before, after, hitems, halone⟩ := h
  rw [hitems] at hi
  obtain rfl | hi := List.mem_cons.1 (List.perm_middle.mem_iff.1 hi)
  · rfl
  · exact absurd hid (halone i hi)

end Alone

namespace Projection

section Parts

variable {r : Resolver} {language table : String}

theorem itemId_of_mem_columns {before : Nat} {item : Item} {part : Projection}
    (h : ofItem r language table before item = .ok part) {c : QueryColumn} (hc : c ∈ part.columns) :
    c.itemId = item.id ∧ item.columnName ≠ none := by
  cases hcolumn : item.columnName with
  | none =>
    rw [ofItem_of_columnName_eq_none hcolumn] at h
    cases h
    cases hc
  | some column =>
    obtain ⟨label, text?, -, -, hcolumns⟩ := ofItem_eq_ok hcolumn h
    rw [hcolumns] at hc
    refine ⟨?_, Option.some_ne_none column⟩
    rcases List.mem_cons.1 hc with rfl | hc
    · rfl
    · obtain ⟨text, -, rfl⟩ := Option.map_eq_some_iff.1 (Option.mem_toList.1 hc)
      rfl

theorem itemId_ne_of_partsOf {items : List Item} {parts : List Projection}
    (h : PartsOf r language table items parts) {id : Int} (hitems : ∀ i ∈ items, i.id ≠ id) :
    ∀ c ∈ parts.flatMap columns, c.itemId ≠ id := by
  intro c hc
  obtain ⟨item, hitem, part, -, hc, n, hof⟩ := exists_ofItem_of_mem h hc
  rw [(itemId_of_mem_columns hof hc).1]
  exact hitems item hitem

/-- The columns of an item with an id of its own stand together and alone. -/
theorem exists_part {item : Item} {before after : List Item} {parts : List Projection}
    (h : PartsOf r language table (before ++ item :: after) parts)
    (halone : ∀ i ∈ before ++ after, i.id ≠ item.id) :
    ∃ (part : Projection) (left right : List QueryColumn),
      (∃ n, ofItem r language table n item = .ok part)
        ∧ parts.flatMap columns = left ++ part.columns ++ right
        ∧ ∀ c ∈ left ++ right, c.itemId ≠ item.id := by
  have hleft := List.forall₂_take before.length h
  have hright := List.forall₂_drop before.length h
  rw [List.take_left] at hleft
  rw [List.drop_left] at hright
  obtain ⟨part, rest, hpart, hrest, hparts⟩ := List.forall₂_cons_left_iff.1 hright
  refine ⟨part, (parts.take before.length).flatMap columns, rest.flatMap columns, hpart, ?_, ?_⟩
  · conv_lhs => rw [← List.take_append_drop before.length parts, hparts]
    rw [List.flatMap_append, List.flatMap_cons, List.append_assoc]
  · intro c hc
    rcases List.mem_append.1 hc with hc | hc
    · exact itemId_ne_of_partsOf hleft (fun i hi => halone i (List.mem_append_left _ hi)) c hc
    · exact itemId_ne_of_partsOf hrest (fun i hi => halone i (List.mem_append_right _ hi)) c hc

end Parts

end Projection

namespace ReportQuery

section Entries

/-- The select list of a query. -/
def entries (options : QueryOptions) (d : Definition) (q : ReportQuery) : List SelectItem :=
  selectItems options d { columns := q.columns }

/-- The names under which a query selects. -/
def labels (options : QueryOptions) (d : Definition) (q : ReportQuery) : List String :=
  (q.entries options d).filterMap (·.label)

/-- The entry of a column. -/
def entryOf (c : QueryColumn) : SelectItem := ⟨c.expr, some c.label⟩

/-- Address columns stand at the end. -/
theorem exists_foldl_addAddress (table : String) :
    ∀ (names : List String) (select : List SelectItem), ∃ address,
      names.foldl (addAddress table) select = select ++ address
        ∧ ∀ i ∈ address, ∃ name ∈ names, i = ⟨.ofTable table name, some name⟩
  | [], select => ⟨[], (List.append_nil _).symm, fun i hi => by cases hi⟩
  | name :: names, select => by
    obtain ⟨address, hlist, haddress⟩ :=
      exists_foldl_addAddress table names (addAddress table select name)
    rw [List.foldl_cons, hlist, addAddress]
    split
    · refine ⟨address, rfl, fun i hi => ?_⟩
      obtain ⟨name', hname', hi⟩ := haddress i hi
      exact ⟨name', List.mem_cons_of_mem name hname', hi⟩
    · refine ⟨_ :: address, List.append_assoc .., fun i hi => ?_⟩
      rcases List.mem_cons.1 hi with rfl | hi
      · exact ⟨name, List.mem_cons_self, rfl⟩
      · obtain ⟨name', hname', hi⟩ := haddress i hi
        exact ⟨name', List.mem_cons_of_mem name hname', hi⟩

/-- The columns of a query are its entries, but for the address of the rows of financial reports. -/
theorem exists_entries (options : QueryOptions) (d : Definition) (q : ReportQuery) :
    ∃ address, q.entries options d = q.columns.map entryOf ++ address
      ∧ ∀ i ∈ address, d.tableName = options.financial.tableName
        ∧ ∃ name ∈ [options.financial.levelColumn, options.financial.sequenceColumn],
          i = ⟨.ofTable d.tableName name, some name⟩ := by
  unfold entries selectItems
  split
  · rename_i htable
    obtain ⟨address, hlist, haddress⟩ := exists_foldl_addAddress d.tableName
      [options.financial.levelColumn, options.financial.sequenceColumn] (q.columns.map entryOf)
    exact ⟨address, hlist, fun i hi => ⟨htable, haddress i hi⟩⟩
  · exact ⟨[], (List.append_nil _).symm, fun i hi => by cases hi⟩

theorem getElem?_labels {options : QueryOptions} {d : Definition} {q : ReportQuery} {i : Nat}
    {c : QueryColumn} (h : q.columns[i]? = some c) : (q.labels options d)[i]? = some c.label := by
  obtain ⟨address, hentries, -⟩ := exists_entries options d q
  have hcolumns : (q.columns.map entryOf).filterMap (·.label) = q.columns.map (·.label) := by
    rw [List.filterMap_map]
    exact congrFun List.filterMap_eq_map' q.columns
  have hlt : i < (q.columns.map (·.label)).length := by
    rw [List.length_map]
    exact (List.getElem?_eq_some_iff.1 h).1
  rw [labels, hentries, List.filterMap_append, hcolumns, List.getElem?_append_left hlt,
    List.getElem?_map, h]
  rfl

end Entries

section Columns

variable {q : ReportQuery}

/-- An entry is the only one that selects the value, or the text, of its item. -/
def OnlyEntry (q : ReportQuery) (i : Nat) (c : QueryColumn) : Prop :=
  q.columns[i]? = some c
    ∧ ∀ j c', q.columns[j]? = some c' → c'.itemId = c.itemId → c'.isDisplay = c.isDisplay → j = i

/-- The value of an item is one entry and its text another. -/
theorem eq_of_isDisplay_eq {table : String} {item : Item} {column label : String}
    {text? : Option Expr} : ∀ {k k' : Nat} {c c' : QueryColumn},
      (rawColumn table item column :: (text?.map (displayColumn item column label)).toList)[k]?
        = some c →
      (rawColumn table item column :: (text?.map (displayColumn item column label)).toList)[k']?
        = some c' →
      c'.isDisplay = c.isDisplay → k' = k := by
  intro k k' c c' hk hk' h
  cases text? with
  | none =>
    have hlt := (List.getElem?_eq_some_iff.1 hk).1
    have hlt' := (List.getElem?_eq_some_iff.1 hk').1
    exact (Nat.lt_one_iff.1 hlt').trans (Nat.lt_one_iff.1 hlt).symm
  | some text =>
    match k, k', hk, hk' with
    | 0, 0, _, _ => rfl
    | 1, 1, _, _ => rfl
    | 0, 1, hk, hk' =>
      cases hk
      cases hk'
      cases h
    | 1, 0, hk, hk' =>
      cases hk
      cases hk'
      cases h

theorem onlyEntry_of_part {before part after : List QueryColumn} {item : Int}
    (hcolumns : q.columns = before ++ part ++ after)
    (hothers : ∀ c ∈ before ++ after, c.itemId ≠ item)
    (hunique : ∀ {k k' : Nat} {c c' : QueryColumn}, part[k]? = some c → part[k']? = some c' →
      c'.isDisplay = c.isDisplay → k' = k)
    {k : Nat} {c : QueryColumn} (hk : part[k]? = some c) (hc : c.itemId = item) :
    q.OnlyEntry (before.length + k) c := by
  have hlt : k < part.length := (List.getElem?_eq_some_iff.1 hk).1
  constructor
  · rw [hcolumns, List.append_assoc, List.getElem?_append_right (by omega), Nat.add_sub_cancel_left,
      List.getElem?_append_left hlt, hk]
  · intro j c' hj hitem hdisplay
    have hmem : c' ∉ before ∧ c' ∉ after := by
      rw [← not_or, ← List.mem_append]
      exact fun hmem => hothers c' hmem (hitem.trans hc)
    rw [hcolumns, List.append_assoc] at hj
    have hbefore : before.length ≤ j := by
      by_contra hj'
      rw [List.getElem?_append_left (by omega)] at hj
      exact hmem.1 (List.mem_of_getElem? hj)
    rw [List.getElem?_append_right hbefore] at hj
    have hafter : j - before.length < part.length := by
      by_contra hj'
      rw [List.getElem?_append_right (by omega)] at hj
      exact hmem.2 (List.mem_of_getElem? hj)
    rw [List.getElem?_append_left hafter] at hj
    have := hunique hk hj hdisplay
    omega

theorem columnsOf_eq {before part after : List QueryColumn} {item : Int}
    (hcolumns : q.columns = before ++ part ++ after) (hpart : ∀ c ∈ part, c.itemId = item)
    (hothers : ∀ c ∈ before ++ after, c.itemId ≠ item) : q.columnsOf item = part := by
  have hnone : ∀ l : List QueryColumn, (∀ c ∈ l, c ∈ before ++ after) →
      l.filter (·.itemId == item) = [] := by
    intro l hl
    rw [List.filter_eq_nil_iff]
    intro c hc
    simpa using hothers c (hl c hc)
  rw [columnsOf, hcolumns, List.filter_append, List.filter_append,
    hnone before fun c hc => List.mem_append_left after hc,
    hnone after fun c hc => List.mem_append_right before hc, List.nil_append, List.append_nil,
    List.filter_eq_self]
  intro c hc
  simpa using hpart c hc

end Columns

section Cells

/-- The value that an entry gives an item. Values that identify rows elsewhere become references. -/
def entryValue (item : Item) (value : Option CellValue) : CellValue :=
  if item.displayType.isLookup && item.displayType != .list then
    ((value.bind CellValue.int64?).map .reference).getD .null
  else value.getD .null

/-- The text that an entry gives an item unless it is null. -/
def entryText (value : Option CellValue) : Option String :=
  (value.filter (!·.isNull)).map CellValue.display

/-- A value and a text are those at the item's own entries, and there is a text only if the item has
an entry for it. -/
structure ReadFrom (q : ReportQuery) (table : String) (item : Item) (column : String) (r : Record)
    (value : CellValue) (text : Option String) : Prop where
  raw : ∃ i, q.OnlyEntry i (rawColumn table item column) ∧ value = entryValue item r.values[i]?
  display :
    (item.lookupKind = .plain
        ∧ (∀ c ∈ q.columns, c.itemId = item.id → c.isDisplay = false) ∧ text = none)
      ∨ item.lookupKind ≠ .plain
        ∧ ∃ i label expr, q.OnlyEntry i (displayColumn item column label expr)
          ∧ text = entryText r.values[i]?

variable {a : Assembly} {r : Record} {item : Item}

theorem foldlM_readColumn {table column label : String} {text? : Option Expr}
    (hmap : ∀ context c, a.options.mappings.get item.id context c = .ok c) :
    (rawColumn table item column :: (text?.map (displayColumn item column label)).toList).foldlM
        (readColumn a item r) .empty
      = .ok { value := entryValue item (r.get? column)
              text := text?.bind fun _ => entryText (r.get? label) } := by
  have hraw : readColumn a item r .empty (rawColumn table item column)
      = .ok { value := entryValue item (r.get? column) } := hmap _ _
  rw [List.foldlM_cons, hraw]
  cases text? <;> rfl

section Build

variable {dialect : Sql.Dialect} {access : AccessControl} {options : QueryOptions} {d : Definition}
  {resolver : Resolver} {filters : List Filter} {page : Page}

theorem exists_parts_build (h : build dialect access options d resolver filters page = .ok q) :
    ∃ parts, q.columns = parts.flatMap Projection.columns
      ∧ Projection.PartsOf resolver options.language d.tableName d.printedItems parts := by
  obtain ⟨p, hp, h⟩ := bind_eq_ok.1 h
  cases h
  obtain ⟨parts, hparts, hcolumns, -⟩ :=
    Projection.exists_parts (Projection.ofItems_of_ofDefinition hp)
  exact ⟨parts, hcolumns, hparts⟩

theorem columnsOf_eq_nil (h : build dialect access options d resolver filters page = .ok q)
    {id : Int} (hid : ∀ item ∈ d.printedItems, item.id = id → item.columnName = none) :
    q.columnsOf id = [] := by
  obtain ⟨parts, hcolumns, hparts⟩ := exists_parts_build h
  rw [columnsOf, List.filter_eq_nil_iff]
  intro c hc heq
  rw [hcolumns] at hc
  obtain ⟨item, hitem, _, -, hc, n, hof⟩ := Projection.exists_ofItem_of_mem hparts hc
  obtain ⟨hown, hname⟩ := Projection.itemId_of_mem_columns hof hc
  exact hname (hid item hitem (hown.symm.trans (beq_iff_eq.1 heq)))

/-- The columns of an item are its own entries. -/
theorem exists_columnsOf_eq (h : build dialect access options d resolver filters page = .ok q)
    (halone : d.Alone item) {column : String} (hcolumn : item.columnName = some column) :
    ∃ label text?, item.displayAlias = some label
      ∧ q.columnsOf item.id = rawColumn d.tableName item column
          :: (text?.map (displayColumn item column label)).toList
        ∧ (text? = none ↔ item.lookupKind = .plain)
        ∧ ∀ c ∈ q.columnsOf item.id, ∃ i, q.OnlyEntry i c := by
  obtain ⟨parts, hcolumns, hparts⟩ := exists_parts_build h
  obtain ⟨before, after, hitems, hids⟩ := halone
  rw [hitems] at hparts
  obtain ⟨part, left, right, ⟨n, hpart⟩, hsplit, hothers⟩ := Projection.exists_part hparts hids
  rw [hsplit] at hcolumns
  have hown : ∀ c ∈ part.columns, c.itemId = item.id :=
    fun c hc => (Projection.itemId_of_mem_columns hpart hc).1
  obtain ⟨label, text?, hlabel, htext, hlist⟩ := Projection.ofItem_eq_ok hcolumn hpart
  rw [columnsOf_eq hcolumns hown hothers]
  refine ⟨label, text?, hlabel, hlist, Projection.itemText_eq_none_iff htext, fun c hc => ?_⟩
  obtain ⟨k, hk⟩ := List.mem_iff_getElem?.1 hc
  refine ⟨left.length + k, onlyEntry_of_part hcolumns hothers ?_ hk (hown c hc)⟩
  rw [hlist]
  exact eq_of_isDisplay_eq

/-- An item with a column reads its cell from its own entries. -/
theorem exists_readFrom (h : build dialect access options d resolver filters page = .ok q)
    (hids : (d.items.map Item.id).Nodup) (hlabels : Distinct (q.labels options d))
    (hr : r.columns = q.labels options d) (hitem : item ∈ d.printedItems)
    (hmap : ∀ context c, a.options.mappings.get item.id context c = .ok c) {column : String}
    (hcolumn : item.columnName = some column) :
    q.columnsOf item.id ≠ [] ∧ ∃ value text,
      (q.columnsOf item.id).foldlM (readColumn a item r) .empty
          = .ok { value := value, text := text }
        ∧ q.ReadFrom d.tableName item column r value text := by
  obtain ⟨label, text?, -, hlist, hplain, honly⟩ :=
    exists_columnsOf_eq h (Definition.alone_of_nodup hids hitem) hcolumn
  -- An entry is found by its name, so it is its value that is read.
  have hget : ∀ c ∈ q.columnsOf item.id, ∃ i, q.OnlyEntry i c ∧ r.get? c.label = r.values[i]? := by
    intro c hc
    obtain ⟨i, hi⟩ := honly c hc
    exact ⟨i, hi, Record.get?_of_distinct (hr ▸ hlabels) (hr ▸ getElem?_labels hi.1)⟩
  rw [hlist] at hget ⊢
  obtain ⟨i, hi, hvalue⟩ := hget _ List.mem_cons_self
  refine ⟨List.cons_ne_nil _ _, _, _, foldlM_readColumn hmap,
    ⟨i, hi, congrArg (entryValue item) hvalue⟩, ?_⟩
  cases text? with
  | none =>
    refine .inl ⟨hplain.1 rfl, fun c hc hid => ?_, rfl⟩
    have hmem : c ∈ q.columnsOf item.id := List.mem_filter.2 ⟨hc, beq_iff_eq.2 hid⟩
    rw [hlist] at hmem
    exact List.mem_singleton.1 hmem ▸ rfl
  | some text =>
    obtain ⟨j, hj, hshown⟩ := hget (displayColumn item column label text) (by simp)
    exact .inr ⟨fun hkind => Option.some_ne_none text (hplain.2 hkind), j, label, text, hj,
      congrArg entryText hshown⟩

end Build

end Cells

end ReportQuery

section Staging

variable {q : ReportQuery} {a : Assembly} {r : Record}

theorem Row.cell?_setCell (row : Row) (item id : Int) (c : Cell) :
    (row.setCell item c).cell? id = if id = item then some c else row.cell? id :=
  SortedMap.get?_insert _ _ _ _

theorem cell?_getD (staged : Option Row) (level id : Int) :
    (staged.getD { level := level }).cell? id = staged.bind (·.cell? id) := by
  cases staged <;> rfl

/-- An item leaves the cells of all others as they are. -/
theorem cell?_stageItem {item : Item} {staged staged' : Option Row}
    (h : stageItem q a r staged item = .ok staged') {id : Int}
    (hid : id ≠ item.id ∨ q.columnsOf id = []) :
    staged'.bind (·.cell? id) = staged.bind (·.cell? id) := by
  obtain ⟨-, rfl⟩ | ⟨hcolumns, c, -, rfl⟩ := stageItem_eq_ok.1 h
  · rfl
  · have hne : id ≠ item.id := hid.elim (fun hne => hne) fun hnil heq => hcolumns (heq ▸ hnil)
    rw [Option.bind_some, Row.cell?_setCell, if_neg hne, cell?_getD]

theorem cell?_foldlM_of_ne {id : Int} : ∀ {items : List Item} {staged staged' : Option Row},
    items.foldlM (stageItem q a r) staged = .ok staged' →
      (id ∉ items.map Item.id ∨ q.columnsOf id = []) →
      staged'.bind (·.cell? id) = staged.bind (·.cell? id)
  | [], _, _, h, _ => by
    cases h
    rfl
  | item :: items, staged, _, h, hid => by
    obtain ⟨next, hnext, h⟩ := bind_eq_ok.1 h
    rw [List.map_cons, List.mem_cons, not_or] at hid
    rw [cell?_foldlM_of_ne h (hid.imp_left And.right),
      cell?_stageItem hnext (hid.imp_left And.left)]

/-- An item has the cell that is read for it, unless one behind it has the same id. -/
theorem cell?_foldlM_of_alone {before after : List Item} {item : Item} {staged staged' : Option Row}
    (h : (before ++ item :: after).foldlM (stageItem q a r) staged = .ok staged')
    (halone : item.id ∉ after.map Item.id) (hcolumns : q.columnsOf item.id ≠ []) :
    ∃ c, (q.columnsOf item.id).foldlM (readColumn a item r) .empty = .ok c
      ∧ staged'.bind (·.cell? item.id) = some c := by
  rw [List.foldlM_append] at h
  obtain ⟨first, -, h⟩ := bind_eq_ok.1 h
  obtain ⟨next, hnext, h⟩ := bind_eq_ok.1 h
  obtain ⟨hnil, -⟩ | ⟨-, c, hc, rfl⟩ := stageItem_eq_ok.1 hnext
  · exact absurd hnil hcolumns
  refine ⟨c, hc, ?_⟩
  rw [cell?_foldlM_of_ne h (.inl halone), Option.bind_some, Row.cell?_setCell, if_pos rfl]

/-- Each item has the cell that is read for it, and there are no other cells. -/
theorem cell?_foldlM_stageItem {items : List Item} {staged staged' : Option Row}
    (hids : (items.map Item.id).Nodup) (h : items.foldlM (stageItem q a r) staged = .ok staged') :
    (∀ item ∈ items, q.columnsOf item.id ≠ [] → ∀ c,
        (q.columnsOf item.id).foldlM (readColumn a item r) .empty = .ok c →
        staged'.bind (·.cell? item.id) = some c)
      ∧ ∀ id, (id ∉ items.map Item.id ∨ q.columnsOf id = []) →
        staged'.bind (·.cell? id) = staged.bind (·.cell? id) := by
  refine ⟨fun item hitem hcolumns c hc => ?_, fun id => cell?_foldlM_of_ne h⟩
  obtain ⟨before, after, rfl⟩ := List.append_of_mem hitem
  rw [List.map_append, List.map_cons] at hids
  have halone : item.id ∉ after.map Item.id := (List.nodup_cons.1 hids.of_append_right).1
  obtain ⟨c', hc', hcell⟩ := cell?_foldlM_of_alone h halone hcolumns
  obtain rfl : c' = c := Except.ok.inj (hc'.symm.trans hc)
  exact hcell

theorem cell?_placed (financial : FinancialSettings) (row : Row) (id : Int) :
    (placed financial a r row).cell? id = row.cell? id := by
  unfold placed
  split <;> rfl

end Staging

namespace ReportQuery

/-- The columns of a query are its entries in their order, and a record whose columns are named like
the entries gives every item the cell at the item's own entries. -/
theorem reads_back {dialect : Sql.Dialect} {access : AccessControl} {options : QueryOptions}
    {d : Definition} {resolver : Resolver} {filters : List Filter} {page : Page} {q : ReportQuery}
    (h : build dialect access options d resolver filters page = .ok q)
    (hids : (d.items.map Item.id).Nodup) (hlabels : Distinct (q.labels options d)) :
    (∃ address joins, q.entries options d = q.columns.map entryOf ++ address
        ∧ (∀ i ∈ address, d.tableName = options.financial.tableName
          ∧ ∃ name ∈ [options.financial.levelColumn, options.financial.sequenceColumn],
            i = ⟨.ofTable d.tableName name, some name⟩)
        ∧ q.query = dialect.renderSelect {
            select := q.entries options d
            source := { name := d.tableName }
            joins := joins })
      ∧ ∀ (financial : FinancialSettings) (a : Assembly) (r : Record), a.definition = d →
        a.staged = none → r.columns = q.labels options d →
        (∀ item ∈ d.printedItems, ∀ context c,
          a.options.mappings.get item.id context c = .ok c) →
        ∃ row, addRecord q financial a r = .ok { a with
              staged := none
              totals := a.totals.addRow row
              details := a.details ++ [row] }
          ∧ (∀ item ∈ d.printedItems, ∀ column, item.columnName = some column →
            ∃ value text, row.cell? item.id = some { value := value, text := text }
              ∧ q.ReadFrom d.tableName item column r value text)
          ∧ ∀ id, (∀ item ∈ d.printedItems, item.id = id → item.columnName = none) →
            row.cell? id = none := by
  constructor
  · obtain ⟨address, hentries, haddress⟩ := exists_entries options d q
    obtain ⟨p, hp, h⟩ := bind_eq_ok.1 h
    cases h
    exact ⟨address, p.joins, hentries, haddress, rfl⟩
  intro financial a r ha hstaged hr hmap
  have hitems : a.items = d.printedItems := by rw [Assembly.items, ha]
  obtain ⟨staged, hstage⟩ : ∃ staged, a.items.foldlM (stageItem q a r) a.staged = .ok staged := by
    refine exists_foldlM (fun staged item hitem => exists_staged ?_ staged) _
    rw [hitems] at hitem
    exact fun context c _ _ => ⟨c, hmap item hitem context c⟩
  obtain ⟨row, rfl⟩ := Option.isSome_iff_exists.1
    (RunPlan.isSome_foldlM_stageItem hstage (.inr (hitems ▸ exists_columnsOf h)))
  refine ⟨_, addRecord_eq hstage, ?_⟩
  simp only [cell?_placed]
  rw [hitems, hstaged] at hstage
  obtain ⟨hown, hothers⟩ := cell?_foldlM_stageItem (Definition.nodup_printedItems hids) hstage
  constructor
  · intro item hitem column hcolumn
    obtain ⟨hne, value, text, hread, hfrom⟩ :=
      exists_readFrom h hids hlabels hr hitem (hmap item hitem) hcolumn
    exact ⟨value, text, hown item hitem hne _ hread, hfrom⟩
  · intro id hid
    exact hothers id (.inr (columnsOf_eq_nil h hid))

section Orders

open Projection (documentType documentTypes orders)

def orderOptions : QueryOptions where
  language := "en_US"
  paging := .limitOffset
  financial := {}

/-- An order of a type, without a partner, from a place. -/
def order : Record :=
  .ofPairs [("C_DocType_ID", .text "132"),
    ("C_DocType_ID_1_DisplayValue", .text "Standard Order"), ("C_BPartner_ID", .null),
    ("C_BPartner_ID_2_DisplayValue", .null), ("C_Location_ID", .reference 7),
    ("C_Location_ID_3_DisplayValue", .text "Bonn")]

/-- Nothing has been read, and cells are shown as they are read. -/
def noOrders : Assembly :=
  .start orders {
    mappings := { byItem := .empty, fallback := fun _ c => .ok c }
    locale := {}
    financialTable := "" }

theorem build_orders : ∃ q, build .ansi .unrestricted orderOptions orders documentTypes []
      .unlimited = .ok q
    ∧ q.labels orderOptions orders = order.columns
    ∧ q.columns[0]? = some (rawColumn orders.tableName documentType "C_DocType_ID") := by
  have hprinted : orders.printedItems = orders.items :=
    Definition.printedItems_of_sorted (by decide) (by decide)
  rw [build, Projection.ofDefinition, hprinted]
  exact ⟨_, rfl, by decide +kernel, rfl⟩

theorem reads_back_orders :
    (orders.items.map Item.id).Nodup ∧ Distinct order.columns
      ∧ ∃ q row text, build .ansi .unrestricted orderOptions orders documentTypes [] .unlimited
          = .ok q
        ∧ addRecord q {} noOrders order = .ok { noOrders with
            staged := none
            totals := noOrders.totals.addRow row
            details := noOrders.details ++ [row] }
        ∧ row.cell? 1 = some { value := .reference 132, text := text } := by
  have hids : (orders.items.map Item.id).Nodup := by decide
  have hdistinct : Distinct order.columns := by decide +kernel
  have hprinted : orders.printedItems = orders.items :=
    Definition.printedItems_of_sorted (by decide) (by decide)
  obtain ⟨q, hq, hlabels, hfirst⟩ := build_orders
  obtain ⟨-, hrow⟩ := reads_back hq hids (hlabels ▸ hdistinct)
  obtain ⟨row, hadd, hcells, -⟩ := hrow {} noOrders order rfl rfl hlabels.symm fun _ _ _ _ => rfl
  obtain ⟨value, text, hcell, hfrom⟩ :=
    hcells documentType (hprinted ▸ List.mem_cons_self) "C_DocType_ID" rfl
  obtain ⟨i, ⟨-, honly⟩, hvalue⟩ := hfrom.raw
  obtain rfl : 0 = i := honly 0 _ hfirst rfl rfl
  have hreference : value = .reference 132 := hvalue.trans (by decide +kernel)
  exact ⟨hids, hdistinct, q, row, text, hq, hadd, hreference ▸ hcell⟩

end Orders

end ReportQuery

end Reporting

import Reporting.Proofs.Assembly
import Reporting.Proofs.Formatting
import Reporting.Proofs.Plan

/-!
# What a record leaves in a run

A record gives the row that it gives on its own, whatever was read before it
(`between_foldlM_addRecord`), and it gives one whenever the mappings show every cell
(`exists_addRecord`).
-/

namespace Reporting

section Record

variable {q : ReportQuery} {r : Record}

/-- What reading an item leaves staged. -/
def stageItem (q : ReportQuery) (a : Assembly) (r : Record) (staged : Option Row) (item : Item) :
    Except ReportError (Option Row) :=
  match q.columnsOf item.id with
  | [] => .ok staged
  | columns => do
    let c ← columns.foldlM (readColumn a item r) .empty
    return some ((staged.getD { level := a.detailLevel }).setCell item.id c)

/-- An item that selects nothing leaves the row as it is, any other sets its cell. -/
theorem stageItem_eq_ok {a : Assembly} {staged staged' : Option Row} {item : Item} :
    stageItem q a r staged item = .ok staged' ↔
      (q.columnsOf item.id = [] ∧ staged' = staged)
        ∨ q.columnsOf item.id ≠ []
          ∧ ∃ c, (q.columnsOf item.id).foldlM (readColumn a item r) .empty = .ok c
            ∧ staged' = some ((staged.getD { level := a.detailLevel }).setCell item.id c) := by
  rcases hcolumns : q.columnsOf item.id with _ | ⟨column, columns⟩
  · simp [stageItem, hcolumns, eq_comm]
  · simp only [stageItem, hcolumns, bind_eq_ok, reduceCtorEq, false_and, false_or, ne_eq,
      not_false_eq_true, true_and]
    refine exists_congr fun c => and_congr_right fun _ => ?_
    exact ⟨fun h => by cases h; rfl, fun h => h ▸ rfl⟩

theorem readItem_eq (a : Assembly) (item : Item) : readItem q r a item
    = (stageItem q a r a.staged item).map fun staged => { a with staged := staged } := by
  rw [readItem, stageItem]
  rcases q.columnsOf item.id with _ | ⟨column, columns⟩
  · rfl
  · rcases h : (column :: columns).foldlM (readColumn a item r) .empty with e | c
    · simp only [h]
      rfl
    · simp only [h]
      rfl

theorem foldlM_readItem : ∀ (items : List Item) (a : Assembly),
    items.foldlM (readItem q r) a
      = (items.foldlM (stageItem q a r) a.staged).map fun staged => { a with staged := staged }
  | [], a => rfl
  | item :: items, a => by
    rw [List.foldlM_cons, List.foldlM_cons, readItem_eq]
    rcases stageItem q a r a.staged item with e | staged
    · rfl
    · exact foldlM_readItem items { a with staged := staged }

/-- What is staged depends on the settings of the assembly alone. -/
theorem stageItem_congr {a b : Assembly} (hoptions : a.options = b.options)
    (hlevel : a.detailLevel = b.detailLevel) : stageItem q a r = stageItem q b r := by
  funext staged item
  simp only [stageItem, hlevel]
  have : readColumn a item r = readColumn b item r := by
    funext c column
    simp only [readColumn, hoptions]
  rw [this]

/-- An item is read if its mapping shows every cell that it is given. -/
theorem exists_staged {a : Assembly} {item : Item}
    (hshows : ∀ (context : CellContext) (c : Cell), context.item = item →
      context.locale = a.options.locale →
      ∃ c', a.options.mappings.get item.id context c = .ok c')
    (staged : Option Row) : ∃ staged', stageItem q a r staged item = .ok staged' := by
  have hcolumn : ∀ c, ∀ column ∈ q.columnsOf item.id,
      ∃ c', readColumn a item r c column = .ok c' := by
    intro c column _
    rw [readColumn]
    split
    · exact ⟨_, rfl⟩
    · exact hshows _ _ rfl rfl
  obtain ⟨c, hc⟩ := exists_foldlM hcolumn .empty
  by_cases hnil : q.columnsOf item.id = []
  · exact ⟨staged, stageItem_eq_ok.2 (.inl ⟨hnil, rfl⟩)⟩
  · exact ⟨_, stageItem_eq_ok.2 (.inr ⟨hnil, c, hc, rfl⟩)⟩

/-- The staged row of a record at its place. -/
def placed (financial : FinancialSettings) (a : Assembly) (r : Record) (row : Row) : Row :=
  if a.isFinancial then
    { row with
      level := addressOf r financial.levelColumn
      sequence := addressOf r financial.sequenceColumn }
  else { row with level := a.detailLevel, sequence := 0 }

theorem addRecord_eq {financial : FinancialSettings} {a : Assembly} {row : Row}
    (h : a.items.foldlM (stageItem q a r) a.staged = .ok (some row)) :
    addRecord q financial a r = .ok { a with
      staged := none
      totals := a.totals.addRow (placed financial a r row)
      details := a.details ++ [placed financial a r row] } := by
  have hread : a.items.foldlM (readItem q r) a = .ok { a with staged := some row } := by
    rw [foldlM_readItem, h]
    rfl
  rw [addRecord, hread, placed]
  have hfinancial : Assembly.isFinancial { a with staged := some row } = a.isFinancial := rfl
  simp only [bind, Except.bind, hfinancial]
  split <;> rfl

end Record

namespace RunPlan

variable (p : RunPlan) (mappings : MappingRegistry)

/-- The mappings of the printed items show every cell that they are given. -/
def Shows : Prop :=
  ∀ item ∈ p.definition.printedItems, ∀ (context : CellContext) (c : Cell),
    context.item = item → context.locale = p.settings.locale →
      ∃ c', (mappings.bind p.definition).get item.id context c = .ok c'

variable {p mappings} in
/-- Formatting shows everything as long as no date pattern asks for a time zone. -/
theorem shows_of_formatting
    (hmap : ∀ item, (mappings.bind p.definition).get item = Formatting.mapping)
    (hzone : ∀ item ∈ p.definition.printedItems, item.displayType.isDate →
      Calendar.Directive.zone ∉
        p.settings.locale.timestampDirectives item.displayType item.formatPattern) :
    p.Shows mappings := by
  rintro item hitem context c rfl hlocale
  rw [hmap]
  exact Formatting.exists_mapping (by rw [hlocale]; exact hzone _ hitem) c

/-- Nothing has been read. -/
def fresh : Assembly := .start p.definition (p.options mappings)

/-- The record, read on its own, is the detail row. -/
def GivesRow (r : Record) (row : Row) : Prop :=
  ∃ a, addRecord p.query p.settings.financial (p.fresh mappings) r = .ok a ∧ a.details = [row]

/-- An assembly of the run while no row is staged. -/
structure Between (a : Assembly) : Prop where
  definition : a.definition = p.definition
  options : a.options = p.options mappings
  axes : a.totals.axes = (p.fresh mappings).totals.axes
  staged : a.staged = none

theorem between_fresh : p.Between mappings (p.fresh mappings) := ⟨rfl, rfl, rfl, rfl⟩

section Rows

variable {p mappings}

theorem isSome_foldlM_stageItem {q : ReportQuery} {a : Assembly} {r : Record} :
    ∀ {items : List Item} {staged staged' : Option Row},
      items.foldlM (stageItem q a r) staged = .ok staged' →
      (staged.isSome ∨ ∃ item ∈ items, q.columnsOf item.id ≠ []) → staged'.isSome
  | [], staged, staged', h, hsome => by
    cases h
    exact hsome.resolve_right (by simp)
  | item :: items, staged, staged', h, hsome => by
    obtain ⟨next, hnext, h⟩ := bind_eq_ok.1 h
    refine isSome_foldlM_stageItem h ?_
    by_cases hitems : ∃ item ∈ items, q.columnsOf item.id ≠ []
    · exact .inr hitems
    left
    obtain ⟨hnil, rfl⟩ | ⟨-, c, -, rfl⟩ := stageItem_eq_ok.1 hnext
    · refine hsome.resolve_right ?_
      rintro ⟨item', hmem, hne⟩
      rcases List.mem_cons.1 hmem with rfl | hmem
      · exact hne hnil
      · exact hitems ⟨item', hmem, hne⟩
    · rfl

/-- Whatever was read before it, a record gives the row that it gives on its own. -/
theorem between_addRecord
    (hcolumns : ∃ item ∈ p.definition.printedItems, p.query.columnsOf item.id ≠ [])
    {a b : Assembly} (ha : p.Between mappings a) {r : Record}
    (h : addRecord p.query p.settings.financial a r = .ok b) :
    p.Between mappings b
      ∧ ∃ row, b.details = a.details ++ [row] ∧ p.GivesRow mappings r row := by
  have hlevel : a.detailLevel = (p.fresh mappings).detailLevel := by
    rw [Assembly.detailLevel, ha.axes]
    rfl
  have hitems : a.items = (p.fresh mappings).items := by
    rw [Assembly.items, ha.definition]
    rfl
  obtain ⟨a', hread, -⟩ := bind_eq_ok.1 h
  rw [foldlM_readItem] at hread
  obtain ⟨staged, hstage, -⟩ := map_eq_ok.1 hread
  obtain ⟨row, rfl⟩ := Option.isSome_iff_exists.1
    (isSome_foldlM_stageItem hstage (.inr (by rwa [Assembly.items, ha.definition])))
  have hfresh : (p.fresh mappings).items.foldlM (stageItem p.query (p.fresh mappings) r)
      (p.fresh mappings).staged = .ok (some row) := by
    rw [← hitems, ← stageItem_congr ha.options hlevel]
    rwa [ha.staged] at hstage
  have hplaced : placed p.settings.financial a r row
      = placed p.settings.financial (p.fresh mappings) r row := by
    have hfinancial : a.isFinancial = (p.fresh mappings).isFinancial := by
      rw [Assembly.isFinancial, ha.definition, ha.options]
      rfl
    simp only [placed, hfinancial, hlevel]
  rw [addRecord_eq hstage] at h
  cases h
  refine ⟨⟨ha.definition, ha.options, ha.axes, rfl⟩, _, rfl, _, addRecord_eq hfresh, ?_⟩
  rw [hplaced]
  rfl

theorem between_foldlM_addRecord
    (hcolumns : ∃ item ∈ p.definition.printedItems, p.query.columnsOf item.id ≠ []) :
    ∀ {records : List Record} {a b : Assembly}, p.Between mappings a →
      records.foldlM (addRecord p.query p.settings.financial) a = .ok b →
      p.Between mappings b
        ∧ ∃ rows, b.details = a.details ++ rows ∧ List.Forall₂ (p.GivesRow mappings) records rows
  | [], a, b, ha, h => by
    cases h
    exact ⟨ha, [], (List.append_nil _).symm, .nil⟩
  | r :: records, a, b, ha, h => by
    obtain ⟨next, hnext, h⟩ := bind_eq_ok.1 h
    obtain ⟨hbetween, row, hdetails, hgives⟩ := between_addRecord hcolumns ha hnext
    obtain ⟨hbetween', rows, hdetails', hrows⟩ := between_foldlM_addRecord hcolumns hbetween h
    refine ⟨hbetween', row :: rows, ?_, .cons hgives hrows⟩
    rw [hdetails', hdetails, List.append_assoc]
    rfl

end Rows

section Shows

variable {p mappings}

theorem exists_addRecord (hshows : p.Shows mappings)
    (hcolumns : ∃ item ∈ p.definition.printedItems, p.query.columnsOf item.id ≠ [])
    {a : Assembly} (ha : p.Between mappings a) (r : Record) :
    ∃ b, addRecord p.query p.settings.financial a r = .ok b := by
  obtain ⟨staged, hstage⟩ : ∃ staged, a.items.foldlM (stageItem p.query a r) a.staged
      = .ok staged := by
    refine exists_foldlM (fun staged item hitem => exists_staged ?_ staged) _
    rw [Assembly.items, ha.definition] at hitem
    rw [ha.options]
    exact hshows item hitem
  obtain ⟨row, rfl⟩ := Option.isSome_iff_exists.1
    (isSome_foldlM_stageItem hstage (.inr (by rwa [Assembly.items, ha.definition])))
  exact ⟨_, addRecord_eq hstage⟩

theorem exists_foldlM_addRecord (hshows : p.Shows mappings)
    (hcolumns : ∃ item ∈ p.definition.printedItems, p.query.columnsOf item.id ≠ []) :
    ∀ (records : List Record) {a : Assembly}, p.Between mappings a →
      ∃ b, records.foldlM (addRecord p.query p.settings.financial) a = .ok b
  | [], a, _ => ⟨a, rfl⟩
  | r :: records, a, ha => by
    obtain ⟨next, hnext⟩ := exists_addRecord hshows hcolumns ha r
    obtain ⟨b, hb⟩ := exists_foldlM_addRecord hshows hcolumns records
      (between_addRecord hcolumns ha hnext).1
    exact ⟨b, bind_eq_ok.2 ⟨next, hnext, hb⟩⟩

theorem exists_complete (hshows : p.Shows mappings) {a : Assembly} (ha : p.Between mappings a) :
    ∃ b, a.complete = .ok b := by
  refine ⟨_, Assembly.complete_eq_ok.2 ⟨fun source _ => ⟨_, Assembly.readyCells_eq_ok.2
    ⟨fun item hitem => ?_, rfl⟩⟩, rfl⟩⟩
  rw [Assembly.items, ha.definition] at hitem
  rw [Assembly.readyCell, ha.options]
  exact hshows item hitem _ _ rfl rfl

end Shows

end RunPlan

end Reporting

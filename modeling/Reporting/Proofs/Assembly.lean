import Reporting.Assembly
import Reporting.Proofs.Except
import Reporting.Proofs.Totals

/-!
# Runs of an assembly

However cells are staged and rows closed, the totals are those of the detail rows fed one after
another (`totals_readAll`). A completed row is a detail or a total with its cells made ready to be
shown (`rows_complete`).
-/

namespace Reporting

namespace Definition

/-- The items that key the groups, outermost first. -/
def axes (d : Definition) : List Int := d.groupItems.map Item.id

/-- The items that have totals. -/
def summarized (d : Definition) : List Int :=
  (d.printedItems.filter Item.isSummarizable).map Item.id

end Definition

/-- A call while records are read: a cell is staged, or the staged row is closed. -/
inductive Reading
  | cell (item : Int) (c : Cell)
  | row
  | rowAt (level sequence : Int)

/-- The call closes a row at an address of its own. -/
def Reading.addressed : Reading → Bool
  | rowAt _ _ => true
  | _ => false

namespace Assembly

def read (a : Assembly) : Reading → Assembly
  | .cell item c => a.addCell item c
  | .row => a.addRow
  | .rowAt level sequence => a.closeRow level sequence

def readAll (a : Assembly) (calls : List Reading) : Assembly := calls.foldl read a

section Reading

/-- What holds of an assembly at all times: the totals are those of its details, and no row that was
read is marked as a total. -/
structure Consistent (a : Assembly) : Prop where
  totals : a.totals = .fed a.definition.axes a.definition.summarized a.details
  staged : ∀ r, a.staged = some r → r.isSummary = false
  details : ∀ r ∈ a.details, r.isSummary = false

theorem consistent_start (d : Definition) (options : ReportOptions) :
    Consistent (start d options) where
  totals := rfl
  staged := nofun
  details := nofun

theorem consistent_addCell {a : Assembly} (h : Consistent a) (item : Int) (c : Cell) :
    Consistent (a.addCell item c) where
  totals := h.totals
  staged r hr := by
    obtain rfl := Option.some.inj hr
    rcases hs : a.staged with _ | r
    · rfl
    · exact h.staged r hs
  details := h.details

theorem consistent_closeRow {a : Assembly} (h : Consistent a) (level sequence : Int) :
    Consistent (a.closeRow level sequence) := by
  unfold closeRow
  split
  · exact h
  · rename_i row hrow
    refine ⟨?_, nofun, fun r hr => ?_⟩
    · simp only [h.totals, Totals.fed, List.foldl_append, List.foldl_cons, List.foldl_nil]
    · rcases List.mem_append.1 hr with hr | hr
      · exact h.details r hr
      · rw [List.mem_singleton.1 hr]
        exact h.staged row hrow

theorem consistent_read {a : Assembly} (h : Consistent a) : ∀ call, Consistent (a.read call)
  | .cell item c => consistent_addCell h item c
  | .row => consistent_closeRow h _ _
  | .rowAt level sequence => consistent_closeRow h level sequence

theorem consistent_readAll {a : Assembly} (h : Consistent a) (calls : List Reading) :
    Consistent (a.readAll calls) := by
  induction calls generalizing a with
  | nil => exact h
  | cons call calls ih => exact ih (consistent_read h call)

theorem options_read (a : Assembly) (call : Reading) :
    (a.read call).definition = a.definition ∧ (a.read call).options = a.options := by
  cases call <;> simp only [read, addRow, closeRow] <;> (try split) <;> exact ⟨rfl, rfl⟩

theorem options_readAll (a : Assembly) (calls : List Reading) :
    (a.readAll calls).definition = a.definition ∧ (a.readAll calls).options = a.options := by
  induction calls generalizing a with
  | nil => exact ⟨rfl, rfl⟩
  | cons call calls ih =>
    obtain ⟨hd, ho⟩ := options_read a call
    obtain ⟨hd', ho'⟩ := ih (a.read call)
    exact ⟨hd'.trans hd, ho'.trans ho⟩

theorem totals_readAll (d : Definition) (options : ReportOptions) (calls : List Reading) :
    ((start d options).readAll calls).totals
      = .fed d.axes d.summarized ((start d options).readAll calls).details := by
  have h := (consistent_readAll (consistent_start d options) calls).totals
  rw [(options_readAll (start d options) calls).1] at h
  exact h

theorem detailLevel_eq {a : Assembly} (h : Consistent a) :
    a.detailLevel = a.definition.axes.length := by
  rw [detailLevel, h.totals, Totals.axes_fed]

/-- Rows closed without an address are at the level of detail rows. -/
theorem level_readAll {calls : List Reading} (hcalls : ∀ call ∈ calls, call.addressed = false)
    {a : Assembly} (h : Consistent a) (ha : ∀ r ∈ a.details, r.level = a.definition.axes.length) :
    ∀ r ∈ (a.readAll calls).details, r.level = a.definition.axes.length := by
  induction calls generalizing a with
  | nil => exact ha
  | cons call calls ih =>
    have hdef := (options_read a call).1
    rw [← hdef]
    refine ih (fun c hc => hcalls c (List.mem_cons_of_mem _ hc)) (consistent_read h call) ?_
    rw [hdef]
    have hplain := hcalls call List.mem_cons_self
    cases call with
    | cell item c => exact ha
    | rowAt level sequence => simp [Reading.addressed] at hplain
    | row =>
      simp only [read, addRow, closeRow]
      split
      · exact ha
      · intro r hr
        rcases List.mem_append.1 hr with hr | hr
        · exact ha r hr
        · rw [List.mem_singleton.1 hr]
          exact detailLevel_eq h

end Reading

section Completing

/-- A row as it is shown once its cells have been made ready. -/
def shown (a : Assembly) (r : Row) : Row := withCells r ((a.readyCells r).toOption.getD [])

/-- What completion leaves if the cells of every source can be made ready. -/
def completed (a : Assembly) : Completion :=
  let sources := Row.sortedBy (Row.treeOrder a.sorting) a.sources
  let rows := sources.map a.shown
  { rows := rows
    summaryRows := rows.filter a.isSummaryRow
    totalRows := a.totals.rows
    widths := (sources.flatMap fun r => (a.readyCells r).toOption.getD []).foldl widen .empty }

theorem complete_eq_ok {a b : Assembly} :
    a.complete = .ok b ↔ (∀ r ∈ a.sources, ∃ cells, a.readyCells r = .ok cells)
      ∧ b = { a with completion := a.completed } := by
  have hmem (r : Row) : r ∈ Row.sortedBy (Row.treeOrder a.sorting) a.sources ↔ r ∈ a.sources :=
    (List.mergeSort_perm _ _).mem_iff
  simp only [complete, bind_eq_ok, mapM_pair_eq_ok (b := []), hmem]
  constructor
  · rintro ⟨_, ⟨hready, rfl⟩, h⟩
    cases h
    simpa only [completed, List.map_map, List.flatMap_map] using ⟨hready, rfl⟩
  · rintro ⟨hready, rfl⟩
    refine ⟨_, ⟨hready, rfl⟩, ?_⟩
    simp only [completed, List.map_map, List.flatMap_map]
    rfl

/-- Completion shows the sources in the order for a tree, if the cells of each can be made ready. -/
theorem rows_complete {a b : Assembly} (h : a.complete = .ok b) :
    b.completion.rows = (Row.sortedBy (Row.treeOrder a.sorting) a.sources).map a.shown
      ∧ (∀ r ∈ a.sources, ∃ cells, a.readyCells r = .ok cells)
      ∧ ∃ completion, b = { a with completion := completion } := by
  obtain ⟨hready, rfl⟩ := complete_eq_ok.1 h
  exact ⟨rfl, hready, _, rfl⟩

theorem readyCells_eq_ok {a : Assembly} {r : Row} {cells : List (Int × Cell)} :
    a.readyCells r = .ok cells ↔ (∀ item ∈ a.items, ∃ c, a.readyCell r item = .ok c)
      ∧ cells = a.items.map fun item =>
          (item.id, (a.readyCell r item).toOption.getD .empty) :=
  mapM_pair_eq_ok

/-- A shown row has a cell for every item and for nothing else. -/
theorem cell?_shown {a : Assembly} {r : Row} (hr : ∃ cells, a.readyCells r = .ok cells) (id : Int) :
    (id ∉ a.items.map Item.id ∧ (a.shown r).cell? id = none)
      ∨ ∃ item ∈ a.items, item.id = id ∧ ∃ c, a.readyCell r item = .ok c
        ∧ (a.shown r).cell? id = some c := by
  obtain ⟨cells, hcells⟩ := hr
  have hget : (a.shown r).cell? id = (SortedMap.ofList cells).get? id := by
    rw [shown, hcells]
    rfl
  obtain ⟨hok, hmap⟩ := readyCells_eq_ok.1 hcells
  by_cases hid : id ∈ a.items.map Item.id
  · obtain ⟨item, hitem, rfl⟩ := List.mem_map.1 hid
    obtain ⟨e, he, hk, hv⟩ := SortedMap.exists_get?_foldl_insert (f := fun e : Int × Cell => e)
      (l := cells) (k := item.id) ⟨_, hmap ▸ List.mem_map_of_mem hitem, rfl⟩ .empty
    rw [hmap] at he
    obtain ⟨item', hitem', rfl⟩ := List.mem_map.1 he
    obtain ⟨c, hc⟩ := hok item' hitem'
    refine .inr ⟨item', hitem', hk, c, hc, hget.trans (hv.trans ?_)⟩
    rw [hc]
    rfl
  · refine .inl ⟨hid, hget.trans ((SortedMap.get?_foldl_insert_of_not_mem
      (f := fun e : Int × Cell => e) (fun e he hk => hid ?_) _).trans (SortedMap.get?_empty id))⟩
    rw [hmap] at he
    obtain ⟨item, hitem, rfl⟩ := List.mem_map.1 he
    exact hk ▸ List.mem_map_of_mem hitem

end Completing

end Assembly

end Reporting

import Reporting.Model.Definition
import Reporting.Rows.Row

/-!
# Group totals

Detail rows are totalled in one pass along every rank of grouping at once. The groups of a rank are
keyed by the texts of its items and of those of the ranks above it.
-/

namespace Reporting

structure GroupTotals where
  /-- The grouping cells of the first row of the group. -/
  keyCells : List (Int × Cell)
  summaries : SortedMap Int Summary := .empty

namespace GroupTotals

def opened (axes : List Int) (r : Row) : GroupTotals where
  keyCells := axes.filterMap fun item => (r.cell? item).map (item, ·)

def contribution (r : Row) (item : Int) : Option Decimal :=
  (r.cell? item).bind fun c => c.value.contribution

def addRow (summarized : List Int) (r : Row) (g : GroupTotals) : GroupTotals :=
  { g with
    summaries := summarized.foldl
      (fun m item => m.alter item fun s? => (s?.getD .empty).insert? (contribution r item))
      g.summaries }

def toRow (level : Int) (g : GroupTotals) : Row where
  cells := g.summaries.entries.foldl (fun m (item, s) => m.insert item (.ofSummary s))
    (.ofList g.keyCells)
  level := level
  isSummary := true

end GroupTotals

abbrev GroupKey := List String

/-- The groups of one rank, which is keyed by the items `axes`. -/
structure RankTotals where
  axes : List Int
  groups : SortedMap GroupKey GroupTotals := .empty

namespace RankTotals

def keyOf (axes : List Int) (r : Row) : GroupKey := axes.map r.sortText

def addRow (summarized : List Int) (r : Row) (t : RankTotals) : RankTotals :=
  { t with
    groups := t.groups.alter (keyOf t.axes r) fun g? =>
      (g?.getD (.opened t.axes r)).addRow summarized r }

end RankTotals

structure Totals where
  /-- The items grouped by, outermost first. -/
  axes : List Int
  summarized : List Int
  /-- The groups of each rank, outermost first. -/
  ranks : List RankTotals

namespace Totals

/-- No rows so far. The items of a rank are those of the rank above it and one more. -/
def start (axes summarized : List Int) : Totals where
  axes := axes
  summarized := summarized
  ranks := (List.range axes.length).map fun rank => { axes := axes.take (rank + 1) }

/-- Totals of the printed items that ask for them, by the items grouped by. -/
def forDefinition (d : Definition) : Totals :=
  start (d.groupItems.map Item.id) ((d.printedItems.filter Item.isSummarizable).map Item.id)

def isEmpty (t : Totals) : Bool := t.ranks.all fun r => r.groups.isEmpty

def addRow (t : Totals) (r : Row) : Totals :=
  { t with ranks := t.ranks.map (RankTotals.addRow t.summarized r) }

/-- The running totals of an item in one group. -/
def summary? (t : Totals) (rank : Nat) (key : GroupKey) (item : Int) : Option Summary := do
  let r ← t.ranks[rank]?
  let g ← r.groups.get? key
  g.summaries.get? item

/-- A row of totals for every group, ranks in order and groups in the order of their keys. -/
def rows (t : Totals) : List Row :=
  t.ranks.zipIdx.flatMap fun (r, rank) => r.groups.values.map (GroupTotals.toRow rank)

end Totals

end Reporting

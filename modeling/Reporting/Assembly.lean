import Reporting.Mapping.Basic
import Reporting.Rows.Totals
import Reporting.Rows.Tree

/-!
# Report assembly

A report is assembled row by row: cells are staged, a row is closed, and its values are added to
the totals. Completion puts rows and totals in order, makes every cell ready to be shown and
measures the columns; it can be done at any time and again.
-/

namespace Reporting

structure ReportOptions where
  mappings : ItemMappings
  locale : Locale
  financialTable : String

structure Completion where
  /-- The rows in the order for a tree. -/
  rows : List Row := []
  summaryRows : List Row := []
  /-- The rows of totals before they were made ready. -/
  totalRows : List Row := []
  /-- The most characters shown for each item. -/
  widths : SortedMap Int Nat := .empty

structure Assembly where
  definition : Definition
  options : ReportOptions
  totals : Totals
  /-- The row that is being read. -/
  staged : Option Row := none
  details : List Row := []
  completion : Completion := {}

namespace Assembly

def start (d : Definition) (options : ReportOptions) : Assembly where
  definition := d
  options := options
  totals := .forDefinition d

def items (a : Assembly) : List Item := a.definition.printedItems

def sorting (a : Assembly) : List Int := a.definition.sortingItems.map Item.id

def isFinancial (a : Assembly) : Bool := a.definition.tableName = a.options.financialTable

/-- The level of detail rows, one below the innermost group. -/
def detailLevel (a : Assembly) : Int := a.totals.axes.length

def recordCount (a : Assembly) : Nat := a.details.length

section Reading

def addCell (a : Assembly) (item : Int) (c : Cell) : Assembly :=
  { a with staged := some ((a.staged.getD { level := a.detailLevel }).setCell item c) }

/-- Closes the row that is being read, if there is one, at an address. -/
def closeRow (a : Assembly) (level sequence : Int) : Assembly :=
  match a.staged with
  | none => a
  | some row =>
    let row := { row with level := level, sequence := sequence }
    { a with
      staged := none
      totals := a.totals.addRow row
      details := a.details ++ [row] }

def addRow (a : Assembly) : Assembly := a.closeRow a.detailLevel 0

end Reading

section Completing

def readyCell (a : Assembly) (source : Row) (item : Item) : Except ReportError Cell :=
  a.options.mappings.get item.id { item := item, locale := a.options.locale }
    ((source.cell? item.id).getD .empty)

def readyCells (a : Assembly) (source : Row) : Except ReportError (List (Int × Cell)) :=
  a.items.mapM fun item => return (item.id, ← a.readyCell source item)

def withCells (source : Row) (cells : List (Int × Cell)) : Row :=
  { source with cells := .ofList cells }

/-- The details, unless only totals are shown, and after them the totals. -/
def sources (a : Assembly) : List Row :=
  (if a.definition.isSummary then [] else a.details) ++ a.totals.rows

def isSummaryRow (a : Assembly) (r : Row) : Bool := r.isSummary || (r.level = 0 && a.isFinancial)

def widen (widths : SortedMap Int Nat) (cell : Int × Cell) : SortedMap Int Nat :=
  widths.alter cell.1 fun w? => max (w?.getD 0) cell.2.display.length

def complete (a : Assembly) : Except ReportError Assembly := do
  let ready ← (Row.sortedBy (Row.treeOrder a.sorting) a.sources).mapM fun source =>
    return (source, ← a.readyCells source)
  let rows := ready.map fun (source, cells) => withCells source cells
  return { a with
    completion := {
      rows := rows
      summaryRows := rows.filter a.isSummaryRow
      totalRows := a.totals.rows
      widths := (ready.flatMap Prod.snd).foldl widen .empty } }

end Completing

section Results

/-- The completed rows with totals after the rows that show the same in the sorted columns. -/
def listing (a : Assembly) : List Row :=
  Row.sortedBy (Row.listingOrder a.sorting) a.completion.rows

def tree (a : Assembly) : List RowTree :=
  if a.isFinancial then RowTree.financial a.completion.rows
  else RowTree.grouped a.completion.rows a.totals.axes

/-- The most characters shown for an item, zero before completion. -/
def width (a : Assembly) (item : Item) : Nat := (a.completion.widths.get? item.id).getD 0

end Results

end Assembly

end Reporting

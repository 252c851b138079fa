import Reporting.Rows.Cell
import Reporting.SortedMap
import Reporting.Text.Lowercase

/-!
# Rows

A row has a cell for each item it knows and an address: its level, counted from the outermost total,
and a sequence number within it. Two orders of rows share the comparison of sorted columns; of rows
that show the same there, listings put a total after the others, trees before them.
-/

namespace Reporting

structure Row where
  cells : SortedMap Int Cell := .empty
  level : Int := 0
  sequence : Int := 0
  isSummary : Bool := false

namespace Row

instance : Inhabited Row := ⟨{}⟩

def cell? (r : Row) (item : Int) : Option Cell := r.cells.get? item

def setCell (r : Row) (item : Int) (c : Cell) : Row := { r with cells := r.cells.insert item c }

/-- The text by which a row is ordered and grouped, empty where it has no cell. -/
def sortText (r : Row) (item : Int) : String := ((r.cell? item).map Cell.display).getD ""

/-- The order of two rows by the first sorted column in which they differ, without regard to
case. -/
def compareColumns (sorting : List Int) (a b : Row) : Ordering :=
  match sorting with
  | [] => .eq
  | item :: rest =>
    (compare (Text.toLowercase (a.sortText item)) (Text.toLowercase (b.sortText item))).then
      (compareColumns rest a b)

/-- The order of a listing: deeper rows first among rows alike, and only levels in ascending order
when no column is sorted. -/
def listingOrder (sorting : List Int) (a b : Row) : Ordering :=
  if sorting.isEmpty then compare a.level b.level
  else (compareColumns sorting a b).then (compare b.level a.level)

/-- The order for building a tree: outer rows first among rows alike, and only levels in descending
order when no column is sorted. -/
def treeOrder (sorting : List Int) (a b : Row) : Ordering :=
  if sorting.isEmpty then compare b.level a.level
  else (compareColumns sorting a b).then (compare a.level b.level)

/-- Rows in an order, those that are alike in it as they were. -/
def sortedBy (order : Row → Row → Ordering) (rows : List Row) : List Row :=
  rows.mergeSort fun a b => (order a b).isLE

end Row

end Reporting

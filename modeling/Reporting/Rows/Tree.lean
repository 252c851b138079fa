import Reporting.Rows.Row

/-!
# Trees of rows

Financial reports nest rows by their address: a row is under the one above it of the same sequence.
All other reports nest them by what they are grouped by: a row is under the total of a rank when
both have the same cells for the items of that rank and of the ranks above it.
-/

namespace Reporting

inductive RowTree
  | node (row : Row) (children : List RowTree)

namespace RowTree

def leaf (row : Row) : RowTree := node row []

def row : RowTree → Row
  | node row _ => row

def children : RowTree → List RowTree
  | node _ children => children

section Financial

/-- The rows directly under a row by address. -/
def directlyUnder (rows : List Row) (parent : Row) : List Row :=
  rows.filter fun r => r.level = parent.level + 1 && r.sequence = parent.sequence

/-- The tree under a row, at most `depth` levels deep. -/
def financialFrom (rows : List Row) : Nat → Row → RowTree
  | 0, parent => leaf parent
  | depth + 1, parent => node parent ((directlyUnder rows parent).map (financialFrom rows depth))

/-- The rows of level zero with those under them; every level of a tree takes a row of its own, so
no tree is deeper than there are rows. -/
def financial (rows : List Row) : List RowTree :=
  (rows.filter (·.level = 0)).map (financialFrom rows rows.length)

end Financial

section Grouped

/-- Both rows have equal cells for all of the items; a missing cell or one without a value equals
none. -/
def agree (axes : List Int) (a b : Row) : Bool :=
  axes.all fun item =>
    match a.cell? item, b.cell? item with
    | some x, some y => x.same y
    | _, _ => false

/-- The rows under a total: those of the next rank while there is one, otherwise all deeper ones.
`rank` is how many items the total is grouped by. -/
def members (rows : List Row) (axes : List Int) (rank : Nat) (parent : Row) : List Row :=
  rows.filter fun r =>
    (if rank < axes.length then r.level = rank else parent.level < r.level)
      && agree (axes.take rank) parent r

def groupedFrom (rows : List Row) (axes : List Int) (rank : Nat) (parent : Row) : RowTree :=
  if rank < axes.length then
    node parent ((members rows axes rank parent).map (groupedFrom rows axes (rank + 1)))
  else node parent ((members rows axes rank parent).map leaf)
termination_by axes.length - rank

/-- The outermost totals with what they total; rows stay flat when nothing is grouped. -/
def grouped (rows : List Row) (axes : List Int) : List RowTree :=
  if axes.isEmpty then rows.map leaf
  else (rows.filter (·.level = 0)).map (groupedFrom rows axes 1)

end Grouped

end RowTree

end Reporting

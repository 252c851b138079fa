import Reporting.Text.Lowercase
import Reporting.Value.Cell

/-!
# Records

One row of a query's result. Columns are found by name without regard to the case of letters.
-/

namespace Reporting

structure Record where
  columns : List String
  values : List CellValue

namespace Record

def ofPairs (pairs : List (String × CellValue)) : Record :=
  ⟨pairs.map Prod.fst, pairs.map Prod.snd⟩

/-- The value at the first column of a name; a record can have fewer values than columns. -/
def get? (r : Record) (column : String) : Option CellValue :=
  (r.columns.findIdx? (Text.sameAsciiCase · column)).bind (r.values[·]?)

def int64? (r : Record) (column : String) : Option Int64 := (r.get? column).bind CellValue.int64?

def decimal? (r : Record) (column : String) : Option Decimal :=
  (r.get? column).bind CellValue.decimal?

/-- The text of a value that is not null. -/
def text? (r : Record) (column : String) : Option String :=
  ((r.get? column).filter (!·.isNull)).map CellValue.display

end Record

end Reporting

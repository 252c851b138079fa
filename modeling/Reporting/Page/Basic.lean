import Reporting.Power
import Reporting.Settings.Basic

/-!
# Pages

A page is a window over the rows of a result. A strategy puts it into a query, either as a condition
on a column that numbers the rows or as a limit after the order.
-/

namespace Reporting

/-- The sum, or the largest number when it does not fit. -/
def saturatingAdd (a b : UInt64) : UInt64 :=
  if a.toNat + b.toNat < 2 ^ 64 then a + b else .ofNat (2 ^ 64 - 1)

inductive Page
  | window (limit offset : UInt64)
  | unlimited
deriving DecidableEq, Repr

namespace Page

/-- The page that a request asks for: a negative limit means all rows, zero the usual number. -/
def ofRequest (limit : Int) (offset pageSize : UInt64) : Page :=
  if limit < 0 then .unlimited
  else .window (if limit = 0 then pageSize else .ofNat limit.toNat) offset

def limit? : Page → Option UInt64
  | .window limit _ => some limit
  | .unlimited => none

def offset : Page → UInt64
  | .window _ offset => offset
  | .unlimited => 0

end Page

/-- What a page adds to a query. -/
structure PageClause where
  condition : Option String := none
  /-- The text after the order. -/
  ending : Option String := none
deriving DecidableEq, Repr

/-- How pages are put into a query. -/
inductive Paging
  /-- By bounds on a column that numbers the rows. -/
  | rowNumber (column : String)
  | limitOffset
deriving DecidableEq, Repr

namespace Paging

/-- The column that numbers the rows unless another one is named. -/
def rowColumn : String := "ROWNUM"

def ofStrategy : PageStrategy → Paging
  | .rowNumber => .rowNumber rowColumn
  | .limitOffset => .limitOffset

def clause : Paging → Page → PageClause
  | _, .unlimited => {}
  | .rowNumber column, .window limit offset =>
    let last := saturatingAdd offset limit
    { condition := some s!"{column} >= {offset} AND {column} <= {last}" }
  | .limitOffset, .window limit offset => { ending := some s!" LIMIT {limit} OFFSET {offset}" }

end Paging

end Reporting

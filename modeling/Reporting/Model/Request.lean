import Reporting.Model.Filter

/-!
# Report requests
-/

namespace Reporting

/-- A report by its id, with filters and the page wanted. -/
structure Request where
  reportId : Option Int := none
  filters : List Filter := []
  /-- Rows on a page: zero for the configured number, negative for all rows. -/
  limit : Int := 0
  offset : UInt64 := 0
  pageToken : Option String := none

end Reporting

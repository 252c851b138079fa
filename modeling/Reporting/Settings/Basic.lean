import Reporting.Locale.Basic

/-!
# Settings

Settings hold for all reports, and a report can have its own paging and its own locale in place of
the general ones.
-/

namespace Reporting

inductive PageStrategy
  /-- By bounds on a column that numbers the rows. -/
  | rowNumber
  /-- By a number of rows and a number of rows before them. -/
  | limitOffset
deriving DecidableEq, Repr

namespace PageStrategy

def name : PageStrategy → String
  | .rowNumber => "row_number"
  | .limitOffset => "limit_offset"

def ofName? : String → Option PageStrategy
  | "row_number" => some .rowNumber
  | "limit_offset" => some .limitOffset
  | _ => none

end PageStrategy

structure PageSettings where
  /-- The rows on a page when a request does not say how many. -/
  pageSize : UInt64 := 100
  strategy : PageStrategy := .rowNumber
deriving DecidableEq, Repr

/-- The table filled for financial reports and the columns of the addresses of its rows. -/
structure FinancialSettings where
  tableName : String := "T_Report"
  levelColumn : String := "LevelNo"
  sequenceColumn : String := "SeqNo"
deriving DecidableEq, Repr

structure StoreSettings where
  /-- The queries that can run at a time. -/
  maxConcurrency : UInt64 := 16
deriving DecidableEq, Repr

structure GeneralSettings where
  pages : PageSettings := {}
  locale : Locale := {}
  financial : FinancialSettings := {}
  store : StoreSettings := {}
deriving DecidableEq, Repr

structure ReportSettings where
  pages : Option PageSettings := none
  locale : Option Locale := none
deriving DecidableEq, Repr

structure Settings where
  general : GeneralSettings := {}
  /-- The reports with settings of their own, by name, each once. -/
  reports : List (String × ReportSettings) := []
deriving DecidableEq, Repr

structure ResolvedSettings where
  pages : PageSettings := {}
  locale : Locale := {}
  financial : FinancialSettings := {}
deriving DecidableEq, Repr

namespace Settings

instance : Inhabited Settings := ⟨{}⟩

/-- The settings of a report by name, its own ones first. -/
def forReport (s : Settings) (name : String) : ResolvedSettings :=
  let own := (s.reports.lookup name).getD {}
  { pages := own.pages.getD s.general.pages
    locale := own.locale.getD s.general.locale
    financial := s.general.financial }

end Settings

end Reporting

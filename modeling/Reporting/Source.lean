import Reporting.Error
import Reporting.Record
import Reporting.Settings.Basic
import Reporting.Sql.Dialect

/-!
# Data sources

A data source answers queries: it counts rows and streams records. A record that could not be read
is an error in its place in the stream.
-/

namespace Reporting

structure Source where
  dialect : Sql.Dialect
  count : String → List Parameter → Except ReportError UInt64
  records : String → List Parameter → Except ReportError (List (Except ReportError Record))

/-- The data sources by name and the settings of the reports that read them. -/
structure Sources where
  source? : String → Option Source
  settings : Settings := {}

end Reporting

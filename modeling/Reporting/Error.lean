/-!
# Errors

Why a report could not be made. Most causes carry a text; `ReportError.message` words each of them
and `ReportError.key` is what a caller translates for its user.
-/

namespace Reporting

inductive ReportError
  | io
  | yaml
  | json
  /-- The report's metadata cannot be used. -/
  | configuration (key : String)
  /-- One record or lookup could not be read. -/
  | dataAccess (text : String)
  | execution (text : String)
  | cancelled
  | validation (text : String)
  | config (text : String)
  | duckDb (text : String)
  | other (text : String)
  /-- A date pattern asks for a time zone, which a timestamp does not have. -/
  | zoneNeeded
deriving DecidableEq, Repr

namespace ReportError

def message : ReportError → String
  | .io => "io error"
  | .yaml => "yaml parse error"
  | .json => "json error"
  | .configuration key => "configuration error: " ++ key
  | .dataAccess text => "data access error: " ++ text
  | .execution text => "execution error: " ++ text
  | .cancelled => "report build cancelled"
  | .validation text => "validation error: " ++ text
  | .config text => "config error: " ++ text
  | .duckDb text => "duckdb error: " ++ text
  | .other text => text
  | .zoneNeeded => "a date pattern needs a time zone"

/-- The key under which the error is put into the user's language. -/
def key : ReportError → String
  | .configuration key => key
  | .cancelled => "@Cancelled@"
  | e => e.message

/-- Everything but a failed record ends the report. -/
def isFatal : ReportError → Bool
  | .dataAccess _ => false
  | _ => true

def formatMissing : ReportError := .configuration "@FillMandatory@ @AD_PrintFormat_ID@"

def formatNotFound : ReportError := .configuration "@AD_PrintFormat_ID@ @NotFound@"

def dataSourceNotFound (name : String) : ReportError :=
  .configuration s!"@AD_DataSource@ @NotFound@: {name}"

def referenceNotFound : ReportError := .configuration "@AD_Reference_ID@ @NotFound@"

def referenceValueMissing : ReportError :=
  .configuration "@FillMandatory@ @AD_Reference_Value_ID@"

def itemsNotFound : ReportError := .configuration "@AD_PrintFormatItem_ID@ @NotFound@"

end ReportError

end Reporting

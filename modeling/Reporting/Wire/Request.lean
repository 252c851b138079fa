import Reporting.Model.Request
import Reporting.Wire.Record

/-!
# Requests and filters in documents
-/

namespace Reporting

open Wire

/-- An operator is a text or null. -/
def FilterOperator.ofJson? : Json → Option FilterOperator
  | .null => some .equal
  | .string s => some (.ofText s)
  | _ => none

namespace Filter

def fieldNames : List String :=
  ["column_name", "operator", "value", "values", "from_value", "to_value"]

def ofJson? (j : Json) : Option Filter := do
  let fs ← fields? fieldNames j
  return {
    columnName := ← required "column_name" string? fs
    operator := ← withDefault "operator" .equal FilterOperator.ofJson? fs
    value := ← withDefault "value" .null some fs
    values := ← withDefault "values" [] (list? some) fs
    fromValue := ← withDefault "from_value" .null some fs
    toValue := ← withDefault "to_value" .null some fs }

def toJson (f : Filter) : Json :=
  .object [
    ("column_name", .string f.columnName), ("operator", .string f.operator.name),
    ("value", f.value), ("values", .array f.values), ("from_value", f.fromValue),
    ("to_value", f.toValue)]

end Filter

namespace Request

def fieldNames : List String := ["report_id", "filters", "limit", "offset", "page_token"]

def ofJson? (j : Json) : Option Request := do
  let fs ← fields? fieldNames j
  return {
    reportId := ← withDefault "report_id" none (option? int64?) fs
    filters := ← withDefault "filters" [] (list? Filter.ofJson?) fs
    limit := ← withDefault "limit" 0 int64? fs
    offset := ← withDefault "offset" 0 uint64? fs
    pageToken := ← withDefault "page_token" none (option? string?) fs }

def toJson (r : Request) : Json :=
  .object [
    ("report_id", .ofOption .ofInt r.reportId), ("filters", .ofList Filter.toJson r.filters),
    ("limit", .ofInt r.limit), ("offset", .ofNat r.offset.toNat),
    ("page_token", .ofOption .string r.pageToken)]

end Request

end Reporting

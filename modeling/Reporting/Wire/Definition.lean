import Reporting.Model.Definition
import Reporting.Model.Lookup
import Reporting.Wire.Record

/-!
# Definitions and lookups in documents
-/

namespace Reporting

open Wire

namespace Item

def fieldNames : List String :=
  ["id", "name", "print_name", "column_name", "sequence", "sort_sequence", "reference",
    "reference_value_id", "is_mandatory", "column_sql", "format_pattern", "mapping", "is_printed",
    "is_active", "is_order_by", "is_desc", "is_group_by", "is_summarized", "is_counted",
    "is_min_calc", "is_max_calc", "is_averaged", "is_variance_calc", "is_deviation_calc",
    "is_hide_grand_total"]

def ofJson? (j : Json) : Option Item := do
  let fs ← fields? fieldNames j
  let text (name : String) : Option (Option String) := withDefault name none (option? string?) fs
  let flag (name : String) : Option Bool := withDefault name false bool? fs
  return {
    id := ← required "id" int64? fs
    name := ← required "name" string? fs
    printName := ← text "print_name"
    columnName := ← text "column_name"
    sequence := ← withDefault "sequence" 0 int32? fs
    sortSequence := ← withDefault "sort_sequence" 0 int32? fs
    displayType := ← required "reference" (choice? DisplayType.ofName?) fs
    referenceValueId := ← withDefault "reference_value_id" none (option? int64?) fs
    mandatory := ← flag "is_mandatory"
    columnSql := ← text "column_sql"
    formatPattern := ← text "format_pattern"
    mapping := ← text "mapping"
    printed := ← withDefault "is_printed" true bool? fs
    active := ← withDefault "is_active" true bool? fs
    orderBy := ← flag "is_order_by"
    descending := ← flag "is_desc"
    groupBy := ← flag "is_group_by"
    summarized := ← flag "is_summarized"
    counted := ← flag "is_counted"
    minimum := ← flag "is_min_calc"
    maximum := ← flag "is_max_calc"
    averaged := ← flag "is_averaged"
    variance := ← flag "is_variance_calc"
    deviation := ← flag "is_deviation_calc"
    hideGrandTotal := ← flag "is_hide_grand_total" }

def toJson (i : Item) : Json :=
  let text (o : Option String) : Json := .ofOption .string o
  .object [
    ("id", .ofInt i.id), ("name", .string i.name), ("print_name", text i.printName),
    ("column_name", text i.columnName), ("sequence", .ofInt i.sequence),
    ("sort_sequence", .ofInt i.sortSequence), ("reference", .string i.displayType.name),
    ("reference_value_id", .ofOption .ofInt i.referenceValueId),
    ("is_mandatory", .bool i.mandatory), ("column_sql", text i.columnSql),
    ("format_pattern", text i.formatPattern), ("mapping", text i.mapping),
    ("is_printed", .bool i.printed), ("is_active", .bool i.active),
    ("is_order_by", .bool i.orderBy), ("is_desc", .bool i.descending),
    ("is_group_by", .bool i.groupBy), ("is_summarized", .bool i.summarized),
    ("is_counted", .bool i.counted), ("is_min_calc", .bool i.minimum),
    ("is_max_calc", .bool i.maximum), ("is_averaged", .bool i.averaged),
    ("is_variance_calc", .bool i.variance), ("is_deviation_calc", .bool i.deviation),
    ("is_hide_grand_total", .bool i.hideGrandTotal)]

end Item

namespace Definition

def fieldNames : List String :=
  ["id", "name", "description", "table_name", "data_source", "is_summary", "group_by", "items"]

def ofJson? (j : Json) : Option Definition := do
  let fs ← fields? fieldNames j
  return {
    id := ← required "id" int64? fs
    name := ← required "name" string? fs
    description := ← withDefault "description" none (option? string?) fs
    tableName := ← required "table_name" string? fs
    dataSource := ← withDefault "data_source" "default" string? fs
    isSummary := ← withDefault "is_summary" false bool? fs
    groupBy := ← withDefault "group_by" [] (list? string?) fs
    items := ← required "items" (list? Item.ofJson?) fs }

def toJson (d : Definition) : Json :=
  .object [
    ("id", .ofInt d.id), ("name", .string d.name), ("description", .ofOption .string d.description),
    ("table_name", .string d.tableName), ("data_source", .string d.dataSource),
    ("is_summary", .bool d.isSummary), ("group_by", .ofList .string d.groupBy),
    ("items", .ofList Item.toJson d.items)]

end Definition

namespace Lookup

def fieldNames : List String :=
  ["table_name", "key_column", "display_column", "is_value_displayed", "is_translated",
    "translation_key", "discriminator"]

def ofJson? (j : Json) : Option Lookup := do
  let fs ← fields? fieldNames j
  return {
    tableName := ← required "table_name" string? fs
    keyColumn := ← required "key_column" string? fs
    displayColumn := ← required "display_column" string? fs
    valueDisplayed := ← withDefault "is_value_displayed" false bool? fs
    translated := ← withDefault "is_translated" false bool? fs
    translationKey := ← withDefault "translation_key" none (option? string?) fs
    discriminator := ← withDefault "discriminator" none (option? (pair? string? int64?)) fs }

def toJson (l : Lookup) : Json :=
  .object [
    ("table_name", .string l.tableName), ("key_column", .string l.keyColumn),
    ("display_column", .string l.displayColumn), ("is_value_displayed", .bool l.valueDisplayed),
    ("is_translated", .bool l.translated),
    ("translation_key", .ofOption .string l.translationKey),
    ("discriminator",
      .ofOption (fun (column, n) => .array [.string column, .ofInt n]) l.discriminator)]

end Lookup

end Reporting

import Reporting.Settings.Basic
import Reporting.Wire.Record

/-!
# Settings in documents

Every field has a default, so each of the records may be empty.
-/

namespace Reporting

open Wire

def Locale.ofJson? (j : Json) : Option Locale := do
  let fs ← fields? ["language", "decimal_separator", "grouping_separator", "date_pattern",
    "date_time_pattern", "time_pattern", "yes_label", "no_label"] j
  let l : Locale := {}
  return {
    language := ← withDefault "language" l.language string? fs
    decimalSeparator := ← withDefault "decimal_separator" l.decimalSeparator char? fs
    groupingSeparator := ← withDefault "grouping_separator" l.groupingSeparator char? fs
    datePattern := ← withDefault "date_pattern" l.datePattern string? fs
    dateTimePattern := ← withDefault "date_time_pattern" l.dateTimePattern string? fs
    timePattern := ← withDefault "time_pattern" l.timePattern string? fs
    yesLabel := ← withDefault "yes_label" l.yesLabel string? fs
    noLabel := ← withDefault "no_label" l.noLabel string? fs }

def Locale.toJson (l : Locale) : Json :=
  .object [
    ("language", .string l.language),
    ("decimal_separator", .string l.decimalSeparator.toString),
    ("grouping_separator", .string l.groupingSeparator.toString),
    ("date_pattern", .string l.datePattern), ("date_time_pattern", .string l.dateTimePattern),
    ("time_pattern", .string l.timePattern), ("yes_label", .string l.yesLabel),
    ("no_label", .string l.noLabel)]

def PageSettings.ofJson? (j : Json) : Option PageSettings := do
  let fs ← fields? ["page_size", "strategy"] j
  let p : PageSettings := {}
  return {
    pageSize := ← withDefault "page_size" p.pageSize uint64? fs
    strategy := ← withDefault "strategy" p.strategy (choice? PageStrategy.ofName?) fs }

def PageSettings.toJson (p : PageSettings) : Json :=
  .object [("page_size", .ofNat p.pageSize.toNat), ("strategy", .string p.strategy.name)]

def FinancialSettings.ofJson? (j : Json) : Option FinancialSettings := do
  let fs ← fields? ["table_name", "level_column", "sequence_column"] j
  let f : FinancialSettings := {}
  return {
    tableName := ← withDefault "table_name" f.tableName string? fs
    levelColumn := ← withDefault "level_column" f.levelColumn string? fs
    sequenceColumn := ← withDefault "sequence_column" f.sequenceColumn string? fs }

def FinancialSettings.toJson (f : FinancialSettings) : Json :=
  .object [
    ("table_name", .string f.tableName), ("level_column", .string f.levelColumn),
    ("sequence_column", .string f.sequenceColumn)]

def StoreSettings.ofJson? (j : Json) : Option StoreSettings := do
  let fs ← fields? ["max_concurrency"] j
  let s : StoreSettings := {}
  return { maxConcurrency := ← withDefault "max_concurrency" s.maxConcurrency uint64? fs }

def StoreSettings.toJson (s : StoreSettings) : Json :=
  .object [("max_concurrency", .ofNat s.maxConcurrency.toNat)]

def GeneralSettings.ofJson? (j : Json) : Option GeneralSettings := do
  let fs ← fields? ["pagination", "locale", "financial", "duckdb"] j
  return {
    pages := ← withDefault "pagination" {} PageSettings.ofJson? fs
    locale := ← withDefault "locale" {} Locale.ofJson? fs
    financial := ← withDefault "financial" {} FinancialSettings.ofJson? fs
    store := ← withDefault "duckdb" {} StoreSettings.ofJson? fs }

def ReportSettings.ofJson? (j : Json) : Option ReportSettings := do
  let fs ← fields? ["pagination", "locale"] j
  return {
    pages := ← withDefault "pagination" none (option? PageSettings.ofJson?) fs
    locale := ← withDefault "locale" none (option? Locale.ofJson?) fs }

def Settings.ofJson? (j : Json) : Option Settings := do
  let fs ← fields? ["defaults", "reports"] j
  return {
    general := ← withDefault "defaults" {} GeneralSettings.ofJson? fs
    reports := ← withDefault "reports" [] (table? ReportSettings.ofJson?) fs }

end Reporting

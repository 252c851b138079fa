import Reporting.Locale.Format
import Reporting.Mapping.Basic

/-!
# The formatting mapping

Formats dates, numbers and flags by the locale, and the statistics of totals as numbers. Identifiers
are read from the record as they are.
-/

namespace Reporting.Formatting

/-- The column that holds the id of a row of any table, and the one that holds its table. -/
def recordColumn : String := "Record_ID"

def tableColumn : String := "TableName"

def isRecordColumn (c : QueryColumn) : Bool := c.columnName == recordColumn

def isIdentifier (c : QueryColumn) : Bool := c.displayType.isId || isRecordColumn c

def tableName? (r : Record) : Option String := (r.text? tableColumn).filter (!Text.isAllBlank ·)

/-- The identifier in a column of a record, with its table where the record names it. -/
def readIdentifier (column : QueryColumn) (r : Record) (c : Cell) : Cell :=
  { c with
    value := ((r.int64? column.label).map .reference).getD c.value
    tableName := if isRecordColumn column then (tableName? r).or c.tableName else c.tableName }

/-- The text of a value of its item's type, none for a value of another type. -/
def valueText? (item : Item) (l : Locale) : CellValue → Except ReportError (Option String)
  | .timestamp t =>
    if item.displayType.isDate then
      some <$> l.formatTimestamp item.displayType item.formatPattern t
    else return none
  | .number d =>
    if item.displayType.isNumeric then
      return some (l.formatNumber item.displayType item.formatPattern d)
    else return none
  | .boolean b => return if item.displayType = .yesNo then some (l.flagLabel b) else none
  | .text s =>
    return if item.displayType = .yesNo then (CellValue.text s).flag?.map l.flagLabel else none
  | _ => return none

/-- The text of a statistic. The pattern of the item applies to statistics of its own type. -/
def statisticText (item : Item) (l : Locale) (c : Cell) : StatisticTexts := fun k =>
  (c.statistic? k).map fun d =>
    let type := k.displayType item.displayType
    l.formatNumber type (if type = item.displayType then item.formatPattern else none) d

def format (item : Item) (l : Locale) (c : Cell) : Except ReportError Cell := do
  return { c with
    text := (← valueText? item l c.value).or c.text
    statisticTexts := statisticText item l c }

def mapping : ColumnMapping := fun context c =>
  match context.record, context.column with
  | some r, some column =>
    if isIdentifier column then return readIdentifier column r c
    else format context.item context.locale c
  | _, _ => format context.item context.locale c

end Reporting.Formatting

import Reporting.Run

/-!
# Finished reports in documents

The header of a report, its columns and the tree of its rows.
-/

namespace Reporting

def Statistic.field : Statistic → String
  | .sum => "sum_value"
  | .mean => "mean_value"
  | .count => "count_value"
  | .minimum => "minimum_value"
  | .maximum => "maximum_value"
  | .variance => "variance_value"
  | .deviation => "deviation_value"

/-- A cell with those of its statistics that have a text. -/
def Cell.toJson (c : Cell) : Json :=
  .object ([("value", c.value.toJson), ("display_value", .string c.display),
      ("table_name", .ofOption .string c.tableName)]
    ++ Statistic.all.filterMap fun k => (c.statisticTexts k).map (k.field, .string ·))

namespace RowTree

mutual

def toJson : RowTree → Json
  | node row children =>
    .object [
      ("level", .ofInt row.level), ("is_summary", .bool row.isSummary),
      ("cells", .object (row.cells.entries.map fun (id, c) => (toString id, c.toJson))),
      ("children", .array (childrenToJson children))]

def childrenToJson : List RowTree → List Json
  | [] => []
  | t :: rest => toJson t :: childrenToJson rest

end

end RowTree

namespace ReportOutput

def columnToJson (a : Assembly) (i : Item) : Json :=
  .object [
    ("id", .ofInt i.id), ("title", .string i.title), ("display_type", .ofInt i.displayType.code),
    ("sequence", .ofInt i.sequence), ("is_group_column", .bool i.groupBy),
    ("characters_size", .ofNat (a.width i))]

def toJson (o : ReportOutput) : Json :=
  let d := o.report.definition
  .object [
    ("id", .ofInt d.id), ("name", .string d.name), ("description", .ofOption .string d.description),
    ("record_count", .ofNat o.report.recordCount), ("total_count", .ofNat o.total.toNat),
    ("next_page_token", .ofOption .string (o.nextToken.map PageToken.encode)),
    ("columns", .ofList (columnToJson o.report) o.report.items),
    ("rows", .array (RowTree.childrenToJson o.report.tree))]

end ReportOutput

end Reporting

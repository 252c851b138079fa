import Reporting.Assembly
import Reporting.Json.Basic

/-!
# Report headers in documents
-/

namespace Reporting.Assembly

def columnToJson (a : Assembly) (i : Item) : Json :=
  .object [
    ("id", .ofInt i.id), ("title", .string i.title), ("reference", .string i.displayType.name),
    ("sequence", .ofInt i.sequence), ("is_group_column", .bool i.groupBy),
    ("characters_size", .ofNat (a.width i))]

/-- The header of a report and its columns. -/
def summaryToJson (a : Assembly) : Json :=
  .object [
    ("id", .ofInt a.definition.id), ("name", .string a.definition.name),
    ("description", .ofOption .string a.definition.description),
    ("record_count", .ofNat a.recordCount), ("columns", .ofList a.columnToJson a.items)]

end Reporting.Assembly

import Reporting.Mapping.Formatting

/-!
# The entity mapping

Shows the id of a row of any table as the text that a lookup by table and id finds for it, and
formats everything else.
-/

namespace Reporting

/-- Finds the text of a row by its table and id. -/
abbrev EntityLookup := String → Int64 → Except ReportError (Option String)

namespace Entity

/-- The text of the row that a cell identifies; a lookup that fails finds nothing. -/
def text? (lookup : EntityLookup) (c : Cell) : Option String := do
  let table ← c.tableName
  let id ← c.value.int64?
  if id ≤ 0 then none
  (lookup table id).toOption.join

def mapping (lookup : EntityLookup) : ColumnMapping := fun context c => do
  let c ← Formatting.mapping context c
  if context.record.isSome && context.column.any Formatting.isRecordColumn then
    return { c with text := (text? lookup c).or c.text }
  else return c

end Entity

end Reporting

import Reporting.Error
import Reporting.Locale.Basic
import Reporting.Model.Definition
import Reporting.Query.Column
import Reporting.Record
import Reporting.Rows.Cell
import Reporting.SortedMap

/-!
# Column mappings

A mapping makes the cell of an item ready to be shown. Items name their mapping, and one that names
none or an unknown one has the fallback.
-/

namespace Reporting

/-- Where a cell stands. While records are read there is a record and a column of the query, at
completion there is neither. -/
structure CellContext where
  item : Item
  column : Option QueryColumn := none
  locale : Locale
  record : Option Record := none

abbrev ColumnMapping := CellContext → Cell → Except ReportError Cell

structure ItemMappings where
  byItem : SortedMap Int ColumnMapping
  fallback : ColumnMapping

namespace ItemMappings

def get (m : ItemMappings) (item : Int) : ColumnMapping := (m.byItem.get? item).getD m.fallback

end ItemMappings

structure MappingRegistry where
  named : SortedMap String ColumnMapping
  fallback : ColumnMapping

namespace MappingRegistry

def contains (m : MappingRegistry) (name : String) : Bool := (m.named.get? name).isSome

/-- The mapping of a name, blanks around it ignored. -/
def resolve (m : MappingRegistry) (name : Option String) : ColumnMapping :=
  ((name.map Text.trim).bind fun s => if s.isEmpty then none else m.named.get? s).getD m.fallback

def bind (m : MappingRegistry) (d : Definition) : ItemMappings where
  byItem := .ofList (d.items.map fun i => (i.id, m.resolve i.mapping))
  fallback := m.fallback

end MappingRegistry

end Reporting

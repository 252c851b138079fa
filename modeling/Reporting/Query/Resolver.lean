import Reporting.Model.DisplayType
import Reporting.Model.Lookup

/-!
# Finding lookup targets

Where the text for a column is looked up depends on its display type. Only tables are described one
by one; lists, special types and directory columns follow conventions.
-/

namespace Reporting

structure Resolver where
  /-- The table described under a reference value id. -/
  table : Int → Option Lookup
  list : Int → Option Lookup
  special : DisplayType → Option Lookup
  /-- The table that a column name points to. -/
  directory : String → Option Lookup

namespace Resolver

/-- The values of all lists are kept in one table. -/
def listLookup (id : Int) : Lookup where
  tableName := "AD_Ref_List"
  keyColumn := "Value"
  displayColumn := "Name"
  translated := true
  translationKey := some "AD_Ref_List_ID"
  discriminator := some ("AD_Reference_ID", id)

def specialLookup? : DisplayType → Option Lookup
  | .location => some ⟨"C_Location", "C_Location_ID", "City", false, false, none, none⟩
  | .account =>
    some ⟨"C_ValidCombination", "C_ValidCombination_ID", "Combination", false, false, none, none⟩
  | .locator => some ⟨"M_Locator", "M_Locator_ID", "Value", false, false, none, none⟩
  | .pAttribute =>
    some ⟨"M_AttributeSetInstance", "M_AttributeSetInstance_ID", "Description", false, false, none,
      none⟩
  | _ => none

/-- The table of a column is its name without the ending for identifiers. -/
def directoryLookup? (column : String) : Option Lookup :=
  let ending := ['_', 'I', 'D']
  let name := column.toList
  if ending.isSuffixOf name && ending.length < name.length then
    some {
      tableName := String.ofList (name.take (name.length - ending.length))
      keyColumn := column
      displayColumn := "Name" }
  else none

/-- The conventions, with tables as described. -/
def conventional (table : Int → Option Lookup) : Resolver where
  table := table
  list id := some (listLookup id)
  special := specialLookup?
  directory := directoryLookup?

end Resolver

end Reporting

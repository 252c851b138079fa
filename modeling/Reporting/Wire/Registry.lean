import Reporting.Registry
import Reporting.Wire.Definition

/-!
# Lookup tables in documents
-/

namespace Reporting

open Wire

/-- The fields of the lookup stand beside its id. -/
def NamedLookup.ofJson? : Json → Option NamedLookup
  | .object members => do
    let fs ← fields? ("id" :: Lookup.fieldNames) (.object members)
    return { id := ← required "id" int64? fs, lookup := ← Lookup.ofJson? (.object members) }
  | _ => none

end Reporting

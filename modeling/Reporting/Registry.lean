import Reporting.Model.Definition
import Reporting.Query.Resolver
import Reporting.SortedMap

/-!
# Registry

The reports and the lookup tables that are known, each under its id.
-/

namespace Reporting

structure NamedLookup where
  id : Int
  lookup : Lookup
deriving DecidableEq, Repr

structure Registry where
  reports : SortedMap Int Definition := .empty
  lookups : SortedMap Int Lookup := .empty

namespace Registry

instance : Inhabited Registry := ⟨{}⟩

def insertReport (r : Registry) (d : Definition) : Registry :=
  { r with reports := r.reports.insert d.id d }

def insertLookup (r : Registry) (l : NamedLookup) : Registry :=
  { r with lookups := r.lookups.insert l.id l.lookup }

/-- A registry of the given parts, a later one replacing an earlier one of its id. -/
def ofParts (reports : List Definition) (lookups : List NamedLookup) : Registry :=
  lookups.foldl insertLookup (reports.foldl insertReport {})

def report? (r : Registry) (id : Int) : Option Definition := r.reports.get? id

/-- Lookups by the registry's tables and, beyond them, by convention. -/
def resolver (r : Registry) : Resolver := .conventional r.lookups.get?

end Registry

end Reporting

import Reporting.Binary.Shortest
import Reporting.Text.Digits

/-!
# JSON values

Whole numbers of 64 bits are kept apart from finite binary numbers. An object is the list of its
members as they were read; `Json.canonical` sorts them by name and keeps the last of each name.
-/

namespace Reporting

inductive JsonNumber
  | integer (value : Int) (inRange : -2 ^ 63 ≤ value ∧ value < 2 ^ 64)
  | float (value : Binary64) (finite : value.isFinite = true)
deriving DecidableEq

namespace JsonNumber

/-- Written out from five places below the point up to sixteen digits before it. -/
def floatStyle : FloatStyle := ⟨-5, 16, true⟩

def toText : JsonNumber → String
  | .integer value _ =>
    String.ofList ((if value < 0 then ['-'] else []) ++ Text.digits value.natAbs)
  | .float value _ => floatStyle.render value

/-- The number as a signed 64-bit integer, none for fractions even if whole. -/
def int64? : JsonNumber → Option Int
  | .integer value _ => if value < 2 ^ 63 then some value else none
  | .float .. => none

def uint64? : JsonNumber → Option Nat
  | .integer value _ => if 0 ≤ value then some value.toNat else none
  | .float .. => none

def ofInt? (i : Int) : Option JsonNumber :=
  if h : -2 ^ 63 ≤ i ∧ i < 2 ^ 64 then some (.integer i h) else none

def ofBinary64? (x : Binary64) : Option JsonNumber :=
  if h : x.isFinite = true then some (.float x h) else none

end JsonNumber

inductive Json
  | null
  | bool (value : Bool)
  | number (value : JsonNumber)
  | string (value : String)
  | array (elements : List Json)
  | object (members : List (String × Json))

namespace Json

instance : Inhabited Json := ⟨.null⟩

/-- A whole number, or null outside 64 bits. -/
def ofInt (i : Int) : Json := ((JsonNumber.ofInt? i).map Json.number).getD .null

def ofNat (n : Nat) : Json := ofInt n

/-- A binary number, or null when it is not finite. -/
def ofBinary64 (x : Binary64) : Json := ((JsonNumber.ofBinary64? x).map Json.number).getD .null

def ofOption {α : Type} (f : α → Json) (o : Option α) : Json := (o.map f).getD .null

def ofList {α : Type} (f : α → Json) (l : List α) : Json := .array (l.map f)

def isNull : Json → Bool
  | .null => true
  | _ => false

/-- The member of a name, the last one when there are several; null when there is none. -/
def member (name : String) (members : List (String × Json)) : Json :=
  ((members.reverse.find? (·.1 == name)).map (·.2)).getD .null

/-- The member of an object; null of anything else. -/
def get (j : Json) (name : String) : Json :=
  match j with
  | .object members => member name members
  | _ => .null

/-- Puts a member at its place by name, replacing one of the same name. -/
def insertSorted (name : String) (value : Json) : List (String × Json) → List (String × Json)
  | [] => [(name, value)]
  | (n, v) :: rest =>
    if name < n then (name, value) :: (n, v) :: rest
    else if name = n then (name, value) :: rest
    else (n, v) :: insertSorted name value rest

mutual

/-- The value with the members of every object sorted by name, the last of each name kept. -/
def canonical : Json → Json
  | .array elements => .array (canonicalElements elements)
  | .object members => .object (canonicalMembers members [])
  | j => j

def canonicalElements : List Json → List Json
  | [] => []
  | j :: rest => canonical j :: canonicalElements rest

def canonicalMembers : List (String × Json) → List (String × Json) → List (String × Json)
  | [], sorted => sorted
  | (name, value) :: rest, sorted =>
    canonicalMembers rest (insertSorted name (canonical value) sorted)

end

end Json

end Reporting

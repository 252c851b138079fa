import Reporting.Calendar.Timestamp
import Reporting.Decimal.Binary
import Reporting.Decimal.Text
import Reporting.Json.Basic
import Reporting.Text.Blank

/-!
# Cell values

What a report cell holds before it is formatted, and the ways in which other parts look at it: as a
number, as a flag, as text, as a contribution to a total.
-/

namespace Reporting

/-- A whole number as a signed 64-bit integer, none outside their range. -/
def int64OfInt? (i : Int) : Option Int64 :=
  if -2 ^ 63 ≤ i ∧ i < 2 ^ 63 then some (Int64.ofInt i) else none

/-- A 64-bit integer is a decimal without places. -/
def Decimal.ofInt64 (i : Int64) : Decimal :=
  Decimal.ofInt i.toInt (by
    have h1 := i.toInt_lt
    have h2 := i.le_toInt
    omega)

def Decimal.toInt64? (d : Decimal) : Option Int64 := int64OfInt? d.trunc

namespace Text

/-- The spellings of a set flag. -/
def isYes (s : String) : Bool := ["Y", "y", "true", "TRUE", "1"].contains (trim s)

end Text

inductive CellValue
  | null
  | number (value : Decimal)
  | boolean (value : Bool)
  | timestamp (value : Calendar.Timestamp)
  | text (value : String)
  /-- The identifier of a row elsewhere. -/
  | reference (id : Int64)
deriving DecidableEq

namespace CellValue

instance : Inhabited CellValue := ⟨.null⟩

def isNull : CellValue → Bool
  | .null => true
  | _ => false

/-- The same value, numbers compared without regard to their places. -/
def same : CellValue → CellValue → Bool
  | .number a, .number b => a.same b
  | a, b => a = b

def display : CellValue → String
  | .null => ""
  | .number d => d.toText
  | .boolean b => if b then "true" else "false"
  | .timestamp t => t.display
  | .text s => s
  | .reference id => toString id.toInt

def decimal? : CellValue → Option Decimal
  | .number d => some d
  | .reference id => some (.ofInt64 id)
  | .text s => Decimal.ofText? (Text.trim s)
  | _ => none

def int64? : CellValue → Option Int64
  | .reference id => some id
  | .number d => d.toInt64?
  | .text s => (Text.intOf? (Text.trim s).toList).bind int64OfInt?
  | .boolean b => some (if b then 1 else 0)
  | _ => none

def flag? : CellValue → Option Bool
  | .boolean b => some b
  | .text s => some (Text.isYes s)
  | _ => none

/-- What the value adds to a total: numbers themselves, flags one or zero, anything else the
number of its characters. -/
def contribution : CellValue → Option Decimal
  | .null => none
  | .number d => some d
  | .reference id => some (.ofInt64 id)
  | .boolean b => some (if b then .one else .zero)
  | .timestamp t => Decimal.ofInt? t.display.length
  | .text s => Decimal.ofInt? s.length

/-- The nearest decimal, null where there is none. -/
def ofBinary64 (x : Binary64) : CellValue := ((Decimal.ofBinary64? x).map .number).getD .null

/-- The value in a document: numbers as binary floating point, timestamps as text. -/
def toJson : CellValue → Json
  | .null => .null
  | .number d => .ofBinary64 d.toBinary64
  | .boolean b => .bool b
  | .timestamp t => .string t.display
  | .text s => .string s
  | .reference id => .ofInt id.toInt

end CellValue

end Reporting

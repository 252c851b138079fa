import Reporting.Calendar.Reading
import Reporting.Json.Printer
import Reporting.Model.DisplayType
import Reporting.Value.Cell

/-!
# Query parameters

Values bound to the placeholders of a query. A filter operand becomes the parameter that its column
expects, and one that does not fit stays what it is in the document.
-/

namespace Reporting

inductive Parameter
  | null
  | text (value : String)
  | integer (value : Int64)
  | number (value : Decimal)
  | boolean (value : Bool)
  | timestamp (value : Calendar.Timestamp)
deriving DecidableEq

namespace Parameter

instance : Inhabited Parameter := ⟨.null⟩

def isNull : Parameter → Bool
  | .null => true
  | _ => false

/-- The parameter of an operand without regard to a column: arrays and objects become their
text, a number too large to be exact becomes null. -/
def ofJson : Json → Parameter
  | .null => .null
  | .bool b => .boolean b
  | .number n =>
    match n.int64?.bind int64OfInt? with
    | some i => .integer i
    | none => ((Decimal.ofText? n.toText).map .number).getD .null
  | .string s => .text s
  | j => .text j.toText

/-- The flag that an operand of a yes-or-no column stands for. -/
def flagOf : Json → Bool
  | .bool b => b
  | .string s => Text.isYes s
  | .number n => n.int64? == some 1
  | _ => false

/-- The integer that an operand spells. -/
def integerOf? : Json → Option Int64
  | .number n => n.int64?.bind int64OfInt?
  | .string s => (Text.intOf? (Text.trim s).toList).bind int64OfInt?
  | _ => none

def decimalOf? : Json → Option Decimal
  | .number n => Decimal.ofText? n.toText
  | .string s => Decimal.ofText? (Text.trim s)
  | _ => none

def timestampOf? : Json → Option Calendar.Timestamp
  | .string s => Calendar.Timestamp.ofText? s
  | _ => none

/-- The parameter of an operand for a column of a display type: the first reading that succeeds
among a timestamp, an integer and a decimal, as far as the column is of that kind. -/
def forDisplayType (t : DisplayType) (j : Json) : Parameter :=
  if j.isNull then .null
  else if t = .yesNo then .text (if flagOf j then "Y" else "N")
  else
    let timestamp := if t.isDate then (timestampOf? j).map Parameter.timestamp else none
    let integer := if t.isId || t = .integer then (integerOf? j).map Parameter.integer else none
    let number := if t.isNumeric then (decimalOf? j).map Parameter.number else none
    ((timestamp.or integer).or number).getD (ofJson j)

/-- The parameter in a document: decimals and timestamps as text. -/
def toJson : Parameter → Json
  | .null => .null
  | .text s => .string s
  | .integer i => .ofInt i.toInt
  | .number d => .string d.toText
  | .boolean b => .bool b
  | .timestamp t => .string t.toText

end Parameter

end Reporting

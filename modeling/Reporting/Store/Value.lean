import Reporting.Text.Quoting
import Reporting.Value.Parameter

/-!
# Store values

The values of the embedded database, how parameters become such values, and how they become cell
values. Values without a kind of their own in a cell are shown by their constructors. The day offset
of a date is a checked sum of machine integers, and a value for which it overflows is not read.
-/

namespace Reporting

inductive TimeUnit
  | second
  | millisecond
  | microsecond
  | nanosecond
deriving DecidableEq, Repr

inductive StoreValue
  | null
  | boolean (value : Bool)
  | tinyInt (value : Int8)
  | smallInt (value : Int16)
  | int (value : Int32)
  | bigInt (value : Int64)
  /-- An integer of 128 bits. -/
  | hugeInt (value : Int)
  | uTinyInt (value : UInt8)
  | uSmallInt (value : UInt16)
  | uInt (value : UInt32)
  | uBigInt (value : UInt64)
  | float (value : Binary32)
  | double (value : Binary64)
  /-- A decimal by its digits, of which there can be more than a cell holds. -/
  | decimal (digits : String)
  | timestamp (unit : TimeUnit) (value : Int64)
  | text (value : String)
  | blob (bytes : List UInt8)
  /-- Days since 1970-01-01. -/
  | date32 (days : Int32)
  | time64 (unit : TimeUnit) (value : Int64)
  | interval (months days : Int32) (nanos : Int64)
  | list (elements : List StoreValue)
  | enum (value : String)
  | union (value : StoreValue)

/-- An operation on machine integers whose result has no room in them. -/
inductive Overflow
  | add
deriving DecidableEq, Repr

namespace Overflow

def message : Overflow → String
  | .add => "attempt to add with overflow"

/-- The sum in 32 bits, if they have room for it. -/
def sum32 (a b : Int32) : Except Overflow Int32 :=
  if -2 ^ 31 ≤ a.toInt + b.toInt ∧ a.toInt + b.toInt < 2 ^ 31 then .ok (a + b) else .error .add

end Overflow

namespace TimeUnit

def name : TimeUnit → String
  | .second => "Second"
  | .millisecond => "Millisecond"
  | .microsecond => "Microsecond"
  | .nanosecond => "Nanosecond"

/-- A 64-bit integer, the nearest one when the number has no room. -/
def saturated (i : Int) : Int64 :=
  if i < -2 ^ 63 then .ofInt (-2 ^ 63) else if 2 ^ 63 ≤ i then .ofInt (2 ^ 63 - 1) else .ofInt i

/-- Microseconds, too many of them saturating and parts of one dropped. -/
def micros (unit : TimeUnit) (value : Int64) : Int64 :=
  match unit with
  | .second => saturated (value.toInt * 1000000)
  | .millisecond => saturated (value.toInt * 1000)
  | .microsecond => value
  | .nanosecond => value / 1000

end TimeUnit

namespace StoreValue

instance : Inhabited StoreValue := ⟨.null⟩

section Reading

/-- The timestamp of a time since 1970-01-01, none outside the calendar. -/
def timestampOf? (unit : TimeUnit) (value : Int64) : Option Calendar.Timestamp :=
  Calendar.Timestamp.ofEpochMicros? (unit.micros value).toInt

/-- Days from the day before 0001-01-01 to 1970-01-01. -/
def epochDays : Int32 := 719163

/-- The day of a number counted from 0001-01-01 as the first one, none outside the calendar. -/
def dateOfDays? (days : Int32) : Option Calendar.Date :=
  Calendar.Date.ofDayNumber? (days.toInt - epochDays.toInt)

def clockText (t : Calendar.Timestamp) : String :=
  String.ofList (Text.zeroPadded 2 t.hour ++ ':' :: Text.zeroPadded 2 t.minute
    ++ ':' :: Text.zeroPadded 2 t.second)

def hexText (bytes : List UInt8) : String :=
  String.ofList (bytes.flatMap fun b =>
    [Nat.digitChar (b.toNat / 16), Nat.digitChar (b.toNat % 16)])

/-- How floating point numbers are shown inside other values. -/
def inspectStyle : FloatStyle := ⟨-4, 16, false⟩

def commas (parts : List String) : String := String.intercalate ", " parts

def applied (name : String) (args : List String) : String := name ++ "(" ++ commas args ++ ")"

def integerText (i : Int) : String := toString i

mutual

def inspect : StoreValue → String
  | .null => "Null"
  | .boolean b => applied "Boolean" [if b then "true" else "false"]
  | .tinyInt i => applied "TinyInt" [integerText i.toInt]
  | .smallInt i => applied "SmallInt" [integerText i.toInt]
  | .int i => applied "Int" [integerText i.toInt]
  | .bigInt i => applied "BigInt" [integerText i.toInt]
  | .hugeInt i => applied "HugeInt" [integerText i]
  | .uTinyInt i => applied "UTinyInt" [integerText i.toNat]
  | .uSmallInt i => applied "USmallInt" [integerText i.toNat]
  | .uInt i => applied "UInt" [integerText i.toNat]
  | .uBigInt i => applied "UBigInt" [integerText i.toNat]
  | .float x => applied "Float" [inspectStyle.render x]
  | .double x => applied "Double" [inspectStyle.render x]
  | .decimal digits => applied "Decimal" [digits]
  | .timestamp unit i => applied "Timestamp" [unit.name, integerText i.toInt]
  | .text s => applied "Text" [Text.inspect s]
  | .blob bytes => applied "Blob" ["[" ++ commas (bytes.map fun b => integerText b.toNat) ++ "]"]
  | .date32 days => applied "Date32" [integerText days.toInt]
  | .time64 unit i => applied "Time64" [unit.name, integerText i.toInt]
  | .interval months days nanos =>
    "Interval \x7b months: " ++ integerText months.toInt ++ ", days: " ++ integerText days.toInt
      ++ ", nanos: " ++ integerText nanos.toInt ++ " \x7d"
  | .list elements => applied "List" ["[" ++ commas (inspectAll elements) ++ "]"]
  | .enum s => applied "Enum" [Text.inspect s]
  | .union v => applied "Union" [inspect v]

def inspectAll : List StoreValue → List String
  | [] => []
  | v :: rest => inspect v :: inspectAll rest

end

def numberOf (i : Int) (otherwise : CellValue) : CellValue :=
  ((Decimal.ofInt? i).map .number).getD otherwise

def toCellValue : StoreValue → Except Overflow CellValue
  | .null => .ok .null
  | .boolean b => .ok (.boolean b)
  | .tinyInt i => .ok (.number (.ofInt64 i.toInt64))
  | .smallInt i => .ok (.number (.ofInt64 i.toInt64))
  | .int i => .ok (.number (.ofInt64 i.toInt64))
  | .bigInt i => .ok (.number (.ofInt64 i))
  | .hugeInt i => .ok (numberOf i (.text (integerText i)))
  | .uTinyInt i => .ok (numberOf i.toNat .null)
  | .uSmallInt i => .ok (numberOf i.toNat .null)
  | .uInt i => .ok (numberOf i.toNat .null)
  | .uBigInt i => .ok (numberOf i.toNat .null)
  | .float x => .ok (.ofBinary64 (x.convert .double))
  | .double x => .ok (.ofBinary64 x)
  | .decimal digits => .ok (((Decimal.ofText? digits).map .number).getD (.text digits))
  | .timestamp unit i => .ok (((timestampOf? unit i).map .timestamp).getD .null)
  | .date32 days => do
    let days ← Overflow.sum32 days epochDays
    return ((dateOfDays? days).map fun d => .timestamp (.midnight d)).getD .null
  | .time64 unit i => .ok (((timestampOf? unit i).map fun t => .text (clockText t)).getD .null)
  | .text s => .ok (.text s)
  | .enum s => .ok (.text s)
  | .blob bytes => .ok (.text (hexText bytes))
  | .union v => toCellValue v
  | .interval months days nanos => .ok (.text (inspect (.interval months days nanos)))
  | .list elements => .ok (.text (inspect (.list elements)))

end Reading

def ofParameter : Parameter → StoreValue
  | .null => .null
  | .text s => .text s
  | .integer i => .bigInt i
  | .number d => .double d.toBinary64
  | .boolean b => .boolean b
  | .timestamp t => .timestamp .microsecond (.ofInt t.epochMicros)

end StoreValue

end Reporting

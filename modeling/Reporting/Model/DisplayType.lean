/-!
# Display types

The kind of a report column, which decides how its values are read, shown and filtered. Each has a
numeric code and a name; `DisplayType.ofCode?` inverts `DisplayType.code`.
-/

namespace Reporting

inductive DisplayType
  | string
  | integer
  | amount
  | id
  | text
  | date
  | dateTime
  | list
  | table
  | tableDir
  | yesNo
  | location
  | number
  | time
  | account
  | quantity
  | search
  | locator
  | memo
  | pAttribute
  | textLong
  | costPrice
  | url
deriving DecidableEq, Repr

/-- Where the text shown for a column comes from. -/
inductive LookupKind
  /-- The value itself. -/
  | plain
  /-- A subquery inside the select list. -/
  | directory
  /-- A table joined to the query. -/
  | joined
deriving DecidableEq, Repr

namespace DisplayType

def code : DisplayType → Int
  | .string => 10
  | .integer => 11
  | .amount => 12
  | .id => 13
  | .text => 14
  | .date => 15
  | .dateTime => 16
  | .list => 17
  | .table => 18
  | .tableDir => 19
  | .yesNo => 20
  | .location => 21
  | .number => 22
  | .time => 24
  | .account => 25
  | .quantity => 29
  | .search => 30
  | .locator => 31
  | .memo => 34
  | .pAttribute => 35
  | .textLong => 36
  | .costPrice => 37
  | .url => 40

def name : DisplayType → String
  | .string => "string"
  | .integer => "integer"
  | .amount => "amount"
  | .id => "id"
  | .text => "text"
  | .date => "date"
  | .dateTime => "date_time"
  | .list => "list"
  | .table => "table"
  | .tableDir => "table_dir"
  | .yesNo => "yes_no"
  | .location => "location"
  | .number => "number"
  | .time => "time"
  | .account => "account"
  | .quantity => "quantity"
  | .search => "search"
  | .locator => "locator"
  | .memo => "memo"
  | .pAttribute => "p_attribute"
  | .textLong => "text_long"
  | .costPrice => "cost_price"
  | .url => "url"

def all : List DisplayType :=
  [.string, .integer, .amount, .id, .text, .date, .dateTime, .list, .table, .tableDir, .yesNo,
    .location, .number, .time, .account, .quantity, .search, .locator, .memo, .pAttribute,
    .textLong, .costPrice, .url]

def ofCode? (c : Int) : Option DisplayType := all.find? (·.code == c)

def ofName? (s : String) : Option DisplayType := all.find? (·.name == s)

theorem ofCode?_code (d : DisplayType) : ofCode? d.code = some d := by
  cases d <;> decide

theorem ofName?_name (d : DisplayType) : ofName? d.name = some d := by
  cases d <;> decide

def isText : DisplayType → Bool
  | .string | .text | .textLong | .memo | .url => true
  | _ => false

def isNumeric : DisplayType → Bool
  | .amount | .number | .costPrice | .integer | .quantity => true
  | _ => false

def isDate : DisplayType → Bool
  | .date | .dateTime | .time => true
  | _ => false

/-- The values identify rows of another table. -/
def isId : DisplayType → Bool
  | .id | .table | .tableDir | .search | .location | .account | .locator | .pAttribute => true
  | _ => false

/-- The text shown is looked up in another table. -/
def isLookup : DisplayType → Bool
  | .list | .table | .tableDir | .search | .location | .account | .locator | .pAttribute => true
  | _ => false

/-- A search column with an explicit reference is joined, one without is a directory lookup. -/
def lookupKind (hasReferenceValue : Bool) : DisplayType → LookupKind
  | .tableDir => .directory
  | .search => if hasReferenceValue then .joined else .directory
  | .table | .list | .location | .account | .locator | .pAttribute => .joined
  | _ => .plain

end DisplayType

end Reporting

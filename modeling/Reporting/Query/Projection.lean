import Reporting.Error
import Reporting.Model.Definition
import Reporting.Query.Column
import Reporting.Query.Resolver
import Reporting.Text.Blank

/-!
# Selected columns

Each printed item with a column selects its raw value and, when its text is looked up, that text
from a subquery or from a joined table. Joined tables are named `t1`, `t2`, ... in the order of the
joins.
-/

namespace Reporting

open Sql (Expr Join JoinKind OrderItem SelectItem SelectQuery)

structure Projection where
  columns : List QueryColumn := []
  joins : List Join := []
  order : List OrderItem := []

namespace Projection

def append (a b : Projection) : Projection :=
  ⟨a.columns ++ b.columns, a.joins ++ b.joins, a.order ++ b.order⟩

instance : Append Projection := ⟨append⟩

/-- The label of the table of a join, by the number of joins before it. -/
def joinLabel (before : Nat) : String := s!"t{before + 1}"

/-- The key shown in front of the text. -/
def valueAndDisplay (table : String) (display : Expr) : Expr :=
  .concat [.ofTable table "Value", .text "_", display]

def languageCondition (table language : String) : Expr :=
  .equals (.ofTable table "AD_Language") (.text language)

/-- A subquery for the text of the row that the key names, in the translation table when there is
one. -/
def directoryText (l : Lookup) (key : Expr) (language : String) : Expr :=
  let table := if l.translated then l.translationTable else l.tableName
  let keyColumn := if l.translated then l.sharedKey else l.keyColumn
  let display := Expr.ofTable table l.displayColumn
  .subquery {
    select := [⟨
      if l.valueDisplayed && !l.translated then valueAndDisplay table display else display, none⟩]
    source := { name := table }
    filters := .equals (.ofTable table keyColumn) key
      :: if l.translated then [languageCondition table language] else [] }

/-- The join of the table that a key points into. -/
def baseJoin (l : Lookup) (mandatory : Bool) (label : String) (key : Expr) : Join where
  kind := if mandatory then .inner else .leftOuter
  table := ⟨l.tableName, some label⟩
  conditions := .equals key (.ofTable label l.keyColumn)
    :: match l.discriminator with
      | some (column, n) =>
        [.equals (.ofTable label column) (.literal (.integer (Int64.ofInt n)))]
      | none => []

/-- The join of the translations of a joined table. -/
def translationJoin (l : Lookup) (language base label : String) : Join where
  kind := .leftOuter
  table := ⟨l.translationTable, some label⟩
  conditions := [.equals (.ofTable base l.sharedKey) (.ofTable label l.sharedKey),
    languageCondition label language]

/-- The joins of a lookup and the text found through them, the translated text first. `before` is
the number of joins before these. -/
def joinedText (l : Lookup) (mandatory : Bool) (key : Expr) (language : String) (before : Nat) :
    List Join × Expr :=
  let label := joinLabel before
  let base := baseJoin l mandatory label key
  let (joins, display) :=
    if l.translated then
      let translation := joinLabel (before + 1)
      ([base, translationJoin l language label translation],
        Expr.coalesce [.ofTable translation l.displayColumn, .ofTable label l.displayColumn])
    else ([base], .ofTable label l.displayColumn)
  (joins, if l.valueDisplayed then valueAndDisplay label display else display)

def found (lookup : Option Lookup) : Except ReportError Lookup :=
  lookup.elim (.error .referenceNotFound) .ok

/-- The target of a joined lookup. Tables and lists need a reference value id. -/
def joinedLookup (r : Resolver) (item : Item) : Except ReportError Lookup :=
  match item.displayType, item.referenceValueId with
  | .table, some id | .search, some id => found (r.table id)
  | .list, some id => found (r.list id)
  | .table, none | .search, none | .list, none => .error .referenceValueMissing
  | t, _ => found (r.special t)

/-- The text looked up for an item and the joins that it takes. -/
def itemText (r : Resolver) (language : String) (before : Nat) (item : Item) (column : String)
    (key : Expr) : Except ReportError (List Join × Option Expr) :=
  match item.displayType.lookupKind item.referenceValueId.isSome with
  | .plain => return ([], none)
  | .directory => return ([], some (directoryText (← found (r.directory column)) key language))
  | .joined => do
    let (joins, text) := joinedText (← joinedLookup r item) item.mandatory key language before
    return (joins, some text)

def rawValue (table : String) (item : Item) (column : String) : Expr :=
  match item.columnSql with
  | some sql => if item.isVirtual then .raw s!"({Text.trim sql})" else .ofTable table column
  | none => .ofTable table column

def rawColumn (table : String) (item : Item) (column : String) : QueryColumn where
  itemId := item.id
  columnName := column
  label := column
  displayType := item.displayType
  isDisplay := false
  isVirtual := item.isVirtual
  expr := rawValue table item column

def displayColumn (item : Item) (column label : String) (text : Expr) : QueryColumn where
  itemId := item.id
  columnName := column
  label := label
  displayType := item.displayType
  isDisplay := true
  isVirtual := item.isVirtual
  expr := text

def ofItem (r : Resolver) (language table : String) (before : Nat) (item : Item) :
    Except ReportError Projection :=
  match item.columnName, item.displayAlias with
  | some column, some label => do
    let raw := rawColumn table item column
    let (joins, text?) ← itemText r language before item column raw.expr
    return {
      columns := raw :: (text?.map (displayColumn item column label)).toList
      joins := joins
      order := if item.orderBy then [⟨.column none column, item.descending⟩] else [] }
  | _, _ => return {}

/-- What items select one after another, `before` joins standing in front of theirs. -/
def ofItems (r : Resolver) (language table : String) (before : Nat) :
    List Item → Except ReportError Projection
  | [] => return {}
  | item :: rest => do
    let p ← ofItem r language table before item
    return p ++ (← ofItems r language table (before + p.joins.length) rest)

/-- What a report selects, which must be something. -/
def ofDefinition (r : Resolver) (language : String) (d : Definition) :
    Except ReportError Projection := do
  let p ← ofItems r language d.tableName 0 d.printedItems
  if p.columns.isEmpty then .error .itemsNotFound else return p

def selected (p : Projection) : List SelectItem := p.columns.map fun c => ⟨c.expr, some c.label⟩

end Projection

end Reporting

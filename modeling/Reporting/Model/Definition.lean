import Reporting.Model.DisplayType
import Reporting.Text.Blank

/-!
# Report definitions

A report shows columns of one table, its items, in their printed order. Items also say what the
report is grouped and sorted by and which totals it has.
-/

namespace Reporting

structure Item where
  id : Int
  name : String
  printName : Option String := none
  /-- The column behind the item; items without one are not selected. -/
  columnName : Option String := none
  sequence : Int := 0
  sortSequence : Int := 0
  displayType : DisplayType
  referenceValueId : Option Int := none
  mandatory : Bool := false
  /-- The expression of a computed column. -/
  columnSql : Option String := none
  formatPattern : Option String := none
  /-- The name of a column mapping other than the default one. -/
  mapping : Option String := none
  printed : Bool := true
  active : Bool := true
  orderBy : Bool := false
  descending : Bool := false
  groupBy : Bool := false
  summarized : Bool := false
  counted : Bool := false
  minimum : Bool := false
  maximum : Bool := false
  averaged : Bool := false
  variance : Bool := false
  deviation : Bool := false
  hideGrandTotal : Bool := false
deriving DecidableEq, Repr

namespace Item

def title (i : Item) : String := i.printName.getD i.name

/-- The column is computed by an expression of its own. -/
def isVirtual (i : Item) : Bool :=
  match i.columnSql with
  | some sql => !Text.isAllBlank sql
  | none => false

/-- The item has totals in its groups; the deviation alone does not ask for them. -/
def isSummarizable (i : Item) : Bool :=
  !i.hideGrandTotal
    && (i.averaged || i.counted || i.maximum || i.minimum || i.summarized || i.variance)

/-- The name under which the looked-up text of the item is selected. -/
def displayAlias (i : Item) : Option String :=
  i.columnName.map fun c => s!"{c}_{i.id}_DisplayValue"

end Item

structure Definition where
  id : Int
  name : String
  description : Option String := none
  tableName : String
  dataSource : String := "default"
  /-- Only the totals are shown. -/
  isSummary : Bool := false
  /-- Expressions to group the query itself by. -/
  groupBy : List String := []
  items : List Item
deriving DecidableEq, Repr

namespace Definition

/-- Items in ascending order of a key, those of one key as they were. -/
def sortedBy (key : Item → Int) (items : List Item) : List Item :=
  items.mergeSort fun a b => key a ≤ key b

/-- The active printed items in the order of their columns. -/
def printedItems (d : Definition) : List Item :=
  sortedBy Item.sequence (d.items.filter fun i => i.active && i.printed)

/-- The items that key the groups, outermost first. Only printed items carry values. -/
def groupItems (d : Definition) : List Item :=
  sortedBy Item.sortSequence (d.printedItems.filter Item.groupBy)

def sortingItems (d : Definition) : List Item :=
  sortedBy Item.sortSequence (d.printedItems.filter Item.orderBy)

def item? (d : Definition) (id : Int) : Option Item := d.items.find? (·.id == id)

end Definition

end Reporting

import Reporting.Summary
import Reporting.Value.Cell

/-!
# Cells

A cell is a value with the text it is shown as and, in a row of totals, the running totals behind
it. Cells compare by their values, and a cell without a value equals none, itself included.
-/

namespace Reporting

/-- What a cell shows while no text has been set. -/
inductive Fallback
  | rawValue
  | empty
deriving DecidableEq, Repr

abbrev StatisticTexts := Statistic → Option String

structure Cell where
  value : CellValue := .null
  text : Option String := none
  fallback : Fallback := .rawValue
  /-- The table of the row that the value identifies. -/
  tableName : Option String := none
  summary : Option Summary := none
  statisticTexts : StatisticTexts := fun _ => none

namespace Cell

/-- The cell of an item that a row has no value for. -/
def empty : Cell := {}

instance : Inhabited Cell := ⟨empty⟩

def display (c : Cell) : String :=
  match c.text, c.fallback with
  | some s, _ => s
  | none, .rawValue => c.value.display
  | none, .empty => ""

def isNull (c : Cell) : Bool := c.value.isNull

/-- Both cells have one value. -/
def same (a b : Cell) : Bool := !a.isNull && a.value.same b.value

def statistic? (c : Cell) (k : Statistic) : Option Decimal := c.summary.bind (·.value? k)

def ofSummary (s : Summary) : Cell := { value := .number s.sum, summary := some s }

end Cell

end Reporting

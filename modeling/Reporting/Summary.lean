import Reporting.Decimal.Arithmetic
import Reporting.Model.DisplayType

/-!
# Running totals

`Summary` takes in numbers one at a time and answers seven statistics of those so far. Sums that
no longer fit stay at the largest value; statistics are undefined while there is no number.
-/

namespace Reporting

inductive Statistic
  | sum
  | mean
  | count
  | minimum
  | maximum
  | variance
  | deviation
deriving DecidableEq, Repr

namespace Statistic

def all : List Statistic := [.sum, .mean, .count, .minimum, .maximum, .variance, .deviation]

def name : Statistic → String
  | .sum => "sum"
  | .mean => "mean"
  | .count => "count"
  | .minimum => "min"
  | .maximum => "max"
  | .variance => "variance"
  | .deviation => "deviation"

def title : Statistic → String
  | .sum => "Sum"
  | .mean => "Mean"
  | .count => "Count"
  | .minimum => "Min"
  | .maximum => "Max"
  | .variance => "Variance"
  | .deviation => "Deviation"

def symbol : Statistic → String
  | .sum => "Σ"
  | .mean => "μ"
  | .count => "№"
  | .minimum => "↓"
  | .maximum => "↑"
  | .variance => "σ²"
  | .deviation => "σ"

/-- The display type of the statistic over a column of a display type. -/
def displayType (column : DisplayType) : Statistic → DisplayType
  | .sum | .minimum | .maximum => column
  | .count => .integer
  | .mean | .variance | .deviation => .number

end Statistic

structure Summary where
  sum : Decimal := .zero
  sumOfSquares : Decimal := .zero
  /-- How many numbers there are so far. Each comes from a row that is held in memory, so there are
  fewer than 2^64 of them and a counter of 64 bits does not wrap around. -/
  count : Nat := 0
  minimum? : Option Decimal := none
  maximum? : Option Decimal := none
deriving DecidableEq

namespace Summary

def empty : Summary := {}

instance : Inhabited Summary := ⟨empty⟩

def isEmpty (s : Summary) : Bool := s.count = 0

/-- The smaller value, the first of two equal ones. -/
def least (a b : Decimal) : Decimal := if b.compareValue a = .lt then b else a

/-- The larger value, the first of two equal ones. -/
def greatest (a b : Decimal) : Decimal := if a.compareValue b = .lt then b else a

def insert (s : Summary) (d : Decimal) : Summary where
  sum := s.sum.saturatingAdd d
  sumOfSquares := s.sumOfSquares.saturatingAdd (d.saturatingMul d)
  count := s.count + 1
  minimum? := some (s.minimum?.elim d (least · d))
  maximum? := some (s.maximum?.elim d (greatest · d))

/-- Takes in a value that may be missing; a missing one does not count. -/
def insert? (s : Summary) : Option Decimal → Summary
  | none => s
  | some d => s.insert d

def places : Nat := 4

def rounded (d : Decimal) : Decimal := d.round .away places

/-- The count as a decimal; no count of values in memory reaches its limit. -/
def decimalCount (s : Summary) : Decimal := (Decimal.ofInt? s.count).getD (.extreme false)

def mean? (s : Summary) : Option Decimal :=
  if s.isEmpty then none else (s.sum.div? s.decimalCount).map rounded

/-- The sum of squares less the square of the sum over the count. The subtracted term is rounded
first, so tiny values could take the difference below zero, where it stays. -/
def variance? (s : Summary) : Option Decimal := do
  if s.isEmpty then none
  let correction := rounded (← (s.sum.saturatingMul s.sum).div? s.decimalCount)
  let v ← s.sumOfSquares.sub? correction
  return rounded (greatest v .zero)

def deviation? (s : Summary) : Option Decimal := do return rounded (← (← s.variance?).sqrt?)

def value? (s : Summary) : Statistic → Option Decimal
  | .sum => some s.sum
  | .count => some s.decimalCount
  | .minimum => s.minimum?
  | .maximum => s.maximum?
  | .mean => s.mean?
  | .variance => s.variance?
  | .deviation => s.deviation?

end Summary

end Reporting

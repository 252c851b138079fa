/-!
# Calendar dates

Dates of the Gregorian calendar, extended in both directions, and their numbering by days since
1970-01-01. `DayNumber.yearOrdinal` splits a day number by cycles of 400, 100, 4 and 1 years.
-/

namespace Reporting.Calendar

def isLeap (year : Int) : Bool := year % 4 = 0 && (year % 100 != 0 || year % 400 = 0)

def monthLengths (year : Int) : List Nat :=
  [31, if isLeap year then 29 else 28, 31, 30, 31, 30, 31, 31, 30, 31, 30, 31]

def daysInMonth (year : Int) (month : Nat) : Nat := (monthLengths year).getD (month - 1) 0

def daysInYear (year : Int) : Nat := if isLeap year then 366 else 365

def minYear : Int := -262143

def maxYear : Int := 262142

def Valid (year : Int) (month day : Nat) : Prop :=
  minYear ≤ year ∧ year ≤ maxYear ∧ 1 ≤ month ∧ month ≤ 12 ∧ 1 ≤ day
    ∧ day ≤ daysInMonth year month

instance (year : Int) (month day : Nat) : Decidable (Valid year month day) := by
  unfold Valid
  infer_instance

structure Date where
  year : Int
  month : Nat
  day : Nat
  valid : Valid year month day
deriving DecidableEq

instance : Inhabited Date := ⟨⟨1970, 1, 1, by decide⟩⟩

instance : Repr Date where
  reprPrec d _ := repr (d.year, d.month, d.day)

def Date.of? (year : Int) (month day : Nat) : Option Date :=
  if h : Valid year month day then some ⟨year, month, day, h⟩ else none

namespace DayNumber

/-- Days from 0001-01-01 to 1970-01-01. -/
def epochOffset : Int := 719162

/-- Days from 1970-01-01 to the first day of a year. -/
def ofYear (year : Int) : Int :=
  365 * (year - 1) + (year - 1) / 4 - (year - 1) / 100 + (year - 1) / 400 - epochOffset

/-- The year of a day and its place in that year, from zero. -/
def yearOrdinal (n : Int) : Int × Nat :=
  let d := n + epochOffset
  let inCycle := (d % 146097).toNat
  let century := min 3 (inCycle / 36524)
  let inCentury := inCycle - century * 36524
  let inFour := inCentury % 1461
  let single := min 3 (inFour / 365)
  (400 * (d / 146097) + 100 * century + 4 * (inCentury / 1461 : Nat) + single + 1,
    inFour - single * 365)

/-- The weekday of a day, Monday being zero. -/
def weekday (n : Int) : Nat := ((n + 3) % 7).toNat

end DayNumber

/-- The month and day at a place in the year: the months before it are counted off. -/
def monthDay : List Nat → Nat → Nat → Nat × Nat
  | [], month, ordinal => (month, ordinal + 1)
  | length :: rest, month, ordinal =>
    if ordinal < length then (month, ordinal + 1) else monthDay rest (month + 1) (ordinal - length)

namespace Date

/-- The place in the year, from one. -/
def ordinal (d : Date) : Nat := ((monthLengths d.year).take (d.month - 1)).foldr (· + ·) d.day

/-- Days since 1970-01-01. -/
def dayNumber (d : Date) : Int := DayNumber.ofYear d.year + d.ordinal - 1

def ofDayNumber? (n : Int) : Option Date :=
  let (year, ordinal) := DayNumber.yearOrdinal n
  let (month, day) := monthDay (monthLengths year) 1 ordinal
  of? year month day

def weekday (d : Date) : Nat := DayNumber.weekday d.dayNumber

/-- The year and number of the week, which belongs to the year of its Thursday. -/
def isoWeek (d : Date) : Int × Nat :=
  let (year, ordinal) := DayNumber.yearOrdinal (d.dayNumber - d.weekday + 3)
  (year, ordinal / 7 + 1)

/-- The number of the week in the year, weeks beginning on the given weekday. -/
def weekFrom (start : Nat) (d : Date) : Nat :=
  (d.ordinal + 6 - (d.weekday + 7 - start) % 7) / 7

def quarter (d : Date) : Nat := (d.month - 1) / 3 + 1

end Date

end Reporting.Calendar

import Reporting.Calendar.Date
import Reporting.Text.Digits

/-!
# Timestamps

A date with a time of day to the nanosecond, without time zone. A minute may have a sixty-first
second, a leap second, which is kept as it is.
-/

namespace Reporting.Calendar

structure Timestamp where
  date : Date
  hour : Nat
  minute : Nat
  second : Nat
  nano : Nat
  hour_lt : hour < 24 := by decide
  minute_lt : minute < 60 := by decide
  second_le : second ≤ 60 := by decide
  nano_lt : nano < 1000000000 := by decide
deriving DecidableEq

namespace Timestamp

instance : Repr Timestamp where
  reprPrec t _ := repr (t.date, t.hour, t.minute, t.second, t.nano)

def of? (date : Date) (hour minute second nano : Nat) : Option Timestamp :=
  if h : hour < 24 ∧ minute < 60 ∧ second ≤ 60 ∧ nano < 1000000000 then
    some ⟨date, hour, minute, second, nano, h.1, h.2.1, h.2.2.1, h.2.2.2⟩
  else none

def midnight (date : Date) : Timestamp :=
  ⟨date, 0, 0, 0, 0, by decide, by decide, by decide, by decide⟩

/-- Seconds since 1970-01-01, a leap second counted with the one before it. -/
def epochSeconds (t : Timestamp) : Int :=
  t.date.dayNumber * 86400 + t.hour * 3600 + t.minute * 60 + min t.second 59

/-- Microseconds since 1970-01-01, the rest of the nanoseconds dropped. -/
def epochMicros (t : Timestamp) : Int :=
  (t.date.dayNumber * 86400 + t.hour * 3600 + t.minute * 60 + t.second) * 1000000
    + (t.nano / 1000 : Nat)

/-- The timestamp `micros` microseconds after 1970-01-01, if the calendar reaches it. -/
def ofEpochMicros? (micros : Int) : Option Timestamp := do
  let seconds := micros / 1000000
  let date ← Date.ofDayNumber? (seconds / 86400)
  let inDay := (seconds % 86400).toNat
  of? date (inDay / 3600) (inDay / 60 % 60) (inDay % 60) ((micros % 1000000).toNat * 1000)

/-- The timestamp moved by whole minutes, keeping its seconds. -/
def addMinutes? (t : Timestamp) (minutes : Int) : Option Timestamp := do
  let total := t.date.dayNumber * 1440 + t.hour * 60 + t.minute + minutes
  let date ← Date.ofDayNumber? (total / 1440)
  let inDay := (total % 1440).toNat
  of? date (inDay / 60) (inDay % 60) t.second t.nano

/-- A year of four digits, or with a sign outside `0 .. 9999`. -/
def yearText (year : Int) : List Char :=
  if year < 0 then '-' :: Text.zeroPadded 4 year.natAbs
  else if 9999 < year then '+' :: Text.digits year.natAbs
  else Text.zeroPadded 4 year.natAbs

/-- The fraction of a second with three, six or nine digits, as few as are exact. -/
def fractionText (nano : Nat) : List Char :=
  if nano = 0 then []
  else if nano % 1000000 = 0 then '.' :: Text.zeroPadded 3 (nano / 1000000)
  else if nano % 1000 = 0 then '.' :: Text.zeroPadded 6 (nano / 1000)
  else '.' :: Text.zeroPadded 9 nano

def textWith (separator : Char) (t : Timestamp) : List Char :=
  yearText t.date.year ++ '-' :: Text.zeroPadded 2 t.date.month
    ++ '-' :: Text.zeroPadded 2 t.date.day
    ++ separator :: Text.zeroPadded 2 t.hour ++ ':' :: Text.zeroPadded 2 t.minute
    ++ ':' :: Text.zeroPadded 2 t.second

/-- The exact form, with `T` between date and time. -/
def toText (t : Timestamp) : String := String.ofList (t.textWith 'T' ++ fractionText t.nano)

/-- The form shown to readers, with a blank between date and time and whole seconds. -/
def display (t : Timestamp) : String := String.ofList (t.textWith ' ')

end Timestamp

end Reporting.Calendar

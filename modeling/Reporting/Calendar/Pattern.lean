import Reporting.Calendar.Timestamp
import Reporting.Text.Blank

/-!
# Date patterns

A pattern is text with directives, a percent sign and a letter each. `Pattern.ofText?` refuses a
pattern with an unknown directive. A directive for a time zone is a known one, but a timestamp has
no zone: `Pattern.render?` gives none for it.
-/

namespace Reporting.Calendar

/-- How a number shorter than its field is filled. -/
inductive Pad
  | none
  | zero
  | blank
deriving DecidableEq, Repr

inductive NumericField
  | year
  | century
  | yearOfCentury
  | isoYear
  | isoYearOfCentury
  | quarter
  | month
  | day
  | weekFromSunday
  | weekFromMonday
  | isoWeek
  | weekdayFromSunday
  | weekdayFromMonday
  | ordinal
  | hour
  | hour12
  | minute
  | second
  | nanosecond
  | epochSecond
deriving DecidableEq, Repr

inductive TextField
  | shortMonth
  | longMonth
  | shortWeekday
  | longWeekday
  | lowerHalfDay
  | upperHalfDay
  /-- A point and as few digits as are exact, nothing for a whole second. -/
  | fraction
  /-- That many digits of the fraction, with or without the point. -/
  | places (count : Nat) (point : Bool)
deriving DecidableEq, Repr

inductive Directive
  | literal (c : Char)
  | number (field : NumericField) (pad : Pad)
  | text (field : TextField)
  | zone
deriving DecidableEq, Repr

abbrev Pattern := List Directive

namespace Pattern

open Directive

/-- The directives of one letter that name a single number, with their own padding. -/
def number? : Char → Option Directive
  | 'Y' => some (.number .year .zero)
  | 'C' => some (.number .century .zero)
  | 'y' => some (.number .yearOfCentury .zero)
  | 'G' => some (.number .isoYear .zero)
  | 'g' => some (.number .isoYearOfCentury .zero)
  | 'q' => some (.number .quarter .zero)
  | 'm' => some (.number .month .zero)
  | 'd' => some (.number .day .zero)
  | 'e' => some (.number .day .blank)
  | 'j' => some (.number .ordinal .zero)
  | 'U' => some (.number .weekFromSunday .zero)
  | 'W' => some (.number .weekFromMonday .zero)
  | 'V' => some (.number .isoWeek .zero)
  | 'w' => some (.number .weekdayFromSunday .zero)
  | 'u' => some (.number .weekdayFromMonday .zero)
  | 'H' => some (.number .hour .zero)
  | 'k' => some (.number .hour .blank)
  | 'I' => some (.number .hour12 .zero)
  | 'l' => some (.number .hour12 .blank)
  | 'M' => some (.number .minute .zero)
  | 'S' => some (.number .second .zero)
  | 'f' => some (.number .nanosecond .zero)
  | 's' => some (.number .epochSecond .none)
  | _ => none

def zeroPad (field : NumericField) : Directive := .number field .zero

def monthDayYear : Pattern :=
  [zeroPad .month, literal '/', zeroPad .day, literal '/', zeroPad .yearOfCentury]

def hourMinute : Pattern := [zeroPad .hour, literal ':', zeroPad .minute]

def hourMinuteSecond : Pattern := hourMinute ++ [literal ':', zeroPad .second]

/-- The directives of one letter that stand for others or for text. -/
def composite? : Char → Option Pattern
  | 'A' => some [.text .longWeekday]
  | 'a' => some [.text .shortWeekday]
  | 'B' => some [.text .longMonth]
  | 'b' => some [.text .shortMonth]
  | 'h' => some [.text .shortMonth]
  | 'P' => some [.text .lowerHalfDay]
  | 'p' => some [.text .upperHalfDay]
  | 'D' => some monthDayYear
  | 'x' => some monthDayYear
  | 'F' => some [zeroPad .year, literal '-', zeroPad .month, literal '-', zeroPad .day]
  | 'R' => some hourMinute
  | 'T' => some hourMinuteSecond
  | 'X' => some hourMinuteSecond
  | 'r' => some [zeroPad .hour12, literal ':', zeroPad .minute, literal ':', zeroPad .second,
      literal ' ', .text .upperHalfDay]
  | 'c' => some ([.text .shortWeekday, literal ' ', .text .shortMonth, literal ' ',
      .number .day .blank, literal ' '] ++ hourMinuteSecond ++ [literal ' ', zeroPad .year])
  | 'v' => some [.number .day .blank, literal '-', .text .shortMonth, literal '-', zeroPad .year]
  | 'n' => some [literal '\n']
  | 't' => some [literal '\t']
  | '%' => some [literal '%']
  | 'Z' => some [zone]
  | 'z' => some [zone]
  | '+' => some [zone]
  | _ => none

/-- A numeric directive with its padding replaced; no other directive takes one. -/
def padded? (pad : Pad) (c : Char) : Option Directive :=
  match number? c with
  | some (.number field _) => some (.number field pad)
  | _ => none

/-- The directives of a text, none when one of them is unknown. -/
def read? : List Char → Option Pattern
  | [] => some []
  | '%' :: '-' :: c :: cs => do return (← padded? .none c) :: (← read? cs)
  | '%' :: '0' :: c :: cs => do return (← padded? .zero c) :: (← read? cs)
  | '%' :: '_' :: c :: cs => do return (← padded? .blank c) :: (← read? cs)
  | '%' :: '#' :: 'z' :: cs => do return zone :: (← read? cs)
  | '%' :: ':' :: ':' :: ':' :: 'z' :: cs => do return zone :: (← read? cs)
  | '%' :: ':' :: ':' :: 'z' :: cs => do return zone :: (← read? cs)
  | '%' :: ':' :: 'z' :: cs => do return zone :: (← read? cs)
  | '%' :: '.' :: '3' :: 'f' :: cs => do return .text (.places 3 true) :: (← read? cs)
  | '%' :: '.' :: '6' :: 'f' :: cs => do return .text (.places 6 true) :: (← read? cs)
  | '%' :: '.' :: '9' :: 'f' :: cs => do return .text (.places 9 true) :: (← read? cs)
  | '%' :: '.' :: 'f' :: cs => do return .text .fraction :: (← read? cs)
  | '%' :: '3' :: 'f' :: cs => do return .text (.places 3 false) :: (← read? cs)
  | '%' :: '6' :: 'f' :: cs => do return .text (.places 6 false) :: (← read? cs)
  | '%' :: '9' :: 'f' :: cs => do return .text (.places 9 false) :: (← read? cs)
  | '%' :: c :: cs =>
    match number? c with
    | some d => do return d :: (← read? cs)
    | none => do return (← composite? c) ++ (← read? cs)
  | ['%'] => none
  | c :: cs => do return literal c :: (← read? cs)

def ofText? (s : String) : Option Pattern := read? s.toList

def monthNames : List String :=
  ["January", "February", "March", "April", "May", "June", "July", "August", "September",
    "October", "November", "December"]

def weekdayNames : List String :=
  ["Monday", "Tuesday", "Wednesday", "Thursday", "Friday", "Saturday", "Sunday"]

/-- At least `width` characters of a number filled on the left; the sign stands before zeros and
after blanks. -/
def padded (pad : Pad) (width : Nat) (sign : List Char) (n : Nat) : List Char :=
  match pad with
  | .none => sign ++ Text.digits n
  | .zero => sign ++ Text.zeroPadded (width - sign.length) n
  | .blank => Text.padLeft ' ' width (sign ++ Text.digits n)

/-- A year of four digits; outside `0 .. 9999` it has a sign and room for it. -/
def paddedYear (pad : Pad) (year : Int) : List Char :=
  if year < 0 then padded pad 5 ['-'] year.natAbs
  else if 9999 < year then padded pad 5 ['+'] year.natAbs
  else padded pad 4 [] year.natAbs

/-- Two digits of a number below 256, the character for its tens counted on from zero. -/
def twoDigits (pad : Pad) (n : Nat) : List Char :=
  let tens := n / 10
  let ones := Char.ofNat ('0'.toNat + n % 10)
  if tens = 0 then
    match pad with
    | .none => [ones]
    | .zero => ['0', ones]
    | .blank => [' ', ones]
  else [Char.ofNat ('0'.toNat + tens), ones]

def hour12 (hour : Nat) : Nat := if hour % 12 = 0 then 12 else hour % 12

def renderNumber (pad : Pad) (t : Timestamp) : NumericField → List Char
  | .year => paddedYear pad t.date.year
  | .century => twoDigits pad (t.date.year / 100 % 256).toNat
  | .yearOfCentury => twoDigits pad (t.date.year % 100).toNat
  | .isoYear => paddedYear pad t.date.isoWeek.1
  | .isoYearOfCentury => twoDigits pad (t.date.isoWeek.1 % 100).toNat
  | .quarter => Text.digits t.date.quarter
  | .month => twoDigits pad t.date.month
  | .day => twoDigits pad t.date.day
  | .weekFromSunday => twoDigits pad (t.date.weekFrom 6)
  | .weekFromMonday => twoDigits pad (t.date.weekFrom 0)
  | .isoWeek => twoDigits pad t.date.isoWeek.2
  | .weekdayFromSunday => Text.digits ((t.date.weekday + 1) % 7)
  | .weekdayFromMonday => Text.digits (t.date.weekday + 1)
  | .ordinal => padded pad 3 [] t.date.ordinal
  | .hour => twoDigits pad t.hour
  | .hour12 => twoDigits pad (hour12 t.hour)
  | .minute => twoDigits pad t.minute
  | .second => twoDigits pad t.second
  | .nanosecond => padded pad 9 [] t.nano
  | .epochSecond =>
    padded pad 9 (if t.epochSeconds < 0 then ['-'] else []) t.epochSeconds.natAbs

def renderText (t : Timestamp) : TextField → List Char
  | .shortMonth => ((monthNames.getD (t.date.month - 1) "").toList).take 3
  | .longMonth => (monthNames.getD (t.date.month - 1) "").toList
  | .shortWeekday => ((weekdayNames.getD t.date.weekday "").toList).take 3
  | .longWeekday => (weekdayNames.getD t.date.weekday "").toList
  | .lowerHalfDay => if t.hour < 12 then ['a', 'm'] else ['p', 'm']
  | .upperHalfDay => if t.hour < 12 then ['A', 'M'] else ['P', 'M']
  | .fraction => Timestamp.fractionText t.nano
  | .places count point =>
    (if point then ['.'] else []) ++ Text.zeroPadded count (t.nano / 10 ^ (9 - count))

def renderDirective? (t : Timestamp) : Directive → Option (List Char)
  | .literal c => some [c]
  | .number field pad => some (renderNumber pad t field)
  | .text field => some (renderText t field)
  | .zone => none

/-- The text of a timestamp, none when a directive asks for a time zone. -/
def render? (p : Pattern) (t : Timestamp) : Option String :=
  (p.mapM (renderDirective? t)).map fun parts => String.ofList parts.flatten

end Pattern

end Reporting.Calendar

import Reporting.Calendar.Timestamp
import Reporting.Text.Blank

/-!
# Reading timestamps

Four written forms are tried in turn: date and time with a blank or a `T` between them, the
internet form with its offset from universal time, and a date alone. The plain forms are lenient
about digits and blanks, the internet form has fixed widths.
-/

namespace Reporting.Calendar

namespace Reading

open Reporting.Text (isDigit digitsValue trimStart)

/-- A reader takes what it understands off the front of the text. -/
abbrev Reader (α : Type) := List Char → Option (α × List Char)

def char (c : Char) : Reader Unit
  | d :: cs => if c = d then some ((), cs) else none
  | [] => none

/-- Between `least` and `most` digits, as many as there are. -/
def number (least most : Nat) : Reader Nat := fun cs =>
  let run := (cs.takeWhile isDigit).take most
  if run.length < least then none else some (digitsValue run, cs.drop run.length)

/-- One or two digits, blanks before them skipped. -/
def field : Reader Nat := fun cs => number 1 2 (trimStart cs)

/-- Up to four digits, or any number of them after a sign, blanks before skipped. -/
def year : Reader Int := fun cs =>
  match trimStart cs with
  | '-' :: r => (number 1 r.length r).map fun (n, r) => (-(n : Int), r)
  | '+' :: r => (number 1 r.length r).map fun (n, r) => ((n : Int), r)
  | r => (number 1 4 r).map fun (n, r) => ((n : Int), r)

def date : Reader Date := fun cs => do
  let (y, cs) ← year cs
  let ((), cs) ← char '-' cs
  let (m, cs) ← field cs
  let ((), cs) ← char '-' cs
  let (d, cs) ← field cs
  return (← Date.of? y m d, cs)

def clock : Reader (Nat × Nat × Nat) := fun cs => do
  let (h, cs) ← field cs
  let ((), cs) ← char ':' cs
  let (m, cs) ← field cs
  let ((), cs) ← char ':' cs
  let (s, cs) ← field cs
  return ((h, m, s), cs)

def complete {α : Type} : Option (α × List Char) → Option α
  | some (a, []) => some a
  | _ => none

/-- A date and a time with any blanks between them, also none. -/
def blankSeparated? (cs : List Char) : Option Timestamp := complete do
  let (d, cs) ← date cs
  let ((h, m, s), cs) ← clock (trimStart cs)
  return (← Timestamp.of? d h m s 0, cs)

def letterSeparated? (cs : List Char) : Option Timestamp := complete do
  let (d, cs) ← date cs
  let ((), cs) ← char 'T' cs
  let ((h, m, s), cs) ← clock cs
  return (← Timestamp.of? d h m s 0, cs)

/-- Nanoseconds from the digits after a point; those past the ninth are skipped. -/
def fraction : Reader Nat
  | '.' :: cs =>
    let run := cs.takeWhile isDigit
    let kept := run.take 9
    if run.isEmpty then none
    else some (digitsValue kept * 10 ^ (9 - kept.length), cs.drop run.length)
  | cs => some (0, cs)

/-- An offset from universal time in minutes, less than a day either way. -/
def offset : Reader Int
  | 'Z' :: cs => some (0, cs)
  | 'z' :: cs => some (0, cs)
  | sign :: cs => do
    let negative ← if sign = '+' then some false
      else if sign = '-' ∨ sign = '−' then some true else none
    let (h, cs) ← number 2 2 cs
    let ((), cs) ← char ':' cs
    let (m, cs) ← number 2 2 cs
    if h ≤ 23 ∧ m ≤ 59 then
      let total : Int := h * 60 + m
      some (if negative then -total else total, cs)
    else none
  | [] => none

/-- The internet form, answered in universal time. -/
def internet? (cs : List Char) : Option Timestamp := complete do
  let (y, cs) ← number 4 4 cs
  let ((), cs) ← char '-' cs
  let (mo, cs) ← number 2 2 cs
  let ((), cs) ← char '-' cs
  let (d, cs) ← number 2 2 cs
  let separator :: cs := cs | none
  if ¬(separator = 't' ∨ separator = 'T' ∨ separator = ' ') then
    none
  let (h, cs) ← number 2 2 cs
  let ((), cs) ← char ':' cs
  let (mi, cs) ← number 2 2 cs
  let ((), cs) ← char ':' cs
  let (s, cs) ← number 2 2 cs
  let (nano, cs) ← fraction cs
  let (minutes, cs) ← offset cs
  let there ← Timestamp.of? (← Date.of? y mo d) h mi s nano
  return (← there.addMinutes? (-minutes), cs)

def dateAlone? (cs : List Char) : Option Timestamp := (complete (date cs)).map .midnight

/-- The form in which timestamps are written exactly, with a fraction of any length. -/
def written? (cs : List Char) : Option Timestamp := complete do
  let (d, cs) ← date cs
  let ((), cs) ← char 'T' cs
  let ((h, m, s), cs) ← clock cs
  let (nano, cs) ← fraction cs
  return (← Timestamp.of? d h m s nano, cs)

end Reading

/-- The timestamp that a text spells in the first form that fits, blanks around it ignored. -/
def Timestamp.ofText? (raw : String) : Option Timestamp :=
  let cs := (Text.trim raw).toList
  (Reading.blankSeparated? cs).or <| (Reading.letterSeparated? cs).or <|
    (Reading.internet? cs).or <| Reading.dateAlone? cs

end Reporting.Calendar

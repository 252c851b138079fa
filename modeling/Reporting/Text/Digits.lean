import Reporting.Power

/-!
# Decimal digits in text

Reading and padding of runs of the ten ASCII digits.
-/

namespace Reporting.Text

def isDigit (c : Char) : Bool := '0' ≤ c && c ≤ '9'

def digitValue (c : Char) : Nat := c.toNat - '0'.toNat

def digitsValue (cs : List Char) : Nat := cs.foldl (fun n c => n * 10 + digitValue c) 0

/-- The number spelled by a text of digits alone, with at least one of them. -/
def natOf? (cs : List Char) : Option Nat :=
  if cs.isEmpty || !cs.all isDigit then none else some (digitsValue cs)

/-- A whole number with an optional sign. -/
def intOf? : List Char → Option Int
  | '-' :: cs => (natOf? cs).map fun n => -(n : Int)
  | '+' :: cs => (natOf? cs).map Int.ofNat
  | cs => (natOf? cs).map Int.ofNat

def inInt64 (i : Int) : Bool := -2 ^ 63 ≤ i && i < 2 ^ 63

def digits (n : Nat) : List Char := Nat.toDigits 10 n

def padLeft (fill : Char) (width : Nat) (cs : List Char) : List Char :=
  List.replicate (width - cs.length) fill ++ cs

/-- At least `width` digits. -/
def zeroPadded (width n : Nat) : List Char := padLeft '0' width (digits n)

end Reporting.Text

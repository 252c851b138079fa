import Reporting.Decimal.Basic
import Reporting.Decimal.Text

/-!
# Number patterns

A pattern such as `#,##0.00` says how many digits a number has on both sides of its point and how
its whole digits are grouped. The text before the first and after the last of these characters is
written around the number.
-/

namespace Reporting

structure NumberPattern where
  before : List Char
  after : List Char
  /-- The digits of a group, which is at least one. -/
  grouping : Option Nat
  minInteger : Nat
  minFraction : Nat
  maxFraction : Nat
deriving DecidableEq, Repr

namespace NumberPattern

def isBody (c : Char) : Bool := c == '#' || c == '0' || c == ',' || c == '.'

/-- Quotes mark text as literal and are not written. -/
def unquoted (cs : List Char) : List Char := cs.filter (· != '\'')

/-- The size of the group after the last comma, in bytes of UTF-8. -/
def groupSize? (integer : List Char) : Option Nat :=
  if integer.contains ',' then
    let size := ((integer.reverse.takeWhile (· != ',')).map Char.utf8Size).foldr (· + ·) 0
    if 0 < size then some size else none
  else none

/-- Only what stands before the first semicolon counts. -/
def ofText (s : String) : NumberPattern :=
  let positive := s.toList.takeWhile (· != ';')
  let rest := positive.dropWhile (!isBody ·)
  let body := (rest.reverse.dropWhile (!isBody ·)).reverse
  let integer := body.takeWhile (· != '.')
  let fraction := (body.dropWhile (· != '.')).drop 1
  { before := unquoted (positive.takeWhile (!isBody ·))
    after := unquoted (rest.reverse.takeWhile (!isBody ·)).reverse
    grouping := groupSize? integer
    minInteger := max 1 (integer.count '0')
    minFraction := fraction.count '0'
    maxFraction := fraction.count '0' + fraction.count '#' }

/-- Digits with a separator before every group counted from the right. -/
def group (size : Nat) (separator : Char) : List Char → List Char
  | [] => []
  | c :: cs =>
    if cs.isEmpty || cs.length % size != 0 then c :: group size separator cs
    else c :: separator :: group size separator cs

def splitDigits (d : Decimal) : List Char × List Char :=
  let digits := Text.zeroPadded (d.scale + 1) d.mantissa
  (digits.take (digits.length - d.scale), digits.drop (digits.length - d.scale))

/-- The whole digits shown: zeros in front are dropped and put back up to the least number. -/
def integerDigits (p : NumberPattern) (digits : List Char) : List Char :=
  Text.padLeft '0' p.minInteger (digits.dropWhile (· == '0'))

/-- The fraction digits shown: zeros at the end are dropped and put back up to the least number. -/
def fractionDigits (p : NumberPattern) (digits : List Char) : List Char :=
  let kept := (digits.reverse.dropWhile (· == '0')).reverse
  kept ++ List.replicate (p.minFraction - kept.length) '0'

def body (p : NumberPattern) (decimalSeparator groupingSeparator : Char) (d : Decimal) :
    List Char :=
  let (whole, fraction) := splitDigits d
  let integer := p.integerDigits whole
  let grouped := match p.grouping with
    | some size => group size groupingSeparator integer
    | none => integer
  let fraction := p.fractionDigits fraction
  grouped ++ (if fraction.isEmpty then [] else decimalSeparator :: fraction)

/-- The number rounded to the most fraction digits, a tie going to the even digit. -/
def rounded (p : NumberPattern) (d : Decimal) : Decimal := d.round .toEven p.maxFraction

def format (p : NumberPattern) (decimalSeparator groupingSeparator : Char) (d : Decimal) :
    String :=
  let r := p.rounded d
  String.ofList ((if r.negative && !r.isZero then ['-'] else []) ++ p.before
    ++ p.body decimalSeparator groupingSeparator r ++ p.after)

end NumberPattern

end Reporting

import Reporting.Decimal.Basic
import Reporting.Text.Digits

/-!
# Decimals as text

A decimal is written with all its places. Reading accepts a sign, digits with one point among them
and underscores after the first digit, or such a number followed by a power of ten.
-/

namespace Reporting.Decimal

open Reporting.Text (isDigit digitValue)

/-- The digits with the point `scale` places from the right. -/
def toText (d : Decimal) : String :=
  let all := Text.zeroPadded (d.scale + 1) d.mantissa
  let whole := all.take (all.length - d.scale)
  let fraction := all.drop (all.length - d.scale)
  String.ofList ((if d.negative then ['-'] else []) ++ whole
    ++ (if d.scale = 0 then [] else '.' :: fraction))

/-- One more unit in the last place, which gives up that place when the mantissa overflows. -/
def roundedUp? (negative : Bool) (m scale : Nat) : Option Decimal :=
  match ofParts? negative (m + 1) scale with
  | some d => some d
  | none => if scale = 0 then none else ofParts? negative ((m + 5) / 10) (scale - 1)

/-- Drops the fraction digits that have no room, rounding by the first of them, a half up. Only
digits and underscores may be left. -/
def dropRest? (negative : Bool) (m scale : Nat) (rest : List Char) : Option Decimal :=
  if rest.all fun c => isDigit c || c == '_' then
    if (rest.find? isDigit).any (5 ≤ digitValue ·) then roundedUp? negative m scale
    else ofParts? negative m scale
  else none

/-- The bound under which the digits read so far count as short: one more digit, and some margin,
still fits in 64 bits. -/
def shortBound : Nat := (2 ^ 64 - 1) / 10 - 255

/-- Reads on after the first digits: `point` says that the point was seen, `m` and `scale` are
what was read. The first fraction digit without room ends what is kept of the number. After the
last place of a number that was short before it, an underscore is taken for a dropped zero. -/
def readDigits (negative : Bool) (point : Bool) (m scale : Nat) :
    List Char → Option Decimal
  | [] => ofParts? negative m scale
  | '_' :: cs =>
    if point && scale = maxScale && m / 10 < shortBound then dropRest? negative m scale ('0' :: cs)
    else readDigits negative point m scale cs
  | '.' :: cs => if point then none else readDigits negative true m scale cs
  | c :: cs =>
    if !isDigit c then none
    else
      let next := m * 10 + digitValue c
      if point && (scale = maxScale || 2 ^ 96 ≤ next) then dropRest? negative m scale (c :: cs)
      else if 2 ^ 96 ≤ next then none
      else readDigits negative point next (if point then scale + 1 else scale) cs

/-- A number without exponent; a digit comes before any underscore. -/
def plain? (cs : List Char) : Option Decimal :=
  let (negative, body) := match cs with
    | '-' :: r => (true, r)
    | '+' :: r => (false, r)
    | r => (false, r)
  match body with
  | '.' :: c :: r => if isDigit c then readDigits negative true 0 0 (c :: r) else none
  | c :: r => if isDigit c then readDigits negative false 0 0 (c :: r) else none
  | [] => none

/-- The number times `10 ^ k`: places are dropped first, then the mantissa grows. -/
def shiftUp? (d : Decimal) (k : Nat) : Option Decimal :=
  if k ≤ d.scale then ofParts? d.negative d.mantissa (d.scale - k)
  else if maxScale < k then none
  else ofParts? d.negative (d.mantissa * 10 ^ (k - d.scale)) 0

/-- The number with `k` more places. -/
def shiftDown? (d : Decimal) (k : Nat) : Option Decimal :=
  ofParts? d.negative d.mantissa (d.scale + k)

def unsigned? : List Char → Option Nat
  | '+' :: cs => Text.natOf? cs
  | cs => Text.natOf? cs

def scientific? (cs : List Char) : Option Decimal :=
  let isMark (c : Char) : Bool := c == 'e' || c == 'E'
  let base := cs.takeWhile (!isMark ·)
  match cs.dropWhile (!isMark ·) with
  | [] => none
  | _ :: '-' :: exponent => do (← plain? base).shiftDown? (← unsigned? exponent)
  | _ :: exponent => do (← plain? base).shiftUp? (← unsigned? exponent)

def ofText? (s : String) : Option Decimal :=
  match plain? s.toList with
  | some d => some d
  | none => scientific? s.toList

end Reporting.Decimal

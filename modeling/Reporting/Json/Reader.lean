import Reporting.Json.Basic

/-!
# Reading JSON text

One value with blanks around it, nested less than 128 deep. A number with a point or an exponent is
read as its leading digits, as many as fit 64 bits, times a power of ten, each step rounded.
-/

namespace Reporting.Json

open Reporting.Text (isDigit digitValue)

def isBlank (c : Char) : Bool := c = ' ' || c = '\n' || c = '\t' || c = '\r'

def skipBlanks (cs : List Char) : List Char := cs.dropWhile isBlank

def hexValue? (c : Char) : Option Nat :=
  if isDigit c then some (digitValue c)
  else if 'a' ≤ c && c ≤ 'f' then some (c.toNat - 'a'.toNat + 10)
  else if 'A' ≤ c && c ≤ 'F' then some (c.toNat - 'A'.toNat + 10)
  else none

def unit? (a b c d : Char) : Option Nat := do
  return (((← hexValue? a) * 16 + (← hexValue? b)) * 16 + (← hexValue? c)) * 16 + (← hexValue? d)

def escaped? : Char → Option Char
  | '"' => some '"'
  | '\\' => some '\\'
  | '/' => some '/'
  | 'b' => some '\x08'
  | 'f' => some '\x0c'
  | 'n' => some '\n'
  | 'r' => some '\r'
  | 't' => some '\t'
  | _ => none

/-- The rest of a string after its opening quote. A unit of the upper half of a pair must be
followed by one of the lower half. -/
def stringBody : List Char → Option (List Char × List Char)
  | '"' :: cs => some ([], cs)
  | '\\' :: 'u' :: a :: b :: c :: d :: cs => do
    let unit ← unit? a b c d
    if 0xDC00 ≤ unit ∧ unit < 0xE000 then none
    else if 0xD800 ≤ unit ∧ unit < 0xDC00 then
      match cs with
      | '\\' :: 'u' :: e :: f :: g :: h :: cs => do
        let low ← unit? e f g h
        if 0xDC00 ≤ low ∧ low < 0xE000 then
          let (s, cs) ← stringBody cs
          return (Char.ofNat (0x10000 + (unit - 0xD800) * 0x400 + (low - 0xDC00)) :: s, cs)
        else none
      | _ => none
    else
      let (s, cs) ← stringBody cs
      return (Char.ofNat unit :: s, cs)
  | '\\' :: c :: cs => do
    let e ← escaped? c
    let (s, cs) ← stringBody cs
    return (e :: s, cs)
  | c :: cs =>
    if c < ' ' || c = '\\' then none
    else do
      let (s, cs) ← stringBody cs
      return (c :: s, cs)
  | [] => none

/-- Appends digits to a significand until one does not fit 64 bits; also the count of those
taken. -/
def takeFitting (significand : Nat) : List Char → Nat × Nat
  | [] => (significand, 0)
  | c :: cs =>
    let next := significand * 10 + digitValue c
    if next < 2 ^ 64 then
      let (s, n) := takeFitting next cs
      (s, n + 1)
    else (significand, 0)

/-- A significand times a power of ten; each factor is rounded on its own, large divisors in
parts of `10 ^ 308`. None beyond the largest number. -/
def scaled? (x : Binary64) (exponent : Int) : Nat → Option Binary64
  | 0 => some x
  | fuel + 1 =>
    let power (k : Nat) : Binary64 := Binary.ofNat .double (10 ^ k)
    if exponent < -308 then scaled? (x.div (power 308)) (exponent + 308) fuel
    else if exponent < 0 then some (x.div (power exponent.natAbs))
    else if 308 < exponent then (if x = Binary.ofNat .double 0 then some x else none)
    else
      let r := x.mul (power exponent.toNat)
      if r.isFinite then some r else none

def float? (negative : Bool) (significand : Nat) (exponent : Int) : Option JsonNumber := do
  let r ← scaled? (Binary.ofNat .double significand) exponent 8
  JsonNumber.ofBinary64? (if negative then r.negate else r)

/-- The whole part as digits: a zero stands alone. -/
def wholePart? (cs : List Char) : Option (List Char × List Char) :=
  match cs with
  | '0' :: c :: r => if isDigit c then none else some (['0'], c :: r)
  | '0' :: [] => some (['0'], [])
  | cs =>
    let run := cs.takeWhile isDigit
    if run.isEmpty then none else some (run, cs.drop run.length)

/-- The digits after a point, none without a point. -/
def fractionPart? : List Char → Option (Option (List Char) × List Char)
  | '.' :: cs =>
    let run := cs.takeWhile isDigit
    if run.isEmpty then none else some (some run, cs.drop run.length)
  | cs => some (none, cs)

def exponentPart? : List Char → Option (Option Int × List Char)
  | c :: cs =>
    if c = 'e' ∨ c = 'E' then
      let (negative, cs) := match cs with
        | '-' :: r => (true, r)
        | '+' :: r => (false, r)
        | r => (false, r)
      let run := cs.takeWhile isDigit
      if run.isEmpty then none
      else
        let n : Int := Text.digitsValue run
        some (some (if negative then -n else n), cs.drop run.length)
    else some (none, c :: cs)
  | [] => some (none, [])

def number? (cs : List Char) : Option (JsonNumber × List Char) := do
  let (negative, cs) := match cs with
    | '-' :: r => (true, r)
    | r => (false, r)
  let (whole, cs) ← wholePart? cs
  let (fraction, cs) ← fractionPart? cs
  let (exponent, cs) ← exponentPart? cs
  let (significand, taken) := takeFitting 0 whole
  let skipped := whole.length - taken
  match fraction, exponent with
  | none, none =>
    if skipped = 0 then
      let value : Int := if negative then -significand else significand
      if negative ∧ significand = 0 then return (← float? true 0 0, cs)
      match JsonNumber.ofInt? value with
      | some n => return (n, cs)
      | none => return (← float? negative significand 0, cs)
    else return (← float? negative significand skipped, cs)
  | _, _ =>
    let (significand, places) := takeFitting significand (fraction.getD [])
    return (← float? negative significand (skipped - places + exponent.getD 0), cs)

def literal? (name : List Char) (value : Json) (cs : List Char) : Option (Json × List Char) :=
  if name.isPrefixOf cs then some (value, cs.drop name.length) else none

mutual

/-- One value; `depth` bounds the nesting and `fuel` the steps. -/
def value? (fuel depth : Nat) (cs : List Char) : Option (Json × List Char) :=
  match fuel with
  | 0 => none
  | fuel + 1 =>
    match skipBlanks cs with
    | '"' :: cs => (stringBody cs).map fun (s, cs) => (.string (String.ofList s), cs)
    | '[' :: cs =>
      if depth = 0 then none
      else
        match skipBlanks cs with
        | ']' :: cs => some (.array [], cs)
        | cs => (elements? fuel (depth - 1) cs).map fun (l, cs) => (.array l, cs)
    | '{' :: cs =>
      if depth = 0 then none
      else
        match skipBlanks cs with
        | '}' :: cs => some (.object [], cs)
        | cs => (members? fuel (depth - 1) cs).map fun (l, cs) => (.object l, cs)
    | 'n' :: cs => literal? "ull".toList .null cs
    | 't' :: cs => literal? "rue".toList (.bool true) cs
    | 'f' :: cs => literal? "alse".toList (.bool false) cs
    | cs => (number? cs).map fun (n, cs) => (.number n, cs)

def elements? (fuel depth : Nat) (cs : List Char) : Option (List Json × List Char) :=
  match fuel with
  | 0 => none
  | fuel + 1 => do
    let (j, cs) ← value? fuel depth cs
    match skipBlanks cs with
    | ',' :: cs =>
      let (l, cs) ← elements? fuel depth cs
      return (j :: l, cs)
    | ']' :: cs => return ([j], cs)
    | _ => none

def members? (fuel depth : Nat) (cs : List Char) : Option (List (String × Json) × List Char) :=
  match fuel with
  | 0 => none
  | fuel + 1 => do
    let '"' :: cs := skipBlanks cs | none
    let (name, cs) ← stringBody cs
    let ':' :: cs := skipBlanks cs | none
    let (j, cs) ← value? fuel depth cs
    match skipBlanks cs with
    | ',' :: cs =>
      let (l, cs) ← members? fuel depth cs
      return ((String.ofList name, j) :: l, cs)
    | '}' :: cs => return ([(String.ofList name, j)], cs)
    | _ => none

end

/-- The value of a text with its object members in the order of the text. -/
def ofText? (s : String) : Option Json := do
  let cs := s.toList
  let (j, rest) ← value? (2 * cs.length + 2) 127 cs
  if (skipBlanks rest).isEmpty then some j else none

end Reporting.Json

import Reporting.Binary.Basic
import Reporting.Text.Digits

/-!
# Reading binary numbers

A number is written with an optional sign, digits with at most one point among them and an optional
power of ten, or as one of the words for infinity and for no number. It reads as the nearest number
of the format.
-/

namespace Reporting.Binary

open Reporting.Text (isDigit natOf? digitsValue)

variable {f : BinaryFormat}

/-- The number nearest to `± m · 10 ^ e`. Exponents far outside every format are cut short. -/
def ofScientific (f : BinaryFormat) (negative : Bool) (m : Nat) (e : Int) : Binary f :=
  let size : Int := (Text.digits m).length + e
  if m = 0 ∨ size < -400 then ofRatio f negative 0 1
  else if 400 < size then .infinity negative
  else if 0 ≤ e then ofRatio f negative (m * 10 ^ e.toNat) 1
  else ofRatio f negative m (10 ^ (-e).toNat)

def exponentOf? (cs : List Char) : Option Int := Text.intOf? cs

def numeralOf? (negative : Bool) (cs : List Char) : Option (Binary f) :=
  let whole := cs.takeWhile isDigit
  let rest := cs.dropWhile isDigit
  let (fraction, rest) := match rest with
    | '.' :: r => (r.takeWhile isDigit, r.dropWhile isDigit)
    | r => ([], r)
  let m := digitsValue (whole ++ fraction)
  if whole.isEmpty && fraction.isEmpty then none
  else
    match rest with
    | [] => some (ofScientific f negative m (-fraction.length))
    | c :: r =>
      if c = 'e' ∨ c = 'E' then
        (exponentOf? r).map fun e => ofScientific f negative m (e - fraction.length)
      else none

def unsignedOf? (negative : Bool) (cs : List Char) : Option (Binary f) :=
  match String.ofList (cs.map Char.toLower) with
  | "inf" | "infinity" => some (.infinity negative)
  | "nan" => some .nan
  | _ => numeralOf? negative cs

def ofText? (f : BinaryFormat) (s : String) : Option (Binary f) :=
  match s.toList with
  | '-' :: cs => unsignedOf? true cs
  | '+' :: cs => unsignedOf? false cs
  | cs => unsignedOf? false cs

end Reporting.Binary

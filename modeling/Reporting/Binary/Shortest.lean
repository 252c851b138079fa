import Reporting.Binary.Basic

/-!
# Shortest decimal digits

`Binary.shortest` is the shortest decimal that lies among the reals rounding to a number and, of
those of that length, the nearest. `FloatStyle` says when its digits are written without exponent.
-/

namespace Reporting

/-- The decimal digits `digits` with the point after the first one, times `10 ^ exponent`. -/
structure DecimalDigits where
  digits : List Char
  exponent : Int
deriving DecidableEq, Repr

/-- The exponent of the first decimal digit of `n / d`. -/
def decimalExponent (n d : Nat) : Int :=
  let k : Int := (Nat.toDigits 10 n).length - (Nat.toDigits 10 d).length
  let (p, q) := if 0 ≤ k then (n, d * 10 ^ k.toNat) else (n * 10 ^ (-k).toNat, d)
  if q ≤ p then k else k - 1

namespace Binary

variable {f : BinaryFormat}

/-- Twice the distances from `m · 2 ^ e` to its neighbours below and above, in quarters of
`2 ^ e`. -/
def gaps (f : BinaryFormat) (m : Nat) (e : Int) : Nat × Nat :=
  (if m = 2 ^ (f.precision - 1) ∧ f.minExponent < e then 1 else 2, 2)

/-- The decimal `c · 10 ^ g` rounds to `m · 2 ^ e`. -/
def roundsTo (f : BinaryFormat) (m : Nat) (e : Int) (c : Nat) (g : Int) : Bool :=
  let (below, above) := gaps f m e
  let (p, q) := ratioOf 1 (e - 2)
  let (x, y) := if 0 ≤ g then (c * 10 ^ g.toNat, 1) else (c, 10 ^ (-g).toNat)
  let low := (4 * m - below) * p * y
  let high := (4 * m + above) * p * y
  let value := x * q
  if m % 2 = 0 then low ≤ value && value ≤ high else low < value && value < high

/-- The nearest decimal of the grid `10 ^ g` that rounds to `m · 2 ^ e`, if either neighbour
does. -/
def onGrid? (f : BinaryFormat) (m : Nat) (e : Int) (g : Int) : Option Nat :=
  let (p, q) := ratioOf m e
  let (p, q) := if 0 ≤ g then (p, q * 10 ^ g.toNat) else (p * 10 ^ (-g).toNat, q)
  let near := roundQuotient .toEven p q
  let far := if near = p / q then p / q + 1 else p / q
  if roundsTo f m e near g then some near
  else if roundsTo f m e far g then some far
  else none

/-- The fewest digits that read back as `m · 2 ^ e`, tried from one digit up. -/
def shortestFrom (f : BinaryFormat) (m : Nat) (e : Int) (k : Int) : Nat → Nat → Nat × Int
  | 0, n => ((onGrid? f m e (k - n)).getD 0, k - n)
  | fuel + 1, n =>
    match onGrid? f m e (k - n) with
    | some c => (c, k - n)
    | none => shortestFrom f m e k fuel (n + 1)

/-- The digits of `m · 2 ^ e`; seventeen are enough for the widest format. -/
def shortest (f : BinaryFormat) (m : Nat) (e : Int) : DecimalDigits :=
  if m = 0 then ⟨['0'], 0⟩
  else
    let (p, q) := ratioOf m e
    let (c, g) := shortestFrom f m e (decimalExponent p q) 20 0
    let written := Nat.toDigits 10 c
    let kept := (written.reverse.dropWhile (· == '0')).reverse
    ⟨kept, g + written.length - 1⟩

end Binary

/-- How a floating point number is spelled: written out while the first digit's exponent is in
`leastFixed .. fixedBelow - 1`, otherwise with an exponent, whose plus sign may be written. -/
structure FloatStyle where
  leastFixed : Int
  fixedBelow : Int
  plus : Bool
deriving DecidableEq, Repr

namespace FloatStyle

/-- The digits written out, always with a decimal point. -/
def fixed (d : DecimalDigits) : List Char :=
  if d.exponent < 0 then
    ['0', '.'] ++ List.replicate ((-d.exponent).toNat - 1) '0' ++ d.digits
  else
    let whole := d.exponent.toNat + 1
    let fraction := d.digits.drop whole
    d.digits.take whole ++ List.replicate (whole - d.digits.length) '0' ++ ['.']
      ++ (if fraction.isEmpty then ['0'] else fraction)

def scientific (s : FloatStyle) (d : DecimalDigits) : List Char :=
  let fraction := d.digits.drop 1
  d.digits.take 1 ++ (if fraction.isEmpty then [] else '.' :: fraction) ++ ['e']
    ++ (if d.exponent < 0 then ['-'] else if s.plus then ['+'] else [])
    ++ Nat.toDigits 10 d.exponent.natAbs

def render (s : FloatStyle) {f : BinaryFormat} : Binary f → String
  | .finite n m e _ =>
    let d := Binary.shortest f m e
    let body := if m = 0 ∨ (s.leastFixed ≤ d.exponent ∧ d.exponent < s.fixedBelow) then fixed d
      else s.scientific d
    String.ofList ((if n then ['-'] else []) ++ body)
  | .infinity n => if n then "-inf" else "inf"
  | .nan => "NaN"

end FloatStyle

end Reporting

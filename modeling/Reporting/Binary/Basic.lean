import Reporting.Rounding

/-!
# Binary floating point

A finite number is `± m · 2 ^ e` with a bounded significand `m`. `Binary.ofRatio` is the nearest
such number to an exact quotient, and every operation is the exact result rounded by it.
-/

namespace Reporting

/-- A significand of `precision` bits and the range of its exponent. -/
structure BinaryFormat where
  precision : Nat
  minExponent : Int
  maxExponent : Int
deriving DecidableEq, Repr

namespace BinaryFormat

def double : BinaryFormat := ⟨53, -1074, 971⟩

def single : BinaryFormat := ⟨24, -149, 104⟩

/-- The significand fits and, above the least exponent, uses its top bit. -/
def Canonical (f : BinaryFormat) (m : Nat) (e : Int) : Prop :=
  m < 2 ^ f.precision ∧ f.minExponent ≤ e ∧ e ≤ f.maxExponent
    ∧ (2 ^ (f.precision - 1) ≤ m ∨ e = f.minExponent)

instance (f : BinaryFormat) (m : Nat) (e : Int) : Decidable (f.Canonical m e) := by
  unfold Canonical
  infer_instance

end BinaryFormat

inductive Binary (f : BinaryFormat)
  | finite (negative : Bool) (significand : Nat) (exponent : Int)
      (canonical : f.Canonical significand exponent)
  | infinity (negative : Bool)
  | nan
deriving DecidableEq

abbrev Binary64 := Binary .double

abbrev Binary32 := Binary .single

namespace Binary

variable {f : BinaryFormat}

instance : Inhabited (Binary f) := ⟨.nan⟩

def isFinite : Binary f → Bool
  | .finite .. => true
  | _ => false

def negate : Binary f → Binary f
  | .finite n m e h => .finite (!n) m e h
  | .infinity n => .infinity (!n)
  | .nan => .nan

def ratioOf (m : Nat) (e : Int) : Nat × Nat :=
  if 0 ≤ e then (m * 2 ^ e.toNat, 1) else (m, 2 ^ (-e).toNat)

/-- A significand and exponent as a number, or the infinity when they are out of range. -/
def pack (f : BinaryFormat) (negative : Bool) (m : Nat) (e : Int) : Binary f :=
  if h : f.Canonical m e then .finite negative m e h else .infinity negative

/-- The exponent of the numbers of `f` around `n / d`. -/
def exponentAt (f : BinaryFormat) (n d : Nat) : Int :=
  let e := max f.minExponent ((n.log2 : Int) - d.log2 - f.precision + 1)
  let (p, q) := if 0 ≤ e then (n, d * 2 ^ e.toNat) else (n * 2 ^ (-e).toNat, d)
  if p / q < 2 ^ (f.precision - 1) then max f.minExponent (e - 1) else e

/-- The number nearest to `± n / d`, a tie going to the even significand. -/
def ofRatio (f : BinaryFormat) (negative : Bool) (n d : Nat) : Binary f :=
  if n = 0 then pack f negative 0 f.minExponent else
  let e := exponentAt f n d
  let m := if 0 ≤ e then roundQuotient .toEven n (d * 2 ^ e.toNat)
    else roundQuotient .toEven (n * 2 ^ (-e).toNat) d
  if m = 2 ^ f.precision then pack f negative (2 ^ (f.precision - 1)) (e + 1)
  else pack f negative m e

def ofNat (f : BinaryFormat) (n : Nat) : Binary f := ofRatio f false n 1

def ofInt (f : BinaryFormat) (i : Int) : Binary f := ofRatio f (i < 0) i.natAbs 1

def convert (g : BinaryFormat) : Binary f → Binary g
  | .finite n m e _ => ofRatio g n (ratioOf m e).1 (ratioOf m e).2
  | .infinity n => .infinity n
  | .nan => .nan

def mul : Binary f → Binary f → Binary f
  | .finite n m e _, .finite n' m' e' _ =>
    let (p, q) := ratioOf m e
    let (p', q') := ratioOf m' e'
    ofRatio f (n != n') (p * p') (q * q')
  | .nan, _ => .nan
  | _, .nan => .nan
  | .infinity n, .finite n' m _ _ => if m = 0 then .nan else .infinity (n != n')
  | .finite n m _ _, .infinity n' => if m = 0 then .nan else .infinity (n != n')
  | .infinity n, .infinity n' => .infinity (n != n')

def div : Binary f → Binary f → Binary f
  | .finite n m e _, .finite n' m' e' _ =>
    if m' = 0 then (if m = 0 then .nan else .infinity (n != n'))
    else
      let (p, q) := ratioOf m e
      let (p', q') := ratioOf m' e'
      ofRatio f (n != n') (p * q') (q * p')
  | .nan, _ => .nan
  | _, .nan => .nan
  | .infinity n, .finite n' _ _ _ => .infinity (n != n')
  | .finite n _ _ _, .infinity n' => ofRatio f (n != n') 0 1
  | .infinity _, .infinity _ => .nan

/-- The sum, whose zero is negative only when both terms are. -/
def add : Binary f → Binary f → Binary f
  | .finite n m e _, .finite n' m' e' _ =>
    let (p, q) := ratioOf m e
    let (p', q') := ratioOf m' e'
    let s : Int := (if n then -1 else 1) * (p * q' : Nat) + (if n' then -1 else 1) * (p' * q : Nat)
    ofRatio f (if s = 0 then n && n' else s < 0) s.natAbs (q * q')
  | .nan, _ => .nan
  | _, .nan => .nan
  | .infinity n, .infinity n' => if n = n' then .infinity n else .nan
  | .infinity n, _ => .infinity n
  | _, .infinity n => .infinity n

/-- The nearest whole number, a half going away from zero. -/
def roundWhole : Binary f → Binary f
  | .finite n m e _ =>
    let (p, q) := ratioOf m e
    ofRatio f n (roundQuotient .away p q) 1
  | x => x

/-- The power found by squaring, each product rounded. -/
def pow (x : Binary f) (k : Nat) : Binary f :=
  go x (ofNat f 1) k
where
  go (a r : Binary f) (k : Nat) : Binary f :=
    let r := if k % 2 = 1 then r.mul a else r
    if h : k / 2 = 0 then r else go (a.mul a) r (k / 2)
  termination_by k

end Binary

end Reporting

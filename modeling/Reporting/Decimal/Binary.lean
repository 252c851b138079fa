import Reporting.Binary.Basic
import Reporting.Decimal.Basic

/-!
# Decimals and binary floating point

Both conversions go through a fixed sequence of rounded steps rather than one rounding, so what
they give is part of the format: a decimal fraction is added to its whole part as a binary number
and rounded to its places, and a binary number is moved to a decimal mantissa factor by factor.
-/

namespace Reporting.Decimal

/-- The nearest sum of whole part and fraction, rounded to the places of the decimal. A zero without
places has no sign. -/
def toBinary64 (d : Decimal) : Binary64 :=
  let power := 10 ^ d.scale
  let signed (n : Nat) : Binary64 := Binary.ofRatio .double d.negative n 1
  if d.scale = 0 then (if d.isZero then Binary.ofNat .double 0 else signed d.mantissa)
  else
    let fraction := (Binary.ofNat .double (d.mantissa % power)).div (Binary.ofNat .double power)
    if d.mantissa % power = 0 then signed (d.mantissa / power)
    else
      let v := (Binary.ofNat .double (d.mantissa / power)).add fraction
      let p := (Binary.ofNat .double 10).pow d.scale
      let r := (v.mul p).roundWhole.div p
      if d.negative then r.negate else r

/-- `m · 2 ^ ten · 5 ^ five` under conversion, to end with `five` zero and the powers of two and
five together in `ten` as a power of ten. -/
structure Shifting where
  mantissa : Nat
  ten : Int
  five : Int
deriving Repr

namespace Shifting

/-- Turns factors of one half into factors of one tenth, five by five; a mantissa without room
loses its last bit instead. -/
def clearPositive (fuel : Nat) (s : Shifting) : Shifting :=
  match fuel with
  | 0 => s
  | fuel + 1 =>
    if s.five ≤ 0 then s
    else if s.mantissa % 2 = 0 then
      clearPositive fuel ⟨s.mantissa / 2, s.ten + 1, s.five - 1⟩
    else if s.mantissa * 5 < 2 ^ 96 then
      clearPositive fuel ⟨s.mantissa * 5, s.ten, s.five - 1⟩
    else clearPositive fuel ⟨s.mantissa / 2, s.ten + 1, s.five - 1⟩

/-- Turns factors of two into the mantissa while it has room, afterwards fives out of it. -/
def clearNegative (fuel : Nat) (s : Shifting) : Option Shifting :=
  match fuel with
  | 0 => some s
  | fuel + 1 =>
    if 0 ≤ s.five then some s
    else if s.mantissa < 2 ^ 95 then
      clearNegative fuel ⟨s.mantissa * 2, s.ten - 1, s.five + 1⟩
    else if 2 * s.ten > -s.five then none
    else clearNegative fuel ⟨s.mantissa / 5, s.ten, s.five + 1⟩

/-- The mantissa without its last digit, rounded by it, a half up. -/
def dropDigit (m : Nat) : Nat := roundQuotient .away m 10

end Shifting

/-- Brings a power of ten above zero into the mantissa. -/
def raise (m : Nat) : Nat → Option Nat
  | 0 => some m
  | k + 1 => if m * 10 < 2 ^ 96 then raise (m * 10) k else none

/-- Drops places beyond the most that a decimal has. -/
def lower (fuel m scale : Nat) : Nat × Nat :=
  match fuel with
  | 0 => (m, scale)
  | fuel + 1 =>
    if scale ≤ maxScale then (m, scale)
    else if m / 10 = 0 then (0, 0)
    else lower fuel (Shifting.dropDigit m) (scale - 1)

/-- Drops places while the mantissa is wider than a binary significand. -/
def narrow (fuel m scale : Nat) : Nat × Nat :=
  match fuel with
  | 0 => (m, scale)
  | fuel + 1 =>
    if 0 < scale ∧ 2 ^ 52 ≤ m then narrow fuel (Shifting.dropDigit m) (scale - 1) else (m, scale)

/-- The decimal near a finite binary number, none when it has no room. -/
def ofBinary64? : Binary64 → Option Decimal
  | .finite negative m e _ => do
    if m = 0 then
      return { zero with negative := negative }
    let s := Shifting.clearPositive 1100 ⟨m, e, -e⟩
    let s ← Shifting.clearNegative 1100 s
    let m ← raise s.mantissa s.ten.toNat
    let (m, scale) := lower 1100 m (-s.ten).toNat
    let (m, scale) := narrow 1100 m scale
    (ofParts? negative m scale).map stripZeros
  | _ => none

end Reporting.Decimal

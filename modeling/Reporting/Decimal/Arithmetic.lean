import Reporting.Decimal.Basic

/-!
# Decimal arithmetic

Every operation is the exact result brought into range by `Decimal.fit`, which gives none when the
whole part does not fit. The saturating forms answer the value of largest magnitude instead.
-/

namespace Reporting.Decimal

/-- The sum. A zero term leaves the other one as it is, its places included. -/
def add? (a b : Decimal) : Option Decimal :=
  if a.isZero then some b
  else if b.isZero then some a
  else
    let s := max a.scale b.scale
    let n := a.signed * (10 ^ (s - a.scale) : Nat) + b.signed * (10 ^ (s - b.scale) : Nat)
    fit (n < 0) n.natAbs s

/-- The sign turned, except that of a zero. -/
def neg (d : Decimal) : Decimal := { d with negative := !d.negative && d.mantissa != 0 }

def sub? (a b : Decimal) : Option Decimal := add? a b.neg

def mul? (a b : Decimal) : Option Decimal :=
  if a.isZero || b.isZero then some zero
  else fit (a.negative != b.negative) (a.mantissa * b.mantissa) (a.scale + b.scale)

/-- The most places that `± n / d` can have, and the decimal with them. -/
def quotient? (negative : Bool) (n d : Nat) : Nat → Option Decimal
  | 0 => ofParts? negative (roundQuotient .toEven n d) 0
  | s + 1 =>
    match ofParts? negative (roundQuotient .toEven (n * 10 ^ (s + 1)) d) (s + 1) with
    | some q => some q
    | none => quotient? negative n d s

/-- The quotient with as many places as it needs and fit, none for a zero divisor. -/
def div? (a b : Decimal) : Option Decimal :=
  if b.isZero then none
  else
    (quotient? (a.negative != b.negative) (a.mantissa * 10 ^ b.scale) (b.mantissa * 10 ^ a.scale)
      maxScale).map stripZeros

/-- The whole square root of `n`: means of a bound and `n` divided by it come down to the root. -/
def isqrt (n : Nat) : Nat :=
  if n = 0 then 0 else go (n.log2 + 2) (2 ^ (n.log2 / 2 + 1))
where
  go : Nat → Nat → Nat
    | 0, x => x
    | fuel + 1, x =>
      let y := (x + n / x) / 2
      if y < x then go fuel y else x

/-- The square root with places enough for four correct ones, none of a negative number. -/
def sqrt? (d : Decimal) : Option Decimal :=
  if d.isZero then some zero
  else if d.negative then none
  else go (maxScale + 1)
where
  /-- The nearest decimal with `places` places, or with the next fewer when it does not fit. -/
  go : Nat → Option Decimal
    | 0 => none
    | places + 1 =>
      let n := d.mantissa * 10 ^ (2 * places)
      let root := isqrt (n / 10 ^ d.scale)
      let exactAbove := (2 * root + 1) * (2 * root + 1) * 10 ^ d.scale
      match ofParts? false (if exactAbove ≤ 4 * n then root + 1 else root) places with
      | some r => some r.stripZeros
      | none => go places

def saturatingAdd (a b : Decimal) : Decimal := (a.add? b).getD (extreme b.negative)

def saturatingMul (a b : Decimal) : Decimal :=
  (a.mul? b).getD (extreme (a.negative != b.negative))

end Reporting.Decimal

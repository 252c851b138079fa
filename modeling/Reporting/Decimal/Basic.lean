import Reporting.Rounding

/-!
# Decimal numbers

A decimal is a sign, a mantissa of at most 96 bits and a count of decimal places up to 28. The
places are kept, so `1.50` and `1.5` are different decimals with the same value: `Decimal.same`
and `Decimal.compareValue` look at the value, equality at the representation.
-/

namespace Reporting

structure Decimal where
  negative : Bool
  mantissa : Nat
  scale : Nat
  mantissa_lt : mantissa < 2 ^ 96 := by decide
  scale_le : scale ≤ 28 := by decide
deriving DecidableEq

namespace Decimal

def maxScale : Nat := 28

def zero : Decimal := ⟨false, 0, 0, by decide, by decide⟩

def one : Decimal := ⟨false, 1, 0, by decide, by decide⟩

/-- The value of largest magnitude with the given sign. -/
def extreme (negative : Bool) : Decimal := ⟨negative, 2 ^ 96 - 1, 0, by decide, by decide⟩

instance : Inhabited Decimal := ⟨zero⟩

instance : Repr Decimal where
  reprPrec d _ := repr (d.negative, d.mantissa, d.scale)

def isZero (d : Decimal) : Bool := d.mantissa = 0

/-- The mantissa with its sign: the value times `10 ^ scale`. -/
def signed (d : Decimal) : Int := if d.negative then -d.mantissa else d.mantissa

/-- A decimal with the given parts, a zero losing its sign. -/
def ofParts? (negative : Bool) (mantissa scale : Nat) : Option Decimal :=
  if h : mantissa < 2 ^ 96 ∧ scale ≤ 28 then
    some ⟨negative && mantissa != 0, mantissa, scale, h.1, h.2⟩
  else none

def ofInt? (i : Int) : Option Decimal := ofParts? (i < 0) i.natAbs 0

def ofInt (i : Int) (h : i.natAbs < 2 ^ 96 := by decide) : Decimal :=
  ⟨i < 0, i.natAbs, 0, h, by decide⟩

def abs (d : Decimal) : Decimal := { d with negative := false }

/-- The order of values, whatever their places. -/
def compareValue (a b : Decimal) : Ordering :=
  compare (a.signed * (10 ^ b.scale : Nat)) (b.signed * (10 ^ a.scale : Nat))

def same (a b : Decimal) : Bool := a.compareValue b == .eq

/-- The exact value `± m / 10 ^ s` with the most places that leave a mantissa of 96 bits and at
most 28 places, none when even a whole number is too large. Dropped places are rounded once, a
tie going to the even digit. -/
def fit (negative : Bool) (m s : Nat) : Option Decimal :=
  go (s + 1) (s - maxScale)
where
  go : Nat → Nat → Option Decimal
    | 0, _ => none
    | fuel + 1, dropped =>
      if s < dropped then none
      else
        match ofParts? negative (roundQuotient .toEven m (10 ^ dropped)) (s - dropped) with
        | some d => some d
        | none => go fuel (dropped + 1)

/-- The decimal with at most `places` places, rounded where it has more. -/
def round (tie : Tie) (places : Nat) (d : Decimal) : Decimal :=
  if h : d.scale ≤ places then d
  else
    have hm : roundQuotient tie d.mantissa (10 ^ (d.scale - places)) < 2 ^ 96 := by
      have hd : 10 ≤ 10 ^ (d.scale - places) :=
        Nat.le_self_pow (by omega) 10
      have hr := roundQuotient_mul_le tie d.mantissa (10 ^ (d.scale - places))
      have hl := d.mantissa_lt
      have hq : roundQuotient tie d.mantissa (10 ^ (d.scale - places)) * 10
          ≤ roundQuotient tie d.mantissa (10 ^ (d.scale - places)) * 10 ^ (d.scale - places) :=
        Nat.mul_le_mul_left _ hd
      have hq1 : roundQuotient tie d.mantissa (10 ^ (d.scale - places)) ≤ d.mantissa + 1 := by
        unfold roundQuotient
        have := Nat.div_le_self d.mantissa (10 ^ (d.scale - places))
        split <;> omega
      by_cases hz : d.mantissa < 2 ^ 96 - 1
      · omega
      · have hdiv : d.mantissa / 10 ^ (d.scale - places) ≤ d.mantissa / 10 :=
          Nat.div_le_div_left hd (by decide)
        have : roundQuotient tie d.mantissa (10 ^ (d.scale - places)) ≤ d.mantissa / 10 + 1 := by
          unfold roundQuotient
          split <;> omega
        omega
    ⟨d.negative && roundQuotient tie d.mantissa (10 ^ (d.scale - places)) != 0,
      roundQuotient tie d.mantissa (10 ^ (d.scale - places)), places, hm,
      by have := d.scale_le; omega⟩

/-- The whole part, toward zero. -/
def trunc (d : Decimal) : Int :=
  if d.negative then -(d.mantissa / 10 ^ d.scale : Nat) else (d.mantissa / 10 ^ d.scale : Nat)

def stripZeros (d : Decimal) : Decimal :=
  go d.scale d
where
  go : Nat → Decimal → Decimal
    | 0, d => d
    | fuel + 1, d =>
      if h : 0 < d.scale ∧ d.mantissa % 10 = 0 then
        go fuel ⟨d.negative, d.mantissa / 10, d.scale - 1,
          by have := d.mantissa_lt; omega, by have := d.scale_le; omega⟩
      else d

end Decimal

end Reporting

/-!
# Base64 for addresses

Bytes as letters, digits, `-` and `_`, six bits each, without padding. Reading accepts only what
writing produces: the bits that the last letter has to spare are zero.
-/

namespace Reporting.Base64

def letter (v : Nat) : Char :=
  if v < 26 then Char.ofNat ('A'.toNat + v)
  else if v < 52 then Char.ofNat ('a'.toNat + (v - 26))
  else if v < 62 then Char.ofNat ('0'.toNat + (v - 52))
  else if v = 62 then '-'
  else '_'

def value? (c : Char) : Option Nat :=
  if 'A' ≤ c ∧ c ≤ 'Z' then some (c.toNat - 'A'.toNat)
  else if 'a' ≤ c ∧ c ≤ 'z' then some (c.toNat - 'a'.toNat + 26)
  else if '0' ≤ c ∧ c ≤ '9' then some (c.toNat - '0'.toNat + 52)
  else if c = '-' then some 62
  else if c = '_' then some 63
  else none

/-- Three bytes become four letters; one byte left over becomes two, two become three. -/
def encode : List UInt8 → List Char
  | a :: b :: c :: rest =>
    let n := (a.toNat * 256 + b.toNat) * 256 + c.toNat
    letter (n / 262144) :: letter (n / 4096 % 64) :: letter (n / 64 % 64) :: letter (n % 64)
      :: encode rest
  | [a, b] =>
    let n := a.toNat * 256 + b.toNat
    [letter (n / 1024), letter (n / 16 % 64), letter (n % 16 * 4)]
  | [a] => [letter (a.toNat / 4), letter (a.toNat % 4 * 16)]
  | [] => []

def decode? : List Char → Option (List UInt8)
  | a :: b :: c :: d :: rest => do
    let n := (((← value? a) * 64 + (← value? b)) * 64 + (← value? c)) * 64 + (← value? d)
    return UInt8.ofNat (n / 65536) :: UInt8.ofNat (n / 256 % 256) :: UInt8.ofNat (n % 256)
      :: (← decode? rest)
  | [a, b, c] => do
    let n := ((← value? a) * 64 + (← value? b)) * 64 + (← value? c)
    if n % 4 = 0 then some [UInt8.ofNat (n / 1024), UInt8.ofNat (n / 4 % 256)] else none
  | [a, b] => do
    let n := (← value? a) * 64 + (← value? b)
    if n % 16 = 0 then some [UInt8.ofNat (n / 16)] else none
  | [_] => none
  | [] => some []

end Reporting.Base64

/-!
# SipHash

A keyed hash of a list of bytes into 64 bits, here with a zero key, one round for each word of eight
bytes and three rounds at the end.
-/

namespace Reporting

structure SipHash where
  v0 : UInt64
  v1 : UInt64
  v2 : UInt64
  v3 : UInt64
deriving DecidableEq, Repr

namespace SipHash

/-- The state of a zero key. -/
def start : SipHash :=
  ⟨0x736f6d6570736575, 0x646f72616e646f6d, 0x6c7967656e657261, 0x7465646279746573⟩

def rotate (x : UInt64) (n : UInt64) : UInt64 := (x <<< n) ||| (x >>> (64 - n))

def round (s : SipHash) : SipHash :=
  let v0 := s.v0 + s.v1
  let v1 := rotate s.v1 13 ^^^ v0
  let v0 := rotate v0 32
  let v2 := s.v2 + s.v3
  let v3 := rotate s.v3 16 ^^^ v2
  let v0 := v0 + v3
  let v3 := rotate v3 21 ^^^ v0
  let v2 := v2 + v1
  let v1 := rotate v1 17 ^^^ v2
  let v2 := rotate v2 32
  ⟨v0, v1, v2, v3⟩

def absorb (s : SipHash) (word : UInt64) : SipHash :=
  let s := round { s with v3 := s.v3 ^^^ word }
  { s with v0 := s.v0 ^^^ word }

/-- The word of up to eight bytes, the least significant one first. -/
def word (bytes : List UInt8) : UInt64 :=
  bytes.foldr (fun b w => (w <<< 8) ||| b.toUInt64) 0

/-- Absorbs whole words; the last one holds what is left and, in its top byte, the length. -/
def absorbAll (length : Nat) (s : SipHash) : List UInt8 → SipHash
  | a :: b :: c :: d :: e :: f :: g :: h :: rest =>
    absorbAll length (s.absorb (word [a, b, c, d, e, f, g, h])) rest
  | rest => s.absorb (word rest ||| (UInt64.ofNat (length % 256) <<< 56))

def finish (s : SipHash) : UInt64 :=
  let s := round (round (round { s with v2 := s.v2 ^^^ 0xff }))
  s.v0 ^^^ s.v1 ^^^ s.v2 ^^^ s.v3

def hash (bytes : List UInt8) : UInt64 := (start.absorbAll bytes.length bytes).finish

end SipHash

end Reporting

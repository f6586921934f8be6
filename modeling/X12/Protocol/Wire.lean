import Mathlib.Algebra.Ring.Int.Defs
import Mathlib.Algebra.Ring.Nat
import Mathlib.Data.List.Basic

/-! # Bytes of a request body

Reads of little-endian fields. The callers check the length of the body
first, so a read past its end never decides anything and gives zero. -/

namespace X12

def byteAt (body : List UInt8) (i : Nat) : Nat :=
  (body.getD i 0).toNat

def readU16Le (body : List UInt8) (i : Nat) : Nat :=
  byteAt body i + 2 ^ 8 * byteAt body (i + 1)

def readU32Le (body : List UInt8) (i : Nat) : Nat :=
  readU16Le body i + 2 ^ 16 * readU16Le body (i + 2)

def u32Le (body : List UInt8) (i : Nat) : UInt32 :=
  UInt32.ofNat (readU32Le body i)

/-- The number of ones of a 32-bit value. -/
def countOnes (n : Nat) : Nat :=
  (List.range 32).countP n.testBit

end X12

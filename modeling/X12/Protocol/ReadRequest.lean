import X12.Protocol.RequestLengths
import X12.Protocol.WireSwap

/-! # Reading a request

How a request is cut out of what a client sends, and the exact length gate once
more, with each of its 32-bit operations checked. -/

namespace X12

/-! ## Framing -/

structure RequestHeader where
  opcode : UInt8
  data : UInt8
  lengthUnits : Nat
  deriving DecidableEq, Repr

inductive ReadResult where
  /-- The client is gone. -/
  | closed
  | failed
  /-- A request and what has been sent after it. -/
  | request (header : RequestHeader) (body rest : List UInt8)
  deriving DecidableEq, Repr

def readU16 : ClientByteOrder → List UInt8 → Nat → Nat
  | .littleEndian, bytes, i => readU16Le bytes i
  | .bigEndian, bytes, i => 2 ^ 8 * byteAt bytes i + byteAt bytes (i + 1)

def readU32 : ClientByteOrder → List UInt8 → Nat → Nat
  | .littleEndian, bytes, i => readU32Le bytes i
  | .bigEndian, bytes, i =>
    2 ^ 16 * readU16 .bigEndian bytes i + readU16 .bigEndian bytes (i + 2)

def maxRequestUnits (bigRequestsEnabled : Bool) : Nat :=
  if bigRequestsEnabled then 256 * 1024 else 2 ^ 16 - 1

/-- The body of a frame of `lengthUnits` whose header takes `headerBytes`. The
body of a malformed frame is drained, and its length is one that no limit allows. -/
def readBody (opcode data : UInt8) (lengthUnits bodyLen : Nat) (malformed : Bool)
    (stream : List UInt8) : ReadResult :=
  if stream.length < bodyLen then .failed
  else if malformed then .request ⟨opcode, data, u32Max⟩ [] (stream.drop bodyLen)
  else .request ⟨opcode, data, lengthUnits⟩ (stream.take bodyLen) (stream.drop bodyLen)

def readRequest (byteOrder : ClientByteOrder) (bigRequestsEnabled : Bool)
    (stream : List UInt8) : ReadResult :=
  if stream.length < 4 then .closed
  else
    let opcode := stream.getD 0 0
    let data := stream.getD 1 0
    let lengthUnits := readU16 byteOrder stream 2
    let stream := stream.drop 4
    if lengthUnits = 0 ∧ bigRequestsEnabled then
      if stream.length < 4 then .failed
      else
        let lengthUnits := readU32 byteOrder stream 0
        let stream := stream.drop 4
        -- too short for the two words of its own header
        if lengthUnits < 2 then readBody opcode data lengthUnits 0 true stream
        else
          readBody opcode data lengthUnits (lengthUnits * 4 - 8)
            (maxRequestUnits bigRequestsEnabled < lengthUnits) stream
    else if lengthUnits < 1 then .failed
    else
      readBody opcode data lengthUnits (lengthUnits * 4 - 4)
        (maxRequestUnits bigRequestsEnabled < lengthUnits) stream

/-! ## Checked arithmetic -/

namespace Checked

/-- `none` where the result does not fit in 32 bits. -/
def add (a b : Nat) : Option Nat :=
  addU32 true a b

def mul (a b : Nat) : Option Nat :=
  if a * b ≤ u32Max then some (a * b) else none

def sub (a b : Nat) : Option Nat :=
  if b ≤ a then some (a - b) else none

/-- `div_ceil(4)` -/
def padUnits (bytes : Nat) : Option Nat :=
  if 0 < bytes % 4 then add (bytes / 4) 1 else some (bytes / 4)

def counted (fixed content : Nat) : Option (Option Nat) :=
  (add fixed content).map some

def padded (fixed bytes : Nat) : Option (Option Nat) :=
  (padUnits bytes).bind (counted fixed)

def imageText (body : List UInt8) (bytes : Nat) : Option (Option Nat) := do
  let bodyUnits := body.length / 4 % 2 ^ 32
  let expectedUnits ← add 4 (← padUnits bytes)
  let expectedBody ← sub expectedUnits 1
  return if bodyUnits = expectedBody then none else some u32Max

/-- `none` is an overflow. -/
def exactRequiredLength (opcode headerData : UInt8) (body : List UInt8) : Option (Option Nat) :=
  match opcode with
  | 1 => if 28 ≤ body.length then counted 8 (countOnes (readU32Le body 24)) else some none
  | 2 => if 8 ≤ body.length then counted 3 (countOnes (readU32Le body 4)) else some none
  | 12 => if 6 ≤ body.length then counted 3 (countOnes (readU16Le body 4)) else some none
  | 16 => if 2 ≤ body.length then padded 2 (readU16Le body 0) else some none
  | 18 =>
    if 20 ≤ body.length then
      let format := byteAt body 12
      if format ≠ 8 ∧ format ≠ 16 ∧ format ≠ 32 then some none
      else
        -- `checked_mul(..)?` leaves the function with no length
        match mul (readU32Le body 16) (format / 8) with
        | none => some none
        | some bytes => padded 6 bytes
    else some none
  | 45 => if 6 ≤ body.length then padded 3 (readU16Le body 4) else some none
  | 49 | 50 => if 4 ≤ body.length then padded 2 (readU16Le body 2) else some none
  | 55 => if 12 ≤ body.length then counted 4 (countOnes (readU32Le body 8)) else some none
  | 56 => if 8 ≤ body.length then counted 3 (countOnes (readU32Le body 4)) else some none
  | 58 => if 8 ≤ body.length then padded 3 (readU16Le body 6) else some none
  | 85 | 92 => if 6 ≤ body.length then padded 3 (readU16Le body 4) else some none
  | 90 => if 10 ≤ body.length then padded 4 (readU16Le body 8) else some none
  | 98 => if 2 ≤ body.length then padded 2 (readU16Le body 0) else some none
  | 100 =>
    if 2 ≤ body.length then
      match mul headerData.toNat (byteAt body 1) with
      | none => some none
      | some keysyms => counted 2 keysyms
    else some none
  | 102 => if 4 ≤ body.length then counted 2 (countOnes (readU32Le body 0)) else some none
  | 109 => if 4 ≤ body.length then padded 2 (readU16Le body 2) else some none
  | 114 => if 6 ≤ body.length then counted 3 (readU16Le body 4) else some none
  | 116 => padded 1 headerData.toNat
  | 118 => (mul 2 headerData.toNat).bind (counted 1)
  | 59 => some (wholeItems body 8 8)
  | 89 => some (wholeItems body 4 12)
  | 88 => some (wholeItems body 8 4)
  | 64 | 65 => some (wholeItems body 8 4)
  | 66 | 67 | 70 => some (wholeItems body 8 8)
  | 68 | 71 => some (wholeItems body 8 12)
  | 76 => if 12 ≤ body.length then imageText body headerData.toNat else some none
  | 77 =>
    if 12 ≤ body.length then (mul 2 headerData.toNat).bind (imageText body) else some none
  | _ => some none

def validateExactRequestLength (opcode headerData : UInt8) (lengthUnits : Nat)
    (body : List UInt8) : Option Bool := do
  match ← exactRequiredLength opcode headerData body with
  | none => return true
  | some required =>
    if lengthUnits * 4 = body.length + 8 then
      let adjusted ← add required 1
      return lengthUnits == adjusted
    else return lengthUnits == required

end Checked

end X12

import X12.Protocol.Wire

/-! # Request lengths

The length contracts of the core and the XInput requests, and the gates that
compare them with the length of a request's header. Lengths are counted in
four-byte units and include the header; the length word that BIG-REQUESTS
inserts is part of `lengthUnits` but not of the body. -/

namespace X12

/-- Length contract for a single opcode. -/
inductive LenSpec where
  | fixed (units : Nat)
  | atLeast (units : Nat)
  deriving DecidableEq, Repr

def LenSpec.Met : LenSpec → Nat → Bool
  | .fixed n, units => units == n
  | .atLeast n, units => decide (n ≤ units)

def coreRequestLength : UInt8 → Option LenSpec
  | 1 => some (.atLeast 8)
  | 2 => some (.atLeast 3)
  | 3 => some (.fixed 2)
  | 4 => some (.fixed 2)
  | 5 => some (.fixed 2)
  | 6 => some (.fixed 2)
  | 7 => some (.fixed 4)
  | 8 => some (.fixed 2)
  | 9 => some (.fixed 2)
  | 10 => some (.fixed 2)
  | 11 => some (.fixed 2)
  | 12 => some (.atLeast 3)
  | 13 => some (.fixed 2)
  | 14 => some (.fixed 2)
  | 15 => some (.fixed 2)
  | 16 => some (.atLeast 2)
  | 17 => some (.fixed 2)
  | 18 => some (.atLeast 6)
  | 19 => some (.fixed 3)
  | 20 => some (.fixed 6)
  | 21 => some (.fixed 2)
  | 22 => some (.fixed 4)
  | 23 => some (.fixed 2)
  | 24 => some (.fixed 6)
  | 25 => some (.fixed 11)
  | 26 => some (.fixed 6)
  | 27 => some (.fixed 2)
  | 28 => some (.fixed 6)
  | 29 => some (.fixed 3)
  | 30 => some (.fixed 4)
  | 31 => some (.fixed 4)
  | 32 => some (.fixed 2)
  | 33 => some (.fixed 4)
  | 34 => some (.fixed 3)
  | 35 => some (.fixed 2)
  | 36 => some (.fixed 1)
  | 37 => some (.fixed 1)
  | 38 => some (.fixed 2)
  | 39 => some (.fixed 4)
  | 40 => some (.fixed 4)
  | 41 => some (.fixed 6)
  | 42 => some (.fixed 3)
  | 43 => some (.fixed 1)
  | 44 => some (.fixed 1)
  | 45 => some (.atLeast 3)
  | 46 => some (.fixed 2)
  | 47 => some (.fixed 2)
  | 48 => some (.atLeast 2)
  | 49 => some (.atLeast 2)
  | 50 => some (.atLeast 2)
  | 51 => some (.atLeast 2)
  | 52 => some (.fixed 1)
  | 53 => some (.fixed 4)
  | 54 => some (.fixed 2)
  | 55 => some (.atLeast 4)
  | 56 => some (.atLeast 3)
  | 57 => some (.fixed 4)
  | 58 => some (.atLeast 3)
  | 59 => some (.atLeast 3)
  | 60 => some (.fixed 2)
  | 61 => some (.fixed 4)
  | 62 => some (.fixed 7)
  | 63 => some (.fixed 8)
  | 64 => some (.atLeast 3)
  | 65 => some (.atLeast 3)
  | 66 => some (.atLeast 3)
  | 67 => some (.atLeast 3)
  | 68 => some (.atLeast 3)
  | 69 => some (.atLeast 4)
  | 70 => some (.atLeast 3)
  | 71 => some (.atLeast 3)
  | 72 => some (.atLeast 6)
  | 73 => some (.fixed 5)
  | 74 => some (.atLeast 4)
  | 75 => some (.atLeast 4)
  | 76 => some (.atLeast 4)
  | 77 => some (.atLeast 4)
  | 78 => some (.fixed 4)
  | 79 => some (.fixed 2)
  | 80 => some (.fixed 3)
  | 81 => some (.fixed 2)
  | 82 => some (.fixed 2)
  | 83 => some (.fixed 2)
  | 84 => some (.fixed 4)
  | 85 => some (.atLeast 3)
  | 86 => some (.fixed 3)
  | 87 => some (.fixed 4)
  | 88 => some (.atLeast 3)
  | 89 => some (.atLeast 1)
  | 90 => some (.atLeast 4)
  | 91 => some (.atLeast 2)
  | 92 => some (.atLeast 3)
  | 93 => some (.fixed 8)
  | 94 => some (.fixed 8)
  | 95 => some (.fixed 2)
  | 96 => some (.fixed 5)
  | 97 => some (.fixed 3)
  | 98 => some (.atLeast 2)
  | 99 => some (.fixed 1)
  | 100 => some (.atLeast 2)
  | 101 => some (.fixed 2)
  | 102 => some (.atLeast 2)
  | 103 => some (.fixed 1)
  | 104 => some (.fixed 1)
  | 105 => some (.fixed 3)
  | 106 => some (.fixed 1)
  | 107 => some (.fixed 3)
  | 108 => some (.fixed 1)
  | 109 => some (.atLeast 2)
  | 110 => some (.fixed 1)
  | 111 => some (.fixed 1)
  | 112 => some (.fixed 1)
  | 113 => some (.fixed 2)
  | 114 => some (.atLeast 3)
  | 115 => some (.fixed 1)
  | 116 => some (.atLeast 1)
  | 117 => some (.fixed 1)
  | 118 => some (.atLeast 1)
  | 119 => some (.fixed 1)
  | 127 => some (.atLeast 1)
  | _ => none

def validateCoreRequestLength (opcode : UInt8) (lengthUnits : Nat) : Bool :=
  match coreRequestLength opcode with
  | some spec => spec.Met lengthUnits
  | none => true

def xiRequestLength : UInt8 → Option LenSpec
  | 1 => some (.atLeast 2)
  | 2 => some (.fixed 1)
  | 3 => some (.fixed 2)
  | 4 => some (.fixed 2)
  | 5 => some (.fixed 2)
  | 6 => some (.atLeast 3)
  | 7 => some (.fixed 2)
  | 8 => some (.atLeast 3)
  | 9 => some (.fixed 2)
  | 10 => some (.fixed 4)
  | 11 => some (.fixed 2)
  | 12 => some (.fixed 2)
  | 13 => some (.atLeast 5)
  | 14 => some (.fixed 3)
  | 15 => some (.atLeast 5)
  | 16 => some (.fixed 4)
  | 17 => some (.atLeast 5)
  | 18 => some (.fixed 4)
  | 19 => some (.fixed 3)
  | 20 => some (.fixed 2)
  | 21 => some (.fixed 4)
  | 22 => some (.fixed 2)
  | 23 => some (.atLeast 3)
  | 24 => some (.fixed 2)
  | 25 => some (.atLeast 2)
  | 26 => some (.fixed 2)
  | 27 => some (.atLeast 2)
  | 28 => some (.fixed 2)
  | 29 => some (.atLeast 2)
  | 30 => some (.fixed 2)
  | 31 => some (.atLeast 4)
  | 32 => some (.fixed 2)
  | 33 => some (.atLeast 2)
  | 34 => some (.fixed 2)
  | 35 => some (.atLeast 3)
  | 36 => some (.fixed 2)
  | 37 => some (.atLeast 5)
  | 38 => some (.fixed 3)
  | 39 => some (.fixed 6)
  | 40 => some (.fixed 3)
  | 41 => some (.fixed 9)
  | 42 => some (.fixed 4)
  | 43 => some (.atLeast 2)
  | 44 => some (.fixed 3)
  | 45 => some (.fixed 2)
  | 46 => some (.atLeast 3)
  | 47 => some (.fixed 2)
  | 48 => some (.fixed 2)
  | 49 => some (.atLeast 4)
  | 50 => some (.atLeast 2)
  | 51 => some (.atLeast 6)
  | 52 => some (.fixed 3)
  | 53 => some (.atLeast 3)
  | 54 => some (.atLeast 8)
  | 55 => some (.atLeast 5)
  | 56 => some (.fixed 2)
  | 57 => some (.atLeast 5)
  | 58 => some (.fixed 3)
  | 59 => some (.fixed 6)
  | 60 => some (.fixed 2)
  | 61 => some (.atLeast 2)
  | _ => none

def validateXiRequestLength (minor : UInt8) (lengthUnits : Nat) : Bool :=
  match xiRequestLength minor with
  | some spec => spec.Met lengthUnits
  | none => true

/-- Bytes rounded up to four-byte units. -/
def padUnits (bytes : Nat) : Nat :=
  (bytes + 3) / 4

def xiExactRequiredLength (minor : UInt8) (body : List UInt8) : Option Nat :=
  match minor with
  | 1 => if 2 ≤ body.length then some (2 + padUnits (readU16Le body 0)) else none
  | 6 => if 6 ≤ body.length then some (3 + readU16Le body 4) else none
  | 8 => if 6 ≤ body.length then some (3 + readU16Le body 4) else none
  | 13 => if 10 ≤ body.length then some (5 + readU16Le body 8) else none
  | 15 => if 6 ≤ body.length then some (5 + readU16Le body 4) else none
  | 17 => if 8 ≤ body.length then some (5 + readU16Le body 6) else none
  | 25 => if 4 ≤ body.length then some (2 + byteAt body 2 * byteAt body 3) else none
  | 27 => if 2 ≤ body.length then some (2 + 2 * byteAt body 1) else none
  | 29 => if 2 ≤ body.length then some (2 + padUnits (byteAt body 1)) else none
  | 31 => if 9 ≤ body.length then some (4 + 8 * byteAt body 8 + readU16Le body 6) else none
  | 33 => if 3 ≤ body.length then some (2 + byteAt body 2) else none
  | 35 => if 8 ≤ body.length then some (2 + padUnits (readU16Le body 6)) else none
  | _ => none

def validateXiExactRequestLength (minor : UInt8) (lengthUnits : Nat) (body : List UInt8) : Bool :=
  match xiExactRequiredLength minor body with
  | some required => lengthUnits == required
  | none => true

/-- `u32::MAX`, returned for a body whose shape no length can make valid. -/
def u32Max : Nat := 4294967295

/-- The body is a fixed part followed by whole items; nothing more is asked
of its length. -/
def wholeItems (body : List UInt8) (fixed item : Nat) : Option Nat :=
  if fixed ≤ body.length ∧ (body.length - fixed) % item = 0 then none else some u32Max

/-- The body of an ImageText request holds exactly the string. -/
def imageText (body : List UInt8) (bytes : Nat) : Option Nat :=
  if body.length / 4 = 4 + padUnits bytes - 1 then none else some u32Max

/-- The length a request must have for the content of its body, where that is
known. -/
def exactRequiredLength (opcode headerData : UInt8) (body : List UInt8) : Option Nat :=
  match opcode with
  | 1 => if 28 ≤ body.length then some (8 + countOnes (readU32Le body 24)) else none
  | 2 => if 8 ≤ body.length then some (3 + countOnes (readU32Le body 4)) else none
  | 12 => if 6 ≤ body.length then some (3 + countOnes (readU16Le body 4)) else none
  | 16 => if 2 ≤ body.length then some (2 + padUnits (readU16Le body 0)) else none
  | 18 =>
    if 20 ≤ body.length then
      let format := byteAt body 12
      if format ≠ 8 ∧ format ≠ 16 ∧ format ≠ 32 then none
      else
        let bytes := readU32Le body 16 * (format / 8)
        if u32Max < bytes then none else some (6 + padUnits bytes)
    else none
  | 45 => if 6 ≤ body.length then some (3 + padUnits (readU16Le body 4)) else none
  | 49 | 50 => if 4 ≤ body.length then some (2 + padUnits (readU16Le body 2)) else none
  | 55 => if 12 ≤ body.length then some (4 + countOnes (readU32Le body 8)) else none
  | 56 => if 8 ≤ body.length then some (3 + countOnes (readU32Le body 4)) else none
  | 58 => if 8 ≤ body.length then some (3 + padUnits (readU16Le body 6)) else none
  | 85 | 92 => if 6 ≤ body.length then some (3 + padUnits (readU16Le body 4)) else none
  | 90 => if 10 ≤ body.length then some (4 + padUnits (readU16Le body 8)) else none
  | 98 => if 2 ≤ body.length then some (2 + padUnits (readU16Le body 0)) else none
  | 100 => if 2 ≤ body.length then some (2 + headerData.toNat * byteAt body 1) else none
  | 102 => if 4 ≤ body.length then some (2 + countOnes (readU32Le body 0)) else none
  | 109 => if 4 ≤ body.length then some (2 + padUnits (readU16Le body 2)) else none
  | 114 => if 6 ≤ body.length then some (3 + readU16Le body 4) else none
  | 116 => some (1 + padUnits headerData.toNat)
  | 118 => some (1 + 2 * headerData.toNat)
  | 59 => wholeItems body 8 8
  | 89 => wholeItems body 4 12
  | 88 => wholeItems body 8 4
  | 64 | 65 => wholeItems body 8 4
  | 66 | 67 | 70 => wholeItems body 8 8
  | 68 | 71 => wholeItems body 8 12
  | 76 => if 12 ≤ body.length then imageText body headerData.toNat else none
  | 77 => if 12 ≤ body.length then imageText body (2 * headerData.toNat) else none
  | _ => none

/-- `a + b` in 32 bits. Past the end it wraps around, or stops the program
where the build checks for overflow. -/
def addU32 (overflowChecks : Bool) (a b : Nat) : Option Nat :=
  if a + b ≤ u32Max then some (a + b)
  else if overflowChecks then none
  else some ((a + b) % 2 ^ 32)

/-- The exact gate. A frame that is eight bytes longer than its body spent a
unit on the extended length, and so does the length it is compared with. -/
def validateExactRequestLength (overflowChecks : Bool) (opcode headerData : UInt8)
    (lengthUnits : Nat) (body : List UInt8) : Option Bool :=
  match exactRequiredLength opcode headerData body with
  | none => some true
  | some required =>
    if lengthUnits * 4 = body.length + 8 then
      (addU32 overflowChecks required 1).map fun adjusted => lengthUnits == adjusted
    else
      some (lengthUnits == required)

def XI2_MAJOR_OPCODE : UInt8 := 137

/-- The length gates every request passes before it is dispatched, in order;
`some false` is a BadLength error and `none` a panic. -/
def coreLengthGates (overflowChecks : Bool) (opcode headerData : UInt8)
    (lengthUnits : Nat) (body : List UInt8) : Option Bool :=
  if validateCoreRequestLength opcode lengthUnits then
    validateExactRequestLength overflowChecks opcode headerData lengthUnits body
  else some false

/-- The length gates at the top of the XInput handler. -/
def xiLengthGates (minor : UInt8) (lengthUnits : Nat) (body : List UInt8) : Bool :=
  validateXiRequestLength minor lengthUnits &&
    validateXiExactRequestLength minor lengthUnits body

/-- All the length gates on the way to a request's handler. -/
def lengthGates (overflowChecks : Bool) (opcode headerData : UInt8)
    (lengthUnits : Nat) (body : List UInt8) : Option Bool :=
  match coreLengthGates overflowChecks opcode headerData lengthUnits body with
  | some true =>
    if opcode = XI2_MAJOR_OPCODE then some (xiLengthGates headerData lengthUnits body)
    else some true
  | verdict => verdict

end X12

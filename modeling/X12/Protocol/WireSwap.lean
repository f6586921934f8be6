import X12.Lib.Layout
import X12.Protocol.Wire

/-! # Byte swapping in place

A table of field entries says where the typed fields of an event template or
of a request body lie; walking it reverses the bytes of each field. -/

namespace X12

abbrev ClientByteOrder := Layout.ByteOrder

/-- Width of one typed field. -/
inductive FieldKind where
  | U16 | I16 | U32 | I32
  deriving DecidableEq, Repr

def FieldKind.size : FieldKind → Nat
  | .U16 | .I16 => 2
  | .U32 | .I32 => 4

/-- One entry in a per-opcode field table. -/
inductive FieldEntry where
  | fixed (offset : Nat) (kind : FieldKind)
  | opaqueTail (start : Nat)
  | elementArrayTail (start : Nat) (kind : FieldKind)
  | lengthPrefixedBytes (lengthOffset : Nat) (lengthKind : FieldKind) (dataOffset : Nat)
  | custom (swap : ClientByteOrder → List UInt8 → List UInt8)

def swapTyped (buf : List UInt8) (offset : Nat) (kind : FieldKind) : List UInt8 :=
  Layout.reverseSlice buf offset kind.size

/-- Swap one element after the other from `offset` until fewer bytes than an
element are left; `fuel` bounds the number of elements. -/
def swapElements (kind : FieldKind) : Nat → Nat → List UInt8 → List UInt8
  | 0, _, buf => buf
  | fuel + 1, offset, buf =>
    if offset + kind.size ≤ buf.length then
      swapElements kind fuel (offset + kind.size) (swapTyped buf offset kind)
    else buf

def applyEntry (byteOrder : ClientByteOrder) (buf : List UInt8) : FieldEntry → List UInt8
  | .fixed offset kind => swapTyped buf offset kind
  | .opaqueTail _ => buf
  | .elementArrayTail start kind => swapElements kind buf.length start buf
  | .lengthPrefixedBytes lengthOffset lengthKind _ => swapTyped buf lengthOffset lengthKind
  | .custom swap => swap byteOrder buf

def swapInPlace (entries : List FieldEntry) (byteOrder : ClientByteOrder) (buf : List UInt8) :
    List UInt8 :=
  match byteOrder with
  | .littleEndian => buf
  | .bigEndian => entries.foldl (applyEntry byteOrder) buf

end X12

import X12.Protocol.WireSwap
import X12.Protocol.RequestLengths

/-! # Request swap tables

Per-opcode tables of the typed fields of a request body, applied to bodies
that arrive from big-endian clients so that the dispatch code can read every
body as little-endian. Offsets do not count the four-byte request header. -/

namespace X12

private def u32f (offset : Nat) : FieldEntry := .fixed offset .U32
private def u16f (offset : Nat) : FieldEntry := .fixed offset .U16
private def i16f (offset : Nat) : FieldEntry := .fixed offset .I16

def coreRequestSwapTable : UInt8 → Option (List FieldEntry)
  | 1 =>
    some [u32f 0, u32f 4, i16f 8, i16f 10, u16f 12, u16f 14, u16f 16, u16f 18, u32f 20, u32f 24,
      .elementArrayTail 28 .U32]
  | 2 => some [u32f 0, u32f 4, .elementArrayTail 8 .U32]
  | 3 | 4 | 5 | 6 | 8 | 9 | 10 | 11 | 13 | 14 | 15 | 21 | 23 | 38 | 79 | 81 | 82 | 83 | 95 |
    113 =>
    some [u32f 0]
  | 7 => some [u32f 0, u32f 4, i16f 8, i16f 10]
  | 12 => some [u32f 0, u16f 4, .elementArrayTail 8 .U32]
  | 16 => some [u16f 0, .opaqueTail 4]
  | 17 => some [u32f 0]
  | 18 => some [u32f 0, u32f 4, u32f 8, u32f 16, .opaqueTail 20]
  | 19 => some [u32f 0, u32f 4]
  | 20 => some [u32f 0, u32f 4, u32f 8, u32f 12, u32f 16]
  | 22 => some [u32f 0, u32f 4, u32f 8]
  | 24 => some [u32f 0, u32f 4, u32f 8, u32f 12, u32f 16]
  | 25 => some [u32f 0, u32f 4, .opaqueTail 8]
  | 26 => some [u32f 0, u16f 4, u32f 8, u32f 12, u32f 16]
  | 27 => some [u32f 0]
  | 28 => some [u32f 0, u16f 4, u32f 8, u32f 12, u16f 20]
  | 29 => some [u32f 0, u16f 4]
  | 30 => some [u32f 0, u32f 4, u16f 8]
  | 31 => some [u32f 0, u32f 4]
  | 32 => some [u32f 0]
  | 33 => some [u32f 0, u16f 4]
  | 34 => some [u32f 0, u16f 4]
  | 35 => some [u32f 0]
  | 39 => some [u32f 0, u32f 4, u32f 8]
  | 40 => some [u32f 0, u32f 4, i16f 8, i16f 10]
  | 41 => some [u32f 0, u32f 4, i16f 8, i16f 10, u16f 12, u16f 14, i16f 16, i16f 18]
  | 42 => some [u32f 0, u32f 4]
  | 45 => some [u32f 0, u16f 4, .opaqueTail 8]
  | 46 | 47 => some [u32f 0]
  | 48 => some [u32f 0, .elementArrayTail 4 .U16]
  | 49 | 50 => some [u16f 0, u16f 2, .opaqueTail 4]
  | 51 => some [u16f 0, .opaqueTail 4]
  | 53 => some [u32f 0, u32f 4, u16f 8, u16f 10]
  | 54 => some [u32f 0]
  | 55 => some [u32f 0, u32f 4, u32f 8, .elementArrayTail 12 .U32]
  | 56 => some [u32f 0, u32f 4, .elementArrayTail 8 .U32]
  | 57 => some [u32f 0, u32f 4, u32f 8]
  | 58 => some [u32f 0, u16f 4, u16f 6, .opaqueTail 8]
  | 59 => some [u32f 0, i16f 4, i16f 6, .elementArrayTail 8 .U16]
  | 60 => some [u32f 0]
  | 61 => some [u32f 0, i16f 4, i16f 6, u16f 8, u16f 10]
  | 62 => some [u32f 0, u32f 4, u32f 8, i16f 12, i16f 14, i16f 16, i16f 18, u16f 20, u16f 22]
  | 63 =>
    some [u32f 0, u32f 4, u32f 8, i16f 12, i16f 14, i16f 16, i16f 18, u16f 20, u16f 22, u32f 24]
  | 64 | 65 | 66 | 67 | 70 => some [u32f 0, u32f 4, .elementArrayTail 8 .U16]
  | 68 | 71 => some [u32f 0, u32f 4, .elementArrayTail 8 .U16]
  | 69 => some [u32f 0, u32f 4, u16f 10, .elementArrayTail 12 .I16]
  | 72 => some [u32f 0, u32f 4, u16f 8, u16f 10, i16f 12, i16f 14, .opaqueTail 16]
  | 73 => some [u32f 0, i16f 4, i16f 6, u16f 8, u16f 10, u32f 12]
  | 74 | 75 | 76 | 77 => some [u32f 0, u32f 4, i16f 8, i16f 10, .opaqueTail 12]
  | 78 => some [u32f 0, u32f 4, u32f 8]
  | 80 => some [u32f 0, u32f 4]
  | 84 => some [u32f 0, u16f 4, u16f 6, u16f 8]
  | 85 => some [u32f 0, u16f 4, .opaqueTail 8]
  | 86 => some [u32f 0, u16f 4, u16f 6]
  | 87 => some [u32f 0, u16f 4, u16f 6, u16f 8, u16f 10]
  | 88 => some [u32f 0, u32f 4, .elementArrayTail 8 .U32]
  | 89 => some [u32f 0, .elementArrayTail 4 .U16]
  | 90 => some [u32f 0, u32f 4, u16f 8, .opaqueTail 12]
  | 91 => some [u32f 0, .elementArrayTail 4 .U32]
  | 92 => some [u32f 0, u16f 4, .opaqueTail 8]
  | 93 =>
    some [u32f 0, u32f 4, u32f 8, u16f 12, u16f 14, u16f 16, u16f 18, u16f 20, u16f 22, u16f 24,
      u16f 26]
  | 94 =>
    some [u32f 0, u32f 4, u32f 8, u16f 12, u16f 14, u16f 16, u16f 18, u16f 20, u16f 22, u16f 24,
      u16f 26]
  | 96 => some [u32f 0, u16f 4, u16f 6, u16f 8, u16f 10, u16f 12, u16f 14]
  | 97 => some [u32f 0, u16f 4, u16f 6]
  | 98 => some [u16f 0, .opaqueTail 4]
  | 100 => some [.elementArrayTail 4 .U32]
  | 101 => some []
  | 102 => some [u32f 0, .elementArrayTail 4 .U32]
  | 105 => some [i16f 0, i16f 2, i16f 4]
  | 107 => some [i16f 0, i16f 2]
  | 109 => some [u16f 2, .opaqueTail 4]
  | 114 => some [u32f 0, u16f 4, i16f 6, .elementArrayTail 8 .U32]
  | _ => none

def xiRequestSwapTable : UInt8 → Option (List FieldEntry)
  | 1 => some [u16f 0, .opaqueTail 4]
  | 2 => some []
  | 3 | 4 => some []
  | 5 => some []
  | 6 => some [u32f 0, u16f 4, .elementArrayTail 8 .U32]
  | 7 => some [u32f 0]
  | 8 => some [u32f 0, u16f 4, .elementArrayTail 8 .U32]
  | 9 => some [u32f 0]
  | 10 => some [u32f 0, u32f 4]
  | 11 | 12 => some []
  | 13 => some [u32f 0, u32f 4, u16f 8, .elementArrayTail 16 .U32]
  | 14 => some [u32f 0]
  | 15 => some [u32f 0, u16f 4, u16f 6, .elementArrayTail 16 .U32]
  | 16 => some [u32f 0, u16f 4]
  | 17 => some [u32f 0, u16f 6, u16f 8, .elementArrayTail 16 .U32]
  | 18 => some [u32f 0, u16f 4]
  | 19 => some [u32f 0]
  | 20 => some []
  | 21 => some [u32f 0, u32f 4]
  | 22 => some []
  | 23 => some [u32f 0, .opaqueTail 8]
  | 24 => some []
  | 25 => some [.elementArrayTail 4 .U32]
  | 26 => some []
  | 27 => some []
  | 28 => some []
  | 29 => some []
  | 30 => some []
  | 31 => some [u32f 0, u16f 6, .opaqueTail 12]
  | 32 => some []
  | 33 => some [.elementArrayTail 4 .U32]
  | 34 => some [u16f 0]
  | 35 => some [u16f 0, .opaqueTail 4]
  | 36 => some []
  | 37 => some [u32f 0, u32f 4, u32f 12, .opaqueTail 16]
  | 38 => some [u32f 0]
  | 39 => some [u32f 0, u32f 4, u32f 8, u32f 12]
  | 40 => some [u32f 0, u16f 4]
  | 41 => some [u32f 0, u32f 4, u32f 8, u32f 12, u16f 16, u16f 18, u32f 20, u32f 24, u16f 28]
  | 42 => some [u32f 0, u32f 4, u16f 8]
  | 43 => some [.opaqueTail 4]
  | 44 => some [u32f 0, u16f 4]
  | 45 => some [u32f 0]
  | 46 => some [u32f 0, u16f 4, .opaqueTail 8]
  | 47 => some [u16f 0, u16f 2]
  | 48 => some [u16f 0]
  | 49 => some [u32f 0, u32f 4, u16f 8]
  | 50 => some [u16f 0]
  | 51 => some [u32f 0, u32f 4, u32f 8, u16f 12, u16f 18]
  | 52 => some [u32f 0, u16f 4]
  | 53 => some [u32f 0, u16f 4, u32f 8, u32f 12]
  | 54 => some [u32f 0, u32f 4, u32f 8, u32f 12, u16f 16, u16f 18, u16f 20, .opaqueTail 28]
  | 55 => some [u32f 0, u32f 4, u16f 8, u16f 10, .elementArrayTail 16 .U32]
  | 56 => some [u16f 0]
  | 57 => some [u16f 0, u32f 4, u32f 8, u32f 12, .opaqueTail 16]
  | 58 => some [u16f 0, u32f 4]
  | 59 => some [u16f 0, u32f 4, u32f 8, u32f 12, u32f 16]
  | 60 => some [u32f 0]
  | 61 => some [u32f 0, .elementArrayTail 4 .U32]
  | _ => none

def extensionRequestSwapTable (major minor : UInt8) : Option (List FieldEntry) :=
  if major = XI2_MAJOR_OPCODE then xiRequestSwapTable minor else none

def swapRequestBody (major minor : UInt8) (byteOrder : ClientByteOrder) (body : List UInt8) :
    List UInt8 :=
  match byteOrder with
  | .littleEndian => body
  | .bigEndian =>
    let entries :=
      if major < 128 then coreRequestSwapTable major else extensionRequestSwapTable major minor
    match entries with
    | some entries => swapInPlace entries byteOrder body
    | none => body

end X12

import X12.Protocol.Replies

/-! # Images

A ZPixmap image has the pixels of a row one after the other, in one, four, eight or 32
bits each, and its rows padded to 32 bits. An XYBitmap image has one bit for each pixel,
after `left_pad` bits in every row. `usize` has 64 bits. -/

namespace X12

def U32_MAX : Nat := 0xFFFFFFFF

def USIZE_MAX : Nat := 0xFFFFFFFFFFFFFFFF

def checkedAddU32 (a b : Nat) : Option Nat :=
  if a + b ≤ U32_MAX then some (a + b) else none

def checkedAdd (a b : Nat) : Option Nat :=
  if a + b ≤ USIZE_MAX then some (a + b) else none

def checkedMul (a b : Nat) : Option Nat :=
  if a * b ≤ USIZE_MAX then some (a * b) else none

def divCeil (a b : Nat) : Nat :=
  if a % b = 0 then a / b else a / b + 1

inductive Panic where
  | OutOfBounds
  | Expect (message : String)
  deriving DecidableEq, Repr

/-- `bytes[i]` -/
def indexByte (bytes : List UInt8) (i : Nat) : Except Panic UInt8 :=
  if i < bytes.length then .ok (bytes.getD i 0) else .error .OutOfBounds

/-- `bytes[i] = f(bytes[i])` -/
def updateByte (bytes : List UInt8) (i : Nat) (f : UInt8 → UInt8) : Except Panic (List UInt8) :=
  if i < bytes.length then .ok (bytes.modify i f) else .error .OutOfBounds

/-- `&bytes[start..stop]` -/
def byteRange (bytes : List UInt8) (start stop : Nat) : Except Panic (List UInt8) :=
  if start ≤ stop ∧ stop ≤ bytes.length then .ok ((bytes.drop start).take (stop - start))
  else .error .OutOfBounds

/-- What `f` does to `&mut bytes[start..stop]`. -/
def updateRange (bytes : List UInt8) (start stop : Nat)
    (f : List UInt8 → Except Panic (List UInt8)) : Except Panic (List UInt8) := do
  let range ← byteRange bytes start stop
  let range ← f range
  return bytes.take start ++ range ++ bytes.drop stop

/-- Bytes per line, padded to 32 bits. -/
def zpixmapRowStride (width : UInt16) (depth : UInt8) : Option Nat :=
  if depth = 24 ∨ depth = 32 then some (width.toNat * 4)
  else if depth = 8 then some ((width.toNat + 3) / 4 * 4)
  else if depth = 4 then some ((width.toNat + 7) / 8 * 4)
  else if depth = 1 then some ((width.toNat + 31) / 32 * 4)
  else none

def zpixmapExpectedLen (width height : UInt16) (depth : UInt8) : Option Nat :=
  (zpixmapRowStride width depth).map (· * height.toNat)

/-! ## XYBitmap -/

def xybitmapExpectedLen (width height : UInt16) (leftPad : UInt8) : Option Nat := do
  let bitsPerRow ← checkedAdd width.toNat leftPad.toNat
  let strideBytes ← checkedMul (divCeil bitsPerRow 32) 4
  checkedMul strideBytes height.toNat

/-- Bit `i` of a row of an XYBitmap image. -/
def xybitmapBit (srcRow : List UInt8) (i : Nat) : Except Panic Bool := do
  let srcByte ← indexByte srcRow (i / 8)
  return (srcByte >>> UInt8.ofNat (i % 8)) &&& 1 ≠ 0

/-- What the loop does for a row. -/
def xybitmapRow (data : List UInt8) (srcRowStride dstRowStride width leftPad : Nat)
    (out : List UInt8) (row : Nat) : Except Panic (List UInt8) := do
  let srcRow ← byteRange data (row * srcRowStride) ((row + 1) * srcRowStride)
  updateRange out (row * dstRowStride) ((row + 1) * dstRowStride) fun dstRow =>
    (List.range width).foldlM (fun dstRow x => do
      if ← xybitmapBit srcRow (leftPad + x) then
        updateByte dstRow (x / 8) fun byte => byte ||| 1 <<< UInt8.ofNat (x % 8)
      else return dstRow) dstRow

def xybitmapToZpixmap (data : List UInt8) (width height : UInt16) (leftPad : UInt8) :
    Except Panic (Option (List UInt8)) := do
  let some bitsPerRow := checkedAdd width.toNat leftPad.toNat | return none
  let some srcRowStride := checkedMul (divCeil bitsPerRow 32) 4 | return none
  let some srcLen := checkedMul srcRowStride height.toNat | return none
  if data.length < srcLen then return none
  let some dstRowStride := zpixmapRowStride width 1 | return none
  let some dstLen := checkedMul dstRowStride height.toNat | return none
  let out ← (List.range height.toNat).foldlM
    (xybitmapRow data srcRowStride dstRowStride width.toNat leftPad.toNat) (List.replicate dstLen 0)
  return some out

def depthPlaneMask (depth : UInt8) : UInt32 :=
  if 32 ≤ depth then 0xFFFFFFFF else (1 <<< depth.toUInt32) - 1

def writeZpixmapPixel (bytes : List UInt8) (width : Nat) (depth : UInt8) (x y : Nat)
    (value : UInt32) : Except Panic (List UInt8) :=
  match zpixmapRowStride (UInt16.ofNat width) depth with
  | none => .error (.Expect "validated target depth")
  | some stride =>
    match depth with
    | 1 =>
      let bit : UInt8 := 1 <<< UInt8.ofNat (x % 8)
      updateByte bytes (y * stride + x / 8) fun byte =>
        if value &&& 1 ≠ 0 then byte ||| bit else byte &&& ~~~bit
    | 4 =>
      let nibble := (value &&& 0x0f).toUInt8
      updateByte bytes (y * stride + x / 2) fun byte =>
        if x % 2 = 0 then byte &&& 0xf0 ||| nibble else byte &&& 0x0f ||| nibble <<< (4 : UInt8)
    | 8 => updateByte bytes (y * stride + x) fun _ => value.toUInt8
    | 24 | 32 =>
      let off := y * stride + x * 4
      updateRange bytes off (off + 4) fun _ => .ok (u32LeBytes value)
    | _ => .ok bytes

/-- What the loop does for a row. -/
def xybitmapTargetRow (data : List UInt8) (srcRowStride width leftPad : Nat) (targetDepth : UInt8)
    (fg bg : UInt32) (out : List UInt8) (row : Nat) : Except Panic (List UInt8) := do
  let srcRow ← byteRange data (row * srcRowStride) ((row + 1) * srcRowStride)
  (List.range width).foldlM (fun out x => do
    let bit ← xybitmapBit srcRow (leftPad + x)
    writeZpixmapPixel out width targetDepth x row (if bit then fg else bg)) out

def xybitmapToTargetZpixmap (data : List UInt8) (width height : UInt16)
    (leftPad targetDepth : UInt8) (fg bg : UInt32) : Except Panic (Option (List UInt8)) := do
  let some bitsPerRow := checkedAdd width.toNat leftPad.toNat | return none
  let some srcRowStride := checkedMul (divCeil bitsPerRow 32) 4 | return none
  let some srcLen := checkedMul srcRowStride height.toNat | return none
  if data.length < srcLen then return none
  let some dstRowStride := zpixmapRowStride width targetDepth | return none
  let some dstLen := checkedMul dstRowStride height.toNat | return none
  let fg := fg &&& depthPlaneMask targetDepth
  let bg := bg &&& depthPlaneMask targetDepth
  let out ← (List.range height.toNat).foldlM
    (xybitmapTargetRow data srcRowStride width.toNat leftPad.toNat targetDepth fg bg)
    (List.replicate dstLen 0)
  return some out

/-! ## MIT-SHM regions -/

/-- Bytes of the segment itself, or a copy. -/
inductive Cow where
  | Borrowed (bytes : List UInt8)
  | Owned (bytes : List UInt8)
  deriving DecidableEq, Repr

def Cow.bytes : Cow → List UInt8
  | .Borrowed bytes | .Owned bytes => bytes

/-- Per-row leading-byte offset within the source row. -/
def shmSrcXBytes (srcX : Nat) (depth : UInt8) : Option Nat :=
  match depth with
  | 1 => if srcX % 8 ≠ 0 then none else some (srcX / 8)
  | 4 => if srcX % 2 ≠ 0 then none else some (srcX / 2)
  | 8 => some srcX
  | 24 | 32 => checkedMul srcX 4
  | _ => none

/-- Bytes per row without the padding. -/
def shmRowBytes (srcWidth : UInt16) (depth : UInt8) : Option Nat :=
  match depth with
  | 24 | 32 => checkedMul srcWidth.toNat 4
  | 8 => some srcWidth.toNat
  | 4 => some (divCeil srcWidth.toNat 2)
  | 1 => some (divCeil srcWidth.toNat 8)
  | _ => none

/-- What the slow path does for a row. -/
def extractShmRow (bytes : List UInt8) (base totalStride srcStride srcXBytes rowBytes srcY : Nat)
    (out : List UInt8) (r : Nat) : Option (List UInt8) := do
  let rowY ← checkedAdd srcY r
  let rowOffset ← checkedMul rowY totalStride
  let lineStart ← checkedAdd base rowOffset
  let rowStart ← checkedAdd lineStart srcXBytes
  let rowEnd ← checkedAdd rowStart rowBytes
  if bytes.length < rowEnd then none
  else
    return out ++ (bytes.drop rowStart).take (rowEnd - rowStart) ++
      List.replicate (srcStride - rowBytes) 0

/-- The slow path. -/
def extractShmRows (bytes : List UInt8) (base totalStride srcStride srcXBytes rowBytes srcY : Nat)
    (srcHeight : UInt16) : Option (List UInt8) :=
  (List.range srcHeight.toNat).foldlM
    (extractShmRow bytes base totalStride srcStride srcXBytes rowBytes srcY) []

/-- The whole image is wanted, and its rows are not padded. -/
def shmFullFrame (totalWidth totalHeight : UInt16) (srcX srcY : Nat) (srcWidth srcHeight : UInt16)
    (srcStride rowBytes : Nat) : Bool :=
  srcX = 0 ∧ srcY = 0 ∧ srcWidth = totalWidth ∧ srcHeight = totalHeight ∧ rowBytes = srcStride

def extractShmZpixmapRegion (bytes : List UInt8) (offset : UInt32) (totalWidth totalHeight : UInt16)
    (srcX srcY : Int16) (srcWidth srcHeight : UInt16) (depth : UInt8) : Option Cow := do
  if srcX < 0 ∨ srcY < 0 then none
  else
    let srcX := srcX.toInt.toNat
    let srcY := srcY.toInt.toNat
    let srcXEnd ← checkedAddU32 srcX srcWidth.toNat
    let srcYEnd ← checkedAddU32 srcY srcHeight.toNat
    if totalWidth.toNat < srcXEnd ∨ totalHeight.toNat < srcYEnd then none
    else
      let totalStride ← zpixmapRowStride totalWidth depth
      let srcStride ← zpixmapRowStride srcWidth depth
      let srcXBytes ← shmSrcXBytes srcX depth
      let base := offset.toNat
      let rowBytes ← shmRowBytes srcWidth depth
      if srcStride < rowBytes then none
      else if shmFullFrame totalWidth totalHeight srcX srcY srcWidth srcHeight srcStride rowBytes then
        let totalBytes ← checkedMul srcStride srcHeight.toNat
        let stop ← checkedAdd base totalBytes
        if bytes.length < stop then none
        else return .Borrowed ((bytes.drop base).take (stop - base))
      else
        let _capacity ← checkedMul srcStride srcHeight.toNat
        let out ← extractShmRows bytes base totalStride srcStride srcXBytes rowBytes srcY srcHeight
        return .Owned out

end X12

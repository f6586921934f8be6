import X12.Protocol.Wire
import X12.Protocol.WireSwap

/-! # Replies

What is written to a client as the reply to a request. Texts are given by their
bytes. -/

namespace X12

def u16LeBytes (v : UInt16) : List UInt8 :=
  [v.toUInt8, (v >>> 8).toUInt8]

def u32LeBytes (v : UInt32) : List UInt8 :=
  [v.toUInt8, (v >>> 8).toUInt8, (v >>> 16).toUInt8, (v >>> 24).toUInt8]

def writeU16 (byteOrder : ClientByteOrder) (value : UInt16) : List UInt8 :=
  match byteOrder with
  | .littleEndian => u16LeBytes value
  | .bigEndian => (u16LeBytes value).reverse

def writeI16 (byteOrder : ClientByteOrder) (value : Int16) : List UInt8 :=
  writeU16 byteOrder value.toUInt16

def writeU32 (byteOrder : ClientByteOrder) (value : UInt32) : List UInt8 :=
  match byteOrder with
  | .littleEndian => u32LeBytes value
  | .bigEndian => (u32LeBytes value).reverse

section

open Layout

variable (order : ClientByteOrder)

@[simp] theorem bytes_byte (b : UInt8) : (Item.byte b).bytes order = [b] := by
  cases order <;> rfl

@[simp] theorem bytes_half (v : UInt16) : (Item.half v).bytes order = writeU16 order v := by
  cases order <;> rfl

@[simp] theorem bytes_word (v : UInt32) : (Item.word v).bytes order = writeU32 order v := by
  cases order <;> rfl

@[simp] theorem bytes_pad (n : Nat) : (Item.pad n).bytes order = List.replicate n 0 := by
  cases order <;> simp [Item.bytes, Item.encode, Item.littleBytes]

end

/-- The zeros that follow a list of the given length. -/
def pad4 (length : Nat) : List UInt8 :=
  List.replicate ((4 - length % 4) % 4) 0

def padVec4 (out : List UInt8) : List UInt8 :=
  out ++ pad4 out.length

/-- The eight bytes at the start of every reply. -/
def fixedReply (byteOrder : ClientByteOrder) (sequence : UInt16) (data : UInt8)
    (length : UInt32) : List UInt8 :=
  [1, data] ++ writeU16 byteOrder sequence ++ writeU32 byteOrder length

/-- The length of aligned bytes in units of four, if sixteen bits hold it. -/
def checkedUnits (length : Nat) : Option UInt32 :=
  if length % 4 = 0 ∧ length / 4 < 2 ^ 16 then some (UInt32.ofNat (length / 4)) else none

/-! ## Windows and atoms -/

structure WindowAttributes where
  visual : UInt32
  windowClass : UInt16
  bitGravity : UInt8
  winGravity : UInt8
  backingStore : UInt8
  backingPlanes : UInt32
  backingPixel : UInt32
  saveUnder : Bool
  mapIsInstalled : Bool
  mapState : UInt8
  overrideRedirect : Bool
  colormap : UInt32
  allEventMasks : UInt32
  yourEventMask : UInt32
  doNotPropagateMask : UInt16
  deriving DecidableEq, Repr

def writeGetWindowAttributesReply (byteOrder : ClientByteOrder) (sequence : UInt16)
    (attributes : WindowAttributes) : List UInt8 :=
  fixedReply byteOrder sequence attributes.backingStore 3 ++
    writeU32 byteOrder attributes.visual ++
    writeU16 byteOrder attributes.windowClass ++
    [attributes.bitGravity, attributes.winGravity] ++
    writeU32 byteOrder attributes.backingPlanes ++
    writeU32 byteOrder attributes.backingPixel ++
    [attributes.saveUnder.toUInt8, attributes.mapIsInstalled.toUInt8, attributes.mapState,
      attributes.overrideRedirect.toUInt8] ++
    writeU32 byteOrder attributes.colormap ++
    writeU32 byteOrder attributes.allEventMasks ++
    writeU32 byteOrder attributes.yourEventMask ++
    writeU16 byteOrder attributes.doNotPropagateMask ++
    writeU16 byteOrder 0

structure Geometry where
  root : UInt32
  x : Int16
  y : Int16
  width : UInt16
  height : UInt16
  borderWidth : UInt16
  depth : UInt8
  deriving DecidableEq

def writeGetGeometryReply (byteOrder : ClientByteOrder) (sequence : UInt16)
    (geometry : Geometry) : List UInt8 :=
  fixedReply byteOrder sequence geometry.depth 0 ++
    writeU32 byteOrder geometry.root ++
    writeI16 byteOrder geometry.x ++
    writeI16 byteOrder geometry.y ++
    writeU16 byteOrder geometry.width ++
    writeU16 byteOrder geometry.height ++
    writeU16 byteOrder geometry.borderWidth ++
    List.replicate 10 0

def writeQueryTreeReply (byteOrder : ClientByteOrder) (sequence : UInt16) (root parent : UInt32)
    (children : List UInt32) : List UInt8 :=
  fixedReply byteOrder sequence 0 (UInt32.ofNat children.length) ++
    writeU32 byteOrder root ++
    writeU32 byteOrder parent ++
    writeU16 byteOrder (UInt16.ofNat children.length) ++
    List.replicate 14 0 ++
    children.flatMap (writeU32 byteOrder)

def writeInternAtomReply (byteOrder : ClientByteOrder) (sequence : UInt16) (atom : UInt32) :
    List UInt8 :=
  fixedReply byteOrder sequence 0 0 ++ writeU32 byteOrder atom ++ List.replicate 20 0

def writeGetAtomNameReply (byteOrder : ClientByteOrder) (sequence : UInt16) (name : List UInt8) :
    Option (List UInt8) := do
  let extra := padVec4 name
  let units ← checkedUnits extra.length
  return fixedReply byteOrder sequence 0 units ++
    writeU16 byteOrder (UInt16.ofNat name.length) ++
    List.replicate 22 0 ++
    extra

structure GetPropertyReply where
  format : UInt8
  type : UInt32
  bytesAfter : UInt32
  /-- In units of the format. -/
  valueLen : UInt32
  value : List UInt8
  deriving DecidableEq, Repr

/-- `none` is a reply that is too large. -/
def writeGetPropertyReply (byteOrder : ClientByteOrder) (sequence : UInt16)
    (reply : GetPropertyReply) : Option (List UInt8) :=
  let padded := padVec4 reply.value
  if padded.length / 4 < 2 ^ 32 then
    some (fixedReply byteOrder sequence reply.format (UInt32.ofNat (padded.length / 4)) ++
      writeU32 byteOrder reply.type ++ writeU32 byteOrder reply.bytesAfter ++
      writeU32 byteOrder reply.valueLen ++ List.replicate 12 0 ++ padded)
  else none

/-- The atoms are written with `to_le_bytes`, whatever the byte order. -/
def writeListPropertiesReply (byteOrder : ClientByteOrder) (sequence : UInt16)
    (atoms : List UInt32) : List UInt8 :=
  let n := if atoms.length < 2 ^ 16 then atoms.length else 2 ^ 16 - 1
  fixedReply byteOrder sequence 0 (UInt32.ofNat n) ++
    writeU16 byteOrder (UInt16.ofNat n) ++
    List.replicate 22 0 ++
    (atoms.take n).flatMap u32LeBytes

/-! ## Selections, the pointer and the focus -/

def writeGetSelectionOwnerReply (byteOrder : ClientByteOrder) (sequence : UInt16)
    (owner : UInt32) : List UInt8 :=
  fixedReply byteOrder sequence 0 0 ++ writeU32 byteOrder owner ++ List.replicate 20 0

def writeGrabReply (byteOrder : ClientByteOrder) (sequence : UInt16) (status : UInt8) :
    List UInt8 :=
  fixedReply byteOrder sequence status 0 ++ List.replicate 24 0

structure QueryPointerReply where
  root : UInt32
  child : UInt32
  rootX : Int16
  rootY : Int16
  winX : Int16
  winY : Int16
  mask : UInt16
  deriving DecidableEq

def writeQueryPointerReply (byteOrder : ClientByteOrder) (sequence : UInt16)
    (reply : QueryPointerReply) : List UInt8 :=
  fixedReply byteOrder sequence 1 0 ++
    writeU32 byteOrder reply.root ++
    writeU32 byteOrder reply.child ++
    writeI16 byteOrder reply.rootX ++
    writeI16 byteOrder reply.rootY ++
    writeI16 byteOrder reply.winX ++
    writeI16 byteOrder reply.winY ++
    writeU16 byteOrder reply.mask ++
    List.replicate 6 0

def writeTranslateCoordinatesReply (byteOrder : ClientByteOrder) (sequence : UInt16)
    (child : UInt32) (dstX dstY : Int16) : List UInt8 :=
  fixedReply byteOrder sequence 1 0 ++
    writeU32 byteOrder child ++
    writeI16 byteOrder dstX ++
    writeI16 byteOrder dstY ++
    List.replicate 16 0

def writeGetInputFocusReply (byteOrder : ClientByteOrder) (sequence : UInt16) (focus : UInt32)
    (revertTo : UInt8) : List UInt8 :=
  fixedReply byteOrder sequence revertTo 0 ++ writeU32 byteOrder focus ++ List.replicate 20 0

def writeQueryKeymapReply (byteOrder : ClientByteOrder) (sequence : UInt16) : List UInt8 :=
  fixedReply byteOrder sequence 0 2 ++ List.replicate 32 0

/-! ## Colours and images -/

structure Rgb16 where
  red : UInt16
  green : UInt16
  blue : UInt16
  deriving DecidableEq, Repr

def rgb16ToPixel (color : Rgb16) : UInt32 :=
  ((color.red.toUInt32 >>> 8) <<< 16) ||| ((color.green.toUInt32 >>> 8) <<< 8) |||
    (color.blue.toUInt32 >>> 8)

def writeAllocColorReply (byteOrder : ClientByteOrder) (sequence : UInt16) (color : Rgb16) :
    List UInt8 :=
  fixedReply byteOrder sequence 0 0 ++
    writeU16 byteOrder color.red ++
    writeU16 byteOrder color.green ++
    writeU16 byteOrder color.blue ++
    writeU16 byteOrder 0 ++
    writeU32 byteOrder (rgb16ToPixel color) ++
    List.replicate 12 0

def writeLookupColorReply (byteOrder : ClientByteOrder) (sequence : UInt16) (color : Rgb16) :
    List UInt8 :=
  fixedReply byteOrder sequence 0 0 ++
    writeU16 byteOrder color.red ++
    writeU16 byteOrder color.green ++
    writeU16 byteOrder color.blue ++
    writeU16 byteOrder color.red ++
    writeU16 byteOrder color.green ++
    writeU16 byteOrder color.blue ++
    List.replicate 12 0

def writeAllocNamedColorReply (byteOrder : ClientByteOrder) (sequence : UInt16) (color : Rgb16) :
    List UInt8 :=
  fixedReply byteOrder sequence 0 0 ++
    writeU32 byteOrder (rgb16ToPixel color) ++
    writeU16 byteOrder color.red ++
    writeU16 byteOrder color.green ++
    writeU16 byteOrder color.blue ++
    writeU16 byteOrder color.red ++
    writeU16 byteOrder color.green ++
    writeU16 byteOrder color.blue ++
    List.replicate 8 0

/-- What the blank image depends on. -/
structure GetImageRequest where
  format : UInt8
  width : UInt16
  height : UInt16
  planeMask : UInt32
  deriving DecidableEq, Repr

def saturatingMul (a b : UInt32) : UInt32 :=
  if a.toNat * b.toNat < 2 ^ 32 then a * b else 0xFFFFFFFF

/-- The size of the blank image. Sums wrap, as in a release build. -/
def GetImageRequest.dataBytes (request : GetImageRequest) : UInt32 :=
  if request.format = 2 then
    let raw := saturatingMul (saturatingMul request.width.toUInt32 request.height.toUInt32) 4
    (raw + 3) &&& ~~~3
  else
    let planes := UInt32.ofNat (countOnes (request.planeMask &&& 0xFFFFFF).toNat)
    let stride := UInt32.ofNat ((request.width.toNat + 31) / 32) * 4
    saturatingMul (saturatingMul planes stride) request.height.toUInt32

def writeGetImageReply (byteOrder : ClientByteOrder) (sequence : UInt16)
    (request : GetImageRequest) (visualId : UInt32) : List UInt8 :=
  fixedReply byteOrder sequence 24 (request.dataBytes / 4) ++
    writeU32 byteOrder visualId ++
    List.replicate 20 0 ++
    List.replicate request.dataBytes.toNat 0

/-- One colour of a QueryColors reply. -/
def writePixelColor (byteOrder : ClientByteOrder) (pixel : UInt32) : List UInt8 :=
  writeU16 byteOrder (((pixel >>> 16) &&& 0xff).toUInt16 * 257) ++
    writeU16 byteOrder (((pixel >>> 8) &&& 0xff).toUInt16 * 257) ++
    writeU16 byteOrder ((pixel &&& 0xff).toUInt16 * 257) ++
    writeU16 byteOrder 0

def writeQueryColorsReply (byteOrder : ClientByteOrder) (sequence : UInt16)
    (pixels : List UInt32) : List UInt8 :=
  fixedReply byteOrder sequence 0 (UInt32.ofNat (pixels.length * 2)) ++
    writeU16 byteOrder (UInt16.ofNat pixels.length) ++
    List.replicate 22 0 ++
    pixels.flatMap (writePixelColor byteOrder)

/-! ## Extensions -/

def writeQueryExtensionReply (byteOrder : ClientByteOrder) (sequence : UInt16) (present : Bool)
    (majorOpcode firstEvent firstError : UInt8) : List UInt8 :=
  fixedReply byteOrder sequence 0 0 ++
    [present.toUInt8, majorOpcode, firstEvent, firstError] ++
    List.replicate 20 0

/-- Version 1.0, with the bytes of the two halves as constants. -/
def writeGeQueryVersionReply (byteOrder : ClientByteOrder) (sequence : UInt16) : List UInt8 :=
  fixedReply byteOrder sequence 0 0 ++ [1, 0] ++ [0, 0] ++ List.replicate 20 0

def writeBigRequestsEnableReply (byteOrder : ClientByteOrder) (sequence : UInt16)
    (maxRequestLength : UInt32) : List UInt8 :=
  fixedReply byteOrder sequence 0 0 ++ writeU32 byteOrder maxRequestLength ++ List.replicate 20 0

def writeListExtensionsReply (byteOrder : ClientByteOrder) (sequence : UInt16)
    (names : List (List UInt8)) : Option (List UInt8) := do
  let namesRaw := padVec4 (names.flatMap fun name => UInt8.ofNat name.length :: name)
  let units ← checkedUnits namesRaw.length
  return fixedReply byteOrder sequence (UInt8.ofNat names.length) units ++
    List.replicate 24 0 ++
    namesRaw

/-! ## Keyboard and pointer mappings -/

/-- The unshifted and the shifted keysym of a keycode. -/
def keysymsForKeycode : UInt8 → UInt32 × UInt32
  | 9 => (0xff1b, 0xff1b)
  | 10 => (0x31, 0x21)
  | 11 => (0x32, 0x40)
  | 12 => (0x33, 0x23)
  | 13 => (0x34, 0x24)
  | 14 => (0x35, 0x25)
  | 15 => (0x36, 0x5e)
  | 16 => (0x37, 0x26)
  | 17 => (0x38, 0x2a)
  | 18 => (0x39, 0x28)
  | 19 => (0x30, 0x29)
  | 20 => (0x2d, 0x5f)
  | 21 => (0x3d, 0x2b)
  | 22 => (0xff08, 0xff08)
  | 23 => (0xff09, 0xff09)
  | 24 => (0x71, 0x51)
  | 25 => (0x77, 0x57)
  | 26 => (0x65, 0x45)
  | 27 => (0x72, 0x52)
  | 28 => (0x74, 0x54)
  | 29 => (0x79, 0x59)
  | 30 => (0x75, 0x55)
  | 31 => (0x69, 0x49)
  | 32 => (0x6f, 0x4f)
  | 33 => (0x70, 0x50)
  | 34 => (0x5b, 0x7b)
  | 35 => (0x5d, 0x7d)
  | 36 => (0xff0d, 0xff0d)
  | 38 => (0x61, 0x41)
  | 39 => (0x73, 0x53)
  | 40 => (0x64, 0x44)
  | 41 => (0x66, 0x46)
  | 42 => (0x67, 0x47)
  | 43 => (0x68, 0x48)
  | 44 => (0x6a, 0x4a)
  | 45 => (0x6b, 0x4b)
  | 46 => (0x6c, 0x4c)
  | 47 => (0x3b, 0x3a)
  | 48 => (0x27, 0x22)
  | 49 => (0x60, 0x7e)
  | 50 => (0xffe1, 0xffe1)
  | 51 => (0x5c, 0x7c)
  | 52 => (0x7a, 0x5a)
  | 53 => (0x78, 0x58)
  | 54 => (0x63, 0x43)
  | 55 => (0x76, 0x56)
  | 56 => (0x62, 0x42)
  | 57 => (0x6e, 0x4e)
  | 58 => (0x6d, 0x4d)
  | 59 => (0x2c, 0x3c)
  | 60 => (0x2e, 0x3e)
  | 61 => (0x2f, 0x3f)
  | 62 => (0xffe2, 0xffe2)
  | 65 => (0x20, 0x20)
  | 66 => (0xffe5, 0xffe5)
  | 37 => (0xffe3, 0xffe3)
  | 64 => (0xffe9, 0xffe9)
  | 105 => (0xffe4, 0xffe4)
  | 108 => (0xffea, 0xffea)
  | 110 => (0xff50, 0xff50)
  | 113 => (0xff51, 0xff51)
  | 114 => (0xff53, 0xff53)
  | 115 => (0xff57, 0xff57)
  | 111 => (0xff52, 0xff52)
  | 116 => (0xff54, 0xff54)
  | 112 => (0xff55, 0xff55)
  | 117 => (0xff56, 0xff56)
  | 118 => (0xff63, 0xff63)
  | 119 => (0xffff, 0xffff)
  | 133 => (0xffeb, 0xffeb)
  | 134 => (0xffec, 0xffec)
  | _ => (0, 0)

/-- The keysyms of one keycode; the columns after the second are empty. -/
def writeKeycodeKeysyms (byteOrder : ClientByteOrder) (keysymsPerKeycode keycode : UInt8) :
    List UInt8 :=
  writeU32 byteOrder (keysymsForKeycode keycode).1 ++
    (if keysymsPerKeycode > 1 then writeU32 byteOrder (keysymsForKeycode keycode).2 else []) ++
    (List.replicate (keysymsPerKeycode.toNat - 2) 0).flatMap (writeU32 byteOrder)

/-- The length in the header is overwritten with the bytes of `to_le_bytes`. -/
def writeGetKeyboardMappingReply (byteOrder : ClientByteOrder) (sequence : UInt16)
    (firstKeycode keycodeCount keysymsPerKeycode : UInt8) : List UInt8 :=
  let keysymCount := keycodeCount.toUInt32 * keysymsPerKeycode.toUInt32
  let header := fixedReply byteOrder sequence keysymsPerKeycode keysymsPerKeycode.toUInt32
  header.take 4 ++ u32LeBytes keysymCount ++ List.replicate 24 0 ++
    (List.range keycodeCount.toNat).flatMap fun offset =>
      writeKeycodeKeysyms byteOrder keysymsPerKeycode (firstKeycode + UInt8.ofNat offset)

def writeGetKeyboardMappingReplyFromKeysyms (byteOrder : ClientByteOrder) (sequence : UInt16)
    (keysymsPerKeycode : UInt8) (keysyms : List UInt32) : List UInt8 :=
  let lengthWords := if keysyms.length < 2 ^ 32 then UInt32.ofNat keysyms.length else 0
  fixedReply byteOrder sequence keysymsPerKeycode lengthWords ++
    List.replicate 24 0 ++
    keysyms.flatMap (writeU32 byteOrder)

def writeGetPointerMappingReply (byteOrder : ClientByteOrder) (sequence : UInt16) : List UInt8 :=
  fixedReply byteOrder sequence 3 1 ++ List.replicate 24 0 ++ [1, 2, 3, 0]

def writeGetModifierMappingReply (byteOrder : ClientByteOrder) (sequence : UInt16) :
    List UInt8 :=
  fixedReply byteOrder sequence 0 0 ++ List.replicate 24 0

def writeGetModifierMappingReplyWithKeycodes (byteOrder : ClientByteOrder) (sequence : UInt16)
    (keycodesPerModifier : UInt8) (keycodes : List UInt8) : List UInt8 :=
  fixedReply byteOrder sequence keycodesPerModifier (8 * keycodesPerModifier.toUInt32 / 4) ++
    List.replicate 24 0 ++
    keycodes

/-! ## Fonts -/

structure CharInfo where
  leftSideBearing : Int16
  rightSideBearing : Int16
  characterWidth : Int16
  ascent : Int16
  descent : Int16
  attributes : UInt16
  deriving DecidableEq

/-- A property value as read from the font file. -/
inductive FontPropValue where
  | Card (value : UInt32)
  | Int (value : Int32)
  | Str (text : List UInt8)

structure FontMetrics where
  minBounds : CharInfo
  maxBounds : CharInfo
  minCharOrByte2 : UInt16
  maxCharOrByte2 : UInt16
  defaultChar : UInt16
  drawDirection : UInt8
  minByte1 : UInt8
  maxByte1 : UInt8
  allCharsExist : Bool
  fontAscent : Int16
  fontDescent : Int16
  /-- Pairs of an atom and a value, little-endian. -/
  properties : List UInt8
  /-- Straight from the font file. -/
  namedProperties : List (List UInt8 × FontPropValue)
  charInfos : List CharInfo

/-- Always little-endian. -/
def writeFullCharInfo (info : CharInfo) : List UInt8 :=
  writeI16 .littleEndian info.leftSideBearing ++
    writeI16 .littleEndian info.rightSideBearing ++
    writeI16 .littleEndian info.characterWidth ++
    writeI16 .littleEndian info.ascent ++
    writeI16 .littleEndian info.descent ++
    writeU16 .littleEndian info.attributes

/-- `try_from(..).unwrap_or(0)` into 32 bits. -/
def u32OrZero (n : Nat) : UInt32 :=
  if n < 2 ^ 32 then UInt32.ofNat n else 0

def u16OrZero (n : Nat) : UInt16 :=
  if n < 2 ^ 16 then UInt16.ofNat n else 0

/-- The fields from the bounds to the descent, the same in both font replies. -/
def writeFontMetrics (byteOrder : ClientByteOrder) (metrics : FontMetrics) : List UInt8 :=
  writeFullCharInfo metrics.minBounds ++
    List.replicate 4 0 ++
    writeFullCharInfo metrics.maxBounds ++
    List.replicate 4 0 ++
    writeU16 byteOrder metrics.minCharOrByte2 ++
    writeU16 byteOrder metrics.maxCharOrByte2 ++
    writeU16 byteOrder metrics.defaultChar ++
    writeU16 byteOrder (u16OrZero (metrics.properties.length / 8)) ++
    [metrics.drawDirection, metrics.minByte1, metrics.maxByte1, metrics.allCharsExist.toUInt8] ++
    writeI16 byteOrder metrics.fontAscent ++
    writeI16 byteOrder metrics.fontDescent

def writeQueryFontReply (byteOrder : ClientByteOrder) (sequence : UInt16)
    (metrics : FontMetrics) : List UInt8 :=
  let n := metrics.properties.length / 8
  let m := metrics.charInfos.length
  fixedReply byteOrder sequence 0 (7 + 2 * u32OrZero n + 3 * u32OrZero m) ++
    writeFontMetrics byteOrder metrics ++
    writeU32 byteOrder (u32OrZero m) ++
    metrics.properties.take (n * 8) ++
    metrics.charInfos.flatMap writeFullCharInfo

def writeListFontsWithInfoReply (byteOrder : ClientByteOrder) (sequence : UInt16)
    (metrics : FontMetrics) (name : List UInt8) (remaining : UInt32) : List UInt8 :=
  let n := metrics.properties.length / 8
  let pad := pad4 name.length
  fixedReply byteOrder sequence (if name.length < 2 ^ 8 then UInt8.ofNat name.length else 255)
      (u32OrZero ((28 + 8 * n + name.length + pad.length) / 4)) ++
    writeFontMetrics byteOrder metrics ++
    writeU32 byteOrder remaining ++
    metrics.properties.take (n * 8) ++
    name ++
    pad

def writeListFontsWithInfoTerminator (byteOrder : ClientByteOrder) (sequence : UInt16) :
    List UInt8 :=
  fixedReply byteOrder sequence 0 7 ++ List.replicate 52 0

structure TextExtents where
  drawDirection : UInt8
  fontAscent : Int16
  fontDescent : Int16
  overallAscent : Int16
  overallDescent : Int16
  overallWidth : Int32
  overallLeft : Int32
  overallRight : Int32

def writeQueryTextExtentsReply (byteOrder : ClientByteOrder) (sequence : UInt16)
    (extents : TextExtents) : List UInt8 :=
  fixedReply byteOrder sequence extents.drawDirection 0 ++
    writeI16 byteOrder extents.fontAscent ++
    writeI16 byteOrder extents.fontDescent ++
    writeI16 byteOrder extents.overallAscent ++
    writeI16 byteOrder extents.overallDescent ++
    writeU32 byteOrder extents.overallWidth.toUInt32 ++
    writeU32 byteOrder extents.overallLeft.toUInt32 ++
    writeU32 byteOrder extents.overallRight.toUInt32 ++
    List.replicate 4 0

/-! ## Others -/

def writeListHostsReply (byteOrder : ClientByteOrder) (sequence : UInt16) : List UInt8 :=
  fixedReply byteOrder sequence 0 0 ++ writeU16 byteOrder 0 ++ List.replicate 22 0

def writeQueryBestSizeReply (byteOrder : ClientByteOrder) (sequence width height : UInt16) :
    List UInt8 :=
  fixedReply byteOrder sequence 0 0 ++
    writeU16 byteOrder width ++
    writeU16 byteOrder height ++
    List.replicate 20 0

/-! ## Every reply -/

/-- A reply of one of the writers. -/
inductive CoreReply where
  | getWindowAttributes (attributes : WindowAttributes)
  | getGeometry (geometry : Geometry)
  | queryTree (root parent : UInt32) (children : List UInt32)
  | internAtom (atom : UInt32)
  | getAtomName (name : List UInt8)
  | getProperty (reply : GetPropertyReply)
  | listProperties (atoms : List UInt32)
  | getSelectionOwner (owner : UInt32)
  | grab (status : UInt8)
  | queryPointer (reply : QueryPointerReply)
  | translateCoordinates (child : UInt32) (dstX dstY : Int16)
  | getInputFocus (focus : UInt32) (revertTo : UInt8)
  | queryKeymap
  | allocColor (color : Rgb16)
  | lookupColor (color : Rgb16)
  | allocNamedColor (color : Rgb16)
  | getImage (request : GetImageRequest) (visualId : UInt32)
  | queryColors (pixels : List UInt32)
  | queryExtension (present : Bool) (majorOpcode firstEvent firstError : UInt8)
  | geQueryVersion
  | bigRequestsEnable (maxRequestLength : UInt32)
  | listExtensions (names : List (List UInt8))
  | getKeyboardMapping (firstKeycode keycodeCount keysymsPerKeycode : UInt8)
  | getKeyboardMappingFromKeysyms (keysymsPerKeycode : UInt8) (keysyms : List UInt32)
  | queryFont (metrics : FontMetrics)
  | listFontsWithInfo (metrics : FontMetrics) (name : List UInt8) (remaining : UInt32)
  | listFontsWithInfoTerminator
  | queryTextExtents (extents : TextExtents)
  | listHosts
  | queryBestSize (width height : UInt16)
  | getPointerMapping
  | getModifierMapping
  | getModifierMappingWithKeycodes (keycodesPerModifier : UInt8) (keycodes : List UInt8)

/-- The bytes of a reply, if its writer does not fail. -/
def CoreReply.write (byteOrder : ClientByteOrder) (sequence : UInt16) :
    CoreReply → Option (List UInt8)
  | getWindowAttributes a => some (writeGetWindowAttributesReply byteOrder sequence a)
  | getGeometry g => some (writeGetGeometryReply byteOrder sequence g)
  | queryTree root parent children =>
    some (writeQueryTreeReply byteOrder sequence root parent children)
  | internAtom atom => some (writeInternAtomReply byteOrder sequence atom)
  | getAtomName name => writeGetAtomNameReply byteOrder sequence name
  | getProperty reply => writeGetPropertyReply byteOrder sequence reply
  | listProperties atoms => some (writeListPropertiesReply byteOrder sequence atoms)
  | getSelectionOwner owner => some (writeGetSelectionOwnerReply byteOrder sequence owner)
  | grab status => some (writeGrabReply byteOrder sequence status)
  | queryPointer reply => some (writeQueryPointerReply byteOrder sequence reply)
  | translateCoordinates child dstX dstY =>
    some (writeTranslateCoordinatesReply byteOrder sequence child dstX dstY)
  | getInputFocus focus revertTo =>
    some (writeGetInputFocusReply byteOrder sequence focus revertTo)
  | queryKeymap => some (writeQueryKeymapReply byteOrder sequence)
  | allocColor color => some (writeAllocColorReply byteOrder sequence color)
  | lookupColor color => some (writeLookupColorReply byteOrder sequence color)
  | allocNamedColor color => some (writeAllocNamedColorReply byteOrder sequence color)
  | getImage request visualId => some (writeGetImageReply byteOrder sequence request visualId)
  | queryColors pixels => some (writeQueryColorsReply byteOrder sequence pixels)
  | queryExtension present majorOpcode firstEvent firstError =>
    some (writeQueryExtensionReply byteOrder sequence present majorOpcode firstEvent firstError)
  | geQueryVersion => some (writeGeQueryVersionReply byteOrder sequence)
  | bigRequestsEnable maxRequestLength =>
    some (writeBigRequestsEnableReply byteOrder sequence maxRequestLength)
  | listExtensions names => writeListExtensionsReply byteOrder sequence names
  | getKeyboardMapping firstKeycode keycodeCount keysymsPerKeycode =>
    some (writeGetKeyboardMappingReply byteOrder sequence firstKeycode keycodeCount
      keysymsPerKeycode)
  | getKeyboardMappingFromKeysyms keysymsPerKeycode keysyms =>
    some (writeGetKeyboardMappingReplyFromKeysyms byteOrder sequence keysymsPerKeycode keysyms)
  | queryFont metrics => some (writeQueryFontReply byteOrder sequence metrics)
  | listFontsWithInfo metrics name remaining =>
    some (writeListFontsWithInfoReply byteOrder sequence metrics name remaining)
  | listFontsWithInfoTerminator => some (writeListFontsWithInfoTerminator byteOrder sequence)
  | queryTextExtents extents => some (writeQueryTextExtentsReply byteOrder sequence extents)
  | listHosts => some (writeListHostsReply byteOrder sequence)
  | queryBestSize width height => some (writeQueryBestSizeReply byteOrder sequence width height)
  | getPointerMapping => some (writeGetPointerMappingReply byteOrder sequence)
  | getModifierMapping => some (writeGetModifierMappingReply byteOrder sequence)
  | getModifierMappingWithKeycodes keycodesPerModifier keycodes =>
    some (writeGetModifierMappingReplyWithKeycodes byteOrder sequence keycodesPerModifier
      keycodes)

end X12

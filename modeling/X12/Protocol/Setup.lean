import X12.Protocol.Replies

/-! # Setup

What a client is sent first. Texts are given by their bytes. -/

namespace X12

structure Screen where
  root : UInt32
  defaultColormap : UInt32
  whitePixel : UInt32
  blackPixel : UInt32
  currentInputMasks : UInt32
  widthPx : UInt16
  heightPx : UInt16
  widthMm : UInt16
  heightMm : UInt16
  minInstalledMaps : UInt16
  maxInstalledMaps : UInt16
  rootVisual : UInt32
  argbVisual : UInt32
  rootDepth : UInt8

structure SetupSuccess where
  protocolMajor : UInt16
  protocolMinor : UInt16
  releaseNumber : UInt32
  resourceIdBase : UInt32
  resourceIdMask : UInt32
  motionBufferSize : UInt32
  maximumRequestLength : UInt16
  imageByteOrder : ClientByteOrder
  bitmapFormatBitOrder : ClientByteOrder
  bitmapFormatScanlineUnit : UInt8
  bitmapFormatScanlinePad : UInt8
  minKeycode : UInt8
  maxKeycode : UInt8
  vendor : List UInt8
  root : Screen

def byteOrderValue : ClientByteOrder → UInt8
  | .littleEndian => 0
  | .bigEndian => 1

/-- The text follows the protocol version, without a length between them. -/
def writeSetupFailed (byteOrder : ClientByteOrder) (reason : List UInt8) : List UInt8 :=
  let reasonLen := min reason.length 255
  padVec4 ([0, UInt8.ofNat reasonLen] ++ writeU16 byteOrder 11 ++ writeU16 byteOrder 0 ++
    reason.take reasonLen)

/-- A pixmap format with a scanline pad of 32. -/
def writePixmapFormat (format : UInt8 × UInt8) : List UInt8 :=
  [format.1, format.2, 32] ++ List.replicate 5 0

/-- The depths of pixmaps, with the bits of a pixel. -/
def pixmapFormats : List (UInt8 × UInt8) :=
  [(1, 1), (4, 4), (8, 8), (15, 16), (16, 16), (24, 32), (32, 32)]

/-- A TrueColor visual. -/
def writeVisual (byteOrder : ClientByteOrder) (visual alphaMask : UInt32) : List UInt8 :=
  writeU32 byteOrder visual ++ [4, 8] ++ writeU16 byteOrder 256 ++
    writeU32 byteOrder 0x00ff0000 ++ writeU32 byteOrder 0x0000ff00 ++
    writeU32 byteOrder 0x000000ff ++ writeU32 byteOrder alphaMask

/-- A depth before its visuals. -/
def writeDepth (byteOrder : ClientByteOrder) (depth : UInt8) (visuals : UInt16) : List UInt8 :=
  [depth, 0] ++ writeU16 byteOrder visuals ++ writeU32 byteOrder 0

/-- The fields of a screen up to the number of its depths. -/
def writeScreenHead (byteOrder : ClientByteOrder) (screen : Screen) : List UInt8 :=
  writeU32 byteOrder screen.root ++
    writeU32 byteOrder screen.defaultColormap ++
    writeU32 byteOrder screen.whitePixel ++
    writeU32 byteOrder screen.blackPixel ++
    writeU32 byteOrder screen.currentInputMasks ++
    writeU16 byteOrder screen.widthPx ++
    writeU16 byteOrder screen.heightPx ++
    writeU16 byteOrder screen.widthMm ++
    writeU16 byteOrder screen.heightMm ++
    writeU16 byteOrder screen.minInstalledMaps ++
    writeU16 byteOrder screen.maxInstalledMaps ++
    writeU32 byteOrder screen.rootVisual ++
    [0, 0, screen.rootDepth, 5]

def writeScreen (byteOrder : ClientByteOrder) (screen : Screen) : List UInt8 :=
  writeScreenHead byteOrder screen ++
    writeDepth byteOrder 1 0 ++
    writeDepth byteOrder 4 0 ++
    writeDepth byteOrder 8 0 ++
    (writeDepth byteOrder 24 1 ++ writeVisual byteOrder screen.rootVisual 0) ++
    (writeDepth byteOrder 32 1 ++ writeVisual byteOrder screen.argbVisual 0xff000000)

/-- What the length of the reply counts. -/
def setupExtra (byteOrder : ClientByteOrder) (setup : SetupSuccess) : List UInt8 :=
  writeU32 byteOrder setup.releaseNumber ++
    writeU32 byteOrder setup.resourceIdBase ++
    writeU32 byteOrder setup.resourceIdMask ++
    writeU32 byteOrder setup.motionBufferSize ++
    writeU16 byteOrder (UInt16.ofNat setup.vendor.length) ++
    writeU16 byteOrder setup.maximumRequestLength ++
    [1, 7, byteOrderValue setup.imageByteOrder, byteOrderValue setup.bitmapFormatBitOrder,
      setup.bitmapFormatScanlineUnit, setup.bitmapFormatScanlinePad, setup.minKeycode,
      setup.maxKeycode] ++
    List.replicate 4 0 ++
    padVec4 setup.vendor ++
    pixmapFormats.flatMap writePixmapFormat ++
    writeScreen byteOrder setup.root

def writeSetupSuccess (byteOrder : ClientByteOrder) (setup : SetupSuccess) :
    Option (List UInt8) := do
  let extra := setupExtra byteOrder setup
  let lengthUnits ← checkedUnits extra.length
  return [1, 0] ++ writeU16 byteOrder setup.protocolMajor ++
    writeU16 byteOrder setup.protocolMinor ++
    writeU16 byteOrder lengthUnits.toUInt16 ++
    extra

end X12

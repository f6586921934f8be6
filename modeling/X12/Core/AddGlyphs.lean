import X12.Protocol.Wire
import Std.Data.ExtTreeMap

/-! # The glyphs of a glyph set

The body of AddGlyphs is a count, as many ids, as many records and the images one after the
other. Sizes are sums of `usize`, which has 64 bits: of numbers of at most 32 bits they never
overflow. -/

namespace X12

inductive GlyphSetFormat where
  | A8
  | A1
  | Argb32
  | Other
  deriving DecidableEq, Repr

structure StoredGlyph where
  width : UInt16
  height : UInt16
  x : Int16
  y : Int16
  xOff : Int16
  yOff : Int16
  pixels : List UInt8
  format : GlyphSetFormat
  deriving DecidableEq, Repr

/-- The glyph set of the host side. -/
structure HostGlyphSet where
  format : GlyphSetFormat
  glyphs : Std.ExtTreeMap UInt32 StoredGlyph

/-- `bytes[start..stop]`, which panics past the end. -/
def sliceChecked (bytes : List UInt8) (start stop : Nat) : Option (List UInt8) :=
  if start ≤ stop ∧ stop ≤ bytes.length then some ((bytes.drop start).take (stop - start))
  else none

/-- `bytes.chunks_exact(size)` -/
def chunksExact (size : Nat) (bytes : List UInt8) : List (List UInt8) :=
  (List.range (bytes.length / size)).map fun i => (bytes.drop (size * i)).take size

/-- The size of a row of an image on the wire. -/
def glyphStride (format : GlyphSetFormat) (w : Nat) : Nat :=
  match format with
  | .A8 => (w + 3) / 4 * 4
  | .A1 => (w + 31) / 32 * 4
  | .Argb32 => w * 4
  | .Other => 0

/-- The image as it is stored: a row or a pixel after the other. Of a pixel of 32 bits only
the alpha byte is kept. -/
def glyphPixels (format : GlyphSetFormat) (wire : List UInt8) (w h stride : Nat) :
    Option (List UInt8 × GlyphSetFormat) :=
  match format with
  | .A8 => do
    let rows ← (List.range h).mapM fun row => sliceChecked wire (row * stride) (row * stride + w)
    return (rows.flatten, .A8)
  | .A1 => some (wire, .A1)
  | .Argb32 => do
    let rows ← (List.range h).mapM fun row =>
      (List.range w).mapM fun col => wire[row * stride + col * 4 + 3]?
    return (rows.flatten, .A8)
  | .Other => none

/-- The glyph of an id and a record, with its image. -/
def storedGlyph (idChunk infoChunk pixels : List UInt8) (format : GlyphSetFormat) :
    UInt32 × StoredGlyph :=
  let u16 (i : Nat) : UInt16 := UInt16.ofNat (readU16Le infoChunk i)
  (u32Le idChunk 0,
    { width := u16 0
      height := u16 2
      x := (u16 4).toInt16
      y := (u16 6).toInt16
      xOff := (u16 8).toInt16
      yOff := (u16 10).toInt16
      pixels := pixels
      format := format })

/-- The loop over the ids and records, from an offset of the images on. It ends at the first
image that the body does not have whole. -/
def glyphLoop (format : GlyphSetFormat) (bodyTail : List UInt8) :
    List (List UInt8 × List UInt8) → Nat → Option (List (UInt32 × StoredGlyph))
  | [], _ => some []
  | (idChunk, infoChunk) :: chunks, dataOff => do
    let w := readU16Le infoChunk 0
    let h := readU16Le infoChunk 2
    let stride := glyphStride format w
    let nbytes := stride * h
    if dataOff + nbytes > bodyTail.length then
      return []
    let wire ← sliceChecked bodyTail dataOff (dataOff + nbytes)
    let (pixels, storedFormat) ← glyphPixels format wire w h stride
    let rest ← glyphLoop format bodyTail chunks (dataOff + nbytes)
    return storedGlyph idChunk infoChunk pixels storedFormat :: rest

/-- The glyphs of a body, in its order. -/
def addedGlyphs (format : GlyphSetFormat) (bodyTail : List UInt8) :
    Option (List (UInt32 × StoredGlyph)) :=
  if format = .Other then some []
  else if bodyTail.length < 4 then some []
  else do
    let n := readU32Le bodyTail 0
    let idsEnd := 4 + n * 4
    let infosEnd := idsEnd + n * 12
    if bodyTail.length < infosEnd then
      return []
    let ids ← sliceChecked bodyTail 4 idsEnd
    let infos ← sliceChecked bodyTail idsEnd infosEnd
    glyphLoop format bodyTail ((chunksExact 4 ids).zip (chunksExact 12 infos)) infosEnd

def parseAddGlyphs (gs : HostGlyphSet) (bodyTail : List UInt8) : Option HostGlyphSet := do
  let added ← addedGlyphs gs.format bodyTail
  return { gs with glyphs := added.foldl (fun glyphs g => glyphs.insert g.1 g.2) gs.glyphs }

end X12

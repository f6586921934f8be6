import X12.Core.Region
import X12.Lib.Stretches

/-! # Bitmaps as regions

The set pixels of a depth-1 mask as rectangles in bands: what a SHAPE Mask
request makes of its source. -/

namespace X12

open Stretches

/-- The runs of set pixels of a row, as their starts and widths. -/
def rowRuns (row : List UInt8) : List (UInt32 × UInt32) :=
  (stretchesFrom (· ≠ 0) (fun _ pixel => pixel ≠ 0) row 0).map fun run =>
    (UInt32.ofNat run.start, UInt32.ofNat run.size)

/-- `&bytes[y * w..y * w + w]` -/
def bitmapRow (bytes : List UInt8) (w y : Nat) : List UInt8 :=
  (bytes.drop (y * w)).take w

def bitmapRowRuns (bytes : List UInt8) (w h : Nat) : List (List (UInt32 × UInt32)) :=
  (List.range h).map fun y => rowRuns (bitmapRow bytes w y)

/-- Consecutive rows with identical runs; rows without any are skipped. -/
def bitmapBands (bytes : List UInt8) (w h : Nat) : List (Stretch (List (UInt32 × UInt32))) :=
  stretchesFrom (fun runs => !runs.isEmpty) (fun runs next => next == runs)
    (bitmapRowRuns bytes w h) 0

def bitmapBandRects (band : Stretch (List (UInt32 × UInt32))) : List RegionRect :=
  band.value.map fun (start, runW) =>
    { x := Int16.ofNat start.toNat
      y := Int16.ofNat band.start
      width := UInt16.ofNat runW.toNat
      height := UInt16.ofNat band.size }

/-- One byte for each pixel, row by row; a pixel is set if its byte is not 0. -/
def bitmapToYxBandedRects (bytes : List UInt8) (width height : UInt32) : List RegionRect :=
  let w := width.toNat
  let h := height.toNat
  if w = 0 ∨ h = 0 ∨ bytes.length < min (w * h) (2 ^ 64 - 1) then []
  else (bitmapBands bytes w h).flatMap bitmapBandRects

end X12

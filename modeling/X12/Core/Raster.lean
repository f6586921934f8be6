import X12.Core.Region
import Mathlib.Data.List.Sort

/-! # Rasterisation

Lines, polygons and bitmap masks are lowered to rectangles before they are painted. -/

namespace X12

/-- A rectangle of the backend has the fields of a region's. -/
abbrev Rectangle16 := RegionRect

/-- The result of 32-bit arithmetic, unless it overflows. -/
def checkedI32 (n : Int) : Option Int :=
  if -2147483648 ≤ n ∧ n ≤ 2147483647 then some n else none

/-! ## Lines -/

/-- The pixel of a line at a position. -/
def linePixel (x y : Int) : Rectangle16 where
  x := clampI16 x
  y := clampI16 y
  width := 1
  height := 1

/-- The error and the position on one axis, moved by a step on it if there is one. -/
def axisStep (steps : Bool) (err delta position direction : Int) : Option (Int × Int) :=
  if steps then do
    return (← checkedI32 (err + delta), ← checkedI32 (position + direction))
  else some (err, position)

/-- The loop over the pixels of a line. There is no result if a sum overflows or the loop
has not ended after `fuel` rounds. -/
def bresenhamLoop (x1 y1 dx dy sx sy : Int) :
    Nat → Int → Int → Int → List Rectangle16 → Option (List Rectangle16)
  | 0, _, _, _, _ => none
  | fuel + 1, err, x, y, out => do
    let out := out ++ [linePixel x y]
    if x = x1 ∧ y = y1 then
      return out
    let e2 ← checkedI32 (2 * err)
    -- The second test is on the error of before the first step.
    let (err, x) ← axisStep (e2 ≥ dy) err dy x sx
    let (err, y) ← axisStep (e2 ≤ dx) err dx y sy
    bresenhamLoop x1 y1 dx dy sx sy fuel err x y out

def bresenhamSegment (fuel : Nat) (x0 y0 x1 y1 : Int) (out : List Rectangle16) :
    Option (List Rectangle16) := do
  let dx ← checkedI32 (← checkedI32 (x1 - x0)).natAbs
  let dy ← checkedI32 (-(← checkedI32 (← checkedI32 (y1 - y0)).natAbs))
  let sx := if x0 < x1 then 1 else -1
  let sy := if y0 < y1 then 1 else -1
  let err ← checkedI32 (dx + dy)
  bresenhamLoop x1 y1 dx dy sx sy fuel err x0 y0 out

/-! ## Polygons -/

/-- The edges of a polygon: each vertex with the next, the last with the first. -/
def polygonEdges (verts : List Point) : List (Point × Point) :=
  verts.zip (verts.rotate 1)

/-- Where an edge crosses a row. The interval of rows is half-open, so that a vertex that two
edges share counts for one of them. -/
def edgeCrossing (y : Int) (edge : Point × Point) : Option Int :=
  let ((x0, y0), (x1, y1)) := edge
  let (ya, yb) := if y0 < y1 then (y0, y1) else (y1, y0)
  if ya = yb ∨ y < ya ∨ y ≥ yb then none
  else some (x0 + ((y - y0) * (x1 - x0)).tdiv (y1 - y0))

def rowCrossings (verts : List Point) (y : Int) : List Int :=
  ((polygonEdges verts).filterMap (edgeCrossing y)).insertionSort (· ≤ ·)

/-- The spans between the crossings of a row, taken in pairs. -/
def rowSpans (y : Int) : List Int → List Rectangle16
  | xStart :: xEnd :: rest =>
    if xEnd > xStart then
      { x := clampI16 xStart
        y := clampI16 y
        width := UInt16.ofNat (min (xEnd - xStart) 65535).toNat
        height := 1 } :: rowSpans y rest
    else rowSpans y rest
  | _ => []

/-- The integers from `first` on, `last` not among them. -/
def intRange (first last : Int) : List Int :=
  (List.range (last - first).toNat).map fun (i : Nat) => first + i

/-- The rows of a polygon. -/
def polygonRows (verts : List Point) : List Int :=
  match (verts.map Prod.snd).min?, (verts.map Prod.snd).max? with
  | some yMin, some yMax => intRange yMin (yMax + 1)
  | _, _ => []

def scanlineFillPolygon (verts : List Point) (out : List Rectangle16) : List Rectangle16 :=
  if verts.length < 3 then out
  else out ++ (polygonRows verts).flatMap fun y => rowSpans y (rowCrossings verts y)

/-! ## Bitmap masks -/

/-- The bitmap of a clip mask. -/
structure ClipMask where
  maskBytes : List UInt8
  maskWidth : UInt16
  maskHeight : UInt16
  maskDepth : UInt32
  maskRowStride : UInt32

/-- Whether a pixel of the mask is set. Those outside of it are not. -/
def ClipMask.pixelSet (mask : ClipMask) (mx my : Int) : Bool :=
  if mx < 0 ∨ my < 0 ∨ mx ≥ mask.maskWidth.toNat ∨ my ≥ mask.maskHeight.toNat then false
  else
    let row := my.toNat * mask.maskRowStride.toNat
    if mask.maskDepth = 1 then
      mask.maskBytes[row + mx.toNat / 8]?.any fun b =>
        (b >>> UInt8.ofNat (mx.toNat % 8)) &&& 1 != 0
    else if mask.maskDepth = 8 then mask.maskBytes[row + mx.toNat]?.any fun b => b != 0
    else false

/-- Columns of a row, the last one not among them. -/
structure MaskRun where
  row : Int
  start : Int
  stop : Int
  deriving DecidableEq, Repr

/-- The rectangle of a run, with its fields cut to their sizes. -/
def MaskRun.toRect (run : MaskRun) : Rectangle16 where
  x := Int16.ofInt run.start
  y := Int16.ofInt run.row
  width := UInt16.ofInt (run.stop - run.start)
  height := 1

/-- One column of a row: a run starts, goes on or ends. -/
def maskColumn (set : Int → Bool) (dy : Int) (scan : Option Int × List MaskRun) (dx : Int) :
    Option Int × List MaskRun :=
  if set dx then
    match scan.1 with
    | none => (some dx, scan.2)
    | some _ => scan
  else
    match scan.1 with
    | none => scan
    | some start => (none, scan.2 ++ [⟨dy, start, dx⟩])

/-- The runs of a row. The last one may reach the edge. -/
def maskRow (set : Int → Bool) (rx0 rx1 dy : Int) : List MaskRun :=
  let scan := (intRange rx0 rx1).foldl (maskColumn set dy) (none, [])
  match scan.1 with
  | none => scan.2
  | some start => scan.2 ++ [⟨dy, start, rx1⟩]

def maskRuns (paintRects : List Rectangle16) (mask : ClipMask) (clipOrigin : Int16 × Int16) :
    List MaskRun :=
  paintRects.flatMap fun r => (intRange r.top r.bottom).flatMap fun dy =>
    maskRow (fun dx => mask.pixelSet (dx - clipOrigin.1.toInt) (dy - clipOrigin.2.toInt))
      r.left r.right dy

def rasterizePixmapMaskToRects (paintRects : List Rectangle16) (mask : ClipMask)
    (clipOrigin : Int16 × Int16) : List Rectangle16 :=
  (maskRuns paintRects mask clipOrigin).map MaskRun.toRect

/-- The part of a rectangle in an image, if there is one. -/
def clipRectToImage (iw ih : Int) (r : Rectangle16) : Option Rectangle16 :=
  let x1 := max r.left 0
  let y1 := max r.top 0
  let x2 := min r.right iw
  let y2 := min r.bottom ih
  if x2 ≤ x1 ∨ y2 ≤ y1 then none
  else some
    { x := Int16.ofInt x1
      y := Int16.ofInt y1
      width := UInt16.ofInt (x2 - x1)
      height := UInt16.ofInt (y2 - y1) }

def clipRectsToImage (rects : List Rectangle16) (iw ih : Int) : List Rectangle16 :=
  rects.filterMap (clipRectToImage iw ih)

end X12

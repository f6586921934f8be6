import X12.Lib.Boxes
import Mathlib.Algebra.Ring.Int.Defs
import Mathlib.Algebra.Ring.Nat

/-! # The region algebra

Regions are lists of wire rectangles, as XFIXES, SHAPE and DAMAGE keep them.
Edges are computed in 32 bits from 16-bit origins and extents, so the sums
never overflow and are taken in `Int`; only the conversion of an edge back to
a wire field clamps. -/

namespace X12

abbrev Point := Int × Int

/-- A rectangle of a region, as on the wire. -/
structure RegionRect where
  x : Int16
  y : Int16
  width : UInt16
  height : UInt16
  deriving DecidableEq, Repr, Inhabited

/-- `v.clamp(i16::MIN, i16::MAX) as i16` -/
def clampI16 (v : Int) : Int16 :=
  Int16.ofInt (max (-32768) (min v 32767))

/-- `v.clamp(0, u16::MAX) as u16` -/
def clampU16 (v : Int) : UInt16 :=
  UInt16.ofNat (max 0 (min v 65535)).toNat

namespace RegionRect

def isEmpty (r : RegionRect) : Bool :=
  r.width == 0 || r.height == 0

def left (r : RegionRect) : Int := r.x.toInt
def top (r : RegionRect) : Int := r.y.toInt
def right (r : RegionRect) : Int := r.x.toInt + r.width.toNat
def bottom (r : RegionRect) : Int := r.y.toInt + r.height.toNat

/-- The edges of a rectangle, before any clamping. -/
def toBox (r : RegionRect) : Boxes.Box Int :=
  ⟨r.left, r.right, r.top, r.bottom⟩

instance : Membership Point RegionRect where
  mem r p := p ∈ r.toBox

instance (r : RegionRect) (p : Point) : Decidable (p ∈ r) :=
  inferInstanceAs (Decidable (p ∈ r.toBox))

/-- The rectangle pushed for computed edges: every field is clamped on its own. -/
def ofEdges (x₁ x₂ y₁ y₂ : Int) : RegionRect where
  x := clampI16 x₁
  y := clampI16 y₁
  width := clampU16 (x₂ - x₁)
  height := clampU16 (y₂ - y₁)

end RegionRect

/-- A point lies in some rectangle of a region. -/
def Covers (rects : List RegionRect) (p : Point) : Prop :=
  ∃ r ∈ rects, p ∈ r

instance (rects : List RegionRect) (p : Point) : Decidable (Covers rects p) :=
  inferInstanceAs (Decidable (∃ r ∈ rects, p ∈ r))

/-- The points whose coordinates a rectangle can name as its last row and
column: a rectangle may reach past 32767, but no wire origin does. -/
def InDomain (p : Point) : Prop :=
  (-32768 ≤ p.1 ∧ p.1 ≤ 32766) ∧ -32768 ≤ p.2 ∧ p.2 ≤ 32766

instance (p : Point) : Decidable (InDomain p) :=
  inferInstanceAs (Decidable (_ ∧ _))

/-! ## Normalization -/

/-- The columns of the rectangles that span the band `[y₀, y₁)`. -/
def bandSpans (rects : List RegionRect) (band : Int × Int) : List (Int × Int) :=
  rects.filterMap fun r =>
    if r.top ≤ band.1 ∧ r.bottom ≥ band.2 then some (r.left, r.right) else none

/-- The span loop of a band: overlapping and touching spans are joined, and a
finished span is pushed with clamped fields. -/
def pushSpans (band current : Int × Int) : List (Int × Int) → List RegionRect
  | [] => [.ofEdges current.1 current.2 band.1 band.2]
  | span :: rest =>
    if span.1 ≤ current.2 then
      pushSpans band (current.1, max current.2 span.2) rest
    else
      .ofEdges current.1 current.2 band.1 band.2 :: pushSpans band span rest

/-- The rectangles pushed for one band. -/
def bandRects (rects : List RegionRect) (band : Int × Int) : List RegionRect :=
  if band.2 ≤ band.1 then []
  else match (bandSpans rects band).insertionSort Boxes.spanLE with
    | [] => []
    | span :: rest => pushSpans band span rest

def normalizeRegionRects (rects : List RegionRect) : List RegionRect :=
  let rects := rects.filter fun r => !r.isEmpty
  if rects.isEmpty then rects
  else
    let yEdges := ((rects.flatMap fun r => [r.top, r.bottom]).insertionSort (· ≤ ·)).destutter (· ≠ ·)
    (yEdges.zip yEdges.tail).flatMap (bandRects rects)

/-- The bounding rectangle of a region, empty at the origin for no rectangle. -/
def regionExtents : List RegionRect → RegionRect
  | [] => ⟨0, 0, 0, 0⟩
  | r :: rects =>
    .ofEdges (rects.foldl (fun x₁ r => min x₁ r.left) r.left)
      (rects.foldl (fun x₂ r => max x₂ r.right) r.right)
      (rects.foldl (fun y₁ r => min y₁ r.top) r.top)
      (rects.foldl (fun y₂ r => max y₂ r.bottom) r.bottom)

/-! ## Set operations -/

def intersectRect (a b : RegionRect) : Option RegionRect :=
  let x₁ := max a.left b.left
  let y₁ := max a.top b.top
  let x₂ := min a.right b.right
  let y₂ := min a.bottom b.bottom
  if x₂ ≤ x₁ ∨ y₂ ≤ y₁ then none else some (.ofEdges x₁ x₂ y₁ y₂)

def intersectRegions (a b : List RegionRect) : List RegionRect :=
  normalizeRegionRects (a.flatMap fun ar => b.filterMap fun br => intersectRect ar br)

/-- The parts of `a` not covered by `b`: the rows above and below the common
part, then the columns left and right of it. -/
def subtractRect (a b : RegionRect) : List RegionRect :=
  match intersectRect a b with
  | none => [a]
  | some isect =>
    (if a.top < isect.top then
      [{ x := a.x, y := a.y, width := a.width, height := clampU16 (isect.top - a.top) }]
    else []) ++
    (if isect.bottom < a.bottom then
      [{ x := a.x, y := clampI16 isect.bottom, width := a.width,
         height := clampU16 (a.bottom - isect.bottom) }]
    else []) ++
    (if a.left < isect.left then
      [{ x := a.x, y := isect.y, width := clampU16 (isect.left - a.left), height := isect.height }]
    else []) ++
    (if isect.right < a.right then
      [{ x := clampI16 isect.right, y := isect.y, width := clampU16 (a.right - isect.right),
         height := isect.height }]
    else [])

/-- Cut every piece by each rectangle in turn, stopping once nothing is left. -/
def uncoveredPieces (pieces : List RegionRect) : List RegionRect → List RegionRect
  | [] => pieces
  | existing :: rest =>
    let next := pieces.flatMap (subtractRect · existing)
    if next.isEmpty then next else uncoveredPieces next rest

def unionRegions (current source : List RegionRect) : List RegionRect :=
  normalizeRegionRects <|
    source.foldl (fun result s => result ++ uncoveredPieces [s] result) current

def subtractRegions (current source : List RegionRect) : List RegionRect :=
  normalizeRegionRects <|
    source.foldl (fun result s => result.flatMap (subtractRect · s)) current

/-! ## SHAPE operators -/

namespace Shape

def OP_SET : UInt8 := 0
def OP_UNION : UInt8 := 1
def OP_INTERSECT : UInt8 := 2
def OP_SUBTRACT : UInt8 := 3
def OP_INVERT : UInt8 := 4

end Shape

def applyShapeOp (current source : List RegionRect) (op : UInt8) : List RegionRect :=
  if op = Shape.OP_SET then normalizeRegionRects source
  else if op = Shape.OP_UNION then unionRegions current source
  else if op = Shape.OP_INTERSECT then intersectRegions current source
  else if op = Shape.OP_SUBTRACT then subtractRegions current source
  else if op = Shape.OP_INVERT then normalizeRegionRects source
  else current

end X12

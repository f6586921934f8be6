import Mathlib.Data.List.Basic

/-! # The glyph atlas

Glyphs are packed into one image, on shelves. Additions are checked, as they are in a
debug build. -/

namespace X12

inductive Overflow where
  | u32
  deriving DecidableEq, Repr

def addOrOverflow (a b : UInt32) : Except Overflow UInt32 :=
  if a.toNat + b.toNat < UInt32.size then .ok (a + b) else .error .u32

structure Extent2D where
  width : UInt32
  height : UInt32
  deriving DecidableEq, Repr

/-- Side length of the fixed atlas allocation. -/
def ATLAS_SIDE : UInt32 := 4096

structure Shelf where
  yTop : UInt32
  height : UInt32
  xUsed : UInt32
  deriving DecidableEq, Repr

structure ShelfPacker where
  extent : Extent2D
  shelves : List Shelf
  deriving DecidableEq, Repr

namespace ShelfPacker

def new (extent : Extent2D) : ShelfPacker where
  extent := extent
  shelves := []

/-- The packer of the atlas. -/
def atlas : ShelfPacker :=
  new { width := ATLAS_SIDE, height := ATLAS_SIDE }

/-- The shelf has no room, and stays. -/
def keepShelf (shelf : Shelf) (found : Option (List Shelf × UInt32 × UInt32)) :
    Option (List Shelf × UInt32 × UInt32) :=
  found.map fun (rest, place) => (shelf :: rest, place)

/-- The first shelf that has room, with the place on it. -/
def packOnShelf (width w h : UInt32) :
    List Shelf → Except Overflow (Option (List Shelf × UInt32 × UInt32))
  | [] => .ok none
  | shelf :: rest => do
    if h ≤ shelf.height then
      let used ← addOrOverflow shelf.xUsed w
      if used ≤ width then
        return some ({ shelf with xUsed := used } :: rest, shelf.xUsed, shelf.yTop)
      else keepShelf shelf <$> packOnShelf width w h rest
    else keepShelf shelf <$> packOnShelf width w h rest

def nextY (p : ShelfPacker) : Except Overflow UInt32 :=
  match p.shelves.getLast? with
  | some s => addOrOverflow s.yTop s.height
  | none => .ok 0

/-- Zero-area glyphs map to a degenerate slot. -/
def pack (p : ShelfPacker) (w h : UInt32) :
    Except Overflow (ShelfPacker × Option (UInt32 × UInt32)) := do
  if w = 0 ∨ h = 0 then return (p, some (0, 0))
  else if p.extent.width < w ∨ p.extent.height < h then return (p, none)
  else
    match ← packOnShelf p.extent.width w h p.shelves with
    | some (shelves, place) => return ({ p with shelves := shelves }, some place)
    | none =>
      let nextY ← p.nextY
      let bottom ← addOrOverflow nextY h
      if p.extent.height < bottom then return (p, none)
      else
        let shelf : Shelf := { yTop := nextY, height := h, xUsed := w }
        return ({ p with shelves := p.shelves ++ [shelf] }, some (0, nextY))

/-- One request after the other, with what is answered. -/
def packAll (p : ShelfPacker) :
    List (UInt32 × UInt32) → Except Overflow (ShelfPacker × List (Option (UInt32 × UInt32)))
  | [] => .ok (p, [])
  | (w, h) :: requests => do
    let (p, place) ← p.pack w h
    let (p, places) ← p.packAll requests
    return (p, place :: places)

end ShelfPacker

end X12

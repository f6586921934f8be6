import X12.Core.Resources

/-! # Graphics contexts

The attributes of a graphics context, as CreateGC, ChangeGC, CopyGC, SetDashes
and SetClipRectangles set them. -/

namespace X12

/-! ## Protocol values

A value that is not listed is the default. -/

def LineStyle.fromProtocol (value : UInt8) : LineStyle :=
  if value = 1 then .OnOffDash else if value = 2 then .DoubleDash else .Solid

def CapStyle.fromProtocol (value : UInt8) : CapStyle :=
  if value = 0 then .NotLast else if value = 2 then .Round else if value = 3 then .Projecting
  else .Butt

def JoinStyle.fromProtocol (value : UInt8) : JoinStyle :=
  if value = 1 then .Round else if value = 2 then .Bevel else .Miter

def FillStyle.fromProtocol (value : UInt8) : FillStyle :=
  if value = 1 then .Tiled else if value = 2 then .Stippled else if value = 3 then .OpaqueStippled
  else .Solid

def FillRule.fromProtocol (value : UInt8) : FillRule :=
  if value = 1 then .Winding else .EvenOdd

def GcFunction.fromProtocol (value : UInt8) : GcFunction :=
  match value.toNat with
  | 0 => .Clear
  | 1 => .And
  | 2 => .AndReverse
  | 4 => .AndInverted
  | 5 => .NoOp
  | 6 => .Xor
  | 7 => .Or
  | 8 => .Nor
  | 9 => .Equiv
  | 10 => .Invert
  | 11 => .OrReverse
  | 12 => .CopyInverted
  | 13 => .OrInverted
  | 14 => .Nand
  | 15 => .Set
  | _ => .Copy

def SubwindowMode.fromProtocol (value : UInt8) : SubwindowMode :=
  if value = 1 then .IncludeInferiors else .ClipByChildren

def ArcMode.fromProtocol (value : UInt8) : ArcMode :=
  if value = 0 then .Chord else .PieSlice

/-! ## Changes -/

/-- `GcChangeView`: an attribute that is not given is left as it is. A clip mask
of `some none` takes the clip away. -/
structure GcAttributes where
  function : Option UInt8
  planeMask : Option UInt32
  foreground : Option UInt32
  background : Option UInt32
  lineWidth : Option UInt16
  lineStyle : Option UInt8
  capStyle : Option UInt8
  joinStyle : Option UInt8
  fillStyle : Option UInt8
  fillRule : Option UInt8
  tile : Option ResourceId
  stipple : Option ResourceId
  tileXOrigin : Option Int16
  tileYOrigin : Option Int16
  font : Option ResourceId
  subwindowMode : Option UInt8
  graphicsExposures : Option Bool
  clipXOrigin : Option Int16
  clipYOrigin : Option Int16
  clipMask : Option (Option ResourceId)
  dashOffset : Option UInt16
  dashes : Option UInt8
  arcMode : Option UInt8
  deriving DecidableEq, Repr

/-- No attribute is given. -/
def GcAttributes.none : GcAttributes :=
  ⟨.none, .none, .none, .none, .none, .none, .none, .none, .none, .none, .none, .none,
    .none, .none, .none, .none, .none, .none, .none, .none, .none, .none, .none⟩

structure CreateGcRequest where
  gc : ResourceId
  drawable : ResourceId
  attributes : GcAttributes
  deriving DecidableEq, Repr

structure GcChange where
  gc : ResourceId
  attributes : GcAttributes
  deriving DecidableEq, Repr

/-- The bits of the value mask of CopyGC. -/
def GC_FUNCTION : UInt32 := 0x1
def GC_PLANE_MASK : UInt32 := 0x2
def GC_FOREGROUND : UInt32 := 0x4
def GC_BACKGROUND : UInt32 := 0x8
def GC_LINE_WIDTH : UInt32 := 0x10
def GC_LINE_STYLE : UInt32 := 0x20
def GC_CAP_STYLE : UInt32 := 0x40
def GC_JOIN_STYLE : UInt32 := 0x80
def GC_FILL_STYLE : UInt32 := 0x100
def GC_FILL_RULE : UInt32 := 0x200
def GC_TILE : UInt32 := 0x400
def GC_STIPPLE : UInt32 := 0x800
def GC_TILE_X_ORIGIN : UInt32 := 0x1000
def GC_TILE_Y_ORIGIN : UInt32 := 0x2000
def GC_FONT : UInt32 := 0x4000
def GC_SUBWINDOW_MODE : UInt32 := 0x8000
def GC_GRAPHICS_EXPOSURES : UInt32 := 0x10000
def GC_CLIP_X_ORIGIN : UInt32 := 0x20000
def GC_CLIP_Y_ORIGIN : UInt32 := 0x40000
def GC_CLIP_MASK : UInt32 := 0x80000
def GC_DASH_OFFSET : UInt32 := 0x100000
def GC_DASHES : UInt32 := 0x200000
def GC_ARC_MODE : UInt32 := 0x400000

/-- The dash of a CreateGC or ChangeGC is a pattern of one length, which starts
over; a dash of 0 is not taken. -/
def Gc.applyDashes (gc : Gc) (dashes : Option UInt8) : Gc :=
  let dash := dashes.filter (· ≠ 0)
  { gc with
    dashes := dash.elim gc.dashes fun n => [n, n]
    dashOffset := dash.elim gc.dashOffset fun _ => 0 }

/-- `apply_gc_change`. A clip mask takes the place of clip rectangles. -/
def Gc.applyGcChange (gc : Gc) (change : GcAttributes) : Gc :=
  let gc :=
    { gc with
      function := change.function.elim gc.function .fromProtocol
      planeMask := change.planeMask.getD gc.planeMask
      foreground := change.foreground.getD gc.foreground
      background := change.background.getD gc.background
      lineWidth := change.lineWidth.getD gc.lineWidth
      lineStyle := change.lineStyle.elim gc.lineStyle .fromProtocol
      capStyle := change.capStyle.elim gc.capStyle .fromProtocol
      joinStyle := change.joinStyle.elim gc.joinStyle .fromProtocol
      fillStyle := change.fillStyle.elim gc.fillStyle .fromProtocol
      fillRule := change.fillRule.elim gc.fillRule .fromProtocol
      tile := change.tile.or gc.tile
      stipple := change.stipple.or gc.stipple
      tileXOrigin := change.tileXOrigin.getD gc.tileXOrigin
      tileYOrigin := change.tileYOrigin.getD gc.tileYOrigin
      font := change.font.or gc.font
      subwindowMode := change.subwindowMode.elim gc.subwindowMode .fromProtocol
      graphicsExposures := change.graphicsExposures.getD gc.graphicsExposures
      clipXOrigin := change.clipXOrigin.getD gc.clipXOrigin
      clipYOrigin := change.clipYOrigin.getD gc.clipYOrigin
      clipRectangles := change.clipMask.elim gc.clipRectangles fun _ => none
      clipPixmap := change.clipMask.getD gc.clipPixmap
      dashOffset := change.dashOffset.elim gc.dashOffset UInt16.toInt16
      arcMode := change.arcMode.elim gc.arcMode .fromProtocol }
  gc.applyDashes change.dashes

inductive ClipState where
  | None
  | Rectangles (origin : Int16 × Int16) (rects : ClipRectangles)
  | Pixmap (origin : Int16 × Int16) (pixmap : Handle)
  deriving DecidableEq, Repr

structure DrawState where
  clip : ClipState
  subwindowMode : SubwindowMode
  graphicsExposures : Bool
  deriving DecidableEq, Repr

namespace ResourceTable

/-- The host object of a pixmap, while both exist. -/
def pixmapHostXid (t : ResourceTable) (pixmap : ResourceId) : Option Handle :=
  t.pixmaps[pixmap]?.bind (·.hostXid)

/-- The record that `create_gc` inserts. -/
def newGc (t : ResourceTable) (owner : ClientId) (request : CreateGcRequest) : Gc :=
  let attributes := request.attributes
  let clipPixmap := attributes.clipMask.join
  let gc : Gc :=
    { Gc.withDefaults request.gc request.drawable owner with
      depth :=
        ((t.windows[request.drawable]?.map (·.depth)).or
          (t.pixmaps[request.drawable]?.map (·.depth))).getD 0
      tileHostXid := attributes.tile.bind t.pixmapHostXid
      stippleHostXid := attributes.stipple.bind t.pixmapHostXid
      clipPixmap := clipPixmap
      clipPixmapHostXid := clipPixmap.bind t.pixmapHostXid }
  gc.applyGcChange { attributes with clipMask := none }

def createGc (t : ResourceTable) (owner : ClientId) (request : CreateGcRequest) : ResourceTable :=
  { t with gcs := t.gcs.insert request.gc (t.newGc owner request) }

/-- The change of one record: the attributes, then the host handles of those
pixmaps that are given. -/
def changedGc (t : ResourceTable) (change : GcAttributes) (gc : Gc) : Gc :=
  let changed := gc.applyGcChange change
  { changed with
    clipPixmapHostXid :=
      change.clipMask.elim gc.clipPixmapHostXid fun mask => mask.bind t.pixmapHostXid
    tileHostXid := change.tile.elim gc.tileHostXid t.pixmapHostXid
    stippleHostXid := change.stipple.elim gc.stippleHostXid t.pixmapHostXid }

def changeGc (t : ResourceTable) (request : GcChange) : ResourceTable :=
  { t with gcs := t.gcs.modify request.gc (t.changedGc request.attributes) }

/-- A list of odd length is doubled; an empty one sets the offset only. -/
def setDashes (t : ResourceTable) (gc : ResourceId) (dashOffset : UInt16) (dashes : List UInt8) :
    ResourceTable :=
  { t with
    gcs := t.gcs.modify gc fun g =>
      let g := { g with dashOffset := dashOffset.toInt16 }
      if dashes.isEmpty then g
      else if dashes.length % 2 = 0 then { g with dashes := dashes }
      else { g with dashes := dashes ++ dashes } }

def setClipRectangles (t : ResourceTable) (gc : ResourceId) (clip : ClipRectangles) :
    ResourceTable :=
  { t with
    gcs := t.gcs.modify gc fun g =>
      { g with clipPixmap := none, clipPixmapHostXid := none, clipRectangles := some clip } }

def clearGcClip (t : ResourceTable) (gc : ResourceId) : ResourceTable :=
  { t with
    gcs := t.gcs.modify gc fun g =>
      { g with clipPixmap := none, clipPixmapHostXid := none, clipRectangles := none } }

/-- The attributes of `src` that the mask names, over those of `dst`. -/
def copiedGc (src dst : Gc) (valueMask : UInt32) : Gc :=
  let copied {α : Type} (bit : UInt32) (field : Gc → α) : α :=
    if valueMask &&& bit ≠ 0 then field src else field dst
  { dst with
    function := copied GC_FUNCTION (·.function)
    planeMask := copied GC_PLANE_MASK (·.planeMask)
    foreground := copied GC_FOREGROUND (·.foreground)
    background := copied GC_BACKGROUND (·.background)
    lineWidth := copied GC_LINE_WIDTH (·.lineWidth)
    lineStyle := copied GC_LINE_STYLE (·.lineStyle)
    capStyle := copied GC_CAP_STYLE (·.capStyle)
    joinStyle := copied GC_JOIN_STYLE (·.joinStyle)
    fillStyle := copied GC_FILL_STYLE (·.fillStyle)
    fillRule := copied GC_FILL_RULE (·.fillRule)
    tile := copied GC_TILE (·.tile)
    tileHostXid := copied GC_TILE (·.tileHostXid)
    stipple := copied GC_STIPPLE (·.stipple)
    stippleHostXid := copied GC_STIPPLE (·.stippleHostXid)
    tileXOrigin := copied GC_TILE_X_ORIGIN (·.tileXOrigin)
    tileYOrigin := copied GC_TILE_Y_ORIGIN (·.tileYOrigin)
    font := copied GC_FONT (·.font)
    subwindowMode := copied GC_SUBWINDOW_MODE (·.subwindowMode)
    graphicsExposures := copied GC_GRAPHICS_EXPOSURES (·.graphicsExposures)
    clipXOrigin := copied GC_CLIP_X_ORIGIN (·.clipXOrigin)
    clipYOrigin := copied GC_CLIP_Y_ORIGIN (·.clipYOrigin)
    clipRectangles := copied GC_CLIP_MASK (·.clipRectangles)
    clipPixmap := copied GC_CLIP_MASK (·.clipPixmap)
    clipPixmapHostXid := copied GC_CLIP_MASK (·.clipPixmapHostXid)
    dashOffset := copied GC_DASH_OFFSET (·.dashOffset)
    dashes := copied GC_DASHES (·.dashes)
    arcMode := copied GC_ARC_MODE (·.arcMode) }

def copyGc (t : ResourceTable) (src dst : ResourceId) (valueMask : UInt32) : ResourceTable :=
  match t.gcs[src]? with
  | none => t
  | some srcGc => { t with gcs := t.gcs.modify dst fun dstGc => copiedGc srcGc dstGc valueMask }

def freeGc (t : ResourceTable) (id : ResourceId) : ResourceTable :=
  { t with gcs := t.gcs.erase id }

/-- Rectangles go before a mask; both are placed at the clip origin. -/
def resolveDrawState (t : ResourceTable) (gc : ResourceId) : Option DrawState :=
  t.gcs[gc]?.map fun g =>
    { clip :=
        match g.clipRectangles, g.clipPixmapHostXid with
        | some rects, _ => .Rectangles (g.clipXOrigin, g.clipYOrigin) rects
        | none, some pixmap => .Pixmap (g.clipXOrigin, g.clipYOrigin) pixmap
        | none, none => .None
      subwindowMode := g.subwindowMode
      graphicsExposures := g.graphicsExposures }

end ResourceTable

end X12

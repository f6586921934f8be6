import X12.Core.Create

/-! # CopyArea

A copy is clamped to the part of the source that exists, clipped by the
rectangles of the graphics context and by the children of the destination, and
sent to the backend piece by piece. Window coordinates are those of the
destination. -/

namespace X12

/-- A rectangle of the source and its place in the destination. -/
structure CopyGeometry where
  srcX : Int16
  srcY : Int16
  dstX : Int16
  dstY : Int16
  width : UInt16
  height : UInt16
  deriving DecidableEq, Repr

structure CopyAreaRequest extends CopyGeometry where
  src : ResourceId
  dst : ResourceId
  gc : ResourceId
  deriving DecidableEq, Repr

/-- What is drawn to for a drawable. -/
structure HostDrawableTarget where
  hostXid : Handle
  depth : UInt8
  deriving DecidableEq, Repr

inductive DrawableLookup where
  | InputOutputWindow (depth : UInt8)
  | InputOnlyWindow
  | Pixmap (depth : UInt8)
  | Missing
  deriving DecidableEq, Repr

inductive BackendCall where
  | CopyArea (src dst : Handle) (geometry : CopyGeometry)
  | PaintWindowBackgroundRect (dst : Handle) (rect : RegionRect)
  deriving DecidableEq, Repr

/-- The events of a copy: one for each missing rectangle, with the number of
those that follow, or a single NoExposure. -/
inductive CopyExposure where
  | NoExposure (dst : ResourceId)
  | GraphicsExpose (dst : ResourceId) (x y width height count : UInt16)
  deriving DecidableEq, Repr

structure CopyAreaOutcome where
  state : ServerState
  notifies : List PendingNotify
  calls : List BackendCall
  exposures : List CopyExposure

/-- `i16::try_from(v).ok()` -/
def i16TryFrom (v : Int) : Option Int16 :=
  if -32768 ≤ v ∧ v ≤ 32767 then some (Int16.ofInt v) else none

/-- `u16::try_from(v).ok()` -/
def u16TryFrom (v : Int) : Option UInt16 :=
  if 0 ≤ v ∧ v ≤ 65535 then some (UInt16.ofNat v.toNat) else none

/-- `i16::saturating_add` -/
def saturatingAddI16 (a b : Int16) : Int16 := clampI16 (a.toInt + b.toInt)

/-- `i16::saturating_sub` -/
def saturatingSubI16 (a b : Int16) : Int16 := clampI16 (a.toInt - b.toInt)

namespace ResourceTable

def drawableSize (t : ResourceTable) (id : ResourceId) : Option (UInt16 × UInt16) :=
  match t.windows[id]? with
  | some w => some (w.width, w.height)
  | none => t.pixmaps[id]?.map fun p => (p.width, p.height)

/-- A redirected window is drawn to through its backing pixmap. -/
def hostDrawableTarget (t : ResourceTable) (id : ResourceId) : Option HostDrawableTarget :=
  match t.windows[id]? with
  | some window =>
    match window.redirectedBacking with
    | some backing => some ⟨backing.hostPixmap, backing.depth⟩
    | none => window.hostXid.map fun hostXid => ⟨hostXid, window.depth⟩
  | none => t.pixmaps[id]?.bind fun p => p.hostXid.map fun hostXid => ⟨hostXid, p.depth⟩

def drawableLookup (t : ResourceTable) (id : ResourceId) : DrawableLookup :=
  match t.windows[id]? with
  | some w => if w.windowClass = .InputOnly then .InputOnlyWindow else .InputOutputWindow w.depth
  | none => t.pixmaps[id]?.elim .Missing fun p => .Pixmap p.depth

/-- The error code and the bad value; a depth of 0 matches every drawable. -/
def validateDrawableAndGc (t : ResourceTable) (drawable gc : ResourceId) :
    Except (UInt8 × UInt32) Unit :=
  let checkGc (targetDepth : UInt8) : Except (UInt8 × UInt32) Unit :=
    match t.gcs[gc]? with
    | none => .error (BAD_GC, gc)
    | some g =>
      if g.depth ≠ 0 ∧ g.depth ≠ targetDepth then .error (BAD_MATCH, 0) else .ok ()
  match t.drawableLookup drawable with
  | .InputOutputWindow depth | .Pixmap depth => checkGc depth
  | .InputOnlyWindow => .error (BAD_MATCH, 0)
  | .Missing => .error (BAD_DRAWABLE, drawable)

/-- The part of the request whose source exists, if any, and the rectangles of
the destination whose source does not. -/
def copyAreaSourceSplit (t : ResourceTable) (src : ResourceId) (r : CopyGeometry) :
    Option CopyGeometry × List RegionRect :=
  match t.drawableSize src with
  | none => (some r, [])
  | some (sw, sh) =>
    let rx₀ := r.srcX.toInt
    let ry₀ := r.srcY.toInt
    let rx₁ := rx₀ + r.width.toNat
    let ry₁ := ry₀ + r.height.toNat
    let ax₀ := max rx₀ 0
    let ay₀ := max ry₀ 0
    let ax₁ := min rx₁ sw.toNat
    let ay₁ := min ry₁ sh.toNat
    let toDst (x₀ y₀ x₁ y₁ : Int) : RegionRect :=
      { x := saturateI16 (r.dstX.toInt + (x₀ - rx₀))
        y := saturateI16 (r.dstY.toInt + (y₀ - ry₀))
        width := (u16TryFrom (x₁ - x₀)).getD 0
        height := (u16TryFrom (y₁ - y₀)).getD 0 }
    if ax₁ ≤ ax₀ ∨ ay₁ ≤ ay₀ then (none, [toDst rx₀ ry₀ rx₁ ry₁])
    else
      let missing :=
        (if ay₀ > ry₀ then [toDst rx₀ ry₀ rx₁ ay₀] else []) ++
        (if ay₁ < ry₁ then [toDst rx₀ ay₁ rx₁ ry₁] else []) ++
        (if ax₀ > rx₀ then [toDst rx₀ ay₀ ax₀ ay₁] else []) ++
        (if ax₁ < rx₁ then [toDst ax₁ ay₀ rx₁ ay₁] else [])
      let avail : CopyGeometry :=
        { srcX := (i16TryFrom ax₀).getD 0
          srcY := (i16TryFrom ay₀).getD 0
          dstX := saturateI16 (r.dstX.toInt + (ax₀ - rx₀))
          dstY := saturateI16 (r.dstY.toInt + (ay₀ - ry₀))
          width := (u16TryFrom (ax₁ - ax₀)).getD 0
          height := (u16TryFrom (ay₁ - ay₀)).getD 0 }
      (some avail, missing)

end ResourceTable

/-! ## Clipping -/

def intersectSubRects (a b : RegionRect) : Option RegionRect :=
  let ix₀ := max a.left b.left
  let iy₀ := max a.top b.top
  let ix₁ := min a.right b.right
  let iy₁ := min a.bottom b.bottom
  if ix₀ ≥ ix₁ ∨ iy₀ ≥ iy₁ then none
  else do
    let x ← i16TryFrom ix₀
    let y ← i16TryFrom iy₀
    let width ← u16TryFrom (ix₁ - ix₀)
    let height ← u16TryFrom (iy₁ - iy₀)
    return ⟨x, y, width, height⟩

/-- A piece whose origin or extent does not fit its field is dropped. -/
def mkSubRect (x y w h : Int) : Option RegionRect := do
  let x ← i16TryFrom x
  let y ← i16TryFrom y
  let width ← u16TryFrom w
  let height ← u16TryFrom h
  return ⟨x, y, width, height⟩

/-- The rows above and below the common part, then the columns left and right
of it. -/
def subtractSubRect (outer inner : RegionRect) : List RegionRect :=
  let ox₀ := outer.left
  let oy₀ := outer.top
  let ox₁ := outer.right
  let oy₁ := outer.bottom
  let ix₀ := max inner.left ox₀
  let iy₀ := max inner.top oy₀
  let ix₁ := min inner.right ox₁
  let iy₁ := min inner.bottom oy₁
  if ix₀ ≥ ix₁ ∨ iy₀ ≥ iy₁ then [outer]
  else
    (if oy₀ < iy₀ then (mkSubRect ox₀ oy₀ (ox₁ - ox₀) (iy₀ - oy₀)).toList else []) ++
    (if iy₁ < oy₁ then (mkSubRect ox₀ iy₁ (ox₁ - ox₀) (oy₁ - iy₁)).toList else []) ++
    (if ox₀ < ix₀ then (mkSubRect ox₀ iy₀ (ix₀ - ox₀) (iy₁ - iy₀)).toList else []) ++
    (if ix₁ < ox₁ then (mkSubRect ix₁ iy₀ (ox₁ - ix₁) (iy₁ - iy₀)).toList else [])

/-- The clip rectangles at the clip origin. They are read as `parseRectangles`
reads them. -/
def gcClipRects (origin : Int16 × Int16) (rects : ClipRectangles) : List RegionRect :=
  (parseRectangles rects.rectangles).map fun r =>
    { r with x := saturatingAddI16 r.x origin.1, y := saturatingAddI16 r.y origin.2 }

namespace ServerState

/-- A redirection of the window itself goes before one of its parent's children. -/
def effectiveRedirectModeForWindow (s : ServerState) (window : ResourceId) :
    Option CompositeRedirectMode :=
  match s.compositeRedirects.lookup (window, false) with
  | some record => some record.mode
  | none => do
    let w ← s.resources.windows[window]?
    let record ← s.compositeRedirects.lookup (w.parent, true)
    return record.mode

/-- The rectangles that the children of a window take from it. What a manually
redirected child shows is up to the client that redirects it. -/
def childClipRects (s : ServerState) (dst : Window) : List RegionRect :=
  dst.children.filterMap fun cid => do
    let c ← s.resources.windows[cid]?
    if c.windowClass = .InputOutput ∧ c.mapState = .Viewable ∧ c.width > 0 ∧ c.height > 0 ∧
        s.effectiveRedirectModeForWindow cid ≠ some .Manual then
      some ⟨c.x, c.y, c.width, c.height⟩
    else none

/-- A clip mask is not looked at. -/
def copyAreaEffectiveDstRects (s : ServerState) (dst : ResourceId) (drawState : DrawState)
    (r : CopyGeometry) : List RegionRect :=
  let whole : RegionRect := ⟨r.dstX, r.dstY, r.width, r.height⟩
  let clipped :=
    match drawState.clip with
    | .Rectangles origin rects => (gcClipRects origin rects).filterMap (intersectSubRects whole)
    | _ => [whole]
  match s.resources.windows[dst]? with
  | none => clipped
  | some window =>
    if drawState.subwindowMode = .ClipByChildren then
      (s.childClipRects window).foldl
        (fun current child => current.flatMap (subtractSubRect · child)) clipped
    else clipped

/-! ## The request -/

/-- The source is shifted as the piece is shifted in the destination. -/
def copySubRect (src dst : Handle) (r : CopyGeometry) (sub : RegionRect) : BackendCall :=
  .CopyArea src dst
    { srcX := saturatingAddI16 r.srcX (saturatingSubI16 sub.x r.dstX)
      srcY := saturatingAddI16 r.srcY (saturatingSubI16 sub.y r.dstY)
      dstX := sub.x
      dstY := sub.y
      width := sub.width
      height := sub.height }

/-- A coordinate left of or above the destination is reported as 0. -/
def emitCopyExposures (s : ServerState) (client : ClientId) (dst : ResourceId)
    (missing : List RegionRect) : List CopyExposure :=
  if !s.clients.contains client then []
  else if missing.isEmpty then [.NoExposure dst]
  else missing.zipIdx.map fun (r, i) =>
    .GraphicsExpose dst ((u16TryFrom r.x.toInt).getD 0) ((u16TryFrom r.y.toInt).getD 0) r.width
      r.height ((u16TryFrom (missing.length - 1 - i)).getD 0)

/-- Record drawn rectangles one after the other. -/
def accumulateRects (drawable : ResourceId) (s : ServerState × List PendingNotify)
    (rects : List RegionRect) : ServerState × List PendingNotify :=
  rects.foldl (fun (s, notifies) r =>
    let drawn := s.accumulateDamageToState drawable r.x r.y r.width r.height
    (drawn.1, notifies ++ drawn.2)) s

/-- The copy between two host drawables. -/
def copyBetween (s : ServerState) (client : ClientId) (request : CopyAreaRequest)
    (src dst : Handle) : CopyAreaOutcome :=
  let st := (s.resources.resolveDrawState request.gc).getD ⟨.None, .ClipByChildren, true⟩
  let (avail, missing) := s.resources.copyAreaSourceSplit request.src request.toCopyGeometry
  let subRects :=
    match avail with
    | none => []
    | some r =>
      if r.width = 0 ∨ r.height = 0 then [] else s.copyAreaEffectiveDstRects request.dst st r
  let copies := (avail.map fun r => subRects.map (copySubRect src dst r)).getD []
  let painted :=
    if s.resources.windows.contains request.dst then missing else []
  let copied := accumulateRects request.dst (s, []) subRects
  let drawn := accumulateRects request.dst copied painted
  { state := drawn.1
    notifies := drawn.2
    calls := copies ++ painted.map (.PaintWindowBackgroundRect dst)
    exposures :=
      if s.resources.gcs[request.gc]?.any (·.graphicsExposures) then
        s.emitCopyExposures client request.dst missing
      else [] }

/-- The backend is taken to succeed. Nothing is drawn without a host drawable
on both sides. -/
def handleCopyArea (s : ServerState) (client : ClientId) (request : CopyAreaRequest) :
    Except X11Error CopyAreaOutcome :=
  let refused (error : UInt8 × UInt32) : Except X11Error CopyAreaOutcome :=
    .error ⟨error.1, error.2, 0, 62⟩
  let nothing : CopyAreaOutcome := ⟨s, [], [], []⟩
  if request.width = 0 ∨ request.height = 0 then .ok nothing
  else
    match s.resources.validateDrawableAndGc request.src request.gc with
    | .error error => refused error
    | .ok () =>
      match s.resources.validateDrawableAndGc request.dst request.gc with
      | .error error => refused error
      | .ok () =>
        match s.resources.hostDrawableTarget request.src,
          s.resources.hostDrawableTarget request.dst with
        | some src, some dst =>
          if src.depth ≠ dst.depth then refused (BAD_MATCH, request.dst)
          else .ok (s.copyBetween client request src.hostXid dst.hostXid)
        | _, _ => .ok nothing

end ServerState

end X12

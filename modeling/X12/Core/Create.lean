import X12.Core.Damage
import X12.Core.Gc
import X12.Core.Sync
import X12.Core.WindowTree
import X12.Core.Glyphsets
import X12.Core.Zpixmap

/-! # Requests that create

Requests that create a resource under an id that the client has chosen, of the
core protocol and of the extensions. A request is given by its parsed fields
and by what the backend and the operating system answer; `none` is a failure.
Each is refused by one of its checks or inserts into one table. -/

namespace X12

/-! ## Errors -/

def BAD_VALUE : UInt8 := 2
def BAD_WINDOW : UInt8 := 3
def BAD_PIXMAP : UInt8 := 4
def BAD_ATOM : UInt8 := 5
def BAD_CURSOR : UInt8 := 6
def BAD_MATCH : UInt8 := 8
def BAD_DRAWABLE : UInt8 := 9
def BAD_ACCESS : UInt8 := 10
def BAD_ALLOC : UInt8 := 11
def BAD_COLORMAP : UInt8 := 12
def BAD_GC : UInt8 := 13
def BAD_ID_CHOICE : UInt8 := 14
def BAD_NAME : UInt8 := 15
def BAD_LENGTH : UInt8 := 16
def BAD_IMPLEMENTATION : UInt8 := 17

def RENDER_FIRST_ERROR : UInt8 := 152
def GLX_FIRST_ERROR : UInt8 := 169
def ERROR_GLX_BAD_PIXMAP : UInt8 := 3

def MIT_SHM_MAJOR_OPCODE : UInt8 := 130
def RENDER_MAJOR_OPCODE : UInt8 := 133
def XFIXES_MAJOR_OPCODE : UInt8 := 140
def COMPOSITE_MAJOR_OPCODE : UInt8 := 144
def DRI3_MAJOR_OPCODE : UInt8 := 147
def GLX_MAJOR_OPCODE : UInt8 := 148

structure X11Error where
  code : UInt8
  badValue : UInt32
  minorOpcode : UInt16
  majorOpcode : UInt8
  deriving DecidableEq, Repr

/-- The request is dropped without an error, or refused with one. -/
inductive Refusal where
  | Ignored
  | Error (error : X11Error)
  deriving DecidableEq, Repr

def emitX11ErrorWithMinor (code : UInt8) (badValue : UInt32) (minorOpcode : UInt16)
    (majorOpcode : UInt8) : Option Refusal :=
  some (.Error ⟨code, badValue, minorOpcode, majorOpcode⟩)

def emitX11Error (code : UInt8) (badValue : UInt32) (majorOpcode : UInt8) : Option Refusal :=
  emitX11ErrorWithMinor code badValue 0 majorOpcode

/-! ## Insertions into the resource table -/

structure CreatePixmapRequest where
  depth : UInt8
  pixmap : ResourceId
  drawable : ResourceId
  width : UInt16
  height : UInt16
  deriving DecidableEq, Repr

def INPUTONLY_LEGAL_MASK : UInt32 := 0x0020 ||| 0x0200 ||| 0x0800 ||| 0x1000 ||| 0x4000

def supportedPixmapDepth (depth : UInt8) : Bool :=
  depth = 1 || depth = 4 || depth = 8 || depth = 24 || depth = 32

namespace ResourceTable

/-- The pixmap gets the host object if there is one. -/
def createPixmap (t : ResourceTable) (owner : ClientId) (request : CreatePixmapRequest)
    (hostXid : Option Handle) : ResourceTable :=
  { t with
    pixmaps := t.pixmaps.insert request.pixmap
      { id := request.pixmap
        drawable := request.drawable
        width := request.width
        height := request.height
        depth := request.depth
        owner := owner
        hostXid := hostXid } }

def installFont (t : ResourceTable) (owner : ClientId) (id : ResourceId) (hostXid : Handle) :
    ResourceTable :=
  { t with fonts := t.fonts.insert id ⟨id, hostXid, owner⟩ }

/-- `create_cursor` and `create_glyph_cursor` -/
def createCursor (t : ResourceTable) (owner : ClientId) (id : ResourceId) (hostXid : Option Handle)
    (anim : Bool) : ResourceTable :=
  { t with cursors := t.cursors.insert id ⟨id, owner, hostXid, anim⟩ }

def createColormap (t : ResourceTable) (owner : ClientId) (id visual : ResourceId) :
    ResourceTable :=
  { t with colormaps := t.colormaps.insert id ⟨id, visual, none, owner⟩ }

def createPicture (t : ResourceTable) (id : ResourceId) (state : PictureState) : ResourceTable :=
  { t with pictures := t.pictures.insert id state }

/-- The window whose contents the pixmap is; the first one if there are more. -/
def compositeNamedPixmapOwnerWindow (t : ResourceTable) (pixmap : ResourceId) :
    Option ResourceId :=
  t.windows.keys.findSome? fun id =>
    t.windows[id]?.bind fun w =>
      if w.compositeNamedPixmaps.any (·.clientPixmap = pixmap) then some w.id else none

def drawableExists (t : ResourceTable) (id : ResourceId) : Bool :=
  t.windows.contains id || t.pixmaps.contains id

end ResourceTable

namespace ServerState

/-! ## Checks of an id -/

/-- The id lies in the range of the client. -/
def ownsId (s : ServerState) (client : ClientId) (id : ResourceId) : Bool :=
  s.clients[client]?.any fun c =>
    IdAllocator.validateOwned id c.resourceIdBase c.resourceIdMask

def xidOutOfClientRange (s : ServerState) (client : ClientId) (xid : ResourceId) : Bool :=
  s.clients[client]?.any fun c => xid &&& ~~~c.resourceIdMask ≠ c.resourceIdBase

/-- `validation_failed` of the core requests. -/
def validationFailed (s : ServerState) (client : ClientId) (id : ResourceId) : Bool :=
  !s.ownsId client id || s.resources.anyResourceExists id

def xfixesRegionXidAlreadyTaken (s : ServerState) (rid : ResourceId) : Bool :=
  s.xfixesRegions.contains rid || s.resources.xidInUse rid

/-! ## Contents of new regions -/

/-- The bounding region of an unshaped window takes in its border. -/
def defaultShapeRect (s : ServerState) (window : ResourceId) (kind : UInt8) : RegionRect :=
  match s.resources.windows[window]? with
  | none => ⟨0, 0, 0, 0⟩
  | some w =>
    if kind = 0 then
      let bw : Int := w.borderWidth.toNat
      { x := clampI16 (-bw)
        y := clampI16 (-bw)
        width := clampU16 (w.width.toNat + 2 * bw)
        height := clampU16 (w.height.toNat + 2 * bw) }
    else ⟨0, 0, w.width, w.height⟩

/-- Kinds 0, 1 and 2 are bounding, clip and input. -/
def shapeRectsFor (s : ServerState) (window : ResourceId) (kind : UInt8) : List RegionRect :=
  let shaped := s.shapeWindows[window]?.bind fun shape =>
    if kind = 0 then shape.bounding
    else if kind = 1 then shape.clip
    else if kind = 2 then shape.input
    else none
  shaped.getD (normalizeRegionRects [s.defaultShapeRect window kind])

end ServerState

/-- Four numbers of two bytes for each rectangle; empty rectangles and a short
rest are dropped. -/
def parseRectangles : List UInt8 → List RegionRect
  | x₀ :: x₁ :: y₀ :: y₁ :: w₀ :: w₁ :: h₀ :: h₁ :: rest =>
    let u16 (lo hi : UInt8) : UInt16 := lo.toUInt16 ||| hi.toUInt16 <<< 8
    let rect : RegionRect := ⟨(u16 x₀ x₁).toInt16, (u16 y₀ y₁).toInt16, u16 w₀ w₁, u16 h₀ h₁⟩
    if rect.isEmpty then parseRectangles rest else rect :: parseRectangles rest
  | _ => []

/-! ## The requests -/

/-- What the backend says to a font name. -/
inductive FontAnswer where
  | Opened (hostXid : Handle)
  | NotFound
  | Failed
  deriving DecidableEq, Repr

inductive CreateRequest where
  | CreateWindow (request : CreateWindowRequest) (hostXid : Option Handle)
  | CreatePixmap (request : CreatePixmapRequest) (hostXid : Option Handle)
  | CreateGC (request : CreateGcRequest)
  | OpenFont (font : ResourceId) (answer : FontAnswer)
  | CreateCursor (cursor source : ResourceId) (hostXid : Option Handle)
  | CreateGlyphCursor (cursor source : ResourceId) (hostXid : Option Handle)
  | CreateColormap (mid visual : ResourceId)
  | CopyColormapAndFree (mid source : ResourceId)
  | RenderCreatePicture (picture drawable : ResourceId) (hostPic : Option Handle)
  | RenderCreateGlyphSet (glyphset : ResourceId) (hostGs : Option Handle)
  | RenderReferenceGlyphSet (newGlyphset existing : ResourceId)
  | RenderCreateCursor (cursor source : ResourceId) (hostXid : Option Handle)
  /-- The frames are `none` if the request has an odd length. -/
  | RenderCreateAnimCursor (cursor : ResourceId) (frames : Option (List (ResourceId × UInt32)))
      (hostXid : Option Handle)
  /-- CreateSolidFill, CreateLinearGradient and CreateRadialGradient -/
  | RenderCreateSource (picture : ResourceId) (hostPic : Option Handle)
  | SyncCreateCounter (counter : ResourceId) (value : Int64)
  | SyncCreateAlarm (alarm : ResourceId) (attrs : AlarmAttributes) (idle idleAfter : Int64)
  | SyncCreateFence (fence : ResourceId) (initiallyTriggered : Bool)
  | DamageCreate (damage drawable : ResourceId) (level : UInt8)
  | XFixesCreateRegion (region : ResourceId) (rects : List RegionRect)
  | XFixesCreateRegionFromBitmap (region : ResourceId)
  | XFixesCreateRegionFromGC (region gc : ResourceId)
  | XFixesCreateRegionFromWindow (region window : ResourceId) (kind : UInt8)
  /-- The clip is `none` if the backend does not know the picture, and
  `some none` if the picture is not clipped. -/
  | XFixesCreateRegionFromPicture (region picture : ResourceId)
      (clientClip : Option (Option (List RegionRect)))
  | CompositeCreateRegionFromBorderClip (region window : ResourceId)
  | CompositeNameWindowPixmap (window pixmap : ResourceId) (hostPixmap : Option Handle)
  | ShmAttach (shmseg : ResourceId) (readOnly : Bool) (mapped : Option Nat)
  | ShmAttachFd (shmseg : ResourceId) (readOnly : Bool) (fd : Bool) (mapped : Option Nat)
  | ShmCreateSegment (shmseg : ResourceId) (size : UInt32) (readOnly : Bool) (mapped : Option Nat)
  | ShmCreatePixmap (request : CreatePixmapRequest) (shmseg : ResourceId) (offset : UInt32)
      (hostXid : Option Handle)
  | Dri3PixmapFromBuffer (request : CreatePixmapRequest) (fd : Bool) (imported : Option Handle)
  | Dri3PixmapFromBuffers (request : CreatePixmapRequest) (numBuffers : UInt8) (fd : Bool)
      (imported : Option Handle)
  | Dri3FenceFromFd (fence : ResourceId) (initiallyTriggered : Bool) (supported fd : Bool)
  /-- CreateContext, CreateNewContext, CreateContextAttribsARB and
  CreateContextWithConfigSGIX -/
  | GlxCreateContext (context : ResourceId) (fbconfig renderType : UInt32)
  | GlxCreateWindow (glxWindow xWindow : ResourceId) (fbconfig : UInt32)
  /-- CreatePixmap and CreateGLXPixmapWithConfigSGIX -/
  | GlxCreatePixmap (minor : UInt16) (glxPixmap xPixmap : ResourceId) (fbconfig : UInt32)
  | GlxCreatePbuffer (pbuffer : ResourceId) (fbconfig width height : UInt32)
  deriving DecidableEq, Repr

namespace ServerState

/-- The checks of `handle_create_window`, in their order. -/
def createWindowRefusal (s : ServerState) (client : ClientId) (request : CreateWindowRequest) :
    Option Refusal :=
  match s.resources.windows[request.parent]? with
  | none => emitX11Error BAD_WINDOW request.parent 1
  | some parent =>
    let effectiveClass :=
      if request.windowClass = 0 then parent.windowClass.protocolValue else request.windowClass
    if effectiveClass ≠ 1 ∧ effectiveClass ≠ 2 then
      emitX11Error BAD_VALUE request.windowClass.toUInt32 1
    else if parent.windowClass = .InputOnly ∧ effectiveClass ≠ 2 then
      emitX11Error BAD_MATCH 0 1
    else if effectiveClass = 2 ∧ (request.borderWidth ≠ 0 ∨ request.depth ≠ 0) then
      emitX11Error BAD_MATCH 0 1
    else if effectiveClass = 2 ∧ request.valueMask &&& ~~~INPUTONLY_LEGAL_MASK ≠ 0 then
      emitX11Error BAD_MATCH 0 1
    else if s.validationFailed client request.window then
      emitX11Error BAD_ID_CHOICE request.window 1
    else if request.visual ≠ 0 ∧ !s.resources.visuals.contains request.visual then
      emitX11Error BAD_MATCH request.visual 1
    else
      match request.backgroundPixmap.filter fun p => p > 1 && !s.resources.pixmaps.contains p with
      | some pixmap => emitX11Error BAD_PIXMAP pixmap 1
      | none =>
        match request.colormap.join.filter fun c => !s.resources.colormaps.contains c with
        | some colormap => emitX11Error BAD_COLORMAP colormap 1
        | none => none

/-- The insertions of `handle_create_window`. A window that is not InputOnly
gets a host window if its parent has one. -/
def insertWindow (s : ServerState) (client : ClientId) (request : CreateWindowRequest)
    (hostXid : Option Handle) : ServerState :=
  let resources := s.resources.createWindow client request
  let mask := request.eventMask.getD 0
  let needsHostXid := resources.windows[request.window]?.any (·.windowClass ≠ .InputOnly)
  let hostParent := request.parent = ROOT_WINDOW ||
    (resources.windows[request.parent]?.bind (·.hostXid)).isSome
  { s with
    clients :=
      if mask ≠ 0 then
        s.clients.modify client fun c =>
          { c with eventMasks := c.eventMasks.insert request.window mask }
      else s.clients
    resources :=
      match hostXid with
      | some host =>
        if needsHostXid && hostParent then
          resources.modifyWindow request.window fun w => { w with hostXid := some host }
        else resources
      | none => resources }

/-- The checks of both handlers for CreatePixmap; MIT-SHM has others besides. -/
def createPixmapRefusal (s : ServerState) (client : ClientId) (request : CreatePixmapRequest)
    (minor : UInt16) (major : UInt8) : Option Refusal :=
  if s.validationFailed client request.pixmap then
    emitX11ErrorWithMinor BAD_ID_CHOICE request.pixmap minor major
  else if !s.resources.drawableExists request.drawable then
    emitX11ErrorWithMinor BAD_DRAWABLE request.drawable minor major
  else if !supportedPixmapDepth request.depth then
    emitX11ErrorWithMinor BAD_VALUE request.depth.toUInt32 minor major
  else none

/-- The checks of MIT-SHM CreatePixmap that follow: the segment holds the image. -/
def shmImageRefusal (s : ServerState) (request : CreatePixmapRequest) (shmseg : ResourceId)
    (offset : UInt32) : Option Refusal :=
  match zpixmapExpectedLen request.width request.height request.depth with
  | none => emitX11ErrorWithMinor BAD_VALUE shmseg 5 MIT_SHM_MAJOR_OPCODE
  | some expectedLen =>
    match s.mitShmSegments[shmseg]? with
    | none => emitX11ErrorWithMinor BAD_VALUE shmseg 5 MIT_SHM_MAJOR_OPCODE
    | some segment =>
      if offset.toNat + expectedLen > segment.size then
        emitX11ErrorWithMinor BAD_VALUE offset 5 MIT_SHM_MAJOR_OPCODE
      else none

/-- The checks of RENDER CreateAnimCursor; the frames are looked at in turn. -/
def animCursorRefusal (s : ServerState) (client : ClientId) (cursor : ResourceId)
    (frames : Option (List (ResourceId × UInt32))) : Option Refusal :=
  if !s.ownsId client cursor || s.resources.xidInUse cursor then
    emitX11ErrorWithMinor BAD_ID_CHOICE cursor 31 RENDER_MAJOR_OPCODE
  else
    match frames with
    | none => emitX11ErrorWithMinor BAD_LENGTH 0 31 RENDER_MAJOR_OPCODE
    | some [] => emitX11ErrorWithMinor BAD_VALUE 0 31 RENDER_MAJOR_OPCODE
    | some frames =>
      frames.findSome? fun (sub, _) =>
        match s.resources.cursors[sub]? with
        | none => emitX11ErrorWithMinor BAD_CURSOR sub 31 RENDER_MAJOR_OPCODE
        | some c => if c.anim then emitX11ErrorWithMinor BAD_MATCH 0 31 RENDER_MAJOR_OPCODE else none

/-- The host object of an animated cursor; if the backend has none, that of the
first frame that has one. -/
def animCursorHandle (s : ServerState) (frames : List (ResourceId × UInt32))
    (hostXid : Option Handle) : Option Handle :=
  let hosts := frames.filterMap fun (sub, _) => s.resources.cursors[sub]?.bind (·.hostXid)
  hosts.head?.map hostXid.getD

/-- The check that every XFIXES request for a new region begins with. -/
def regionRefusal (s : ServerState) (client : ClientId) (region : ResourceId) :
    Option Refusal :=
  if s.xfixesRegionXidAlreadyTaken region || s.xidOutOfClientRange client region then
    emitX11Error BAD_ID_CHOICE region XFIXES_MAJOR_OPCODE
  else none

/-- The window itself or its siblings are redirected. -/
def isRedirected (s : ServerState) (window : ResourceId) (record : Window) : Bool :=
  s.compositeRedirects.any fun r => r.1 = (record.parent, true) || r.1 = (window, false)

end ServerState

namespace CreateRequest

open ServerState

/-- The check that turns the request away, if one does. -/
def refusal (s : ServerState) (client : ClientId) : CreateRequest → Option Refusal
  | CreateWindow request _ => s.createWindowRefusal client request
  | CreatePixmap request _ => s.createPixmapRefusal client request 0 53
  | CreateGC request =>
    if s.validationFailed client request.gc then emitX11Error BAD_ID_CHOICE request.gc 55
    else none
  | OpenFont font answer =>
    if s.validationFailed client font then emitX11Error BAD_ID_CHOICE font 45
    else if answer = .NotFound then emitX11Error BAD_NAME 0 45
    else none
  | CreateCursor cursor _ _ =>
    if s.resources.xidInUse cursor || s.xidOutOfClientRange client cursor then
      emitX11Error BAD_ID_CHOICE cursor 93
    else none
  | CreateGlyphCursor cursor _ _ =>
    if s.validationFailed client cursor then emitX11Error BAD_ID_CHOICE cursor 94 else none
  | CreateColormap mid _ =>
    if s.resources.xidInUse mid || s.xidOutOfClientRange client mid then
      emitX11Error BAD_ID_CHOICE mid 78
    else none
  | CopyColormapAndFree mid _ =>
    if s.resources.xidInUse mid || s.xidOutOfClientRange client mid then
      emitX11Error BAD_ID_CHOICE mid 80
    else none
  | RenderCreatePicture _ _ hostPic => if hostPic.isNone then some .Ignored else none
  | RenderCreateGlyphSet _ hostGs => if hostGs.isNone then some .Ignored else none
  | RenderReferenceGlyphSet _ existing =>
    if s.resources.glyphsets.contains existing then none else some .Ignored
  | RenderCreateCursor _ source hostXid =>
    if s.resources.pictures.contains source && hostXid.isSome then none else some .Ignored
  | RenderCreateAnimCursor cursor frames _ => s.animCursorRefusal client cursor frames
  | RenderCreateSource _ hostPic => if hostPic.isNone then some .Ignored else none
  | SyncCreateCounter _ _ => none
  | SyncCreateAlarm _ _ _ _ => none
  | SyncCreateFence _ _ => none
  | DamageCreate _ _ _ => none
  | XFixesCreateRegion region _ => s.regionRefusal client region
  | XFixesCreateRegionFromBitmap region => s.regionRefusal client region
  | XFixesCreateRegionFromGC region gc =>
    (s.regionRefusal client region).or
      (match s.resources.gcs[gc]? with
      | none => emitX11Error BAD_GC gc XFIXES_MAJOR_OPCODE
      | some g =>
        if g.clipRectangles.isNone then emitX11Error BAD_MATCH gc XFIXES_MAJOR_OPCODE else none)
  | XFixesCreateRegionFromWindow region window kind =>
    (s.regionRefusal client region).or
      (if !s.resources.windows.contains window then
        emitX11Error BAD_WINDOW window XFIXES_MAJOR_OPCODE
      else if kind > 1 then emitX11Error BAD_VALUE kind.toUInt32 XFIXES_MAJOR_OPCODE
      else none)
  | XFixesCreateRegionFromPicture region picture clientClip =>
    (s.regionRefusal client region).or
      (match s.resources.pictures[picture]? with
      | none => emitX11Error (RENDER_FIRST_ERROR + 1) picture XFIXES_MAJOR_OPCODE
      | some p =>
        if p.kind = .Sourceless then
          emitX11Error (RENDER_FIRST_ERROR + 1) picture XFIXES_MAJOR_OPCODE
        else if clientClip.join.isNone then emitX11Error BAD_MATCH picture XFIXES_MAJOR_OPCODE
        else none)
  | CompositeCreateRegionFromBorderClip _ _ => none
  | CompositeNameWindowPixmap window pixmap hostPixmap =>
    match s.resources.windows[window]? with
    | none => emitX11ErrorWithMinor BAD_WINDOW window 6 COMPOSITE_MAJOR_OPCODE
    | some w =>
      if !s.isRedirected window w then
        emitX11ErrorWithMinor BAD_MATCH window 6 COMPOSITE_MAJOR_OPCODE
      else if w.hostXid.isNone || hostPixmap.isNone then
        emitX11ErrorWithMinor BAD_ALLOC pixmap 6 COMPOSITE_MAJOR_OPCODE
      else none
  | ShmAttach shmseg _ mapped =>
    if mapped.isNone then emitX11ErrorWithMinor BAD_VALUE shmseg 1 MIT_SHM_MAJOR_OPCODE else none
  | ShmAttachFd shmseg _ fd mapped =>
    if !fd || mapped.isNone then emitX11ErrorWithMinor BAD_VALUE shmseg 6 MIT_SHM_MAJOR_OPCODE
    else none
  | ShmCreateSegment shmseg size _ mapped =>
    if size = 0 then emitX11ErrorWithMinor BAD_VALUE shmseg 7 MIT_SHM_MAJOR_OPCODE
    else if mapped.isNone then emitX11ErrorWithMinor BAD_ALLOC shmseg 7 MIT_SHM_MAJOR_OPCODE
    else none
  | ShmCreatePixmap request shmseg offset _ =>
    (s.createPixmapRefusal client request 5 MIT_SHM_MAJOR_OPCODE).or
      (s.shmImageRefusal request shmseg offset)
  | Dri3PixmapFromBuffer request fd imported =>
    if !fd || imported.isNone then
      emitX11ErrorWithMinor BAD_ALLOC request.pixmap 2 DRI3_MAJOR_OPCODE
    else none
  | Dri3PixmapFromBuffers request numBuffers fd imported =>
    if numBuffers ≠ 1 ∨ !fd ∨ imported.isNone then
      emitX11ErrorWithMinor BAD_ALLOC request.pixmap 7 DRI3_MAJOR_OPCODE
    else none
  | Dri3FenceFromFd fence _ supported fd =>
    if !supported then emitX11ErrorWithMinor BAD_IMPLEMENTATION 0 4 DRI3_MAJOR_OPCODE
    else if !fd then emitX11ErrorWithMinor BAD_ALLOC fence 4 DRI3_MAJOR_OPCODE
    else none
  | GlxCreateContext _ _ _ => none
  | GlxCreateWindow _ _ _ => none
  | GlxCreatePixmap minor _ xPixmap _ =>
    if !s.resources.pixmaps.contains xPixmap then
      emitX11ErrorWithMinor (GLX_FIRST_ERROR + ERROR_GLX_BAD_PIXMAP) xPixmap minor GLX_MAJOR_OPCODE
    else none
  | GlxCreatePbuffer _ _ _ _ => none

/-- The next state if no check has turned the request away. -/
def insert (s : ServerState) (client : ClientId) : CreateRequest → ServerState
  | CreateWindow request hostXid => s.insertWindow client request hostXid
  | CreatePixmap request hostXid =>
    { s with resources := s.resources.createPixmap client request hostXid }
  | CreateGC request => { s with resources := s.resources.createGc client request }
  | OpenFont font answer =>
    -- a font that failed to open gets a handle that draws nothing
    let hostXid := match answer with
      | .Opened hostXid => hostXid
      | _ => 0xffffffff
    { s with resources := s.resources.installFont client font hostXid }
  | CreateCursor cursor source hostXid =>
    let sourceHost := s.resources.pixmaps[source]?.bind (·.hostXid)
    { s with
      resources := s.resources.createCursor client cursor (sourceHost.bind fun _ => hostXid) false }
  | CreateGlyphCursor cursor source hostXid =>
    let sourceHost := s.resources.fonts[source]?
    { s with
      resources := s.resources.createCursor client cursor (sourceHost.bind fun _ => hostXid) false }
  | CreateColormap mid visual =>
    { s with resources := s.resources.createColormap client mid visual }
  | CopyColormapAndFree mid source =>
    let visual := s.resources.colormaps[source]?.elim ROOT_VISUAL (·.visual)
    { s with resources := s.resources.createColormap client mid visual }
  | RenderCreatePicture picture drawable hostPic =>
    { s with
      resources := s.resources.createPicture picture
        { client := client
          hostPictureXid := hostPic.getD 0
          hostOwnedPixmap := none
          kind := .Drawable
          drawable := some ((s.resources.compositeNamedPixmapOwnerWindow drawable).getD drawable) } }
  | RenderCreateGlyphSet glyphset hostGs =>
    { s with resources := s.resources.createGlyphset glyphset ⟨client, hostGs.getD 0⟩ }
  | RenderReferenceGlyphSet newGlyphset existing =>
    { s with resources := s.resources.referenceGlyphset client newGlyphset existing }
  | RenderCreateCursor cursor _ hostXid =>
    { s with resources := s.resources.createCursor client cursor hostXid false }
  | RenderCreateAnimCursor cursor frames hostXid =>
    let handle := s.animCursorHandle (frames.getD []) hostXid
    { s with resources := s.resources.createCursor client cursor handle true }
  | RenderCreateSource picture hostPic =>
    { s with
      resources := s.resources.createPicture picture
        { client := client
          hostPictureXid := hostPic.getD 0
          hostOwnedPixmap := none
          kind := .Sourceless
          drawable := none } }
  | SyncCreateCounter counter value =>
    { s with syncCounters := s.syncCounters.insert counter ⟨client, value⟩ }
  | SyncCreateAlarm alarm attrs idle idleAfter =>
    (s.syncCreateAlarm client alarm attrs idle idleAfter).1
  | SyncCreateFence fence initiallyTriggered =>
    { s with syncFences := s.syncFences.insert fence ⟨client, initiallyTriggered⟩ }
  | DamageCreate damage drawable level => (s.damageCreate client damage drawable level).1
  | XFixesCreateRegion region rects =>
    { s with xfixesRegions := s.xfixesRegions.insert region ⟨client, normalizeRegionRects rects⟩ }
  | XFixesCreateRegionFromBitmap region =>
    { s with xfixesRegions := s.xfixesRegions.insert region ⟨client, []⟩ }
  | XFixesCreateRegionFromGC region gc =>
    -- the rectangles are copied without the origin of the clip
    let clip := s.resources.gcs[gc]?.bind (·.clipRectangles)
    let rects := clip.elim [] fun c => parseRectangles c.rectangles
    { s with xfixesRegions := s.xfixesRegions.insert region ⟨client, rects⟩ }
  | XFixesCreateRegionFromWindow region window kind =>
    { s with xfixesRegions := s.xfixesRegions.insert region ⟨client, s.shapeRectsFor window kind⟩ }
  | XFixesCreateRegionFromPicture region _ clientClip =>
    let rects := normalizeRegionRects (clientClip.join.getD [])
    { s with xfixesRegions := s.xfixesRegions.insert region ⟨client, rects⟩ }
  | CompositeCreateRegionFromBorderClip region window =>
    let rects := normalizeRegionRects [s.resources.drawableFullRect window]
    { s with xfixesRegions := s.xfixesRegions.insert region ⟨client, rects⟩ }
  | CompositeNameWindowPixmap window pixmap hostPixmap =>
    match s.resources.windows[window]? with
    | none => s
    | some w =>
      let t := s.resources.createPixmap client ⟨w.depth, pixmap, window, w.width, w.height⟩
        hostPixmap
      { s with
        resources := t.modifyWindow window fun w =>
          { w with
            compositeNamedPixmaps := w.compositeNamedPixmaps ++
              [⟨pixmap, hostPixmap.getD 0, w.width, w.height⟩] } }
  | ShmAttach shmseg readOnly mapped =>
    { s with
      mitShmSegments := s.mitShmSegments.insert shmseg ⟨client, mapped.getD 0, readOnly⟩ }
  | ShmAttachFd shmseg readOnly _ mapped =>
    { s with
      mitShmSegments := s.mitShmSegments.insert shmseg ⟨client, mapped.getD 0, readOnly⟩ }
  | ShmCreateSegment shmseg _ readOnly mapped =>
    { s with
      mitShmSegments := s.mitShmSegments.insert shmseg ⟨client, mapped.getD 0, readOnly⟩ }
  | ShmCreatePixmap request _ _ hostXid =>
    { s with resources := s.resources.createPixmap client request hostXid }
  | Dri3PixmapFromBuffer request _ imported =>
    { s with resources := s.resources.createPixmap client request imported }
  | Dri3PixmapFromBuffers request _ _ imported =>
    { s with resources := s.resources.createPixmap client request imported }
  | Dri3FenceFromFd fence initiallyTriggered _ _ =>
    { s with syncFences := s.syncFences.insert fence ⟨client, initiallyTriggered⟩ }
  | GlxCreateContext context fbconfig renderType =>
    { s with glxContexts := s.glxContexts.insert context ⟨client, fbconfig, renderType⟩ }
  | GlxCreateWindow glxWindow xWindow fbconfig =>
    { s with
      glxDrawables := s.glxDrawables.insert glxWindow ⟨client, xWindow, fbconfig, 0, 0, [], none⟩ }
  | GlxCreatePixmap _ glxPixmap xPixmap fbconfig =>
    -- the host object is kept, since the pixmap may be freed first
    let hostXid := s.resources.pixmaps[xPixmap]?.bind (·.hostXid)
    { s with
      glxDrawables := s.glxDrawables.insert glxPixmap
        ⟨client, xPixmap, fbconfig, 0, 0, [], hostXid⟩ }
  | GlxCreatePbuffer pbuffer fbconfig width height =>
    { s with
      glxDrawables := s.glxDrawables.insert pbuffer
        ⟨client, pbuffer, fbconfig, width, height, [], none⟩ }

end CreateRequest

/-- A request that creates a resource, and how it was turned away if it was. -/
def ServerState.create (s : ServerState) (client : ClientId) (request : CreateRequest) :
    ServerState × Option Refusal :=
  match request.refusal s client with
  | some refusal => (s, some refusal)
  | none => (request.insert s client, none)

/-! ## Requests that overwrite

These write to an id whether or not it names anything, without a check. -/

inductive RegionOp where
  | Union
  | Intersect
  | Subtract
  deriving DecidableEq, Repr

def RegionOp.apply : RegionOp → List RegionRect → List RegionRect → List RegionRect
  | Union => unionRegions
  | Intersect => intersectRegions
  | Subtract => subtractRegions

inductive OverwriteRequest where
  | XFixesSetRegion (region : ResourceId) (rects : List RegionRect)
  | XFixesCopyRegion (source dest : ResourceId)
  | XFixesCombineRegions (op : RegionOp) (source1 source2 dest : ResourceId)
  | XFixesInvertRegion (source : ResourceId) (bounds : RegionRect) (dest : ResourceId)
  | XFixesRegionExtents (source dest : ResourceId)
  | DamageSubtract (damage repair parts : ResourceId)
  | PresentSelectInput (eid window : ResourceId) (eventMask : UInt32)
  deriving DecidableEq, Repr

namespace ServerState

/-- The region is replaced, and its owner with it. -/
def writeRegion (s : ServerState) (client : ClientId) (dest : ResourceId)
    (rects : List RegionRect) : ServerState :=
  { s with xfixesRegions := s.xfixesRegions.insert dest ⟨client, rects⟩ }

def overwrite (s : ServerState) (client : ClientId) : OverwriteRequest → ServerState
  | .XFixesSetRegion region rects =>
    let rects := normalizeRegionRects rects
    match s.xfixesRegions[region]? with
    | some r => { s with xfixesRegions := s.xfixesRegions.insert region { r with rects := rects } }
    | none => s.writeRegion client region rects
  | .XFixesCopyRegion source dest => s.writeRegion client dest (s.regionRects source)
  | .XFixesCombineRegions op source1 source2 dest =>
    s.writeRegion client dest (op.apply (s.regionRects source1) (s.regionRects source2))
  | .XFixesInvertRegion source bounds dest =>
    s.writeRegion client dest
      (subtractRegions (normalizeRegionRects [bounds]) (s.regionRects source))
  | .XFixesRegionExtents source dest =>
    let rect := s.xfixesRegions[source]?.elim ⟨0, 0, 0, 0⟩ fun r => regionExtents r.rects
    s.writeRegion client dest (normalizeRegionRects [rect])
  | .DamageSubtract damage repair parts => (s.damageSubtract client damage repair parts).1
  | .PresentSelectInput eid window eventMask =>
    { s with
      presentEventSelections := s.presentEventSelections.insert eid ⟨client, window, eventMask⟩ }

end ServerState

end X12

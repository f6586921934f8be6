import X12.Lib.Lifetimes
import X12.Core.Create
import X12.Core.Disconnect

/-! # Host pixmaps and the requests that free them

A host pixmap is made for a pixmap of a client, and outlives it as the
background of a window or in a graphics context. Nothing counts these uses:
whoever lets go of a host pixmap looks for others and frees it if it finds
none. -/

namespace X12

/-- An attribute that is not given is left as it is. A colormap of `some none` is
CopyFromParent. -/
structure ChangeWindowAttributesRequest where
  window : ResourceId
  valueMask : UInt32
  backgroundPixmap : Option ResourceId
  backgroundPixel : Option UInt32
  bitGravity : Option UInt8
  winGravity : Option UInt8
  backingStore : Option UInt8
  backingPlanes : Option UInt32
  backingPixel : Option UInt32
  overrideRedirect : Option Bool
  saveUnder : Option Bool
  eventMask : Option UInt32
  doNotPropagateMask : Option UInt16
  colormap : Option (Option ResourceId)
  cursor : Option ResourceId
  deriving DecidableEq, Repr

/-- No attribute is given. -/
def ChangeWindowAttributesRequest.none (window : ResourceId) : ChangeWindowAttributesRequest :=
  ⟨window, 0, .none, .none, .none, .none, .none, .none, .none, .none, .none, .none, .none, .none,
    .none⟩

/-- The host pixmap is the tile, the stipple or the clip mask. -/
def Gc.uses (g : Gc) (hostXid : Handle) : Bool :=
  g.clipPixmapHostXid = some hostXid || g.tileHostXid = some hostXid ||
    g.stippleHostXid = some hostXid

namespace ResourceTable

/-! ## Who uses a host pixmap -/

def hostXidReferencedByWindowBg (t : ResourceTable) (hostXid : Handle) : Bool :=
  t.windows.toList.any fun (_, w) => w.backgroundPixmapHostXid = some hostXid

def hostXidReferencedByGc (t : ResourceTable) (hostXid : Handle) : Bool :=
  t.gcs.toList.any fun (_, g) => g.uses hostXid

def hostXidOwnedByPixmap (t : ResourceTable) (hostXid : Handle) : Bool :=
  t.pixmaps.toList.any fun (_, p) => p.hostXid = some hostXid

/-! ## Window attributes -/

/-- The host pixmap of a background; None and ParentRelative have none. -/
def newBgHostXid (t : ResourceTable) (bgPixmap : ResourceId) : Option Handle :=
  if bgPixmap = 0 then none else t.pixmapHostXid bgPixmap

/-- CopyFromParent is resolved when the attribute is set. -/
def resolvedColormap (t : ResourceTable) (request : ChangeWindowAttributesRequest) :
    Option ResourceId :=
  match request.colormap with
  | some (some id) => some id
  | some none =>
    let parent := (t.windows[request.window]?.map (·.parent)).getD ROOT_WINDOW
    some (t.windows[parent]?.elim ROOT_COLORMAP (·.colormap))
  | none => none

/-- The change of one record. A pixel given along with a pixmap provides the
background. -/
def changedWindow (t : ResourceTable) (request : ChangeWindowAttributesRequest) (window : Window) :
    Window :=
  { window with
    backgroundPixmap :=
      request.backgroundPixmap.elim window.backgroundPixmap fun bg => if bg = 0 then none else some bg
    backgroundPixmapHostXid :=
      request.backgroundPixmap.elim window.backgroundPixmapHostXid t.newBgHostXid
    backgroundNone :=
      if request.backgroundPixel.isSome then false
      else request.backgroundPixmap.elim window.backgroundNone (· = 0)
    backgroundPixel := request.backgroundPixel.getD window.backgroundPixel
    bitGravity := request.bitGravity.getD window.bitGravity
    winGravity := request.winGravity.getD window.winGravity
    backingStore := request.backingStore.getD window.backingStore
    backingPlanes := request.backingPlanes.getD window.backingPlanes
    backingPixel := request.backingPixel.getD window.backingPixel
    overrideRedirect := request.overrideRedirect.getD window.overrideRedirect
    saveUnder := request.saveUnder.getD window.saveUnder
    doNotPropagateMask := request.doNotPropagateMask.getD window.doNotPropagateMask
    colormap := (t.resolvedColormap request).getD window.colormap
    cursor := request.cursor.or window.cursor }

/-- The host pixmap of the background that is replaced by another one. -/
def previousBgHostXid (t : ResourceTable) (request : ChangeWindowAttributesRequest) :
    Option Handle :=
  request.backgroundPixmap.bind fun bg =>
    (t.windows[request.window]?.bind (·.backgroundPixmapHostXid)).filter fun old =>
      t.newBgHostXid bg ≠ some old

/-- The table, and the host pixmap that the window no longer uses. -/
def changeWindowAttributes (t : ResourceTable) (request : ChangeWindowAttributesRequest) :
    ResourceTable × Option Handle :=
  (t.modifyWindow request.window (t.changedWindow request), t.previousBgHostXid request)

/-! ## Pixmaps -/

def freePixmap (t : ResourceTable) (id : ResourceId) : ResourceTable × Option Pixmap :=
  ({ t with pixmaps := t.pixmaps.erase id }, t.pixmaps[id]?)

/-- The backgrounds in a subtree, with the rounds of the recursion that are
left. -/
def collectBgPixmapHostXids (t : ResourceTable) : Nat → ResourceId → List Handle
  | 0, _ => []
  | fuel + 1, id =>
    match t.windows[id]? with
    | none => []
    | some w =>
      w.backgroundPixmapHostXid.toList ++ w.children.flatMap (t.collectBgPixmapHostXids fuel)

/-- `freed_pixmaps` of a client that is removed, in some order. -/
def freedPixmaps (t : ResourceTable) (client : ClientId) : List Handle :=
  t.pixmaps.toList.filterMap fun (_, p) => if p.owner = client then p.hostXid else none

end ResourceTable

/-! ## Requests -/

/-- The state after a request, the calls to the backend that are about host
pixmaps, and how the request was turned away if it was. -/
structure PixmapOutcome where
  state : ServerState
  calls : List (Lifetimes.Call Handle)
  refusal : Option Refusal

namespace ServerState

def createPixmap (s : ServerState) (client : ClientId) (request : CreatePixmapRequest)
    (hostXid : Option Handle) : PixmapOutcome :=
  match s.create client (.CreatePixmap request hostXid) with
  | (s, none) => ⟨s, hostXid.toList.map .create, none⟩
  | (s, some refusal) => ⟨s, [], some refusal⟩

/-- The host pixmap is left to windows and graphics contexts that use it. -/
def freePixmap (s : ServerState) (pixmap : ResourceId) : PixmapOutcome :=
  let (resources, removed) := s.resources.freePixmap pixmap
  let freed := (removed.bind (·.hostXid)).filter fun xid =>
    !resources.hostXidReferencedByWindowBg xid && !resources.hostXidReferencedByGc xid
  ⟨{ s with resources := resources }, freed.toList.map .free, none⟩

def createGc (s : ServerState) (client : ClientId) (request : CreateGcRequest) : PixmapOutcome :=
  let (s, refusal) := s.create client (.CreateGC request)
  ⟨s, [], refusal⟩

/-- `validate_gc_only` -/
def gcRefusal (s : ServerState) (gc : ResourceId) (major : UInt8) : Option Refusal :=
  if s.resources.gcs.contains gc then none else emitX11Error BAD_GC gc major

def changeGc (s : ServerState) (request : GcChange) : PixmapOutcome :=
  match s.gcRefusal request.gc 56 with
  | some refusal => ⟨s, [], some refusal⟩
  | none => ⟨{ s with resources := s.resources.changeGc request }, [], none⟩

def copyGc (s : ServerState) (src dst : ResourceId) (valueMask : UInt32) : PixmapOutcome :=
  ⟨{ s with resources := s.resources.copyGc src dst valueMask }, [], none⟩

def setClipRectangles (s : ServerState) (gc : ResourceId) (clip : ClipRectangles) :
    PixmapOutcome :=
  match s.gcRefusal gc 59 with
  | some refusal => ⟨s, [], some refusal⟩
  | none => ⟨{ s with resources := s.resources.setClipRectangles gc clip }, [], none⟩

def freeGc (s : ServerState) (gc : ResourceId) : PixmapOutcome :=
  ⟨{ s with resources := s.resources.freeGc gc }, [], none⟩

def createWindow (s : ServerState) (client : ClientId) (request : CreateWindowRequest)
    (hostXid : Option Handle) : PixmapOutcome :=
  let (s, refusal) := s.create client (.CreateWindow request hostXid)
  ⟨s, [], refusal⟩

/-- The checks of `handle_change_window_attributes`, in their order. -/
def changeWindowAttributesRefusal (s : ServerState) (request : ChangeWindowAttributesRequest) :
    Option Refusal :=
  match s.resources.windows[request.window]? with
  | none => emitX11Error BAD_WINDOW request.window 2
  | some window =>
    if window.windowClass = .InputOnly ∧ request.valueMask &&& ~~~INPUTONLY_LEGAL_MASK ≠ 0 then
      emitX11Error BAD_MATCH 0 2
    else
      match request.backgroundPixmap.filter fun p => p > 1 && !s.resources.pixmaps.contains p with
      | some pixmap => emitX11Error BAD_PIXMAP pixmap 2
      | none =>
        match request.colormap.join.filter fun c => !s.resources.colormaps.contains c with
        | some colormap => emitX11Error BAD_COLORMAP colormap 2
        | none =>
          match request.cursor.filter fun c => c ≠ 0 && !s.resources.cursors.contains c with
          | some cursor => emitX11Error BAD_CURSOR cursor 2
          | none => none

/-- An event mask of zero selects nothing. -/
def selectEvents (s : ServerState) (client : ClientId) (window : ResourceId) (mask : UInt32) :
    ServerState :=
  { s with
    clients := s.clients.modify client fun c =>
      { c with
        eventMasks :=
          if mask = 0 then c.eventMasks.erase window else c.eventMasks.insert window mask } }

/-- A replaced background is freed if no window has it and no client owns it. -/
def changeWindowAttributes (s : ServerState) (client : ClientId)
    (request : ChangeWindowAttributesRequest) : PixmapOutcome :=
  match s.changeWindowAttributesRefusal request with
  | some refusal => ⟨s, [], some refusal⟩
  | none =>
    let s := request.eventMask.elim s (s.selectEvents client request.window)
    let (resources, previous) := s.resources.changeWindowAttributes request
    let freed := previous.filter fun xid =>
      !resources.hostXidReferencedByWindowBg xid && !resources.hostXidOwnedByPixmap xid
    ⟨{ s with resources := resources }, freed.toList.map .free, none⟩

/-- The tables after a subtree is gone. Backgrounds of the subtree are freed if
no window that is left has them and no client owns them. -/
def destroyWindowSubtree (s : ServerState) (root : ResourceId) :
    ServerState × List (Lifetimes.Call Handle) :=
  let order := s.resources.collectDestroyOrder s.resources.windows.size root
  let bgPixmapXids := s.resources.collectBgPixmapHostXids s.resources.windows.size root
  let s := { s with compositeRedirects := s.compositeRedirects.filter fun r => r.1.1 ∉ order }
  let s := s.dropSelectionsOwnedByWindows order
  let resources := (s.resources.destroyWindow root).1
  let s := { s with resources := resources }.dropWindowSubscriptions order
  let freed := bgPixmapXids.filter fun xid =>
    !resources.hostXidReferencedByWindowBg xid && !resources.hostXidOwnedByPixmap xid
  (s, freed.map .free)

def destroyWindow (s : ServerState) (window : ResourceId) : PixmapOutcome :=
  if s.resources.windows.contains window then
    let (s, calls) := s.destroyWindowSubtree window
    ⟨s, calls, none⟩
  else ⟨s, [], emitX11Error BAD_WINDOW window 4⟩

/-- The host pixmaps of the client are freed unless its resources are
retained. -/
def disconnect (s : ServerState) (client : ClientId) (choices : DisconnectChoices) :
    PixmapOutcome :=
  let freed :=
    if s.clients.contains client && !s.retainsResources client then
      s.resources.freedPixmaps client
    else []
  ⟨s.processDisconnect choices client, freed.map .free, none⟩

end ServerState

end X12

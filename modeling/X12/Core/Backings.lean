import X12.Core.Create
import X12.Core.DrawableStore
import X12.Core.HostPixmaps

/-! # Backings of redirected windows

A redirected window is drawn to a backing, a pixmap of the backend that clients can name.
A registry counts the holds on a backing: one for the window and one for each name. A pixmap
that is bound to GLX or whose buffer is exported has one more hold, however often it is
bound. A pixmap that is freed while it is a background keeps its hold for the windows that
show it. What is drawn is left out. -/

namespace X12

structure AliasEntry where
  refcount : UInt32
  width : UInt16
  height : UInt16
  depth : UInt8
  deriving DecidableEq, Repr

abbrev AliasRegistry := ResourceMap AliasEntry

namespace AliasRegistry

def incref (r : AliasRegistry) (hostPixmap : Handle) : AliasRegistry :=
  Std.ExtTreeMap.modify r hostPixmap fun e =>
    { e with refcount := DrawableStore.saturatingSuccU32 e.refcount }

/-- `u32::saturating_sub(1)` -/
def saturatingPredU32 (v : UInt32) : UInt32 :=
  if v = 0 then 0 else v - 1

/-- Whether the last reference has been dropped. -/
def decref (r : AliasRegistry) (hostPixmap : Handle) : AliasRegistry × Bool :=
  match r[hostPixmap]? with
  | none => (r, false)
  | some e =>
    let refcount := saturatingPredU32 e.refcount
    if refcount = 0 then (r.erase hostPixmap, true)
    else (Std.ExtTreeMap.modify r hostPixmap fun e => { e with refcount := refcount }, false)

end AliasRegistry

structure ExportedBacking where
  /-- There is a duplicate of the exported descriptor. -/
  fd : Bool
  glxRefs : UInt32
  lifetimeRefHeld : Bool
  backingId : DrawableId
  backing : Handle
  lifetimeViaAlias : Bool
  deriving DecidableEq, Repr

/-- What the backend keeps of pixmaps, and which fences have signalled. -/
structure KmsBackend where
  nextHostXid : UInt32
  hostWindowToBacking : ResourceMap Handle
  aliasRegistry : AliasRegistry
  exportedDmabufs : Std.ExtTreeMap DrawableId ExportedBacking
  store : DrawableStore
  signalled : FenceTicket → Bool

namespace KmsBackend

def new : KmsBackend where
  nextHostXid := 0x00400000
  hostWindowToBacking := ∅
  aliasRegistry := ∅
  exportedDmabufs := ∅
  store := .new
  signalled _ := false

/-- `none` is the overflow of the counter. -/
def takeHostXid (b : KmsBackend) : Option (KmsBackend × Handle) :=
  if b.nextHostXid.toNat + 1 < 2 ^ 32 then
    some ({ b with nextHostXid := b.nextHostXid + 1 }, b.nextHostXid + 1)
  else none

/-- `stored` is whether there is storage for the pixmap. -/
def createPixmap (b : KmsBackend) (depth : UInt8) (stored : Bool) :
    Option (KmsBackend × Option Handle) := do
  let (b, xid) ← b.takeHostXid
  if stored then
    match b.store.allocate xid .Pixmap depth false with
    | .ok (store, _) => return ({ b with store := store }, some xid)
    | .error _ => return (b, some xid)
  else return (b, none)

def storeDecref (b : KmsBackend) (id : DrawableId) : KmsBackend :=
  { b with store := (b.store.decref b.signalled id).1 }

/-! ## Exports -/

/-- The hold of an export, on the counter that counts the holds on the pixmap. -/
def takeBackingLifetimeRef (b : KmsBackend) (id : DrawableId) (backing : Handle) :
    KmsBackend × Bool :=
  if b.aliasRegistry.contains backing then
    ({ b with aliasRegistry := b.aliasRegistry.incref backing }, true)
  else ({ b with store := b.store.incref id }, false)

def releaseBackingLifetimeRef (b : KmsBackend) (entry : ExportedBacking) : KmsBackend :=
  if entry.lifetimeViaAlias then
    let (registry, last) := b.aliasRegistry.decref entry.backing
    let b := { b with aliasRegistry := registry }
    if last then b.storeDecref entry.backingId else b
  else b.storeDecref entry.backingId

def ensureExportedEntry (b : KmsBackend) (id : DrawableId) (backing : Handle) : KmsBackend :=
  if b.exportedDmabufs.contains id then b
  else
    let (b, viaAlias) := b.takeBackingLifetimeRef id backing
    { b with
      exportedDmabufs := b.exportedDmabufs.insert id
        { fd := false
          glxRefs := 0
          lifetimeRefHeld := true
          backingId := id
          backing := backing
          lifetimeViaAlias := viaAlias } }

def modifyExport (b : KmsBackend) (id : DrawableId) (f : ExportedBacking → ExportedBacking) :
    KmsBackend :=
  { b with exportedDmabufs := b.exportedDmabufs.modify id f }

/-- An export without GLX pixmaps is given up. -/
def maybeTeardownExport (b : KmsBackend) (id : DrawableId) : KmsBackend :=
  match b.exportedDmabufs[id]? with
  | none => b
  | some e =>
    if e.glxRefs = 0 then
      let b := { b with exportedDmabufs := b.exportedDmabufs.erase id }
      if e.lifetimeRefHeld then b.releaseBackingLifetimeRef e else b
    else b

def acquireGlxPixmapExport (b : KmsBackend) (hostXid : Handle) : KmsBackend :=
  match b.store.lookup hostXid with
  | none => b
  | some id =>
    (b.ensureExportedEntry id hostXid).modifyExport id fun e => { e with glxRefs := e.glxRefs + 1 }

def releaseGlxPixmapExport (b : KmsBackend) (hostXid : Handle) : KmsBackend :=
  match b.store.lookup hostXid with
  | none => b
  | some id =>
    (b.modifyExport id fun e =>
      { e with glxRefs := AliasRegistry.saturatingPredU32 e.glxRefs }).maybeTeardownExport id

/-- The part of `dri3_buffer_from_pixmap` that keeps the export, which has succeeded. -/
def dri3BufferFromPixmap (b : KmsBackend) (hostXid : Handle) : KmsBackend :=
  match b.store.lookup hostXid with
  | none => b
  | some id =>
    if b.exportedDmabufs[id]?.all (!·.fd) then
      (b.ensureExportedEntry id hostXid).modifyExport id fun e => { e with fd := true }
    else b

/-! ## Backings -/

def freePixmap (b : KmsBackend) (hostXid : Handle) : KmsBackend :=
  let exportId := b.store.lookup hostXid
  let b :=
    if b.aliasRegistry.contains hostXid then
      let (registry, last) := b.aliasRegistry.decref hostXid
      let b := { b with aliasRegistry := registry }
      if last then (b.store.lookup hostXid).elim b b.storeDecref else b
    else (b.store.lookup hostXid).elim b b.storeDecref
  exportId.elim b b.maybeTeardownExport

/-- The backing that the window has, or a new one. -/
def allocateRedirectedBacking (b : KmsBackend) (hostWindow : Handle) (width height : UInt16)
    (depth : UInt8) (stored : Bool) : Option (KmsBackend × Option Handle) :=
  match b.hostWindowToBacking[hostWindow]? with
  | some existing => some (b, some existing)
  | none => do
    let (b, created) ← b.createPixmap depth stored
    match created with
    | none => return (b, none)
    | some backing =>
      return ({ b with
        aliasRegistry := b.aliasRegistry.insert backing ⟨1, width, height, depth⟩
        hostWindowToBacking := b.hostWindowToBacking.insert hostWindow backing }, some backing)

def nameWindowPixmap (b : KmsBackend) (hostWindow : Handle) : KmsBackend × Option Handle :=
  match b.hostWindowToBacking[hostWindow]? with
  | none => (b, none)
  | some backing => ({ b with aliasRegistry := b.aliasRegistry.incref backing }, some backing)

def retainBackingStorage (b : KmsBackend) (backing : Handle) : KmsBackend :=
  if b.aliasRegistry.contains backing then
    { b with aliasRegistry := b.aliasRegistry.incref backing }
  else b

def dropBackingStorage (b : KmsBackend) (backing : Handle) : KmsBackend :=
  let (registry, last) := b.aliasRegistry.decref backing
  let b := { b with aliasRegistry := registry }
  if last then b.freePixmap backing else b

def releaseRedirectedBacking (b : KmsBackend) (backing : Handle) : KmsBackend :=
  { b with
    hostWindowToBacking :=
      b.hostWindowToBacking.filter fun _ h => h ≠ backing }.dropBackingStorage backing

end KmsBackend

/-! ## Requests -/

structure RedirectServer where
  resources : ResourceTable
  glxDrawables : ResourceMap GlxDrawable
  backend : KmsBackend

namespace RedirectServer

def new : RedirectServer where
  resources := .default
  glxDrawables := ∅
  backend := .new

def modifyWindow (s : RedirectServer) (window : ResourceId) (f : Window → Window) :
    RedirectServer :=
  { s with resources := s.resources.modifyWindow window f }

def setBackend (s : RedirectServer) (b : KmsBackend) : RedirectServer := { s with backend := b }

def setResources (s : RedirectServer) (t : ResourceTable) : RedirectServer :=
  { s with resources := t }

/-- `create_window` has been let in; `hosted` is whether the backend could make the host
window. -/
def createWindow (s : RedirectServer) (client : ClientId) (request : CreateWindowRequest)
    (hosted : Bool) : Option RedirectServer :=
  if s.resources.windows.contains request.window ||
      !s.resources.windows.contains request.parent then some s
  else
    let resources := s.resources.createWindow client request
    let needsHostXid := resources.windows[request.window]?.any (·.windowClass ≠ .InputOnly)
    let hostParent := request.parent = ROOT_WINDOW ||
      (resources.windows[request.parent]?.bind (·.hostXid)).isSome
    if needsHostXid && hostParent then do
      let (b, host) ← s.backend.takeHostXid
      let s := (s.setResources resources).setBackend b
      return if hosted then s.modifyWindow request.window fun w => { w with hostXid := some host }
        else s
    else some (s.setResources resources)

def createPixmap (s : RedirectServer) (client : ClientId) (request : CreatePixmapRequest)
    (stored : Bool) : Option RedirectServer :=
  if s.resources.pixmaps.contains request.pixmap then some s
  else do
    let (b, created) ← s.backend.createPixmap request.depth stored
    match created with
    | none => return s.setBackend b
    | some xid =>
      return (s.setResources (s.resources.createPixmap client request (some xid))).setBackend b

/-- The host pixmap of a pixmap that nothing else uses. -/
def freedPixmap (s : RedirectServer) (pixmap : ResourceId) : Option Handle :=
  let (resources, removed) := s.resources.freePixmap pixmap
  (removed.bind (·.hostXid)).filter fun xid =>
    !resources.hostXidReferencedByWindowBg xid && !resources.hostXidReferencedByGc xid

def freePixmap (s : RedirectServer) (pixmap : ResourceId) : RedirectServer :=
  (s.setResources (s.resources.freePixmap pixmap).1).setBackend
    ((s.freedPixmap pixmap).elim s.backend s.backend.freePixmap)

/-- The background that is replaced, if it has no pixmap any more and no other window has
it. -/
def freedBackground (s : RedirectServer) (request : ChangeWindowAttributesRequest) :
    Option Handle :=
  let (resources, previous) := s.resources.changeWindowAttributes request
  previous.filter fun xid =>
    !resources.hostXidReferencedByWindowBg xid && !resources.hostXidOwnedByPixmap xid

def changeWindowAttributes (s : RedirectServer) (request : ChangeWindowAttributesRequest) :
    RedirectServer :=
  (s.setResources (s.resources.changeWindowAttributes request).1).setBackend
    ((s.freedBackground request).elim s.backend s.backend.freePixmap)

/-- The requests of graphics contexts free no pixmap. -/
def changeGcs (s : RedirectServer) (gcs : ResourceMap Gc) : RedirectServer :=
  s.setResources { s.resources with gcs := gcs }

/-- The overlay is never redirected. -/
def activateRedirectBackingFor (s : RedirectServer) (window : ResourceId) (stored : Bool) :
    Option RedirectServer :=
  if window = COMPOSITE_OVERLAY_WINDOW then some s
  else
    match s.resources.windows[window]? with
    | none => some s
    | some w =>
      if w.redirectedBacking.isSome then some s
      else
        match w.hostXid with
        | none => some s
        | some hostWindow => do
          let (b, allocated) ←
            s.backend.allocateRedirectedBacking hostWindow w.width w.height w.depth stored
          match allocated with
          | none => return s.setBackend b
          | some hostPixmap =>
            return (s.setBackend b).modifyWindow window fun w =>
              { w with redirectedBacking := some ⟨hostPixmap, w.width, w.height, w.depth⟩ }

def teardownRedirectForWindow (s : RedirectServer) (window : ResourceId) : RedirectServer :=
  match s.resources.windows[window]?.bind (·.redirectedBacking) with
  | none => s
  | some backing =>
    (s.modifyWindow window fun w => { w with redirectedBacking := none }).setBackend
      (s.backend.releaseRedirectedBacking backing.hostPixmap)

/-- Where there is no new backing the hold that was taken on the old one is not dropped. -/
def rotateRedirectedBackingOnResize (s : RedirectServer) (window : ResourceId)
    (newWidth newHeight : UInt16) (stored : Bool) : Option RedirectServer :=
  match s.resources.windows[window]? with
  | none => some s
  | some w =>
    match w.redirectedBacking, w.hostXid with
    | none, _ | some _, none => some s
    | some old, some hostWindow => do
      let b := s.backend.retainBackingStorage old.hostPixmap
      let b := b.releaseRedirectedBacking old.hostPixmap
      let (b, allocated) ←
        b.allocateRedirectedBacking hostWindow newWidth newHeight w.depth stored
      match allocated with
      | none =>
        return (s.setBackend b).modifyWindow window fun w => { w with redirectedBacking := none }
      | some new =>
        return (s.setBackend (b.dropBackingStorage old.hostPixmap)).modifyWindow window fun w =>
          { w with redirectedBacking := some ⟨new, newWidth, newHeight, w.depth⟩ }

/-- `redirected` is whether the window or the subwindows of its parent are redirected. The
id of the pixmap is not looked at. -/
def nameWindowPixmap (s : RedirectServer) (client : ClientId) (window pixmap : ResourceId)
    (redirected : Bool) : RedirectServer :=
  match s.resources.windows[window]? with
  | none => s
  | some w =>
    if redirected then
      match w.hostXid with
      | none => s
      | some hostWindow =>
        match s.backend.nameWindowPixmap hostWindow with
        | (_, none) => s
        | (b, some hostPixmap) =>
          ((s.setResources (s.resources.createPixmap client
            ⟨w.depth, pixmap, window, w.width, w.height⟩ (some hostPixmap))).setBackend
              b).modifyWindow window fun w =>
                { w with
                  compositeNamedPixmaps := w.compositeNamedPixmaps ++
                    [⟨pixmap, hostPixmap, w.width, w.height⟩] }
    else s

/-- The host pixmap of the backing of a window. -/
def backingOf (s : RedirectServer) (window : ResourceId) : Option Handle :=
  s.resources.windows[window]?.bind fun w => w.redirectedBacking.map (·.hostPixmap)

def destroyOrder (s : RedirectServer) (root : ResourceId) : List ResourceId :=
  s.resources.collectDestroyOrder s.resources.windows.size root

/-- The backgrounds of a subtree, if they have no pixmap any more and no window that is
left has them. -/
def freedBackgrounds (s : RedirectServer) (root : ResourceId) : List Handle :=
  let resources := (s.resources.destroyWindow root).1
  (s.resources.collectBgPixmapHostXids s.resources.windows.size root).filter fun xid =>
    !resources.hostXidReferencedByWindowBg xid && !resources.hostXidOwnedByPixmap xid

def destroyWindowSubtree (s : RedirectServer) (root : ResourceId) : RedirectServer :=
  let redirectBackings := (s.destroyOrder root).filterMap s.backingOf
  let b := redirectBackings.foldl (·.releaseRedirectedBacking ·) s.backend
  (s.setResources (s.resources.destroyWindow root).1).setBackend
    ((s.freedBackgrounds root).foldl (·.freePixmap ·) b)

def destroyWindow (s : RedirectServer) (window : ResourceId) : RedirectServer :=
  if s.resources.windows.contains window then s.destroyWindowSubtree window else s

/-! ## GLX -/

/-- A GLX window, or a GLX pixmap of a pixmap that is there. -/
def glxCreateDrawable (s : RedirectServer) (client : ClientId) (isPixmap : Bool)
    (glxWindow xWindow fbconfig : UInt32) : RedirectServer :=
  if isPixmap && !s.resources.pixmaps.contains xWindow then s
  else
    let acquireHostXid :=
      if isPixmap then s.resources.pixmaps[xWindow]?.bind (·.hostXid) else none
    { s with
      glxDrawables := s.glxDrawables.insert glxWindow
        ⟨client, xWindow, fbconfig, 0, 0, [], acquireHostXid⟩
      backend := acquireHostXid.elim s.backend s.backend.acquireGlxPixmapExport }

/-- The export is released by a request for a GLX pixmap only. -/
def glxDestroyDrawable (s : RedirectServer) (isPixmap : Bool) (xid : UInt32) : RedirectServer :=
  let releaseHostXid :=
    if isPixmap then s.glxDrawables[xid]?.bind (·.glxExportHostXid) else none
  { s with
    glxDrawables := s.glxDrawables.erase xid
    backend := releaseHostXid.elim s.backend s.backend.releaseGlxPixmapExport }

def dri3BufferFromPixmap (s : RedirectServer) (pixmap : ResourceId) : RedirectServer :=
  (s.resources.pixmaps[pixmap]?.bind (·.hostXid)).elim s fun hostXid =>
    s.setBackend (s.backend.dri3BufferFromPixmap hostXid)

/-! ## Disconnecting -/

/-- The exports that the client holds are released. -/
def releaseGlxDrawables (s : RedirectServer) (client : ClientId) : RedirectServer :=
  let owned := s.glxDrawables.toList.filterMap fun (_, d) =>
    if d.owner = client then d.glxExportHostXid else none
  { s with
    glxDrawables := s.glxDrawables.filter fun _ d => d.owner ≠ client
    backend := owned.foldl (·.releaseGlxPixmapExport ·) s.backend }

/-- `roots` are the windows of the client that are not below another of its windows, and
`targets` those whose redirection it owns. The pixmaps stay if the client is retained. -/
def processDisconnect (s : RedirectServer) (client : ClientId) (roots targets : List ResourceId)
    (retain : Bool) : RedirectServer :=
  let s := s.setResources (s.resources.destroyOwnedWindows roots).1
  let freed := if retain then [] else s.resources.freedPixmaps client
  let s := if retain then s
    else s.setResources (s.resources.removeNonWindowResourcesOwnedBy client)
  let s := targets.foldl (·.teardownRedirectForWindow ·) (s.releaseGlxDrawables client)
  s.setBackend (freed.foldl (·.freePixmap ·) s.backend)

/-! ## Runs -/

inductive Action where
  | createWindow (client : ClientId) (request : CreateWindowRequest) (hosted : Bool)
  | createPixmap (client : ClientId) (request : CreatePixmapRequest) (stored : Bool)
  | freePixmap (pixmap : ResourceId)
  | changeWindowAttributes (request : ChangeWindowAttributesRequest)
  | changeGcs (gcs : ResourceMap Gc)
  | configureWindow (request : ConfigureWindowRequest)
  | reparentWindow (request : ReparentWindowRequest)
  | redirect (window : ResourceId) (stored : Bool)
  | unredirect (window : ResourceId)
  | resize (window : ResourceId) (width height : UInt16) (stored : Bool)
  | nameWindowPixmap (client : ClientId) (window pixmap : ResourceId) (redirected : Bool)
  | destroyWindow (window : ResourceId)
  | glxCreate (client : ClientId) (isPixmap : Bool) (glxWindow xWindow fbconfig : UInt32)
  | glxDestroy (isPixmap : Bool) (xid : UInt32)
  | dri3BufferFromPixmap (pixmap : ResourceId)
  | disconnect (client : ClientId) (roots targets : List ResourceId) (retain : Bool)
  /-- An object of another kind gets an id. -/
  | takeHostXid
  /-- The GPU is to use the pixmap until the fence has signalled. -/
  | render (hostXid : Handle) (ticket : FenceTicket)
  /-- The GPU gets on, and storage that is parked is looked through. -/
  | poll (signalled : FenceTicket → Bool)

def act (s : RedirectServer) : Action → Option RedirectServer
  | .createWindow client request hosted => s.createWindow client request hosted
  | .createPixmap client request stored => s.createPixmap client request stored
  | .freePixmap pixmap => some (s.freePixmap pixmap)
  | .changeWindowAttributes request => some (s.changeWindowAttributes request)
  | .changeGcs gcs => some (s.changeGcs gcs)
  | .configureWindow request => some (s.setResources (s.resources.configureWindow request).1)
  | .reparentWindow request => some (s.setResources (s.resources.reparentWindow request).1)
  | .redirect window stored => s.activateRedirectBackingFor window stored
  | .unredirect window => some (s.teardownRedirectForWindow window)
  | .resize window width height stored =>
    s.rotateRedirectedBackingOnResize window width height stored
  | .nameWindowPixmap client window pixmap redirected =>
    some (s.nameWindowPixmap client window pixmap redirected)
  | .destroyWindow window => some (s.destroyWindow window)
  | .glxCreate client isPixmap glxWindow xWindow fbconfig =>
    some (s.glxCreateDrawable client isPixmap glxWindow xWindow fbconfig)
  | .glxDestroy isPixmap xid => some (s.glxDestroyDrawable isPixmap xid)
  | .dri3BufferFromPixmap pixmap => some (s.dri3BufferFromPixmap pixmap)
  | .disconnect client roots targets retain =>
    some (s.processDisconnect client roots targets retain)
  | .takeHostXid => s.backend.takeHostXid.map fun r => s.setBackend r.1
  | .render hostXid ticket =>
    some ((s.backend.store.lookup hostXid).elim s fun id =>
      s.setBackend { s.backend with store := s.backend.store.touchRenderFence id ticket })
  | .poll signalled =>
    some (s.setBackend { s.backend with
      store := (s.backend.store.pollPendingRetire signalled).1
      signalled := signalled })

/-- `none` if the host has run out of ids. -/
def run (s : RedirectServer) (actions : List Action) : Option RedirectServer :=
  actions.foldlM act s

end RedirectServer

end X12

import X12.Core.CopyArea

/-! # The Present extension

A presented pixmap is copied to its window when the request comes in. The
completion waits in the backend for the copy to be done, and is then reported
to every event context of the window. -/

namespace X12

def PRESENT_MAJOR_OPCODE : UInt8 := 145
def PRESENT_PIXMAP : UInt16 := 1
def PRESENT_PIXMAP_SYNCED : UInt16 := 5

def PRESENT_OPTION_COPY : UInt32 := 0x2
def PRESENT_OPTION_ASYNC_MAY_TEAR : UInt32 := 0x8

def COMPLETE_NOTIFY_MASK : UInt32 := 0x2
def IDLE_NOTIFY_MASK : UInt32 := 0x4

def COMPLETE_KIND_PIXMAP : UInt8 := 0
def COMPLETE_KIND_NOTIFY_MSC : UInt8 := 1
def COMPLETE_MODE_COPY : UInt8 := 0

structure PresentCaps where
  flipPath : Bool
  asyncMayTear : Bool
  syncobj : Bool
  deriving DecidableEq, Repr

/-! ## The scheduler -/

inductive PresentPath where
  | Copy
  | Flip (alienBo : UInt32)
  | DirectScanout (alienBo : UInt32)
  deriving DecidableEq, Repr

inductive PresentSync where
  | Binary (fence : UInt32)
  | Timeline (syncobj : UInt32) (value : UInt64)
  deriving DecidableEq, Repr

structure QueuedPresent where
  serial : UInt32
  pixmap : ResourceId
  window : ResourceId
  options : UInt32
  targetMsc : UInt64
  divisor : UInt64
  remainder : UInt64
  wait : PresentSync
  idle : PresentSync
  path : PresentPath
  validRegion : UInt32
  updateRegion : UInt32
  deriving DecidableEq, Repr

structure PathSelectorInputs where
  options : UInt32
  validRegion : UInt32
  updateRegion : UInt32
  pixmapSize : UInt16 × UInt16
  pixmapFormat : UInt32
  pixmapModifier : UInt64
  windowCoversOutput : Bool
  outputSize : UInt16 × UInt16
  outputScanoutFormatSet : List (UInt32 × UInt64)

def choosePath (inputs : PathSelectorInputs) (flipPathSupported : Bool)
    (alienBo : Option UInt32) : PresentPath :=
  if !flipPathSupported then .Copy
  else if inputs.options &&& PRESENT_OPTION_COPY ≠ 0 then .Copy
  else
    let scanoutCompat :=
      inputs.outputScanoutFormatSet.contains (inputs.pixmapFormat, inputs.pixmapModifier)
    let regionsFull := inputs.validRegion == 0 && inputs.updateRegion == 0
    let fullscreenExact := inputs.pixmapSize == inputs.outputSize && inputs.windowCoversOutput &&
      regionsFull && scanoutCompat
    if fullscreenExact then alienBo.elim .Copy .DirectScanout
    else if scanoutCompat then alienBo.elim .Copy .Flip
    else .Copy

/-- The frame is due: from its target on, and at its remainder if it has a divisor. -/
def QueuedPresent.scheduleSatisfied (frame : QueuedPresent) (currentMsc : UInt64) : Bool :=
  if currentMsc < frame.targetMsc then false
  else if frame.divisor = 0 then true
  else currentMsc % frame.divisor == frame.remainder

/-- The frames queued for each window. Nothing takes them off but the
destruction of the window. -/
abbrev PresentScheduler := ResourceMap (List QueuedPresent)

namespace PresentScheduler

def enqueue (queues : PresentScheduler) (frame : QueuedPresent) : PresentScheduler :=
  queues.insert frame.window (queues[frame.window]?.getD [] ++ [frame])

def drainWindow (queues : PresentScheduler) (window : ResourceId) :
    List QueuedPresent × PresentScheduler :=
  match queues[window]? with
  | none => ([], queues)
  | some q => (q, queues.erase window)

/-- The place of the latest frame that is due, searched from the back. -/
def chosenIdx (q : List QueuedPresent) (currentMsc : UInt64) : Option Nat :=
  (q.zipIdx.reverse.find? fun (frame, _) => frame.scheduleSatisfied currentMsc).map (·.2)

/-- The frame to submit and the earlier ones, which are skipped. -/
def pickAtVblank (queues : PresentScheduler) (window : ResourceId) (currentMsc : UInt64) :
    Option QueuedPresent × List QueuedPresent × PresentScheduler :=
  match queues[window]? with
  | none => (none, [], queues)
  | some q =>
    match chosenIdx q currentMsc with
    | none => (none, [], queues)
    | some idx =>
      match q.drop idx with
      | [] => (none, q.take idx, queues.insert window [])
      | frame :: rest => (some frame, q.take idx, queues.insert window rest)

end PresentScheduler

/-! ## Requests and events -/

structure PixmapRequest where
  window : ResourceId
  pixmap : ResourceId
  serial : UInt32
  valid : UInt32
  update : ResourceId
  xOff : Int16
  yOff : Int16
  waitFence : UInt32
  idleFence : UInt32
  options : UInt32
  targetMsc : UInt64
  divisor : UInt64
  remainder : UInt64
  deriving DecidableEq, Repr

structure PixmapSyncedRequest where
  window : ResourceId
  pixmap : ResourceId
  serial : UInt32
  valid : UInt32
  update : ResourceId
  xOff : Int16
  yOff : Int16
  acquireSyncobj : UInt32
  releaseSyncobj : UInt32
  acquireValue : UInt64
  releaseValue : UInt64
  options : UInt32
  targetMsc : UInt64
  divisor : UInt64
  remainder : UInt64
  deriving DecidableEq, Repr

structure NotifyMscRequest where
  window : ResourceId
  serial : UInt32
  targetMsc : UInt64
  divisor : UInt64
  remainder : UInt64
  deriving DecidableEq, Repr

inductive PresentWake where
  | Pixmap (idleFenceXid : UInt32)
  | PixmapSynced (releaseSyncobj : UInt32) (releaseValue : UInt64)
  deriving DecidableEq, Repr

/-- The ids are those of the client, whatever the fields are called. -/
structure CompletedPresentEvent where
  clientId : ClientId
  serial : UInt32
  hostXid : ResourceId
  dstHostXid : ResourceId
  options : UInt32
  wake : PresentWake
  deriving DecidableEq, Repr

inductive PresentNotify where
  | IdleNotify (eid : UInt32) (window : ResourceId) (serial : UInt32) (pixmap : ResourceId)
      (idleFence : UInt32)
  | CompleteNotify (eid : UInt32) (window : ResourceId) (serial : UInt32) (kind mode : UInt8)
      (ust msc : UInt64)
  deriving DecidableEq, Repr

inductive PresentCall where
  | ApplyClipState (clip : ClipState)
  | ApplyDrawState
  | CopyArea (src dst : Handle) (geometry : CopyGeometry)

/-- The server with the scheduler and with the completions that the backend
holds back. -/
structure PresentState where
  server : ServerState
  screenSize : UInt16 × UInt16
  presentScheduler : PresentScheduler
  pendingCompletions : List CompletedPresentEvent

/-- How a request ends: a backend call that fails gives up on it silently. -/
inductive PresentOutcome where
  | Error (error : X11Error)
  | BackendError
  | Handled
  deriving DecidableEq, Repr

/-- A host pixmap with its size and depth. -/
structure HostPixmapTarget where
  hostXid : Handle
  width : UInt16
  height : UInt16
  depth : UInt8
  deriving DecidableEq, Repr

/-- `HostDrawableTarget::Pixmap` -/
def ResourceTable.hostPixmapTarget (t : ResourceTable) (id : ResourceId) :
    Option HostPixmapTarget :=
  if t.windows.contains id then none
  else t.pixmaps[id]?.bind fun p => p.hostXid.map fun xid => ⟨xid, p.width, p.height, p.depth⟩

def maskedOptions (caps : PresentCaps) (options : UInt32) : UInt32 :=
  if caps.asyncMayTear then options else options &&& ~~~PRESENT_OPTION_ASYNC_MAY_TEAR

def notifyMscSatisfied (currentMsc targetMsc divisor remainder : UInt64) : Bool :=
  if currentMsc < targetMsc then false
  else if divisor = 0 then true
  else currentMsc % divisor == remainder

/-- `u64::saturating_add(1)` -/
def saturatingSuccU64 (v : UInt64) : UInt64 :=
  if v.toNat + 1 < 2 ^ 64 then v + 1 else v

namespace PresentState

def buildPathSelectorInputs (s : PresentState) (window pixmap : ResourceId) (options : UInt32)
    (validRegion updateRegion : UInt32) : PathSelectorInputs :=
  let windowSize := s.server.resources.windows[window]?.elim (0, 0) fun w => (w.width, w.height)
  { options := options
    validRegion := validRegion
    updateRegion := updateRegion
    pixmapSize := s.server.resources.pixmaps[pixmap]?.elim (0, 0) fun p => (p.width, p.height)
    pixmapFormat := 0
    pixmapModifier := 0
    windowCoversOutput := windowSize == s.screenSize
    outputSize := s.screenSize
    outputScanoutFormatSet := [] }

def presentPathFor (s : PresentState) (caps : PresentCaps) (req : PixmapRequest) : PresentPath :=
  choosePath (s.buildPathSelectorInputs req.window req.pixmap req.options req.valid req.update)
    caps.flipPath none

def presentPathForSynced (s : PresentState) (caps : PresentCaps) (req : PixmapSyncedRequest) :
    PresentPath :=
  choosePath (s.buildPathSelectorInputs req.window req.pixmap req.options req.valid req.update)
    caps.flipPath none

/-- The MSC of the window after a frame. -/
def bumpMsc (s : PresentState) (window : ResourceId) : PresentState :=
  { s with
    server := { s.server with
      presentMsc := s.server.presentMsc.insert window
        (s.server.presentMsc[window]?.elim 1 saturatingSuccU64) } }

def enqueueFrame (s : PresentState) (frame : QueuedPresent) : PresentState :=
  { s with presentScheduler := s.presentScheduler.enqueue frame }

/-- `Backend::enqueue_present_completion` -/
def enqueuePresentCompletion (s : PresentState) (event : CompletedPresentEvent) : PresentState :=
  { s with pendingCompletions := s.pendingCompletions ++ [event] }

/-! ## PresentPixmap -/

/-- The copies of a frame: the rectangles of the update region, else the whole
pixmap. -/
def presentCopies (s : PresentState) (req : PixmapRequest) (src : HostPixmapTarget)
    (dst : Handle) : List PresentCall :=
  let whole := [.CopyArea src.hostXid dst ⟨0, 0, req.xOff, req.yOff, src.width, src.height⟩]
  if req.update ≠ 0 then
    match s.server.xfixesRegions[req.update]? with
    | some region => region.rects.map fun r =>
      .CopyArea src.hostXid dst
        ⟨r.x, r.y, saturatingAddI16 req.xOff r.x, saturatingAddI16 req.yOff r.y, r.width, r.height⟩
    | none => whole
  else whole

/-- The rectangles that a frame damages. -/
def presentDamage (s : PresentState) (req : PixmapRequest) (src : HostPixmapTarget) :
    List RegionRect :=
  if req.update ≠ 0 then s.server.xfixesRegions[req.update]?.elim [] (·.rects)
  else [⟨req.xOff, req.yOff, src.width, src.height⟩]

def pixmapCompletion (client : ClientId) (caps : PresentCaps) (req : PixmapRequest) :
    CompletedPresentEvent where
  clientId := client
  serial := req.serial
  hostXid := req.pixmap
  dstHostXid := req.window
  options := maskedOptions caps req.options
  wake := .Pixmap req.idleFence

def queuedPixmap (s : PresentState) (caps : PresentCaps) (req : PixmapRequest) :
    QueuedPresent where
  serial := req.serial
  pixmap := req.pixmap
  window := req.window
  options := maskedOptions caps req.options
  targetMsc := req.targetMsc
  divisor := req.divisor
  remainder := req.remainder
  wait := .Binary req.waitFence
  idle := .Binary req.idleFence
  path := s.presentPathFor caps req
  validRegion := req.valid
  updateRegion := req.update

/-- The end of both requests. -/
def finishPresent (s : PresentState) (window : ResourceId) (frame : PresentState → QueuedPresent) :
    PresentState :=
  let s := s.bumpMsc window
  s.enqueueFrame (frame s)

/-- `ok n` says whether the n-th backend call of the request succeeds. A frame
without a host pixmap or a host window is dropped. -/
def presentPixmap (s : PresentState) (client : ClientId) (caps : PresentCaps) (ok : Nat → Bool)
    (req : PixmapRequest) : PresentState × PresentOutcome :=
  let refused (code : UInt8) (badValue : UInt32) : PresentState × PresentOutcome :=
    (s, .Error ⟨code, badValue, PRESENT_PIXMAP, PRESENT_MAJOR_OPCODE⟩)
  if !s.server.resources.windows.contains req.window then refused BAD_WINDOW req.window
  else if !s.server.resources.pixmaps.contains req.pixmap then refused BAD_DRAWABLE req.pixmap
  else
    match s.server.resources.hostPixmapTarget req.pixmap,
      s.server.resources.hostDrawableTarget req.window with
    | some src, some dst =>
      if src.depth ≠ dst.depth then refused BAD_MATCH req.pixmap
      else
        let calls := .ApplyClipState .None :: .ApplyDrawState :: s.presentCopies req src dst.hostXid
        if !(List.range calls.length).all ok then (s, .BackendError)
        else
          let damaged := ServerState.accumulateRects req.window (s.server, [])
            (s.presentDamage req src)
          let copied := { s with server := damaged.1 }.enqueuePresentCompletion
            (pixmapCompletion client caps req)
          (copied.finishPresent req.window (·.queuedPixmap caps req), .Handled)
    | _, _ => (s.finishPresent req.window (·.queuedPixmap caps req), .Handled)

/-! ## PresentPixmapSynced -/

def syncedCompletion (client : ClientId) (caps : PresentCaps) (req : PixmapSyncedRequest) :
    CompletedPresentEvent where
  clientId := client
  serial := req.serial
  hostXid := req.pixmap
  dstHostXid := req.window
  options := maskedOptions caps req.options
  wake := .PixmapSynced req.releaseSyncobj req.releaseValue

def queuedSynced (s : PresentState) (caps : PresentCaps) (req : PixmapSyncedRequest) :
    QueuedPresent where
  serial := req.serial
  pixmap := req.pixmap
  window := req.window
  options := maskedOptions caps req.options
  targetMsc := req.targetMsc
  divisor := req.divisor
  remainder := req.remainder
  wait := .Timeline req.acquireSyncobj req.acquireValue
  idle := .Timeline req.releaseSyncobj req.releaseValue
  path := s.presentPathForSynced caps req
  validRegion := req.valid
  updateRegion := req.update

/-- A frame whose depths differ or whose copy fails is dropped too. -/
def presentPixmapSynced (s : PresentState) (client : ClientId) (caps : PresentCaps)
    (ok : Nat → Bool) (req : PixmapSyncedRequest) : PresentState × PresentOutcome :=
  let refused (code : UInt8) (badValue : UInt32) : PresentState × PresentOutcome :=
    (s, .Error ⟨code, badValue, PRESENT_PIXMAP_SYNCED, PRESENT_MAJOR_OPCODE⟩)
  if !s.server.resources.windows.contains req.window then refused BAD_WINDOW req.window
  else if !s.server.resources.pixmaps.contains req.pixmap then refused BAD_DRAWABLE req.pixmap
  else
    let copied :=
      match s.server.resources.hostPixmapTarget req.pixmap,
        s.server.resources.hostDrawableTarget req.window with
      | some src, some dst =>
        let calls := [PresentCall.CopyArea src.hostXid dst.hostXid
          ⟨req.xOff, req.yOff, 0, 0, src.width, src.height⟩]
        if src.depth = dst.depth ∧ (List.range calls.length).all ok then
          s.enqueuePresentCompletion (syncedCompletion client caps req)
        else s
      | _, _ => s
    (copied.finishPresent req.window (·.queuedSynced caps req), .Handled)

/-! ## Events -/

/-- The event contexts of a window whose owner is connected. -/
def presentTargets (s : PresentState) (window : ResourceId) :
    List (ResourceId × PresentEventSelection) :=
  s.server.presentEventSelections.toList.filter fun (_, sel) =>
    sel.window == window && s.server.clients.contains sel.owner

/-- What an event context of the window is told about a completion. -/
def completionEvents (event : CompletedPresentEvent) (currentMsc : UInt64) (eid : ResourceId)
    (sel : PresentEventSelection) : List (ClientId × PresentNotify) :=
  let idleFence :=
    match event.wake with
    | .Pixmap idleFenceXid => idleFenceXid
    | .PixmapSynced releaseSyncobj _ => releaseSyncobj
  (if sel.eventMask &&& IDLE_NOTIFY_MASK ≠ 0 then
    [(sel.owner, .IdleNotify eid event.dstHostXid event.serial event.hostXid idleFence)] else []) ++
  (if sel.eventMask &&& COMPLETE_NOTIFY_MASK ≠ 0 then
    [(sel.owner, .CompleteNotify eid event.dstHostXid event.serial COMPLETE_KIND_PIXMAP
      COMPLETE_MODE_COPY 0 currentMsc)] else [])

/-- The events that report a completion, with their receivers. -/
def firePresentCompletionEvents (s : PresentState) (event : CompletedPresentEvent) :
    List (ClientId × PresentNotify) :=
  let currentMsc := s.server.presentMsc[event.dstHostXid]?.getD 0
  (s.presentTargets event.dstHostXid).flatMap fun (eid, sel) =>
    completionEvents event currentMsc eid sel

/-- The fence of a completed frame is triggered. -/
def triggerIdleFence (s : PresentState) (wake : PresentWake) : PresentState :=
  match wake with
  | .Pixmap idleFenceXid =>
    if idleFenceXid ≠ 0 then
      { s with
        server := { s.server with
          syncFences := s.server.syncFences.modify idleFenceXid fun f =>
            { f with triggered := true } } }
    else s
  | .PixmapSynced _ _ => s

/-- `drain_present_completions`: the completions at the given places are done. -/
def drainPresentCompletions (s : PresentState) (done : Nat → Bool) :
    PresentState × List (ClientId × PresentNotify) :=
  let entries := s.pendingCompletions.zipIdx
  let completed := (entries.filter fun e => done e.2).map (·.1)
  let s := { s with pendingCompletions := (entries.filter fun e => !done e.2).map (·.1) }
  completed.foldl (fun (s, sent) event =>
    let s := s.triggerIdleFence event.wake
    (s, sent ++ s.firePresentCompletionEvents event)) (s, [])

def selectInput (s : PresentState) (client : ClientId) (eid : ResourceId) (window : ResourceId)
    (eventMask : UInt32) : PresentState :=
  { s with
    server := { s.server with
      presentEventSelections :=
        s.server.presentEventSelections.insert eid ⟨client, window, eventMask⟩ } }

def notifyMsc (s : PresentState) (req : NotifyMscRequest) :
    PresentState × List (ClientId × PresentNotify) :=
  let currentMsc := s.server.presentMsc[req.window]?.getD 0
  let sent :=
    if notifyMscSatisfied currentMsc req.targetMsc req.divisor req.remainder then
      ((s.presentTargets req.window).filter fun (_, sel) =>
        sel.eventMask &&& COMPLETE_NOTIFY_MASK ≠ 0).map fun (eid, sel) =>
          (sel.owner, .CompleteNotify eid req.window req.serial COMPLETE_KIND_NOTIFY_MSC
            COMPLETE_MODE_COPY 0 currentMsc)
    else []
  let msc := s.server.presentMsc[req.window]?.elim (saturatingSuccU64 req.targetMsc) fun msc =>
    saturatingSuccU64 (max msc req.targetMsc)
  ({ s with server := { s.server with presentMsc := s.server.presentMsc.insert req.window msc } },
    sent)

end PresentState

end X12

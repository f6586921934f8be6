import X12.Core.DescriptorPoolRing
import X12.Core.Scanout

/-! # The frames of an output

A tick composes a frame into a free buffer and asks KMS to flip to it; what the frame
presents is settled when the flip completes. The descriptor pool of a frame and the buffer
of one that KMS has rejected wait for the fence of the frame. What the GPU and KMS answer
to a call is an argument, and what passes between them and the server is kept as a trace. -/

namespace X12

inductive PresentError where
  | Vk (code : VkResult)
  | Io (errno : Int32)
  | NoFb
  | WrongPhase (phase : BoPhase)
  deriving DecidableEq, Repr

inductive SceneError where
  | NoVk
  | Present (e : PresentError)
  deriving DecidableEq, Repr

/-! ## The cursor of a frame -/

inductive CursorAssignment where
  | Hw (x y : Int32) (recordVersion : UInt64) (hotX hotY : UInt16)
  | Sw (pos : Int32 × Int32)
  | Hidden
  deriving DecidableEq, Repr

inductive CursorTransition where
  | ShowOnRetire (uploadVersion : UInt64) (hotX hotY : UInt16) (x y : Int32)
  | HideOnRetire
  deriving DecidableEq, Repr

inductive OutputCursorMode where
  | Sw (prev : Option (Int32 × Int32))
  | Hw
  | Hidden
  deriving DecidableEq, Repr

inductive CursorPlaneMode where
  | Hw
  | Mixed
  | Sw
  deriving DecidableEq, Repr

/-- The transition, the position that the next frame is to clear, where it changes, and the
mode when the frame is on screen. -/
def deriveCursorTransition (prev : OutputCursorMode) (assignment : CursorAssignment) :
    Option CursorTransition × Option (Option (Int32 × Int32)) × OutputCursorMode :=
  match prev, assignment with
  | .Sw _, .Hw x y version hotX hotY | .Hidden, .Hw x y version hotX hotY =>
    (some (.ShowOnRetire version hotX hotY x y), some none, .Hw)
  | .Hw, .Sw pos => (some .HideOnRetire, some (some pos), .Sw (some pos))
  | .Hw, .Hidden => (some .HideOnRetire, none, .Hidden)
  | _, .Sw pos => (none, some (some pos), .Sw (some pos))
  | _, .Hidden => (none, some none, .Hidden)
  | .Hw, .Hw .. => (none, none, .Hw)

def cursorDamageForFrame (lastRect : Option Rect2D) (lastVersion : Option UInt64)
    (newRect : Option Rect2D) (newVersion : Option UInt64)
    (transition : Option CursorTransition) : RegionSet :=
  if newRect ≠ lastRect ∨ transition.isSome ∨ newVersion ≠ lastVersion then
    let damage : RegionSet := lastRect.elim [] (RegionSet.add [])
    match newRect with
    | some rect => if some rect ≠ lastRect then damage.add rect else damage
    | none => damage
  else []

def classifyCursorModeFromPerOutput (modes : List OutputCursorMode) : CursorPlaneMode :=
  let anyHw := modes.any fun m => m matches .Hw
  let anySwLike := modes.any fun m => m matches .Sw _
  match anyHw, anySwLike with
  | true, false => .Hw
  | false, _ => .Sw
  | true, true => .Mixed

/-! ## Damage -/

namespace RegionSet

def unionWith (s other : RegionSet) : RegionSet :=
  other.foldl add s

/-- `i32::saturating_add_unsigned` -/
def saturatingAddUnsigned (a : Int32) (b : UInt32) : Int32 :=
  if a.toInt + b.toNat < 2 ^ 31 then Int32.ofInt (a.toInt + b.toNat) else Int32.maxValue

/-- The corners of a bounding box that is stretched over one more rectangle. -/
def stretch (corners : (Int32 × Int32) × Int32 × Int32) (r : Rect2D) :
    (Int32 × Int32) × Int32 × Int32 :=
  ((min corners.1.1 r.x, min corners.1.2 r.y),
    max corners.2.1 (saturatingAddUnsigned r.x r.width),
    max corners.2.2 (saturatingAddUnsigned r.y r.height))

/-- The difference of the corners wraps around. -/
def boundingRect : RegionSet → Option Rect2D
  | [] => none
  | first :: rest =>
    let corners := rest.foldl stretch ((first.x, first.y),
      saturatingAddUnsigned first.x first.width, saturatingAddUnsigned first.y first.height)
    some ⟨corners.1.1, corners.1.2, (max (corners.2.1 - corners.1.1) 0).toInt.toNat.toUInt32,
      (max (corners.2.2 - corners.1.2) 0).toInt.toNat.toUInt32⟩

end RegionSet

/-- The damage of the last frames, by their generations. -/
structure BufferAgeRing where
  entries : List (Nat × RegionSet)
  depth : Nat
  deriving DecidableEq, Repr

def BufferAgeRing.push (ring : BufferAgeRing) (generation : Nat) (region : RegionSet) :
    BufferAgeRing :=
  let entries := ring.entries ++ [(generation, region)]
  { ring with entries := entries.drop (entries.length - ring.depth) }

/-! ## The state of an output -/

structure PendingAck where
  boIdx : Nat
  generation : Nat
  drawableSnapshots : List DamageSnapshot
  ticket : Option FenceTicket
  submittedOutputDamage : RegionSet
  submittedSceneStructureDamage : RegionSet
  submittedFailedRepaint : RegionSet
  cursorTransition : Option CursorTransition
  cursorPrevPosAfterRetire : Option (Option (Int32 × Int32))
  cursorModeAfterRetire : OutputCursorMode
  lastPresentCursorRectAfterRetire : Option Rect2D
  lastPresentCursorVersionAfterRetire : Option UInt64
  deriving DecidableEq, Repr

/-- A frame that the GPU renders although KMS has not taken it. -/
structure FailedSubmitBo where
  boIdx : Nat
  poolSlot : Nat
  ticket : FenceTicket
  deriving DecidableEq, Repr

structure OutputSceneState where
  poolRing : SlotTracker
  /-- The slots of the frames in `pendingAcks` -/
  poolSlots : List Nat
  pendingAcks : List PendingAck
  pendingPoolReleases : List (Nat × FenceTicket)
  failedSubmitBos : List FailedSubmitBo
  damageHistory : BufferAgeRing
  currentGeneration : Nat
  sceneStructureDamage : RegionSet
  pendingRepaintAfterFailedSubmit : RegionSet
  outputExtent : UInt32 × UInt32
  nextSubmitRetryAt : Option Nat
  lastFrameCursorMode : OutputCursorMode
  cursorPrevPos : Option (Int32 × Int32)
  lastPresentCursorRect : Option Rect2D
  lastPresentCursorVersion : Option UInt64
  deriving DecidableEq, Repr

inductive TickSkipReason where
  | PendingAcks
  | RetryDeadline
  | EmptyDamage
  | NoBO
  | NoPool
  deriving DecidableEq, Repr

inductive TickOutcome where
  | Composed
  | Skipped (reason : TickSkipReason)
  deriving DecidableEq, Repr

/-! ## What passes between the server, the GPU and KMS -/

inductive SceneEvent where
  /-- A file descriptor is received -/
  | opened (fd : Int)
  | closed (fd : Int)
  /-- The GPU is to render into the buffer with the descriptors of the slot -/
  | queueSubmit2 (bo slot : Nat) (ticket : FenceTicket)
  /-- KMS accepts the flip to the buffer -/
  | accepted (bo generation : Nat) (assignment : CursorAssignment) (damage : RegionSet)
  | rejected (bo : Nat)
  | flipComplete (bo generation : Nat)
  | resetDescriptorPool (slot : Nat)
  | signalled (ticket : FenceTicket)
  /-- The drawables are not destroyed before the fence has signalled -/
  | touchRenderFence (ids : List DrawableId) (ticket : FenceTicket)
  | ackPresentationDamage (snapshots : List DamageSnapshot)
  | sceneStructureDamage (rect : Rect2D)
  /-- The cursor plane is to be shown or hidden, which succeeds if `ok`. -/
  | cursorShow (ok : Bool)
  | cursorHide (ok : Bool)
  /-- The cursor plane, which is shown, is to be shown again -/
  | cursorRebind (ok : Bool)
  /-- The GPU has become idle and the outputs are taken away -/
  | suspend
  /-- The output is to be lit up with what is in the buffer -/
  | modeset (bo : Nat) (ok : Bool)
  deriving DecidableEq, Repr

/-- What the driver answers while a frame is composed. -/
structure ComposeAnswers where
  acquireFenceTicket : Except VkResult Unit
  recordCommandBuffer : Except PresentError Unit
  queueSubmit2 : Except VkResult Unit
  /-- An owned file descriptor -/
  exportSignaledFd : Except VkResult (Option Nat)
  submitFlipWithFences : Except Int32 Unit
  /-- What the flip leaves as the fence of its release, initially -1 -/
  outFence : Int

/-- Whether the calls for a cursor plane succeed: the one that binds the image to the output or
takes it off, and the one that moves it. -/
structure CursorAnswers where
  setCursor2 : Bool
  moveCursor : Bool

/-- `CursorPlane::show` -/
def CursorAnswers.shown (a : CursorAnswers) : Bool := a.setCursor2 && a.moveCursor

/-- What is built of the scene for one output. -/
structure BuiltScene where
  projectedDamage : RegionSet
  snapshots : List DamageSnapshot
  sampledIds : List DrawableId
  cursorAssignment : CursorAssignment
  newCursorRect : Option Rect2D
  cursorRecordVersion : Option UInt64

structure Composed where
  bo : ScanoutBo
  gpuSubmitted : Bool
  result : Except PresentError Unit
  trace : List SceneEvent

/-- The frame is submitted to the GPU and then to KMS. `i` is the index of the buffer. -/
def recordComposeV2 (bo : ScanoutBo) (i slot : Nat) (ticket : FenceTicket) (a : ComposeAnswers) :
    Option Composed :=
  if bo.state.phase ≠ .Free then some ⟨bo, false, .error (.WrongPhase bo.state.phase), []⟩
  else if bo.fbHandle = none then some ⟨bo, false, .error .NoFb, []⟩
  else do
    let recording ← bo.state.transitionToRecording
    match a.recordCommandBuffer, a.queueSubmit2, a.exportSignaledFd with
    | .error e, _, _ => return ⟨{ bo with state := recording }, false, .error e, []⟩
    | .ok (), .error e, _ => return ⟨{ bo with state := recording }, false, .error (.Vk e), []⟩
    | .ok (), .ok (), .error e =>
      return ⟨{ bo with state := recording }, true, .error (.Vk e), [.queueSubmit2 i slot ticket]⟩
    | .ok (), .ok (), .ok exported =>
      let fd : Int := exported.elim (-1) (↑)
      let submitted ← recording.transitionToSubmitted fd
      let opened := exported.toList.map fun fd => SceneEvent.opened fd
      let released := if 0 ≤ a.outFence then [SceneEvent.opened a.outFence] else []
      match a.submitFlipWithFences with
      | .ok () =>
        let (pending, inFence) ← submitted.transitionToPending a.outFence
        return ⟨{ bo with state := pending }, true, .ok (),
          .queueSubmit2 i slot ticket :: opened ++ released ++ inFence.toList.map .closed⟩
      | .error e =>
        let (recording, inFence) ← submitted.transitionToRecordingAfterAtomicReject
        let closed := inFence.toList ++ if 0 ≤ a.outFence then [a.outFence] else []
        return ⟨{ bo with state := recording }, true, .error (.Io e),
          .queueSubmit2 i slot ticket :: opened ++ released ++ [.rejected i] ++
            closed.map .closed⟩

/-- An output with its buffers, the fences and the trace. -/
structure Scanout where
  scene : OutputSceneState
  pool : ScanoutPool
  /-- The session has the screen and the outputs are not switched off. -/
  active : Bool
  /-- The cursor plane is bound to the output. -/
  planeVisible : Bool
  nextTicket : FenceTicket
  signalled : List FenceTicket
  trace : List SceneEvent
  deriving DecidableEq, Repr

namespace Scanout

/-- An output with `n` buffers that have framebuffers. -/
def new (n : Nat) (extent : UInt32 × UInt32) (fbHandle : Nat → UInt32) : Scanout where
  scene :=
    { poolRing := .new
      poolSlots := []
      pendingAcks := []
      pendingPoolReleases := []
      failedSubmitBos := []
      damageHistory := ⟨[], n + 1⟩
      currentGeneration := 0
      sceneStructureDamage := []
      pendingRepaintAfterFailedSubmit := []
      outputExtent := extent
      nextSubmitRetryAt := none
      lastFrameCursorMode := .Hidden
      cursorPrevPos := none
      lastPresentCursorRect := none
      lastPresentCursorVersion := none }
  pool :=
    { bos := (List.range n).map fun i => ⟨.default, some (fbHandle i)⟩
      generations := List.replicate n ⟨none, false⟩ }
  active := true
  planeVisible := false
  nextTicket := 0
  signalled := []
  trace := []

def emit (o : Scanout) (events : List SceneEvent) : Scanout :=
  { o with trace := o.trace ++ events }

def setPool (o : Scanout) (pool : ScanoutPool) : Scanout := { o with pool := pool }

def modifyScene (o : Scanout) (f : OutputSceneState → OutputSceneState) : Scanout :=
  { o with scene := f o.scene }

/-! ## Damage and the GPU -/

def markSceneStructureDamageRect (o : Scanout) (r : Rect2D) : Scanout :=
  (o.modifyScene fun s => { s with sceneStructureDamage := s.sceneStructureDamage.add r }).emit
    [.sceneStructureDamage r]

/-- The whole output is damaged. -/
def markSceneStructureDirty (o : Scanout) : Scanout :=
  o.markSceneStructureDamageRect ⟨0, 0, o.scene.outputExtent.1, o.scene.outputExtent.2⟩

/-- The GPU is done with a frame, which it can be for each ticket that has been issued. -/
def signal (o : Scanout) (t : FenceTicket) : Scanout :=
  if t < o.nextTicket then { o with signalled := t :: o.signalled }.emit [.signalled t] else o

def pollSignaled (o : Scanout) (t : FenceTicket) : Bool :=
  o.signalled.contains t

/-- The descriptor pool is reset. -/
def releaseSlot (o : Scanout) (slot : Nat) : Option Scanout := do
  let ring ← o.scene.poolRing.release slot
  return (o.modifyScene fun s => { s with poolRing := ring }).emit [.resetDescriptorPool slot]

/-! ## Ticks -/

/-- The loop of `retireFailedSubmitBos` over the queue. -/
def retireFailedLoop (o : Scanout) (remaining : List FailedSubmitBo) :
    List FailedSubmitBo → Option Scanout
  | [] => some (o.modifyScene fun s => { s with failedSubmitBos := remaining })
  | failed :: queue =>
    if o.pollSignaled failed.ticket then do
      let o := o.setPool (o.pool.recycleFailedSubmitBo failed.boIdx)
      (← o.releaseSlot failed.poolSlot).retireFailedLoop remaining queue
    else o.retireFailedLoop (remaining ++ [failed]) queue

def retireFailedSubmitBos (o : Scanout) : Option Scanout :=
  o.retireFailedLoop [] o.scene.failedSubmitBos

/-- The loop of `drainPendingPoolReleases` over the queue. -/
def drainReleasesLoop (o : Scanout) (remaining : List (Nat × FenceTicket)) :
    List (Nat × FenceTicket) → Option Scanout
  | [] => some (o.modifyScene fun s => { s with pendingPoolReleases := remaining })
  | (slot, ticket) :: queue =>
    if o.pollSignaled ticket then do
      (← o.releaseSlot slot).drainReleasesLoop remaining queue
    else o.drainReleasesLoop (remaining ++ [(slot, ticket)]) queue

def drainPendingPoolReleases (o : Scanout) : Option Scanout :=
  o.drainReleasesLoop [] o.scene.pendingPoolReleases

def frameTransition (s : OutputSceneState) (built : BuiltScene) :
    Option CursorTransition × Option (Option (Int32 × Int32)) × OutputCursorMode :=
  deriveCursorTransition s.lastFrameCursorMode built.cursorAssignment

/-- The damage that a frame repaints. -/
def outputDamage (s : OutputSceneState) (built : BuiltScene) : RegionSet :=
  let cursorDamage := cursorDamageForFrame s.lastPresentCursorRect s.lastPresentCursorVersion
    built.newCursorRect built.cursorRecordVersion (frameTransition s built).1
  ((built.projectedDamage.unionWith cursorDamage).unionWith s.sceneStructureDamage).unionWith
    s.pendingRepaintAfterFailedSubmit

/-- What is to happen when the frame is on screen. -/
def pendingAck (s : OutputSceneState) (built : BuiltScene) (boIdx : Nat) (ticket : FenceTicket) :
    PendingAck where
  boIdx := boIdx
  generation := s.currentGeneration + 1
  drawableSnapshots := built.snapshots
  ticket := some ticket
  submittedOutputDamage := outputDamage s built
  submittedSceneStructureDamage := s.sceneStructureDamage
  submittedFailedRepaint := s.pendingRepaintAfterFailedSubmit
  cursorTransition := (frameTransition s built).1
  cursorPrevPosAfterRetire := (frameTransition s built).2.1
  cursorModeAfterRetire := (frameTransition s built).2.2
  lastPresentCursorRectAfterRetire := built.newCursorRect
  lastPresentCursorVersionAfterRetire := built.cursorRecordVersion

/-- KMS has accepted the frame. -/
def queueAck (o : Scanout) (slot : Nat) (ack : PendingAck) (built : BuiltScene)
    (ticket : FenceTicket) : Scanout :=
  (o.modifyScene fun s => { s with
    nextSubmitRetryAt := none
    poolSlots := s.poolSlots ++ [slot]
    pendingAcks := s.pendingAcks ++ [ack]
    currentGeneration := ack.generation }).emit
    [.accepted ack.boIdx ack.generation built.cursorAssignment ack.submittedOutputDamage,
      .touchRenderFence built.sampledIds ticket]

/-- The frame is to be repainted by the next one, not before 100 ms have passed. -/
def foldRepaintForward (o : Scanout) (damage : RegionSet) (failedAt : Nat) : Scanout :=
  o.modifyScene fun s => { s with
    nextSubmitRetryAt := some (failedAt + 100)
    pendingRepaintAfterFailedSubmit :=
      damage.boundingRect.elim s.pendingRepaintAfterFailedSubmit
        s.pendingRepaintAfterFailedSubmit.add }

/-- The frame is submitted, with a buffer and a slot in hand. Where there is no fence for it
the slot stays taken. -/
def submitFrame (o : Scanout) (token : ScanoutBoToken) (slot : Nat) (built : BuiltScene)
    (a : ComposeAnswers) (failedAt : Nat) : Option (Scanout × Except SceneError TickOutcome) :=
  match a.acquireFenceTicket with
  | .error e => some (o, .error (.Present (.Vk e)))
  | .ok () =>
    let ticket := o.nextTicket
    let o := { o with nextTicket := ticket + 1 }
    match o.pool.bos[token.boIdx]? with
    | none => some (o, .error .NoVk)
    | some bo => do
      let ack := pendingAck o.scene built token.boIdx ticket
      let composed ← recordComposeV2 bo token.boIdx slot ticket a
      let o := (o.setPool { o.pool with bos := o.pool.bos.set token.boIdx composed.bo }).emit
        composed.trace
      match composed.result with
      | .ok () => return (o.queueAck slot ack built ticket, .ok .Composed)
      | .error e =>
        let o := match e with
          | .Io _ =>
            let touched := if composed.gpuSubmitted then
              [SceneEvent.touchRenderFence built.sampledIds ticket] else []
            (o.setPool (o.pool.invalidateBo token.boIdx)).emit touched
          | _ => o
        let o := o.foldRepaintForward ack.submittedOutputDamage failedAt
        if composed.gpuSubmitted then
          return (o.modifyScene fun s => { s with
            failedSubmitBos := s.failedSubmitBos ++ [⟨token.boIdx, slot, ticket⟩] },
            .error (.Present e))
        else
          let o ← o.releaseSlot slot
          return (o.setPool (o.pool.recycleFailedSubmitBo token.boIdx), .error (.Present e))

/-- `now` is when the tick begins, and `failedAt` when the frame has failed. -/
def tickOneOutput (o : Scanout) (now failedAt : Nat) (built : BuiltScene) (a : ComposeAnswers) :
    Option (Scanout × Except SceneError TickOutcome) := do
  let o ← o.retireFailedSubmitBos
  let o ← o.drainPendingPoolReleases
  if o.scene.pendingAcks ≠ [] then return (o, .ok (.Skipped .PendingAcks))
  else if o.scene.nextSubmitRetryAt.any (now < ·) then return (o, .ok (.Skipped .RetryDeadline))
  else if outputDamage o.scene built = [] ∧ o.scene.currentGeneration ≠ 0 then
    return (o, .ok (.Skipped .EmptyDamage))
  else
    match o.pool.acquireScanoutBo with
    | none => return (o, .ok (.Skipped .NoBO))
    | some token =>
      match o.scene.poolRing.acquire with
      | none => return (o, .ok (.Skipped .NoPool))
      | some (ring, slot) =>
        (o.modifyScene fun s => { s with poolRing := ring }).submitFrame token slot built a failedAt

/-! ## Flips -/

/-- The slot of a frame on screen is released when the fence of the frame has signalled. -/
def releaseRetired (o : Scanout) (ack : PendingAck) : Option Scanout :=
  match o.scene.poolSlots with
  | [] => some o
  | slot :: slots =>
    let o := o.modifyScene fun s => { s with poolSlots := slots }
    match ack.ticket with
    | none => o.releaseSlot slot
    | some t =>
      if o.pollSignaled t then o.releaseSlot slot
      else some (o.modifyScene fun s => { s with
        pendingPoolReleases := s.pendingPoolReleases ++ [(slot, t)] })

/-- What the frame was to settle when it is on screen. -/
def settle (o : Scanout) (ack : PendingAck) : Scanout :=
  o.modifyScene fun s => { s with
    sceneStructureDamage := s.sceneStructureDamage.subtract ack.submittedSceneStructureDamage
    pendingRepaintAfterFailedSubmit :=
      s.pendingRepaintAfterFailedSubmit.subtract ack.submittedFailedRepaint
    damageHistory := s.damageHistory.push ack.generation ack.submittedOutputDamage
    cursorPrevPos := ack.cursorPrevPosAfterRetire.getD s.cursorPrevPos
    lastFrameCursorMode := ack.cursorModeAfterRetire
    lastPresentCursorRect := ack.lastPresentCursorRectAfterRetire
    lastPresentCursorVersion := ack.lastPresentCursorVersionAfterRetire }

/-- The frame is on screen. -/
def retireAck (o : Scanout) (presented : Nat) (ack : PendingAck) (acks : List PendingAck) :
    Scanout :=
  ((o.modifyScene fun s => { s with pendingAcks := acks }).emit
    [.flipComplete presented ack.generation,
      .ackPresentationDamage ack.drawableSnapshots]).settle ack

/-- The call for the cursor plane of the output. -/
def cursorCalls (transition : Option CursorTransition) (a : CursorAnswers) : List SceneEvent :=
  match transition with
  | some (.ShowOnRetire ..) => [.cursorShow a.shown]
  | some .HideOnRetire => [.cursorHide a.setCursor2]
  | none => []

/-- The cursor plane is bound or taken off, even where it is not moved. -/
def planeAfter (visible : Bool) (transition : Option CursorTransition) (a : CursorAnswers) : Bool :=
  match transition with
  | some (.ShowOnRetire ..) => visible || a.setCursor2
  | some .HideOnRetire => visible && !a.setCursor2
  | none => visible

def applyCursor (o : Scanout) (transition : Option CursorTransition) (a : CursorAnswers) :
    Scanout :=
  { o with planeVisible := planeAfter o.planeVisible transition a }.emit (cursorCalls transition a)

def handlePageFlipComplete (o : Scanout) (a : CursorAnswers) : Option (Scanout × Bool) := do
  let (pool, retirement, closed) ← o.pool.onPageFlipComplete
  let o := (o.setPool pool).emit (closed.map .closed)
  match retirement, o.scene.pendingAcks with
  | none, _ | some _, [] => return (o, false)
  | some retire, ack :: acks =>
    let o ← (o.retireAck retire.presentedBoIdx ack acks).releaseRetired ack
    let o := o.setPool (o.pool.commitBoPresent retire.presentedBoIdx ack.generation)
    return (o.applyCursor ack.cursorTransition a, true)

/-- The image of the cursor has changed, which only a plane that is bound is to show. -/
def rebindVisibleCrtcs (o : Scanout) (a : CursorAnswers) : Scanout :=
  if o.planeVisible then o.emit [.cursorRebind a.shown] else o

/-! ## Suspending -/

/-- The slots of frames under way are released. -/
def releaseSlots (o : Scanout) : List Nat → Option Scanout
  | [] => some (o.modifyScene fun s => { s with poolSlots := [] })
  | slot :: slots => do (← o.releaseSlot slot).releaseSlots slots

/-- The part of `drain_all` that is about one output. Slots whose release was deferred are
not released. -/
def drainAll (o : Scanout) (a : CursorAnswers) : Option Scanout := do
  let o := o.modifyScene fun s => { s with pendingPoolReleases := [] }
  let o ← o.releaseSlots o.scene.poolSlots
  let o := o.modifyScene fun s => { s with
    pendingAcks := []
    lastFrameCursorMode := .Hidden
    cursorPrevPos := none
    lastPresentCursorRect := none
    lastPresentCursorVersion := none }
  return o.applyCursor (some .HideOnRetire) a

/-- The GPU becomes idle, the frames under way are dropped and the buffers are freed. The output
stays active if it cannot be switched off. -/
def suspend (o : Scanout) (a : CursorAnswers) (active : Bool) : Option Scanout := do
  let o := { o with
    active := active
    signalled := List.range o.nextTicket ++ o.signalled }.emit [.suspend]
  let o ← o.drainAll a
  let (pool, closed) := o.pool.resetForSuspend
  return (o.setPool pool).emit (closed.map .closed)

/-- The output is lit up with a frame of before, and the cursor plane is bound to it again. The
modeset may fail, and another output or the session may keep this one inactive. -/
def wake (o : Scanout) (committed active : Bool) (a : CursorAnswers) : Scanout :=
  let modeset := o.pool.modesetBo.toList.map fun i => SceneEvent.modeset i committed
  ({ o with active := active }.emit modeset).rebindVisibleCrtcs a

/-! ## Runs -/

inductive Action where
  | tick (now failedAt : Nat) (built : BuiltScene) (a : ComposeAnswers)
  | pageFlipComplete (a : CursorAnswers)
  | signal (t : FenceTicket)
  | sceneStructureDamage (r : Rect2D)
  | rebindVisibleCrtcs (a : CursorAnswers)
  | suspend (a : CursorAnswers) (active : Bool)
  | wake (committed active : Bool) (a : CursorAnswers)

/-- An output that is not active has no ticks, and only such an output is woken. -/
def act (o : Scanout) : Action → Option Scanout
  | .tick now failedAt built a =>
    if o.active then (o.tickOneOutput now failedAt built a).map (·.1) else some o
  | .pageFlipComplete a => (o.handlePageFlipComplete a).map (·.1)
  | .signal t => some (o.signal t)
  | .sceneStructureDamage r => some (o.markSceneStructureDamageRect r)
  | .rebindVisibleCrtcs a => some (o.rebindVisibleCrtcs a)
  | .suspend a active => o.suspend a active
  | .wake committed active a => some (if o.active then o else o.wake committed active a)

/-- `none` if an assertion fails on the way. -/
def run (o : Scanout) (actions : List Action) : Option Scanout :=
  actions.foldlM act o

end Scanout

end X12

import X12.Core.Region
import X12.Core.Resources

/-! # Server state

The state that requests of all clients share: the core resources, the
resources of the extensions, and one record for each connected client. -/

namespace X12

abbrev AtomId := UInt32

/-- A rectangle inside a DAMAGE event. -/
abbrev DamageRectangle := RegionRect

structure XFixesRegion where
  owner : ClientId
  rects : List RegionRect
  deriving DecidableEq, Repr

inductive CompositeRedirectMode where
  | Automatic
  | Manual
  deriving DecidableEq, Repr

structure RedirectRecord where
  mode : CompositeRedirectMode
  owner : ClientId
  deriving DecidableEq, Repr

structure ShapeWindowState where
  bounding : Option (List RegionRect)
  clip : Option (List RegionRect)
  input : Option (List RegionRect)
  deriving DecidableEq, Repr

structure SyncCounter where
  owner : ClientId
  value : Int64
  deriving DecidableEq, Repr

structure SyncFence where
  owner : ClientId
  triggered : Bool
  deriving DecidableEq, Repr

structure SyncAlarm where
  owner : ClientId
  counter : UInt32
  waitValue : Int64
  delta : Int64
  testType : UInt8
  events : Bool
  state : UInt8
  deriving DecidableEq, Repr

structure DamageObject where
  owner : ClientId
  drawable : ResourceId
  level : UInt8
  rects : List RegionRect
  pendingNotifyFired : Bool
  lastReportedGeometry : Option DamageRectangle
  deriving DecidableEq, Repr

structure PresentEventSelection where
  owner : ClientId
  window : ResourceId
  eventMask : UInt32
  deriving DecidableEq, Repr

structure MitShmSegment where
  owner : ClientId
  size : Nat
  readOnly : Bool
  deriving DecidableEq, Repr

structure GlxContext where
  owner : ClientId
  fbconfig : UInt32
  renderType : UInt32
  deriving DecidableEq, Repr

structure GlxDrawable where
  owner : ClientId
  xDrawable : UInt32
  fbconfig : UInt32
  width : UInt32
  height : UInt32
  attributes : List (UInt32 × UInt32)
  glxExportHostXid : Option Handle
  deriving DecidableEq, Repr

/-! ## Grabs and focus -/

structure PassiveButtonGrab where
  owner : ClientId
  grabWindow : ResourceId
  button : UInt8
  modifiers : UInt16
  ownerEvents : Bool
  eventMask : UInt32
  pointerMode : UInt8
  keyboardMode : UInt8
  confineTo : ResourceId
  viaXi2 : Bool
  deriving DecidableEq, Repr

structure KeyGrab where
  owner : ClientId
  grabWindow : ResourceId
  keycode : UInt8
  modifiers : UInt16
  ownerEvents : Bool
  pointerMode : UInt8
  keyboardMode : UInt8
  viaXi2 : Bool
  deriving DecidableEq, Repr

inductive ActiveKeyboardGrabSource where
  | Explicit
  | PassiveKey (keycode : UInt8)
  deriving DecidableEq, Repr

structure ActiveKeyboardGrab where
  owner : ClientId
  grabWindow : ResourceId
  source : ActiveKeyboardGrabSource
  ownerEvents : Bool
  viaXi2 : Bool
  deriving DecidableEq, Repr

structure ActivePointerGrab where
  owner : ClientId
  grabWindow : ResourceId
  eventMask : UInt16
  cursor : ResourceId
  time : UInt32
  ownerEvents : Bool
  viaXi2 : Bool
  deriving DecidableEq, Repr

structure Xi1PassiveGrab where
  owner : ClientId
  deviceid : UInt16
  grabWindow : ResourceId
  detail : UInt8
  modifiers : UInt16
  ownerEvents : Bool
  thisMode : UInt8
  otherMode : UInt8
  isKey : Bool
  deriving DecidableEq, Repr

structure Xi1ActiveGrab where
  owner : ClientId
  deviceid : UInt16
  grabWindow : ResourceId
  ownerEvents : Bool
  thisMode : UInt8
  otherMode : UInt8
  passiveDetail : Option UInt8
  deriving DecidableEq, Repr

/-- The focus as on the wire: 0 is None, 1 is PointerRoot, else a window. -/
structure CoreFocus where
  raw : UInt32
  revertTo : UInt8
  time : UInt32
  deriving DecidableEq, Repr

/-! ## Clients -/

def FIRST_CLIENT_BASE : UInt32 := 0x100000
def PER_CLIENT_MASK : UInt32 := 0xfffff

/-- The resource-id bases that are handed out to clients; the base released
last is reused first. -/
structure IdAllocator where
  nextBase : UInt32
  freeBases : List UInt32
  deriving DecidableEq, Repr

namespace IdAllocator

def new : IdAllocator where
  nextBase := FIRST_CLIENT_BASE
  freeBases := []

/-- The base and the mask of a new client. -/
def allocate (a : IdAllocator) : IdAllocator × Option (UInt32 × UInt32) :=
  match a.freeBases with
  | base :: rest => ({ a with freeBases := rest }, some (base, PER_CLIENT_MASK))
  | [] =>
    -- `checked_add`
    if a.nextBase.toNat + FIRST_CLIENT_BASE.toNat < 2 ^ 32 then
      ({ a with nextBase := a.nextBase + FIRST_CLIENT_BASE }, some (a.nextBase, PER_CLIENT_MASK))
    else (a, none)

def release (a : IdAllocator) (base : UInt32) : IdAllocator :=
  if base &&& PER_CLIENT_MASK ≠ 0 ∨ base < FIRST_CLIENT_BASE then a
  else { a with freeBases := base :: a.freeBases }

def validateOwned (id base mask : UInt32) : Bool :=
  id &&& ~~~mask = base

end IdAllocator

structure ClientState where
  resourceIdBase : UInt32
  resourceIdMask : UInt32
  eventMasks : ResourceMap UInt32
  saveSet : List ResourceId
  /-- Keyed by window and device. -/
  xi2Masks : List ((ResourceId × UInt16) × UInt32)
  xi1WindowEventClasses : ResourceMap (List UInt32)

/-- A client without any selection. -/
def ClientState.connected (base mask : UInt32) : ClientState where
  resourceIdBase := base
  resourceIdMask := mask
  eventMasks := ∅
  saveSet := []
  xi2Masks := []
  xi1WindowEventClasses := ∅

/-! ## The state -/

structure ServerState where
  resources : ResourceTable
  clients : Std.ExtTreeMap ClientId ClientState
  idAllocator : IdAllocator
  closeDownModes : Std.ExtTreeMap ClientId UInt8
  zombieClients : Std.ExtTreeMap ClientId UInt8
  /-- The owner window of each selection and the time it was set. -/
  selections : Std.ExtTreeMap AtomId (ResourceId × UInt32)
  pointerGrab : Option (ClientId × ResourceId)
  pointerGrabIsPassive : Bool
  activePointerGrab : Option ActivePointerGrab
  activeKeyboardGrab : Option ActiveKeyboardGrab
  buttonGrabs : List PassiveButtonGrab
  keyGrabs : List KeyGrab
  xi1PassiveGrabs : List Xi1PassiveGrab
  xi1ActiveGrabs : Std.ExtTreeMap UInt16 Xi1ActiveGrab
  coreFocus : CoreFocus
  xfixesRegions : ResourceMap XFixesRegion
  xfixesSelectionMasks : List ((ClientId × ResourceId × AtomId) × UInt32)
  xfixesCursorMasks : List ((ClientId × ResourceId) × UInt32)
  shapeWindows : ResourceMap ShapeWindowState
  shapeSelectMasks : List ((ClientId × ResourceId) × Bool)
  syncCounters : ResourceMap SyncCounter
  syncAlarms : ResourceMap SyncAlarm
  syncFences : ResourceMap SyncFence
  damageObjects : ResourceMap DamageObject
  /-- Keyed by window and by whether its children are meant. -/
  compositeRedirects : List ((ResourceId × Bool) × RedirectRecord)
  presentEventSelections : ResourceMap PresentEventSelection
  presentMsc : ResourceMap UInt64
  mitShmSegments : ResourceMap MitShmSegment
  glxContexts : ResourceMap GlxContext
  glxDrawables : ResourceMap GlxDrawable
  randrSelectMasks : List ((ClientId × ResourceId) × UInt16)
  xkbSelectEventMasks : List ((ClientId × UInt16) × UInt16)

namespace ServerState

/-- The state at startup. -/
def new : ServerState where
  resources := ResourceTable.default.modifyWindow ROOT_WINDOW fun root =>
    { root with width := 800, height := 600 }
  clients := ∅
  idAllocator := .new
  closeDownModes := ∅
  zombieClients := ∅
  selections := ∅
  pointerGrab := none
  pointerGrabIsPassive := false
  activePointerGrab := none
  activeKeyboardGrab := none
  buttonGrabs := []
  keyGrabs := []
  xi1PassiveGrabs := []
  xi1ActiveGrabs := ∅
  coreFocus := ⟨1, 0, 0⟩
  xfixesRegions := ∅
  xfixesSelectionMasks := []
  xfixesCursorMasks := []
  shapeWindows := ∅
  shapeSelectMasks := []
  syncCounters := ∅
  syncAlarms := ∅
  syncFences := ∅
  damageObjects := ∅
  compositeRedirects := []
  presentEventSelections := ∅
  presentMsc := ∅
  mitShmSegments := ∅
  glxContexts := ∅
  glxDrawables := ∅
  randrSelectMasks := []
  xkbSelectEventMasks := []

/-- A new client gets a base, unless none is left. -/
def connectClient (s : ServerState) (client : ClientId) : Option ServerState :=
  match s.idAllocator.allocate with
  | (allocator, some (base, mask)) =>
    some { s with
      idAllocator := allocator
      clients := s.clients.insert client (.connected base mask) }
  | (_, none) => none

def changeSaveSet (s : ServerState) (client : ClientId) (mode : UInt8) (win : ResourceId) :
    ServerState :=
  { s with
    clients := s.clients.modify client fun c =>
      if mode = 0 then { c with saveSet := c.saveSet.insert win }
      else if mode = 1 then { c with saveSet := c.saveSet.filter (· ≠ win) }
      else c }

/-- The id names a resource of some kind. -/
def xidOccupied (s : ServerState) (id : ResourceId) : Bool :=
  s.resources.xidInUse id || s.xfixesRegions.contains id || s.syncCounters.contains id ||
    s.syncAlarms.contains id || s.syncFences.contains id || s.damageObjects.contains id ||
    s.mitShmSegments.contains id || s.glxContexts.contains id || s.glxDrawables.contains id ||
    s.presentEventSelections.contains id

end ServerState

end X12

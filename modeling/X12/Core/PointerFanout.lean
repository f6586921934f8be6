import X12.Core.ButtonGrabs
import X12.Core.Disconnect
import X12.Core.HitTest
import X12.Core.WindowTree

/-! # The fanout of a pointer event

A button is mapped, noted as up or down and withheld while the pointer is frozen. Otherwise
a release ends a passive grab of the pointer and a press may activate one. What is sent to
the clients is left out. -/

namespace X12

inductive PointerEventKind where
  | ButtonPress
  | ButtonRelease
  | MotionNotify
  | EnterNotify
  | LeaveNotify
  deriving DecidableEq, Repr

namespace PointerEventKind

def isButton (kind : PointerEventKind) : Bool :=
  kind = .ButtonPress || kind = .ButtonRelease

def isCrossing (kind : PointerEventKind) : Bool :=
  kind = .EnterNotify || kind = .LeaveNotify

/-- `pointer_mask_bit`; motion counts for each of the first five buttons that are held. -/
def maskBit (kind : PointerEventKind) (stateMask : UInt16) : UInt32 :=
  match kind with
  | .ButtonPress => 0x4
  | .ButtonRelease => 0x8
  | .MotionNotify =>
    let buttonsHeld := (stateMask >>> 8) &&& 0x1f
    if buttonsHeld = 0 then 0x40 else (0x2040 : UInt32) ||| buttonsHeld.toUInt32 <<< 8
  | .EnterNotify => 0x10
  | .LeaveNotify => 0x20

end PointerEventKind

structure HostPointerEvent where
  kind : PointerEventKind
  hostXid : UInt32
  /-- The number of a button, from 1. -/
  detail : UInt8
  rootX : Int16
  rootY : Int16
  eventX : Int16
  eventY : Int16
  state : UInt16
  deriving DecidableEq, Repr

/-- The top-level window of each window of the host. -/
abbrev HostXidMap := ResourceMap ResourceId

def XI1_NUM_BUTTONS : UInt8 := 7

structure PointerState where
  input : InputState
  /-- The logical number of each physical button; 0 disables the button. -/
  pointerMappingOverride : Option (List UInt8)
  /-- Bit `n - 1` is set while the logical button `n` is down. -/
  buttonsDown : UInt16
  pointerConfineTo : ResourceId
  pointerRoot : Int16 × Int16
  /-- The press that activated a synchronous grab. -/
  frozenPointerEvent : Option HostPointerEvent
  /-- The events that came since. -/
  frozenPointerQueue : List HostPointerEvent

namespace PointerState

/-! ## SetPointerMapping -/

/-- The first entry that is not zero and occurred before. -/
def repeatedEntry : List UInt8 → List UInt8 → Option UInt8
  | _, [] => none
  | seen, b :: rest =>
    if b ≠ 0 ∧ b ∈ seen then some b else repeatedEntry (b :: seen) rest

def handleSetPointerMapping (s : PointerState) (data : UInt8) (body : List UInt8) :
    PointerState × Option Refusal :=
  let n := data.toNat
  if body.length < n then (s, emitX11Error BAD_LENGTH 0 116)
  else
    let map := body.take n
    let currentLen := (s.pointerMappingOverride.map List.length).getD XI1_NUM_BUTTONS.toNat
    if n ≠ currentLen then (s, emitX11Error BAD_VALUE data.toUInt32 116)
    else
      match repeatedEntry [] map with
      | some b => (s, emitX11Error BAD_VALUE b.toUInt32 116)
      | none => ({ s with pointerMappingOverride := some map }, none)

/-! ## Before the event is routed -/

/-- The logical number of a physical button; `wrapping_sub` misses the map at 0. -/
def mappingEntry (s : PointerState) (button : UInt8) : Option UInt8 :=
  if button = 0 then none
  else s.pointerMappingOverride.bind fun map => map[button.toNat - 1]?

/-- The event with its logical button, unless the button is disabled. -/
def mapButton (s : PointerState) (event : HostPointerEvent) : Option HostPointerEvent :=
  match if event.kind.isButton then s.mappingEntry event.detail else none with
  | none => some event
  | some mapped => if mapped = 0 then none else some { event with detail := mapped }

def trackButton (s : PointerState) (event : HostPointerEvent) : PointerState :=
  if event.kind.isButton ∧ 1 ≤ event.detail ∧ event.detail ≤ 16 then
    let bit := (1 : UInt16) <<< (event.detail - 1).toUInt16
    let down :=
      if event.kind = .ButtonPress then s.buttonsDown ||| bit else s.buttonsDown &&& ~~~bit
    { s with buttonsDown := down }
  else s

/-- The nearest position in a range of coordinates. -/
def clampTo (start : Int) (length : UInt16) (v : Int16) : Int16 :=
  Int16.ofInt (max start (min v.toInt (max (start + length.toNat - 1) start)))

/-- An event outside the window to which the pointer is confined is moved to its edge. -/
def confine (s : PointerState) (event : HostPointerEvent) : HostPointerEvent :=
  let resources := s.input.server.resources
  if s.pointerConfineTo = 0 then event
  else
    match resources.windows[s.pointerConfineTo]? with
    | none => event
    | some w =>
      if w.mapState ≠ .Viewable then event
      else
        let (x, y) := resources.windowAbsolutePosition s.pointerConfineTo
        { event with
          rootX := clampTo x w.width event.rootX
          rootY := clampTo y w.height event.rootY }

def translateHostEvent (s : PointerState) (xidMap : HostXidMap) (event : HostPointerEvent) :
    HostPointerEvent :=
  match xidMap[event.hostXid]?.bind (s.input.server.resources.windows[·]?) with
  | none => event
  | some w => { event with rootX := w.x + event.eventX, rootY := w.y + event.eventY }

/-- While the pointer is frozen, events are kept for later. -/
def withholds (s : PointerState) (kind : PointerEventKind) (handleGrabs isReplay : Bool) : Bool :=
  !isReplay && handleGrabs &&
    (s.input.frozen DEVICEID_SLAVE_POINTER ||
      s.input.server.pointerGrabIsPassive && s.frozenPointerEvent.isSome) &&
    !kind.isCrossing

/-! ## Grabs -/

/-- The deepest window at the event, if any, and the position in it. -/
def hitTarget (s : PointerState) (xidMap : HostXidMap) (event : HostPointerEvent) :
    Option (ResourceId × Int16 × Int16) :=
  let server := s.input.server
  (server.pointerTargetAt ROOT_WINDOW event.rootX event.rootY).or <|
    xidMap[event.hostXid]?.map fun topLevel =>
      (server.pointerTargetAt topLevel event.eventX event.eventY).getD
        (topLevel, event.eventX, event.eventY)

def pointerTarget (s : PointerState) (xidMap : HostXidMap) (event : HostPointerEvent) :
    ResourceId × Int16 × Int16 :=
  (s.hitTarget xidMap event).getD (ROOT_WINDOW, event.eventX, event.eventY)

/-- The window and the client of the active grab, and whether it has `owner_events`. -/
def activeGrabTarget (s : PointerState) : Option (ResourceId × ClientId × Bool) :=
  let server := s.input.server
  match server.pointerGrab with
  | none => none
  | some (client, grabWindow) =>
    if !server.clients.contains client then none
    else
      let ownerEvents :=
        if server.pointerGrabIsPassive then
          (server.buttonGrabs.reverse.find? fun g =>
            g.owner = client && g.grabWindow = grabWindow).any (·.ownerEvents)
        else (server.activePointerGrab.filter (·.owner = client)).any (·.ownerEvents)
      some (grabWindow, client, ownerEvents)

/-- The active grab takes the event from the window `target`. -/
def redirectsToGrab (s : PointerState) (kind : PointerEventKind) (target : ResourceId) : Bool :=
  match s.activeGrabTarget with
  | none => false
  | some (grabWindow, grabClient, ownerEvents) =>
    let resources := s.input.server.resources
    let qualifies := target = grabWindow || resources.isDescendantOf target grabWindow ||
      resources.windowOwner target = some grabClient
    !kind.isCrossing && (!ownerEvents || !qualifies)

def releasePassiveGrabOnButtonRelease (s : PointerState) (kind : PointerEventKind) :
    PointerState × List Pending :=
  if kind = .ButtonRelease ∧ s.input.server.pointerGrabIsPassive then
    let o := s.input.releasePassiveGrabOnButtonRelease
    ({ s with input := o.state, frozenPointerEvent := none, pointerConfineTo := 0 }, o.rest)
  else (s, [])

def tryMatchPassiveGrab (s : PointerState) (xidMap : HostXidMap) (event : HostPointerEvent) :
    Option PassiveButtonGrab :=
  (s.hitTarget xidMap event).bind fun (hitWindow, _, _) =>
    s.input.server.findPassiveGrab s.buttonsDown hitWindow event.detail event.state

/-- The first window up from `start` at which any client selects the event, if the client
of the grab is one of them. -/
def grabbedNaturalTarget (s : PointerState) (start : ResourceId) (maskBits : UInt32)
    (grabClient : ClientId) : Option ResourceId :=
  let chain := s.input.server.resources.parentChain (fun _ => false) 255 start
  (chain.find? fun w => !(s.input.subscribersById w maskBits).isEmpty).filter fun w =>
    grabClient ∈ s.input.subscribersById w maskBits

/-- A press activates a grab. A synchronous grab freezes the pointer when its client got the
press. -/
def activatePassiveGrab (s : PointerState) (grab : PassiveButtonGrab) (event : HostPointerEvent)
    (target : ResourceId) : PointerState × List Pending :=
  let bit := event.kind.maskBit event.state
  let natural := if grab.ownerEvents then s.grabbedNaturalTarget target bit grab.owner else none
  let delivered := natural.isSome ||
    grab.eventMask &&& bit ≠ 0 && s.input.server.clients.contains grab.owner
  let held := if delivered && grab.pointerMode = 0 then some event else s.frozenPointerEvent
  let o := s.input.activateButtonGrab grab
  ({ s with
    input := o.state
    frozenPointerEvent := held
    pointerConfineTo := grab.confineTo }, o.rest)

/-! ## The fanout -/

/-- The grabs that an event which is not withheld ends and activates. -/
def routeThroughGrabs (s : PointerState) (xidMap : HostXidMap) (event : HostPointerEvent)
    (handleGrabs : Bool) : PointerState × List Pending :=
  let (target, _, _) := s.pointerTarget xidMap event
  let handledCoreViaGrab := handleGrabs && s.redirectsToGrab event.kind target
  let (s, rest) := s.releasePassiveGrabOnButtonRelease event.kind
  if !handledCoreViaGrab && s.input.server.pointerGrab.isNone && handleGrabs &&
      event.kind = .ButtonPress then
    match s.tryMatchPassiveGrab xidMap event with
    | some grab =>
      let (s, later) := s.activatePassiveGrab grab event target
      (s, rest ++ later)
    | none => (s, rest)
  else (s, rest)

/-- The state after the call, and the queues of thawed devices that remain to be played. -/
def pointerEventFanout (s : PointerState) (xidMap : HostXidMap) (event : HostPointerEvent)
    (handleGrabs isReplay : Bool) : PointerState × List Pending :=
  match s.mapButton event with
  | none => (s, [])
  | some event =>
    let s := s.trackButton event
    let event := if isReplay then event else s.confine event
    let event := s.translateHostEvent xidMap event
    let s := { s with pointerRoot := (event.rootX, event.rootY) }
    if s.withholds event.kind handleGrabs isReplay then
      ({ s with frozenPointerQueue := s.frozenPointerQueue ++ [event] }, [])
    else s.routeThroughGrabs xidMap event handleGrabs

end PointerState

end X12

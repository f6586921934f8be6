import X12.Core.WindowTree
import X12.Core.Server

/-! # Freezing of input devices

A synchronous grab freezes an input device: what it reports is withheld and
replayed when it is thawed. The replay of an event can activate or release a
grab, and that thaws devices in turn, so the replay is entered again from
within the routing of an event. A call therefore leaves what remains of it
after such an inner replay as a list. Times of grabs, the core events of the
pointer and the bytes of the events are left out. -/

namespace X12

def XI_FIRST_EVENT : UInt8 := 66
def XI_DEVICE_KEY_PRESS_OFFSET : UInt8 := 1
def XI_DEVICE_KEY_RELEASE_OFFSET : UInt8 := 2
def XI_DEVICE_BUTTON_PRESS_OFFSET : UInt8 := 3
def XI_DEVICE_BUTTON_RELEASE_OFFSET : UInt8 := 4

def DEVICEID_SLAVE_POINTER : UInt16 := 4
def DEVICEID_SLAVE_KEYBOARD : UInt16 := 5

def KEY_PRESS_MASK : UInt32 := 1
def KEY_RELEASE_MASK : UInt32 := 2
def XI2_KEYPRESS_EVTYPE : UInt32 := 2
def XI2_KEYRELEASE_EVTYPE : UInt32 := 3
def XI2_MASTER_KEYBOARD_DEVICE_ID : UInt16 := 3
def XI2_SLAVE_KEYBOARD_DEVICE_ID : UInt16 := 5

/-! ## Events and devices -/

structure HostKeyEvent where
  pressed : Bool
  keycode : UInt8
  time : UInt32
  rootX : Int16
  rootY : Int16
  eventX : Int16
  eventY : Int16
  state : UInt16
  deriving DecidableEq, Repr

/-- The axes of a faked motion of a device. -/
structure Xi1MotionAxes where
  first : UInt8
  count : UInt8
  values : List Int32
  deriving DecidableEq, Repr

/-- How the selections are searched for the receivers of a device event. -/
inductive Xi1FocusRoute where
  | Walk
  | WalkUpTo (window : ResourceId)
  | WindowOnly (window : ResourceId)
  | Drop
  deriving DecidableEq, Repr

structure Xi1QueuedEvent where
  deviceid : UInt16
  evcode : UInt8
  detail : UInt8
  time : UInt32
  rootX : Int16
  rootY : Int16
  eventX : Int16
  eventY : Int16
  stateMask : UInt16
  naturalTarget : ResourceId
  focusRoute : Xi1FocusRoute
  axes : Option Xi1MotionAxes
  /-- Passive grabs at or above this window are skipped. -/
  replayFloor : Option ResourceId
  deriving DecidableEq, Repr

namespace Xi1QueuedEvent

def isPress (q : Xi1QueuedEvent) : Bool :=
  q.evcode = XI_FIRST_EVENT + XI_DEVICE_KEY_PRESS_OFFSET ||
    q.evcode = XI_FIRST_EVENT + XI_DEVICE_BUTTON_PRESS_OFFSET

def isRelease (q : Xi1QueuedEvent) : Bool :=
  q.evcode = XI_FIRST_EVENT + XI_DEVICE_KEY_RELEASE_OFFSET ||
    q.evcode = XI_FIRST_EVENT + XI_DEVICE_BUTTON_RELEASE_OFFSET

end Xi1QueuedEvent

inductive Xi1SyncState where
  | Thawed
  | FreezeNextEvent
  | FreezeBothNextEvent
  | FrozenNoEvent
  | FrozenWithEvent
  deriving DecidableEq, Repr

/-- At least `FrozenNoEvent`. -/
def Xi1SyncState.isFrozen : Xi1SyncState → Bool
  | .FrozenNoEvent | .FrozenWithEvent => true
  | _ => false

structure Xi1Freeze where
  state : Xi1SyncState
  /-- The client on behalf of whose grab of the other device this one is held. -/
  other : Option ClientId
  stored : Option Xi1QueuedEvent
  queue : List Xi1QueuedEvent
  coreKeyQueue : List HostKeyEvent
  deriving DecidableEq, Repr

namespace Xi1Freeze

def default : Xi1Freeze where
  state := .Thawed
  other := none
  stored := none
  queue := []
  coreKeyQueue := []

def frozen (f : Xi1Freeze) : Bool :=
  f.other.isSome || f.state.isFrozen

/-- The device is no longer held on behalf of the client. -/
def release (f : Xi1Freeze) (client : ClientId) : Xi1Freeze :=
  if f.other = some client then { f with other := none } else f

end Xi1Freeze

def xi1OtherInputDevice (deviceid : UInt16) : UInt16 :=
  if deviceid = DEVICEID_SLAVE_POINTER then DEVICEID_SLAVE_KEYBOARD else DEVICEID_SLAVE_POINTER

/-! ## The state -/

structure InputState where
  server : ServerState
  /-- A device without an entry has the default one. -/
  xi1Frozen : UInt16 → Xi1Freeze
  /-- The press that activated a synchronous passive key grab. -/
  frozenKeyboardEvent : Option HostKeyEvent
  /-- The focus of each device as on the wire. -/
  xi1DeviceFocus : UInt16 → UInt32
  deepestWindowAtPointer : ResourceId

/-- Where a key event should go. -/
inductive KeyRoute where
  | Drop
  | PassiveGrabOwner (owner : ClientId) (grabWindow : ResourceId) (freeze ownerEvents viaXi2 : Bool)
  | Window (window : ResourceId)
  deriving DecidableEq, Repr

/-- What remains of a call. -/
inductive Pending where
  /-- The loop of `xi1_compute_freezes` over the queues of one device. -/
  | drain (dev : UInt16)
  /-- `deliver_routed_key`, once the key has its route. -/
  | deliverRouted (event : HostKeyEvent) (route : KeyRoute)
  /-- `xi1_route_device_event`, once the press has activated a passive grab. -/
  | deliverActivating (q : Xi1QueuedEvent) (grab : Xi1PassiveGrab)
  /-- The event stored with a grab is routed again, without the grab. -/
  | routeStored (q : Xi1QueuedEvent)
  /-- The key stored with a passive key grab goes to the focus. -/
  | replayKey (event : HostKeyEvent)
  /-- The withheld core events of the pointer are fanned out. -/
  | playPointer
  deriving DecidableEq, Repr

structure Receiver where
  client : ClientId
  window : ResourceId
  viaXi2 : Bool
  deriving DecidableEq, Repr

inductive InputEvent where
  | keyArrived (event : HostKeyEvent)
  | keyDelivered (event : HostKeyEvent) (receivers : List Receiver)
  | keyReplayed (event : HostKeyEvent) (receivers : List Receiver)
  | deviceArrived (q : Xi1QueuedEvent)
  | deviceDelivered (q : Xi1QueuedEvent) (receivers : List Receiver)
  deriving DecidableEq, Repr

/-- The state after a call, what remains of the call, and what it did. -/
structure InputOutcome where
  state : InputState
  rest : List Pending
  events : List InputEvent

namespace InputOutcome

def done (s : InputState) : InputOutcome := ⟨s, [], []⟩

/-- The call is followed by more. -/
def andThen (o : InputOutcome) (later : List Pending) : InputOutcome :=
  { o with rest := o.rest ++ later }

/-- The call is preceded by some events. -/
def after (o : InputOutcome) (earlier : List InputEvent) : InputOutcome :=
  { o with events := earlier ++ o.events }

end InputOutcome

/-- The loop of `xi1_compute_freezes`, device by device. -/
def computeFreezes : List Pending :=
  [.drain DEVICEID_SLAVE_POINTER, .drain DEVICEID_SLAVE_KEYBOARD]

/-! ## Windows -/

namespace ResourceTable

/-- A window and its ancestors, up to a window at which the walk stops. -/
def parentChain (t : ResourceTable) (stop : ResourceId → Bool) :
    Nat → ResourceId → List ResourceId
  | 0, window => [window]
  | rounds + 1, window =>
    if stop window then [window]
    else
      match t.windows[window]? with
      | none => [window]
      | some w =>
        if w.parent = window then [window] else window :: t.parentChain stop rounds w.parent

def xi1WindowInChain (t : ResourceTable) (target grabWindow : ResourceId) : Bool :=
  (t.parentChain (· = ROOT_WINDOW) t.windows.size target).contains grabWindow

end ResourceTable

namespace InputState

/-! ## The receivers of an event -/

def subscribersById (s : InputState) (window : ResourceId) (maskBits : UInt32) : List ClientId :=
  s.server.clients.keys.filter fun id =>
    s.server.clients[id]?.any fun c => c.eventMasks.getD window 0 &&& maskBits ≠ 0

def keyMask (event : HostKeyEvent) : UInt32 :=
  if event.pressed then KEY_PRESS_MASK else KEY_RELEASE_MASK

def xi2EvtypeFor (event : HostKeyEvent) : UInt32 :=
  if event.pressed then XI2_KEYPRESS_EVTYPE else XI2_KEYRELEASE_EVTYPE

def xi2MaskForClient (client : ClientState) (target : ResourceId) (devices : List UInt16) :
    UInt32 :=
  (devices.findSome? fun deviceid => client.xi2Masks.lookup (target, deviceid)).getD 0

/-- A client that gets the XI2 form of a key does not get the core form. -/
def keyWindowReceivers (s : InputState) (event : HostKeyEvent) (target : ResourceId) :
    List Receiver :=
  let devices := [XI2_SLAVE_KEYBOARD_DEVICE_ID, XI2_MASTER_KEYBOARD_DEVICE_ID, 1, 0]
  let xi2Targets := s.server.clients.keys.filter fun id =>
    s.server.clients[id]?.any fun c =>
      xi2MaskForClient c target devices &&& (1 <<< xi2EvtypeFor event) ≠ 0
  let coreTargets := (s.subscribersById target (keyMask event)).filter (· ∉ xi2Targets)
  coreTargets.map (⟨·, target, false⟩) ++ xi2Targets.map (⟨·, target, true⟩)

/-- None, the deepest window at the pointer, or a window. -/
def currentFocus (s : InputState) : ResourceId :=
  if s.server.coreFocus.raw = 0 then 0
  else if s.server.coreFocus.raw = 1 then s.deepestWindowAtPointer
  else s.server.coreFocus.raw

/-- The chain of a window as the key fanout walks it. -/
def keyChain (s : InputState) (rounds : Nat) (window : ResourceId) : List ResourceId :=
  s.server.resources.parentChain (fun _ => false) rounds window

def focusedWalkTarget (s : InputState) (focus : ResourceId) (event : HostKeyEvent) : ResourceId :=
  let chain := s.keyChain 256 s.deepestWindowAtPointer
  if focus ∉ chain then focus
  else
    ((chain.takeWhile (· ≠ focus)).find? fun w =>
      !(s.subscribersById w (keyMask event)).isEmpty).getD focus

/-- Where a key would go without the grab, if the owner of the grab is a
receiver there. -/
def keyGrabbedNaturalTarget (s : InputState) (event : HostKeyEvent) (owner : ClientId) :
    Option ResourceId :=
  let focus := s.currentFocus
  if focus = 0 then none
  else
    let pointer := s.deepestWindowAtPointer
    let start := if focus ∈ s.keyChain 256 pointer then pointer else focus
    ((s.keyChain 255 start).find? fun w =>
      !(s.subscribersById w (keyMask event)).isEmpty).filter fun w =>
        owner ∈ s.subscribersById w (keyMask event)

def xi1WindowSelectors (s : InputState) (window : ResourceId) (evcode : UInt8)
    (deviceid : UInt16) : List ClientId :=
  let eventClass := (deviceid.toUInt32 <<< 8) ||| evcode.toUInt32
  s.server.clients.keys.filter fun id =>
    s.server.clients[id]?.any fun c => (c.xi1WindowEventClasses.getD window []).contains eventClass

def computeXi1TargetsBounded (s : InputState) (target : ResourceId) (evcode : UInt8)
    (deviceid : UInt16) (stopAt : Option ResourceId) : Option (List ClientId × ResourceId) :=
  let chain := s.server.resources.parentChain (fun w => w = ROOT_WINDOW || stopAt = some w)
    s.server.resources.windows.size target
  (chain.find? fun w => !(s.xi1WindowSelectors w evcode deviceid).isEmpty).map fun w =>
    (s.xi1WindowSelectors w evcode deviceid, w)

def computeXi1RouteTargets (s : InputState) (q : Xi1QueuedEvent) :
    Option (List ClientId × ResourceId) :=
  match q.focusRoute with
  | .Walk => s.computeXi1TargetsBounded q.naturalTarget q.evcode q.deviceid none
  | .WalkUpTo stop => s.computeXi1TargetsBounded q.naturalTarget q.evcode q.deviceid (some stop)
  | .WindowOnly w =>
    let targets := s.xi1WindowSelectors w q.evcode q.deviceid
    if targets.isEmpty then none else some (targets, w)
  | .Drop => none

/-- The natural target of a key of the device, and how the selections are
searched from there. -/
def keyDeliveryRoute (s : InputState) (deviceid : UInt16) : ResourceId × Xi1FocusRoute :=
  let sprite := s.deepestWindowAtPointer
  let raw := s.xi1DeviceFocus deviceid
  -- `FollowKeyboard` is the focus of the core keyboard
  let resolved := if raw = 3 then s.server.coreFocus.raw else raw
  if resolved = 0 then (sprite, .Drop)
  else if resolved = 1 then (sprite, .Walk)
  else if resolved ∈ s.keyChain 256 sprite then (sprite, .WalkUpTo resolved)
  else (resolved, .WindowOnly resolved)

/-! ## The freeze of a device -/

def frozen (s : InputState) (dev : UInt16) : Bool :=
  (s.xi1Frozen dev).frozen

def updateFreeze (s : InputState) (dev : UInt16) (f : Xi1Freeze → Xi1Freeze) : InputState :=
  { s with xi1Frozen := Function.update s.xi1Frozen dev (f (s.xi1Frozen dev)) }

/-- The client whose grab controls the device: a core grab counts as a grab of
the slave device. -/
def xi1DeviceGrabOwner (s : InputState) (deviceid : UInt16) : Option ClientId :=
  match s.server.xi1ActiveGrabs[deviceid]? with
  | some g => some g.owner
  | none =>
    if deviceid = DEVICEID_SLAVE_POINTER then s.server.activePointerGrab.map (·.owner)
    else s.server.activeKeyboardGrab.map (·.owner)

def xi1CheckGrabForSyncs (s : InputState) (deviceid : UInt16) (owner : ClientId)
    (thisSync otherSync : Bool) : InputOutcome :=
  let s := s.updateFreeze deviceid fun sync =>
    if thisSync then { sync with state := .FrozenNoEvent }
    else { sync with state := .Thawed }.release owner
  let s := s.updateFreeze (xi1OtherInputDevice deviceid) fun other =>
    if otherSync then { other with other := some owner } else other.release owner
  ⟨s, computeFreezes, []⟩

/-- After a key or button event was delivered through the grab. -/
def xi1FreezeThisEventIfNeeded (s : InputState) (deviceid : UInt16) (owner : ClientId)
    (q : Xi1QueuedEvent) : InputState :=
  match (s.xi1Frozen deviceid).state with
  | .FreezeBothNextEvent =>
    let otherDev := xi1OtherInputDevice deviceid
    let otherOwner := s.xi1DeviceGrabOwner otherDev
    let s := s.updateFreeze otherDev fun other =>
      if other.state = .FreezeBothNextEvent && otherOwner = some owner then
        { other with state := .FrozenNoEvent }
      else { other with other := some owner }
    s.updateFreeze deviceid fun sync =>
      { sync with state := .FrozenWithEvent, stored := some q }
  | .FreezeNextEvent =>
    s.updateFreeze deviceid fun sync =>
      { sync with state := .FrozenWithEvent, stored := some q }
  | _ => s

def xi1DeactivateDeviceGrab (s : InputState) (deviceid : UInt16) : InputOutcome :=
  match s.server.xi1ActiveGrabs[deviceid]? with
  | none => .done s
  | some grab =>
    let active := s.server.xi1ActiveGrabs.erase deviceid
    let s := { s with server := { s.server with xi1ActiveGrabs := active } }
    let s := s.updateFreeze deviceid fun sync => { sync with state := .Thawed, stored := none }
    let s := s.updateFreeze (xi1OtherInputDevice deviceid) (·.release grab.owner)
    ⟨s, computeFreezes, []⟩

def xi1CoreGrabBridgeRelease (s : InputState) (deviceid : UInt16) (owner : ClientId) :
    InputOutcome :=
  let s :=
    if s.server.xi1ActiveGrabs.contains deviceid then s
    else s.updateFreeze deviceid fun sync => { sync with state := .Thawed, stored := none }
  let s := s.updateFreeze (xi1OtherInputDevice deviceid) (·.release owner)
  ⟨s, computeFreezes, []⟩

def xi1ThawDevice (s : InputState) (deviceid : UInt16) : InputOutcome :=
  ⟨s.updateFreeze deviceid fun freeze => { freeze with state := .Thawed, other := none },
    computeFreezes, []⟩

/-! ## Device events -/

/-- A replayed event skips the grabs at or above the one it was released from. -/
def matchingPassiveGrab (s : InputState) (q : Xi1QueuedEvent) : Option Xi1PassiveGrab :=
  let inChain := s.server.resources.xi1WindowInChain
  s.server.xi1PassiveGrabs.find? fun g =>
    g.deviceid = q.deviceid && (g.detail = 0 || g.detail = q.detail) &&
      (g.modifiers = 0x8000 || g.modifiers = q.stateMask &&& 0x00ff) &&
      inChain q.naturalTarget g.grabWindow &&
      !q.replayFloor.any fun floor => inChain floor g.grabWindow

def fanDevice (q : Xi1QueuedEvent) (targets : List ClientId) (window : ResourceId) : InputEvent :=
  .deviceDelivered q (targets.map (⟨·, window, false⟩))

/-- Every caller lets the delivered event freeze the device. -/
def xi1RouteDeviceEvent (s : InputState) (q : Xi1QueuedEvent) : InputOutcome :=
  if s.frozen q.deviceid then
    .done (s.updateFreeze q.deviceid fun f => { f with queue := f.queue ++ [q] })
  else
    match s.server.xi1ActiveGrabs[q.deviceid]? with
    | some grab =>
      let window :=
        match s.computeXi1RouteTargets q with
        | some (clients, w) =>
          if grab.ownerEvents && clients.contains grab.owner then w else grab.grabWindow
        | none => grab.grabWindow
      let s :=
        if q.isPress || q.isRelease then s.xi1FreezeThisEventIfNeeded q.deviceid grab.owner q
        else s
      let o :=
        if q.isRelease && grab.passiveDetail = some q.detail then
          s.xi1DeactivateDeviceGrab q.deviceid
        else .done s
      o.after [fanDevice q [grab.owner] window]
    | none =>
      match if q.isPress then s.matchingPassiveGrab q else none with
      | some g =>
        let active : Xi1ActiveGrab :=
          { owner := g.owner
            deviceid := q.deviceid
            grabWindow := g.grabWindow
            ownerEvents := g.ownerEvents
            thisMode := g.thisMode
            otherMode := g.otherMode
            passiveDetail := some q.detail }
        let grabs := s.server.xi1ActiveGrabs.insert q.deviceid active
        let s := { s with server := { s.server with xi1ActiveGrabs := grabs } }
        (s.xi1CheckGrabForSyncs q.deviceid g.owner (g.thisMode = 0) (g.otherMode = 0)).andThen
          [.deliverActivating q g]
      | none =>
        let event :=
          match s.computeXi1RouteTargets q with
          | some (targets, w) => fanDevice q targets w
          | none => .deviceDelivered q []
        -- a core grab of the device trips an armed freeze as well
        let s :=
          match s.xi1DeviceGrabOwner q.deviceid with
          | some owner =>
            if q.isPress || q.isRelease then s.xi1FreezeThisEventIfNeeded q.deviceid owner q else s
          | none => s
        (InputOutcome.done s).after [event]

/-- The press that activated the grab is stored when the grab froze the device. -/
def deliverActivating (s : InputState) (q : Xi1QueuedEvent) (g : Xi1PassiveGrab) : InputOutcome :=
  (InputOutcome.done (s.updateFreeze q.deviceid fun sync =>
    if sync.state = .FrozenNoEvent then { sync with state := .FrozenWithEvent, stored := some q }
    else sync)).after [fanDevice q [g.owner] g.grabWindow]

/-- A device event that is routed for the first time. -/
def arriveDevice (s : InputState) (q : Xi1QueuedEvent) : InputOutcome :=
  (s.xi1RouteDeviceEvent q).after [.deviceArrived q]

/-! ## Keys -/

/-- The first matching grab, from the root down to the window. -/
def findKeyGrab (s : InputState) (window : ResourceId) (keycode : UInt8) (stateMask : UInt16) :
    Option KeyGrab :=
  let chain := s.keyChain 256 window
  let chain := if chain.contains ROOT_WINDOW then chain else chain ++ [ROOT_WINDOW]
  chain.reverse.findSome? fun current =>
    s.server.keyGrabs.find? fun grab =>
      grab.grabWindow = current && (grab.keycode = 0 || grab.keycode = keycode) &&
        (grab.modifiers = 0x8000 || grab.modifiers = stateMask &&& 0x00ff)

/-- The route of a key. A press may activate a passive grab, and a release may
end it; both end with a replay. -/
def keyRoute (s : InputState) (event : HostKeyEvent) : InputState × List Pending × KeyRoute :=
  match s.server.activeKeyboardGrab with
  | some g =>
    let route := .PassiveGrabOwner g.owner g.grabWindow false g.ownerEvents g.viaXi2
    if !event.pressed && g.source = .PassiveKey event.keycode then
      let s := { s with
        server := { s.server with activeKeyboardGrab := none }
        frozenKeyboardEvent := none }
      let o := s.xi1CoreGrabBridgeRelease DEVICEID_SLAVE_KEYBOARD g.owner
      (o.state, o.rest, route)
    else (s, [], route)
  | none =>
    let focus := s.currentFocus
    let grabWalkStart := if focus = 0 then ROOT_WINDOW else focus
    match
      if event.pressed then s.findKeyGrab grabWalkStart event.keycode event.state else none with
    | some g =>
      let active : ActiveKeyboardGrab :=
        { owner := g.owner
          grabWindow := g.grabWindow
          source := .PassiveKey event.keycode
          ownerEvents := g.ownerEvents
          viaXi2 := g.viaXi2 }
      let s := { s with server := { s.server with activeKeyboardGrab := some active } }
      let o := s.xi1CheckGrabForSyncs DEVICEID_SLAVE_KEYBOARD g.owner (g.keyboardMode = 0)
        (g.pointerMode = 0)
      (o.state, o.rest,
        .PassiveGrabOwner g.owner g.grabWindow (g.keyboardMode = 0) g.ownerEvents g.viaXi2)
    | none => (s, [], if focus = 0 then .Drop else .Window focus)

def deliverRoutedKey (s : InputState) (event : HostKeyEvent) : InputOutcome :=
  let (s, rest, route) := s.keyRoute event
  ⟨s, rest ++ [.deliverRouted event route], []⟩

/-- The XI1 form of a key. -/
def xi1FocusedKey (s : InputState) (event : HostKeyEvent) : Xi1QueuedEvent :=
  let (natural, focusRoute) := s.keyDeliveryRoute DEVICEID_SLAVE_KEYBOARD
  { deviceid := DEVICEID_SLAVE_KEYBOARD
    evcode := XI_FIRST_EVENT +
      if event.pressed then XI_DEVICE_KEY_PRESS_OFFSET else XI_DEVICE_KEY_RELEASE_OFFSET
    detail := event.keycode
    time := event.time
    rootX := event.rootX
    rootY := event.rootY
    eventX := event.eventX
    eventY := event.eventY
    stateMask := event.state
    naturalTarget := natural
    focusRoute := focusRoute
    axes := none
    replayFloor := none }

def deliverXi1FocusedKey (s : InputState) (event : HostKeyEvent) : InputOutcome :=
  s.arriveDevice (s.xi1FocusedKey event)

/-- The receivers of the core or XI2 form of a key that has its route. -/
def keyReceivers (s : InputState) (event : HostKeyEvent) : KeyRoute → List Receiver
  | .Drop => []
  | .PassiveGrabOwner owner grabWindow _ ownerEvents viaXi2 =>
    let natural := if ownerEvents then s.keyGrabbedNaturalTarget event owner else none
    [⟨owner, natural.getD grabWindow, viaXi2⟩]
  | .Window window => s.keyWindowReceivers event (s.focusedWalkTarget window event)

def deliverRouted (s : InputState) (event : HostKeyEvent) (route : KeyRoute) : InputOutcome :=
  let s :=
    match route with
    | .PassiveGrabOwner _ _ true _ _ =>
      if event.pressed then { s with frozenKeyboardEvent := some event } else s
    | _ => s
  (s.deliverXi1FocusedKey event).after [.keyDelivered event (s.keyReceivers event route)]

/-- The tail of `key_event_fanout_to_state`. -/
def keyEventFanout (s : InputState) (event : HostKeyEvent) : InputOutcome :=
  let o :=
    if s.frozen DEVICEID_SLAVE_KEYBOARD then
      .done (s.updateFreeze DEVICEID_SLAVE_KEYBOARD fun f =>
        { f with coreKeyQueue := f.coreKeyQueue ++ [event] })
    else s.deliverRoutedKey event
  o.after [.keyArrived event]

def replayFrozenKeyToFocus (s : InputState) (event : HostKeyEvent) : InputOutcome :=
  if s.currentFocus = 0 then .done s
  else
    (s.deliverXi1FocusedKey event).after
      [.keyReplayed event (s.keyWindowReceivers event s.currentFocus)]

/-! ## Replay -/

/-- One round of the loop over the queues of a device. -/
def drain (s : InputState) (dev : UInt16) : InputOutcome :=
  if s.frozen dev then .done s
  else
    match (s.xi1Frozen dev).coreKeyQueue with
    | event :: keys =>
      let s := s.updateFreeze dev fun f => { f with coreKeyQueue := keys }
      (s.deliverRoutedKey event).andThen [.drain dev]
    | [] =>
      match (s.xi1Frozen dev).queue with
      | q :: queue =>
        let s := s.updateFreeze dev fun f => { f with queue := queue }
        (s.xi1RouteDeviceEvent q).andThen [.drain dev]
      | [] => .done s

def resume (s : InputState) : Pending → InputOutcome
  | .drain dev => s.drain dev
  | .deliverRouted event route => s.deliverRouted event route
  | .deliverActivating q grab => s.deliverActivating q grab
  | .routeStored q => s.arriveDevice q
  | .replayKey event => s.replayFrozenKeyToFocus event
  | .playPointer => .done s

/-! ## Grabs of clients -/

/-- Held on behalf of a grab of the other device by another client. -/
def frozenByOther (s : InputState) (dev : UInt16) (client : ClientId) : Bool :=
  s.frozen dev && (s.xi1Frozen dev).other.any (· ≠ client)

def handleGrabPointer (s : InputState) (grab : ActivePointerGrab) (confineTo : ResourceId)
    (pointerMode keyboardMode : UInt8) : InputOutcome :=
  let client := grab.owner
  let grabbedByOther := s.server.activePointerGrab.any (·.owner ≠ client) ||
    s.server.pointerGrab.any (·.1 ≠ client)
  let viewable := s.server.resources.isViewable grab.grabWindow &&
    (confineTo = 0 || s.server.resources.isViewable confineTo)
  if grabbedByOther || !viewable || s.frozenByOther DEVICEID_SLAVE_POINTER client then .done s
  else
    let server := { s.server with
      pointerGrab := some (client, grab.grabWindow)
      pointerGrabIsPassive := false
      activePointerGrab := some grab }
    { s with server := server }.xi1CheckGrabForSyncs DEVICEID_SLAVE_POINTER client
      (pointerMode = 0) (keyboardMode = 0)

def handleGrabKeyboard (s : InputState) (client : ClientId) (grabWindow : ResourceId)
    (ownerEvents : Bool) (pointerMode keyboardMode : UInt8) : InputOutcome :=
  let grabbedByOther := s.server.activeKeyboardGrab.any (·.owner ≠ client)
  if grabbedByOther || !s.server.resources.isViewable grabWindow ||
      s.frozenByOther DEVICEID_SLAVE_KEYBOARD client then .done s
  else
    let active : ActiveKeyboardGrab :=
      { owner := client
        grabWindow := grabWindow
        source := .Explicit
        ownerEvents := ownerEvents
        viaXi2 := false }
    { s with server := { s.server with activeKeyboardGrab := some active } }.xi1CheckGrabForSyncs
      DEVICEID_SLAVE_KEYBOARD client (keyboardMode = 0) (pointerMode = 0)

/-- A press of a button activates a passive grab. -/
def activateButtonGrab (s : InputState) (grab : PassiveButtonGrab) : InputOutcome :=
  let server := { s.server with
    pointerGrab := some (grab.owner, grab.grabWindow)
    pointerGrabIsPassive := true }
  { s with server := server }.xi1CheckGrabForSyncs DEVICEID_SLAVE_POINTER grab.owner
    (grab.pointerMode = 0) (grab.keyboardMode = 0)

/-- XI1 GrabDevice. -/
def grabDevice (s : InputState) (grab : Xi1ActiveGrab) : InputOutcome :=
  if (s.server.xi1ActiveGrabs[grab.deviceid]?).any (·.owner ≠ grab.owner) ||
      !s.server.resources.isViewable grab.grabWindow then .done s
  else
    let grabs := s.server.xi1ActiveGrabs.insert grab.deviceid { grab with passiveDetail := none }
    { s with server := { s.server with xi1ActiveGrabs := grabs } }.xi1CheckGrabForSyncs
      grab.deviceid grab.owner (grab.thisMode = 0) (grab.otherMode = 0)

def deactivateCorePointerGrab (s : InputState) (client : ClientId) : InputOutcome :=
  let server := { s.server with
    pointerGrab := none
    pointerGrabIsPassive := false
    activePointerGrab := none }
  { s with server := server }.xi1CoreGrabBridgeRelease DEVICEID_SLAVE_POINTER client

def handleUngrabPointer (s : InputState) (client : ClientId) : InputOutcome :=
  if s.server.activePointerGrab.any (·.owner = client) ||
      s.server.pointerGrab.any (·.1 = client) then s.deactivateCorePointerGrab client
  else .done s

def deactivateCoreKeyboardGrab (s : InputState) (client : ClientId) : InputOutcome :=
  if s.server.activeKeyboardGrab.any (·.owner = client) then
    { s with
      server := { s.server with activeKeyboardGrab := none }
      frozenKeyboardEvent := none }.xi1CoreGrabBridgeRelease DEVICEID_SLAVE_KEYBOARD client
  else .done s

def releasePassiveGrabOnButtonRelease (s : InputState) : InputOutcome :=
  if s.server.pointerGrabIsPassive then
    let server := { s.server with pointerGrab := none, pointerGrabIsPassive := false }
    match s.server.pointerGrab with
    | some (owner, _) =>
      { s with server := server }.xi1CoreGrabBridgeRelease DEVICEID_SLAVE_POINTER owner
    | none => .done { s with server := server }
  else .done s

/-- XI1 UngrabDevice. -/
def ungrabDevice (s : InputState) (client : ClientId) (dev : UInt16) : InputOutcome :=
  if (s.server.xi1ActiveGrabs[dev]?).any (·.owner = client) then s.xi1DeactivateDeviceGrab dev
  else .done s

/-! ## Requests that thaw -/

def grabOwnerOf (s : InputState) (dev : UInt16) : Option ClientId :=
  (s.xi1DeviceGrabOwner dev).or
    (if dev = DEVICEID_SLAVE_POINTER then s.server.pointerGrab.map (·.1) else none)

/-- Sets the sync state of a device and ends a hold on behalf of the client. -/
def setSyncState (s : InputState) (client : ClientId) (dev : UInt16) (state : Xi1SyncState) :
    InputState :=
  s.updateFreeze dev fun f => { f with state := state }.release client

/-- The devices that the client has grabbed or holds. -/
def setBothSyncStates (s : InputState) (client : ClientId) (state : Xi1SyncState) : InputState :=
  [DEVICEID_SLAVE_POINTER, DEVICEID_SLAVE_KEYBOARD].foldl (fun s dev =>
    if s.grabOwnerOf dev = some client || (s.xi1Frozen dev).other = some client then
      s.setSyncState client dev state
    else s) s

/-- The sync states that a mode of AllowEvents asks for. -/
def allowSyncStates (s : InputState) (client : ClientId) (mode : UInt8) : InputState :=
  let othersFrozen := s.grabOwnerOf DEVICEID_SLAVE_POINTER = some client &&
    (s.xi1Frozen DEVICEID_SLAVE_POINTER).state.isFrozen
  if mode = 0 || mode = 2 then s.setSyncState client DEVICEID_SLAVE_POINTER .Thawed
  else if mode = 1 then s.setSyncState client DEVICEID_SLAVE_POINTER .FreezeNextEvent
  else if mode = 3 || mode = 5 then s.setSyncState client DEVICEID_SLAVE_KEYBOARD .Thawed
  else if mode = 4 then s.setSyncState client DEVICEID_SLAVE_KEYBOARD .FreezeNextEvent
  else if mode = 6 && othersFrozen then s.setBothSyncStates client .Thawed
  else if mode = 7 && othersFrozen then s.setBothSyncStates client .FreezeBothNextEvent
  else s

/-- A replay of the pointer ends its grab. -/
def endReplayedPointerGrab (s : InputState) (client : ClientId) (pointerHasEvent : Bool) :
    InputOutcome :=
  if s.server.pointerGrabIsPassive then
    .done { s with
      server := { s.server with pointerGrab := none, pointerGrabIsPassive := false } }
  else if pointerHasEvent && s.server.activePointerGrab.any (·.owner = client) then
    s.deactivateCorePointerGrab client
  else .done s

/-- A replay of the keyboard ends its grab. -/
def endReplayedKeyboardGrab (s : InputState) (client : ClientId) (keyHeld : Bool) : InputOutcome :=
  match s.server.activeKeyboardGrab with
  | some g =>
    let freeze := s.xi1Frozen DEVICEID_SLAVE_KEYBOARD
    if g.owner ≠ client then .done s
    else if g.source ≠ .Explicit then
      .done { s with server := { s.server with activeKeyboardGrab := none } }
    else if keyHeld || !freeze.coreKeyQueue.isEmpty || !freeze.queue.isEmpty then
      s.deactivateCoreKeyboardGrab client
    else .done s
  | none => .done s

/-- AllowEvents. What the core events of the pointer contribute is given:
whether a press is held, and whether any event is. -/
def applyAllowEvents (s : InputState) (client : ClientId) (mode : UInt8)
    (pressHeld pointerHasEvent : Bool) : InputOutcome :=
  let devThis := if mode ≤ 2 then DEVICEID_SLAVE_POINTER else DEVICEID_SLAVE_KEYBOARD
  let coreFrozen :=
    if devThis = DEVICEID_SLAVE_POINTER then pressHeld else s.frozenKeyboardEvent.isSome
  let frozenStrict := (s.xi1Frozen devThis).state.isFrozen || coreFrozen
  let thisSynced := (s.xi1Frozen devThis).other = some client
  if !((s.grabOwnerOf devThis = some client && frozenStrict) || thisSynced) then .done s
  else
    let s := s.allowSyncStates client mode
    if mode = 2 then
      (s.endReplayedPointerGrab client pointerHasEvent).andThen (.playPointer :: computeFreezes)
    else if mode ≤ 1 then ⟨s, .playPointer :: computeFreezes, []⟩
    else
      let held := s.frozenKeyboardEvent
      let s := { s with frozenKeyboardEvent := none }
      if mode = 5 then
        (s.endReplayedKeyboardGrab client held.isSome).andThen
          (held.toList.map .replayKey ++ computeFreezes)
      else if mode ≤ 4 then ⟨s, computeFreezes, []⟩
      else ⟨s, .playPointer :: computeFreezes, []⟩

/-- The devices among some of which the client has the grab get a sync state,
and the holds on its behalf end. -/
def allowDeviceStates (s : InputState) (client : ClientId) (devs : List UInt16)
    (state : Xi1SyncState) : InputState :=
  devs.foldl (fun s dev =>
    let s :=
      if s.xi1DeviceGrabOwner dev = some client then
        s.updateFreeze dev fun f => { f with state := state }
      else s
    s.updateFreeze dev (·.release client)) s

/-- AllowDeviceEvents with the mode ReplayThisDevice. -/
def replayThisDevice (s : InputState) (client : ClientId) (dev : UInt16) (thisSynced : Bool) :
    InputOutcome :=
  if s.xi1DeviceGrabOwner dev = some client && (s.xi1Frozen dev).state = .FrozenWithEvent then
    let s := if thisSynced then s.updateFreeze dev fun f => { f with other := none } else s
    let stored := (s.xi1Frozen dev).stored
    let s := s.updateFreeze dev fun f => { f with stored := none }
    let replayFloor := s.server.xi1ActiveGrabs[dev]?.map (·.grabWindow)
    let o :=
      if s.server.xi1ActiveGrabs.contains dev then s.xi1DeactivateDeviceGrab dev
      -- a core grab stays
      else .done (s.updateFreeze dev fun f => { f with state := .Thawed })
    o.andThen (stored.toList.map (fun q => .routeStored { q with replayFloor := replayFloor }) ++
      computeFreezes)
  else .done s

/-- AllowDeviceEvents. -/
def allowDeviceEvents (s : InputState) (client : ClientId) (dev : UInt16) (mode : UInt8) :
    InputOutcome :=
  let otherDev := xi1OtherInputDevice dev
  let thisGrabbed := s.xi1DeviceGrabOwner dev = some client
  let otherGrabbed := s.xi1DeviceGrabOwner otherDev = some client
  let thisSynced := (s.xi1Frozen dev).other = some client && otherGrabbed
  let othersFrozen := otherGrabbed && (s.xi1Frozen otherDev).state.isFrozen
  if !((thisGrabbed && (s.xi1Frozen dev).state.isFrozen) || thisSynced) then .done s
  else if mode = 0 then
    let s := if thisGrabbed then s.updateFreeze dev fun f => { f with state := .Thawed } else s
    let s := if thisSynced then s.updateFreeze dev fun f => { f with other := none } else s
    ⟨s, computeFreezes, []⟩
  else if mode = 1 then
    if thisGrabbed then
      let s := s.updateFreeze dev fun f => { f with state := .FreezeNextEvent }
      let s := if thisSynced then s.updateFreeze dev fun f => { f with other := none } else s
      ⟨s, computeFreezes, []⟩
    else .done s
  else if mode = 2 then s.replayThisDevice client dev thisSynced
  else if !othersFrozen then .done s
  else if mode = 3 then ⟨s.allowDeviceStates client [otherDev] .Thawed, computeFreezes, []⟩
  else
    let state := if mode = 4 then .Thawed else .FreezeBothNextEvent
    ⟨s.allowDeviceStates client [dev, otherDev] state, computeFreezes, []⟩

end InputState

/-! ## Runs -/

/-- What reaches the input devices from outside. -/
inductive InputAction where
  | keyEvent (event : HostKeyEvent)
  | deviceEvent (q : Xi1QueuedEvent)
  | grabPointer (grab : ActivePointerGrab) (confineTo : ResourceId)
      (pointerMode keyboardMode : UInt8)
  | grabKeyboard (client : ClientId) (grabWindow : ResourceId) (ownerEvents : Bool)
      (pointerMode keyboardMode : UInt8)
  | grabDevice (grab : Xi1ActiveGrab)
  | activateButtonGrab (grab : PassiveButtonGrab)
  | releaseButtonGrab
  | ungrabPointer (client : ClientId)
  | ungrabKeyboard (client : ClientId)
  | ungrabDevice (client : ClientId) (dev : UInt16)
  | allowEvents (client : ClientId) (mode : UInt8) (pressHeld pointerHasEvent : Bool)
  | allowDeviceEvents (client : ClientId) (dev : UInt16) (mode : UInt8)
  | thawDevice (dev : UInt16)
  /-- Anything that leaves the freezes alone: windows, selections, focuses, the
  pointer, passive grabs. -/
  | change (server : ServerState) (deviceFocus : UInt16 → UInt32) (pointerWindow : ResourceId)

namespace InputAction

/-- What the fanout of a withheld core event of the pointer can do. -/
def fromPointer : InputAction → Bool
  | .deviceEvent q => q.deviceid = DEVICEID_SLAVE_POINTER
  | .activateButtonGrab _ | .releaseButtonGrab => true
  | _ => false

end InputAction

def InputState.perform (s : InputState) : InputAction → InputOutcome
  | .keyEvent event => s.keyEventFanout event
  | .deviceEvent q => s.arriveDevice q
  | .grabPointer grab confineTo pointerMode keyboardMode =>
    s.handleGrabPointer grab confineTo pointerMode keyboardMode
  | .grabKeyboard client grabWindow ownerEvents pointerMode keyboardMode =>
    s.handleGrabKeyboard client grabWindow ownerEvents pointerMode keyboardMode
  | .grabDevice grab => s.grabDevice grab
  | .activateButtonGrab grab => s.activateButtonGrab grab
  | .releaseButtonGrab => s.releasePassiveGrabOnButtonRelease
  | .ungrabPointer client => s.handleUngrabPointer client
  | .ungrabKeyboard client => s.deactivateCoreKeyboardGrab client
  | .ungrabDevice client dev => s.ungrabDevice client dev
  | .allowEvents client mode pressHeld pointerHasEvent =>
    s.applyAllowEvents client mode pressHeld pointerHasEvent
  | .allowDeviceEvents client dev mode => s.allowDeviceEvents client dev mode
  | .thawDevice dev => s.xi1ThawDevice dev
  | .change server deviceFocus pointerWindow =>
    .done { s with
      server := server
      xi1DeviceFocus := deviceFocus
      deepestWindowAtPointer := pointerWindow }

/-- The input state and the work that is left before the next action. -/
structure InputConfig where
  state : InputState
  pending : List Pending

inductive InputMove where
  | act (action : InputAction)
  | resume

namespace InputConfig

/-- A server none of whose devices is frozen. -/
def start (server : ServerState) : InputConfig where
  state :=
    { server := server
      xi1Frozen := fun _ => .default
      frozenKeyboardEvent := none
      xi1DeviceFocus := fun _ => 1
      deepestWindowAtPointer := ROOT_WINDOW }
  pending := []

/-- Actions come one at a time; only the withheld events of the pointer are
fanned out in the middle of a request. -/
def accepts (c : InputConfig) (action : InputAction) : Bool :=
  match c.pending with
  | [] => true
  | .playPointer :: _ => action.fromPointer
  | _ => false

def step (c : InputConfig) : InputMove → InputConfig × List InputEvent
  | .act action =>
    if c.accepts action then
      let o := c.state.perform action
      (⟨o.state, o.rest ++ c.pending⟩, o.events)
    else (c, [])
  | .resume =>
    match c.pending with
    | [] => (c, [])
    | p :: rest =>
      let o := c.state.resume p
      (⟨o.state, o.rest ++ rest⟩, o.events)

/-- The configuration after some moves, and what happened. -/
def run (c : InputConfig) : List InputMove → InputConfig × List InputEvent
  | [] => (c, [])
  | m :: moves =>
    let (c', events) := c.step m
    let (c'', later) := c'.run moves
    (c'', events ++ later)

end InputConfig

end X12

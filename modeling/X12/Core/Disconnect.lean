import X12.Core.Server
import X12.Core.Glyphsets
import X12.Core.WindowTree

/-! # Disconnecting a client

A disconnect destroys the windows of the client with everything below them,
drops the other resources of the client unless they are retained, and filters
the tables that name clients or windows. Events are left out. -/

namespace X12

namespace ResourceTable

def windowOwner (t : ResourceTable) (id : ResourceId) : Option ClientId :=
  t.windows[id]?.map (·.owner)

/-- The windows of a client whose parent belongs to another client. -/
def collectOwnedWindowRoots (t : ResourceTable) (client : ClientId) : List ResourceId :=
  t.windows.keys.filter fun id =>
    t.windows[id]?.any fun w => w.owner = client && t.windowOwner w.parent ≠ some client

/-- A subtree, children first, with the rounds of the recursion that are left. -/
def collectDestroyOrder (t : ResourceTable) : Nat → ResourceId → List ResourceId
  | 0, _ => []
  | fuel + 1, root =>
    match t.windows[root]? with
    | none => []
    | some w => w.children.flatMap (t.collectDestroyOrder fuel) ++ [root]

/-- The destroy loop, and the windows it met. -/
def destroyOwnedWindows (t : ResourceTable) (roots : List ResourceId) :
    ResourceTable × List ResourceId :=
  roots.foldl (fun (t, destroyed) root =>
    ((t.destroyWindow root).1, destroyed ++ t.collectDestroyOrder t.windows.size root)) (t, [])

def removeNonWindowResourcesOwnedBy (t : ResourceTable) (client : ClientId) : ResourceTable :=
  { t with
    pixmaps := t.pixmaps.filter fun _ p => p.owner ≠ client
    gcs := t.gcs.filter fun _ g => g.owner ≠ client
    colormaps := t.colormaps.filter fun _ c => c.owner ≠ client
    cursors := t.cursors.filter fun _ c => c.owner ≠ client
    fonts := t.fonts.filter fun _ f => f.owner ≠ client
    pictures := t.pictures.filter fun _ p => p.client ≠ client
    glyphsets := t.glyphsets.filter fun _ g => g.client ≠ client
    hostGlyphsetRefcounts := (t.removeGlyphsetsOwnedBy client).1.hostGlyphsetRefcounts }

end ResourceTable

/-- What replaying an input event that was withheld from a frozen device does
to the grabs: a press may activate a passive grab, a release may end one. -/
inductive ReplayedInput where
  | devicePress (detail : UInt8) (grab : Xi1PassiveGrab)
  | deviceRelease (deviceid : UInt16)
  | keyPress (keycode : UInt8) (grab : KeyGrab)
  | keyRelease (keycode : UInt8)
  deriving DecidableEq, Repr

/-- What a disconnect depends on beside the tables: the order in which the hash
maps yield their entries, and the input that is replayed for a thawed device. -/
structure DisconnectChoices where
  roots : List ResourceId
  released : List UInt16
  withheld : UInt16 → List ReplayedInput

namespace ServerState

/-- Which of the matching passive grabs is taken is left open. -/
def replayInput (s : ServerState) : ReplayedInput → ServerState
  | .devicePress detail grab =>
    if s.xi1ActiveGrabs.contains grab.deviceid || grab ∉ s.xi1PassiveGrabs then s
    else
      let active : Xi1ActiveGrab :=
        { owner := grab.owner
          deviceid := grab.deviceid
          grabWindow := grab.grabWindow
          ownerEvents := grab.ownerEvents
          thisMode := grab.thisMode
          otherMode := grab.otherMode
          passiveDetail := some detail }
      { s with xi1ActiveGrabs := s.xi1ActiveGrabs.insert grab.deviceid active }
  | .deviceRelease deviceid =>
    if s.xi1ActiveGrabs[deviceid]?.any (·.passiveDetail.isSome) then
      { s with xi1ActiveGrabs := s.xi1ActiveGrabs.erase deviceid }
    else s
  | .keyPress keycode grab =>
    if s.activeKeyboardGrab.isSome || grab ∉ s.keyGrabs then s
    else
      let active : ActiveKeyboardGrab :=
        { owner := grab.owner
          grabWindow := grab.grabWindow
          source := .PassiveKey keycode
          ownerEvents := grab.ownerEvents
          viaXi2 := grab.viaXi2 }
      { s with activeKeyboardGrab := some active }
  | .keyRelease keycode =>
    if s.activeKeyboardGrab.any (·.source = .PassiveKey keycode) then
      { s with activeKeyboardGrab := none }
    else s

def xi1ComputeFreezes (s : ServerState) (withheld : List ReplayedInput) : ServerState :=
  withheld.foldl replayInput s

def xi1DeactivateDeviceGrab (s : ServerState) (deviceid : UInt16) (withheld : List ReplayedInput) :
    ServerState :=
  if s.xi1ActiveGrabs.contains deviceid then
    { s with xi1ActiveGrabs := s.xi1ActiveGrabs.erase deviceid }.xi1ComputeFreezes withheld
  else s

def dropSelectionsOwnedByWindows (s : ServerState) (windows : List ResourceId) : ServerState :=
  { s with selections := s.selections.filter fun _ entry => entry.1 ∉ windows }

/-- The selections held by windows of the client are given up. -/
def xfixesSelectionClientClose (s : ServerState) (client : ClientId) : ServerState :=
  let clientWindows := (s.selections.values.map Prod.fst).filter fun win =>
    s.resources.windowOwner win = some client
  if clientWindows.isEmpty then s else s.dropSelectionsOwnedByWindows clientWindows

def dropWindowSubscriptions (s : ServerState) (windows : List ResourceId) : ServerState :=
  { s with
    clients := s.clients.map fun _ client =>
      { client with eventMasks := windows.foldl (·.erase ·) client.eventMasks } }

/-- The extension tables, filtered by owner and by dead windows. -/
def retainUnrelated (s : ServerState) (client : ClientId) (dead : List ResourceId) : ServerState :=
  { s with
    xfixesRegions := s.xfixesRegions.filter fun _ r => r.owner ≠ client
    xfixesSelectionMasks := s.xfixesSelectionMasks.filter fun m => m.1.1 ≠ client
    xfixesCursorMasks := s.xfixesCursorMasks.filter fun m => m.1.1 ≠ client
    shapeWindows := s.shapeWindows.filter fun window _ => window ∉ dead
    shapeSelectMasks := s.shapeSelectMasks.filter fun m => m.1.1 ≠ client && m.1.2 ∉ dead
    syncCounters := s.syncCounters.filter fun _ c => c.owner ≠ client
    syncAlarms := s.syncAlarms.filter fun _ a => a.owner ≠ client
    syncFences := s.syncFences.filter fun _ f => f.owner ≠ client
    glxContexts := s.glxContexts.filter fun _ c => c.owner ≠ client
    glxDrawables := s.glxDrawables.filter fun _ d => d.owner ≠ client
    damageObjects := s.damageObjects.filter fun _ d => d.owner ≠ client && d.drawable ∉ dead
    compositeRedirects := s.compositeRedirects.filter fun r => r.2.owner ≠ client && r.1.1 ∉ dead
    presentEventSelections :=
      s.presentEventSelections.filter fun _ e => e.owner ≠ client && e.window ∉ dead
    presentMsc := s.presentMsc.filter fun window _ => window ∉ dead
    mitShmSegments := s.mitShmSegments.filter fun _ seg => seg.owner ≠ client
    randrSelectMasks := s.randrSelectMasks.filter fun m => m.1.1 ≠ client && m.1.2 ∉ dead
    xkbSelectEventMasks := s.xkbSelectEventMasks.filter fun m => m.1.1 ≠ client }

/-- The grabs of a client, but for the active device grabs. -/
def dropGrabs (s : ServerState) (client : ClientId) : ServerState :=
  { s with
    buttonGrabs := s.buttonGrabs.filter (·.owner ≠ client)
    keyGrabs := s.keyGrabs.filter (·.owner ≠ client)
    pointerGrab := s.pointerGrab.filter (·.1 ≠ client)
    pointerGrabIsPassive := s.pointerGrabIsPassive && !(s.pointerGrab.any (·.1 = client))
    activePointerGrab := s.activePointerGrab.filter (·.owner ≠ client)
    activeKeyboardGrab := s.activeKeyboardGrab.filter (·.owner ≠ client)
    xi1PassiveGrabs := s.xi1PassiveGrabs.filter (·.owner ≠ client) }

/-- The devices that a client has grabbed. -/
def grabbedDevices (s : ServerState) (client : ClientId) : List UInt16 :=
  s.xi1ActiveGrabs.keys.filter fun dev => s.xi1ActiveGrabs[dev]?.any (·.owner = client)

/-- The active device grabs are released; freezes that linger without any grab
are thawed. -/
def releaseDeviceGrabs (s : ServerState) (choices : DisconnectChoices) : ServerState :=
  let s := choices.released.foldl
    (fun s dev => s.xi1DeactivateDeviceGrab dev (choices.withheld dev)) s
  if choices.released.isEmpty && s.xi1ActiveGrabs.isEmpty then
    [4, 5].foldl (fun s dev => s.xi1ComputeFreezes (choices.withheld dev)) s
  else s

def retainsResources (s : ServerState) (client : ClientId) : Bool :=
  let closeMode := s.closeDownModes[client]?.getD 0
  closeMode = 1 || closeMode = 2

/-- The resources of the client that are not windows, and its record. -/
def removeClient (s : ServerState) (id : ClientId) (client : ClientState) (closeMode : UInt8) :
    ServerState :=
  if closeMode = 1 || closeMode = 2 then
    { s with zombieClients := s.zombieClients.insert id closeMode, clients := s.clients.erase id }
  else
    { s with
      resources := s.resources.removeNonWindowResourcesOwnedBy id
      clients := s.clients.erase id
      idAllocator := s.idAllocator.release client.resourceIdBase }

def processDisconnect (s : ServerState) (choices : DisconnectChoices) (client : ClientId) :
    ServerState :=
  match s.clients[client]? with
  | none => s
  | some record =>
    let closeMode := s.closeDownModes[client]?.getD 0
    let s := { s with closeDownModes := s.closeDownModes.erase client }
    let s := s.xfixesSelectionClientClose client
    let (resources, destroyed) := s.resources.destroyOwnedWindows choices.roots
    let s := { s with resources := resources }.dropWindowSubscriptions destroyed
    let s := s.removeClient client record closeMode
    let s := s.retainUnrelated client destroyed
    let s := (s.dropGrabs client).releaseDeviceGrabs choices
    s.dropSelectionsOwnedByWindows destroyed

end ServerState

/-- The choices that the tables allow. -/
structure DisconnectChoices.Allowed (choices : DisconnectChoices) (s : ServerState)
    (client : ClientId) : Prop where
  roots : choices.roots.Perm (s.resources.collectOwnedWindowRoots client)
  released : choices.released.Perm (s.grabbedDevices client)

end X12

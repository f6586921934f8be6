import X12.Core.Disconnect
import X12.Protocol.Wire

/-! # Connections

A setup thread asks for a range of resource ids and hands its connection over; a
client says what becomes of its resources when it goes, and may be killed through one
of them. -/

namespace X12

/-- `resourceIdBase` is 0 when the ids are exhausted. -/
structure SetupAllocateResponse where
  resourceIdBase : UInt32
  resourceIdMask : UInt32
  screenWidthPx : UInt16
  screenHeightPx : UInt16
  currentInputMasks : UInt32
  deriving DecidableEq, Repr

/-- How far the core gets with a connection that a setup thread hands over: its socket
cannot be cloned, it cannot be registered or its reader not be started, or all goes
well. -/
inductive SetupProgress where
  | notCloned
  | notServed
  | served
  deriving DecidableEq, Repr

inductive KillOutcome where
  | Handled
  | BadValue (resource : ResourceId)
  | Disconnect (client : ClientId)
  deriving DecidableEq, Repr

/-- What KillClient depends on beside the tables: the order of the zombies, the order
of the windows of each, and what a disconnect depends on. -/
structure KillChoices where
  zombies : List ClientId
  roots : ClientId → List ResourceId
  disconnect : DisconnectChoices

/-- The owner of the id in the first table that has it. -/
def ResourceTable.resourceOwner (t : ResourceTable) (id : ResourceId) : Option ClientId :=
  t.windows[id]?.map (·.owner) <|>
  t.pixmaps[id]?.map (·.owner) <|>
  t.gcs[id]?.map (·.owner) <|>
  t.fonts[id]?.map (·.owner) <|>
  t.cursors[id]?.map (·.owner) <|>
  t.pictures[id]?.map (·.client) <|>
  t.glyphsets[id]?.map (·.client)

namespace ServerState

/-! ## Setup -/

def handleSetupAllocate (s : ServerState) (screenWidth screenHeight : UInt16) :
    ServerState × SetupAllocateResponse :=
  match s.idAllocator.allocate with
  | (allocator, some (base, mask)) =>
    ({ s with idAllocator := allocator },
      { resourceIdBase := base
        resourceIdMask := mask
        screenWidthPx := screenWidth
        screenHeightPx := screenHeight
        currentInputMasks := s.clients.foldl
          (fun masks _ client => masks ||| client.eventMasks.getD ROOT_WINDOW 0) 0 })
  | (allocator, none) =>
    ({ s with idAllocator := allocator },
      { resourceIdBase := 0
        resourceIdMask := 0
        screenWidthPx := 0
        screenHeightPx := 0
        currentInputMasks := 0 })

/-- The new state, and whether the client is served. -/
def handleClientSetupComplete (s : ServerState) (id : ClientId) (base mask : UInt32) :
    SetupProgress → ServerState × Bool
  | .notCloned => (s, false)
  | .notServed => ({ s with clients := s.clients.insert id (.connected base mask) }, false)
  | .served => ({ s with clients := s.clients.insert id (.connected base mask) }, true)

/-! ## Closing down -/

/-- Whether the mode is accepted. -/
def handleSetCloseDownMode (s : ServerState) (client : ClientId) (mode : UInt8) :
    ServerState × Bool :=
  if mode > 2 then (s, false)
  else if mode = 0 then ({ s with closeDownModes := s.closeDownModes.erase client }, true)
  else ({ s with closeDownModes := s.closeDownModes.insert client mode }, true)

def destroyZombieResources (s : ServerState) (roots : List ResourceId) (zombie : ClientId) :
    ServerState :=
  let (resources, destroyed) := s.resources.destroyOwnedWindows roots
  let s := { s with resources := resources }.dropWindowSubscriptions destroyed
  { s with resources := s.resources.removeNonWindowResourcesOwnedBy zombie }

/-- The caller of `destroyZombieResources` forgets the zombie. -/
def killZombie (s : ServerState) (roots : List ResourceId) (zombie : ClientId) : ServerState :=
  let s := s.destroyZombieResources roots zombie
  { s with zombieClients := s.zombieClients.erase zombie }

/-- The zombies that were retained temporarily. -/
def temporaryZombies (s : ServerState) : List ClientId :=
  s.zombieClients.keys.filter fun id => s.zombieClients[id]? = some 2

def handleKillClient (s : ServerState) (client : ClientId) (body : List UInt8)
    (choices : KillChoices) : ServerState × KillOutcome :=
  if body.length < 4 then (s, .Handled)
  else
    let resource : ResourceId := u32Le body 0
    if resource = 0 then
      (choices.zombies.foldl (fun s zombie => s.killZombie (choices.roots zombie) zombie) s,
        .Handled)
    else
      match s.resources.resourceOwner resource with
      | none => (s, .BadValue resource)
      | some owner =>
        if owner = SERVER_OWNER then (s, .Handled)
        else if s.zombieClients.contains owner then
          (s.killZombie (choices.roots owner) owner, .Handled)
        -- the connection is closed by the caller
        else if owner = client then (s, .Disconnect client)
        else if s.clients.contains owner then
          (s.processDisconnect choices.disconnect owner, .Handled)
        else (s, .Handled)

end ServerState

end X12

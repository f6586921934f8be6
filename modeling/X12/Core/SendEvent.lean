import X12.Core.Disconnect
import X12.Protocol.Events

/-! # SendEvent

A client sends an event to the clients that are interested in a window. The
event arrives in the byte order of its sender and is turned around for each
receiver. `queued` is all that has been handed to the writer of a client. -/

namespace X12

structure EventClient where
  byteOrder : ClientByteOrder
  lastSequence : UInt16
  eventMasks : ResourceMap UInt32
  /-- Keyed by window and device. -/
  xi2Masks : List ((ResourceId × UInt16) × UInt32)
  queued : List UInt8

structure EventState where
  resources : ResourceTable
  clients : Std.ExtTreeMap ClientId EventClient

structure SendEventRequest where
  propagate : Bool
  destination : ResourceId
  eventMask : UInt32
  event : Vector UInt8 32

/-- The template is the 32 bytes after the destination and the mask. -/
def sendEventRequest (propagate : UInt8) (body : List UInt8) : Option SendEventRequest :=
  if h : 40 ≤ body.length then
    some {
      propagate := propagate ≠ 0
      destination := UInt32.ofNat (readU32Le body 0)
      eventMask := UInt32.ofNat (readU32Le body 4)
      event := ⟨((body.drop 8).take 32).toArray, by simp; omega⟩ }
  else none

/-- The template for one receiver: out of the byte order of the template, into
the one of the receiver, then the sequence number on top. -/
def rawEventFor (client : EventClient) (event : Vector UInt8 32)
    (templateByteOrder : ClientByteOrder) : List UInt8 :=
  let entries := coreEventSwapTable (event[0] &&& 0x7f)
  let buf := swapInPlace entries templateByteOrder event.toList
  let buf := swapInPlace entries client.byteOrder buf
  let seqBytes := writeU16 client.byteOrder client.lastSequence
  (buf.set 2 (seqBytes.getD 0 0)).set 3 (seqBytes.getD 1 0)

namespace EventState

/-! ## Receivers -/

def clientTargetId (s : EventState) (client : ClientId) : Option ClientId :=
  if s.clients.contains client then some client else none

def subscribersById (s : EventState) (window : ResourceId) (maskBits : UInt32) : List ClientId :=
  s.clients.keys.filter fun id =>
    s.clients[id]?.any fun c => c.eventMasks.getD window 0 &&& maskBits ≠ 0

def parentOf (s : EventState) (window : ResourceId) : Option ResourceId :=
  s.resources.windows[window]?.map (·.parent)

/-- The subscribers of the first window up the tree that has any. -/
def propagate (s : EventState) (maskBits : UInt32) : Nat → ResourceId → List ClientId
  | 0, _ => []
  | rounds + 1, current =>
    let targets := s.subscribersById current maskBits
    if targets ≠ [] then targets
    else
      match s.parentOf current with
      | none => []
      | some parent => if parent = current then [] else s.propagate maskBits rounds parent

/-- The client has selected the XI2 event on the window or above it. -/
def xi2Selected (s : EventState) (client : EventClient) (xi2Bit : UInt32) :
    Nat → ResourceId → Bool
  | 0, _ => false
  | rounds + 1, current =>
    if [0, 1, 2, 3].any fun deviceid =>
        (client.xi2Masks.lookup (current, deviceid)).any (· &&& xi2Bit ≠ 0) then true
    else
      match s.parentOf current with
      | none => false
      | some parent => if parent = current then false else s.xi2Selected client xi2Bit rounds parent

def sendEventTargets (s : EventState) (req : SendEventRequest) : List ClientId :=
  let rounds := s.resources.windows.size + 1
  let targets :=
    if req.destination = 0xffffffff then s.subscribersById ROOT_WINDOW req.eventMask
    else if req.eventMask = 0 then
      ((s.resources.windowOwner req.destination).bind s.clientTargetId).toList
    else if req.propagate then s.propagate req.eventMask rounds req.destination
    else s.subscribersById req.destination req.eventMask
  let coreType := req.event[0] &&& 0x7f
  -- a client that would get the event as an XI2 event too does not get this one
  if 4 ≤ coreType ∧ coreType ≤ 8 then
    targets.filter fun target =>
      match s.clients[target]? with
      | none => true
      | some client => !s.xi2Selected client (1 <<< coreType.toUInt32) rounds req.destination
  else targets

/-! ## Delivery -/

/-- The clients that have been seen are not served again. -/
def fanoutStep (event : Vector UInt8 32) (templateByteOrder : ClientByteOrder) :
    EventState × List ClientId → ClientId → EventState × List ClientId
  | (s, seen), cid =>
    if cid ∈ seen then (s, seen)
    else
      ({ s with
        clients := s.clients.modify cid fun c =>
          { c with queued := c.queued ++ rawEventFor c event templateByteOrder } }, cid :: seen)

def fanoutRawEventToClients (s : EventState) (clientIds : List ClientId)
    (event : Vector UInt8 32) (templateByteOrder : ClientByteOrder) : EventState :=
  (clientIds.foldl (fanoutStep event templateByteOrder) (s, [])).1

def handleSendEvent (s : EventState) (client : ClientId) (headerData : UInt8)
    (body : List UInt8) : EventState :=
  let senderByteOrder := s.clients[client]?.elim .littleEndian (·.byteOrder)
  match sendEventRequest headerData body with
  | none => s
  | some req =>
    let eventCopy := req.event.set 0 (req.event[0] ||| 0x80)
    s.fanoutRawEventToClients (s.sendEventTargets req) eventCopy senderByteOrder

end EventState

end X12

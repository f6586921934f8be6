import X12.Core.Region
import X12.Core.Resources

/-! # The drawable store of the KMS backend

Storage is counted by its references and named by an X id. Storage whose last
reference is dropped while the GPU still uses it is parked until the fence of
its last use has signalled; by then another drawable may bear its X id. -/

namespace X12

open Boxes (Box)

abbrev DrawableId := Nat
abbrev FenceTicket := Nat

inductive DrawableKind where
  | Root
  | Window
  | Pixmap
  | Cursor
  | RedirectedBacking
  deriving DecidableEq, Repr

/-! ## Damage -/

structure Rect2D where
  x : Int32
  y : Int32
  width : UInt32
  height : UInt32
  deriving DecidableEq, Repr

namespace Rect2D

def toBox (r : Rect2D) : Box Int :=
  ⟨r.x.toInt, r.x.toInt + r.width.toNat, r.y.toInt, r.y.toInt + r.height.toNat⟩

instance : Membership Point Rect2D where
  mem r p := p ∈ r.toBox

instance (r : Rect2D) (p : Point) : Decidable (p ∈ r) :=
  inferInstanceAs (Decidable (p ∈ r.toBox))

end Rect2D

abbrev RegionSet := List Rect2D

namespace RegionSet

def add (s : RegionSet) (rect : Rect2D) : RegionSet :=
  if rect.width = 0 ∨ rect.height = 0 then s else s ++ [rect]

/-- Only rectangles that equal one of the others are taken out. -/
def subtract (s other : RegionSet) : RegionSet :=
  if other.isEmpty then s else s.filter fun r => !other.any (· == r)

end RegionSet

structure DamageSnapshot where
  id : DrawableId
  epoch : UInt64
  region : RegionSet
  deriving DecidableEq, Repr

/-! ## The store -/

structure Drawable where
  id : DrawableId
  xid : UInt32
  kind : DrawableKind
  depth : UInt8
  refcount : UInt32
  sceneParticipating : Bool
  lastRenderTicket : Option FenceTicket
  presentationDamage : RegionSet
  presentationDamageEpoch : UInt64
  deriving DecidableEq, Repr

inductive AllocError where
  | XidInUse
  /-- `expect("DrawableId overflow")` -/
  | Overflow
  deriving DecidableEq, Repr

inductive RetireDecision where
  | StillReferenced
  | Destroyed
  | PendingFence
  deriving DecidableEq, Repr

structure DrawableStore where
  nextId : DrawableId
  entries : Std.ExtTreeMap DrawableId Drawable
  byXid : Std.ExtTreeMap UInt32 DrawableId
  pendingRetire : List DrawableId

/-- No ticket, or one that the GPU has signalled. -/
def Drawable.ticketReady (d : Drawable) (signalled : FenceTicket → Bool) : Bool :=
  d.lastRenderTicket.all signalled

namespace DrawableStore

def new : DrawableStore where
  nextId := 1
  entries := ∅
  byXid := ∅
  pendingRetire := []

def lookup (s : DrawableStore) (xid : UInt32) : Option DrawableId := s.byXid[xid]?

def allocate (s : DrawableStore) (xid : UInt32) (kind : DrawableKind) (depth : UInt8)
    (sceneParticipating : Bool) : Except AllocError (DrawableStore × DrawableId) :=
  if s.byXid.contains xid then .error .XidInUse
  else if s.nextId + 1 < 2 ^ 64 then
    let id := s.nextId
    let drawable : Drawable :=
      { id := id
        xid := xid
        kind := kind
        depth := depth
        refcount := 1
        sceneParticipating := sceneParticipating
        lastRenderTicket := none
        presentationDamage := []
        presentationDamageEpoch := 0 }
    .ok ({ s with
      nextId := s.nextId + 1
      entries := s.entries.insert id drawable
      byXid := s.byXid.insert xid id }, id)
  else .error .Overflow

/-- An entry is changed if it is there. -/
def modify (s : DrawableStore) (id : DrawableId) (f : Drawable → Drawable) : DrawableStore :=
  { s with entries := s.entries.modify id f }

/-- `u32::saturating_add(1)` -/
def saturatingSuccU32 (v : UInt32) : UInt32 :=
  if v.toNat + 1 < 2 ^ 32 then v + 1 else v

def incref (s : DrawableStore) (id : DrawableId) : DrawableStore :=
  s.modify id fun d => { d with refcount := saturatingSuccU32 d.refcount }

def detachXid (s : DrawableStore) (xid : UInt32) : DrawableStore :=
  { s with byXid := s.byXid.erase xid }

def touchRenderFence (s : DrawableStore) (id : DrawableId) (ticket : FenceTicket) :
    DrawableStore :=
  s.modify id fun d => { d with lastRenderTicket := some ticket }

/-- The storage that is destroyed is returned. Its X id stays if it names
another drawable. -/
def destroyNow (s : DrawableStore) (id : DrawableId) : DrawableStore × List Drawable :=
  match s.entries[id]? with
  | none => (s, [])
  | some drawable =>
    ({ s with
      entries := s.entries.erase id
      byXid :=
        if s.byXid[drawable.xid]? = some id then s.byXid.erase drawable.xid else s.byXid },
      [drawable])

/-- The X id of storage that is parked is taken away, whichever drawable it
names. -/
def decref (s : DrawableStore) (signalled : FenceTicket → Bool) (id : DrawableId) :
    DrawableStore × RetireDecision × List Drawable :=
  match s.entries[id]? with
  | none => (s, .Destroyed, [])
  | some drawable =>
    if drawable.refcount > 1 then
      (s.modify id fun d => { d with refcount := d.refcount - 1 }, .StillReferenced, [])
    else
      let s := s.modify id fun d => { d with refcount := 0 }
      if drawable.ticketReady signalled then
        let destroyed := s.destroyNow id
        (destroyed.1, .Destroyed, destroyed.2)
      else
        ({ s with
          byXid := s.byXid.erase drawable.xid
          pendingRetire := s.pendingRetire ++ [id] }, .PendingFence, [])

/-- Destroy storage one after the other. -/
def destroyAll (s : DrawableStore) (ids : List DrawableId) : DrawableStore × List Drawable :=
  ids.foldl (fun (s, destroyed) id =>
    let next := s.destroyNow id
    (next.1, destroyed ++ next.2)) (s, [])

/-- Parked storage whose ticket has signalled is destroyed. -/
def pollPendingRetire (s : DrawableStore) (signalled : FenceTicket → Bool) :
    DrawableStore × List Drawable :=
  let ready (id : DrawableId) : Bool := s.entries[id]?.all (·.ticketReady signalled)
  let survivors := s.pendingRetire.filter fun id => !ready id
  let destroyed := { s with pendingRetire := [] }.destroyAll (s.pendingRetire.filter ready)
  ({ destroyed.1 with pendingRetire := survivors }, destroyed.2)

end DrawableStore

/-! ## Presentation damage -/

/-- `u64::checked_add(1)`, or 0 -/
def nextEpoch (epoch : UInt64) : UInt64 := epoch + 1

namespace Drawable

/-- A drawable that leaves the scene has nothing left to present. -/
def setSceneParticipating (d : Drawable) (v : Bool) : Drawable :=
  if d.sceneParticipating && !v then
    { d with
      sceneParticipating := v
      presentationDamage := []
      presentationDamageEpoch := nextEpoch d.presentationDamageEpoch }
  else { d with sceneParticipating := v }

def damage (d : Drawable) (rect : Rect2D) : Drawable :=
  if d.sceneParticipating then
    { d with
      presentationDamage := d.presentationDamage.add rect
      presentationDamageEpoch := nextEpoch d.presentationDamageEpoch }
  else d

def peekPresentationDamage (d : Drawable) (id : DrawableId) : Option DamageSnapshot :=
  if d.sceneParticipating then some ⟨id, d.presentationDamageEpoch, d.presentationDamage⟩ else none

/-- Without damage since the snapshot everything has been presented. -/
def ackPresentationDamage (d : Drawable) (snap : DamageSnapshot) : Drawable :=
  if snap.epoch = d.presentationDamageEpoch then { d with presentationDamage := [] }
  else { d with presentationDamage := d.presentationDamage.subtract snap.region }

end Drawable

namespace DrawableStore

def setSceneParticipating (s : DrawableStore) (id : DrawableId) (v : Bool) : DrawableStore :=
  s.modify id (·.setSceneParticipating v)

def damage (s : DrawableStore) (id : DrawableId) (rect : Rect2D) : DrawableStore :=
  s.modify id (·.damage rect)

def peekPresentationDamage (s : DrawableStore) (id : DrawableId) : Option DamageSnapshot :=
  s.entries[id]?.bind (·.peekPresentationDamage id)

def ackPresentationDamage (s : DrawableStore) (snap : DamageSnapshot) : DrawableStore :=
  s.modify snap.id (·.ackPresentationDamage snap)

end DrawableStore

end X12

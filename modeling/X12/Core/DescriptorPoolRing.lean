import Mathlib.Data.List.Basic

/-! # The ring of descriptor pools

Pools of descriptor sets are taken in turn, and reset when the submissions that use their
sets have retired. What the driver answers to a call is an argument. -/

namespace X12

abbrev VkHandle := UInt64

structure VkResult where
  code : Int32
  deriving DecidableEq, Repr

def ERROR_OUT_OF_POOL_MEMORY : VkResult := ⟨-1000069000⟩
def ERROR_FRAGMENTED_POOL : VkResult := ⟨-12⟩
def ERROR_UNKNOWN : VkResult := ⟨-13⟩

def SETS_PER_POOL : UInt32 := 256

inductive PoolState where
  | Free
  | Active
  | InFlight
  | Poisoned
  deriving DecidableEq, Repr

structure PoolSlot where
  pool : VkHandle
  state : PoolState
  highWaterGeneration : UInt64
  setsRemaining : UInt32
  deriving DecidableEq, Repr

namespace PoolSlot

/-- The pool may be reset. -/
def candidate (slot : PoolSlot) (retiredWatermark : UInt64) : Bool :=
  slot.state = .InFlight ∧ slot.highWaterGeneration ≤ retiredWatermark

/-- The pool has been reset, if that has not failed. -/
def afterReset (slot : PoolSlot) : Except VkResult Unit → PoolSlot
  | .ok () => { slot with state := .Free, setsRemaining := SETS_PER_POOL, highWaterGeneration := 0 }
  | .error _ => { slot with state := .Poisoned }

/-- A set of the pool has been handed out. -/
def noteAcquired (slot : PoolSlot) (generation : UInt64) : PoolSlot :=
  { slot with
    setsRemaining := if slot.setsRemaining = 0 then 0 else slot.setsRemaining - 1
    highWaterGeneration :=
      if slot.highWaterGeneration < generation then generation else slot.highWaterGeneration }

end PoolSlot

structure DescriptorPoolRing where
  pools : List PoolSlot
  active : Option Nat
  lifetimeCreates : UInt64
  lifetimeResets : UInt64
  deriving DecidableEq, Repr

/-- What the driver answers to an attempt to get a set, where it is asked. -/
structure VkAnswers where
  create : Except VkResult VkHandle
  allocate : Except VkResult VkHandle

namespace DescriptorPoolRing

def new : DescriptorPoolRing where
  pools := []
  active := none
  lifetimeCreates := 0
  lifetimeResets := 0

def updateSlot (r : DescriptorPoolRing) (i : Nat) (f : PoolSlot → PoolSlot) : DescriptorPoolRing :=
  { r with pools := r.pools.modify i f }

def createPoolActive (r : DescriptorPoolRing) (create : Except VkResult VkHandle) :
    DescriptorPoolRing × Except VkResult Unit :=
  match create with
  | .error e => (r, .error e)
  | .ok pool =>
    let slot : PoolSlot :=
      { pool := pool
        state := .Active
        highWaterGeneration := 0
        setsRemaining := SETS_PER_POOL }
    ({ r with
      lifetimeCreates := r.lifetimeCreates + 1
      pools := r.pools ++ [slot]
      active := some r.pools.length }, .ok ())

/-- The first free pool, or else a new one. -/
def activatePool (r : DescriptorPoolRing) (create : Except VkResult VkHandle) :
    DescriptorPoolRing × Except VkResult Unit :=
  match r.pools.findIdx? (fun slot => slot.state = .Free) with
  | some i =>
    let r := r.updateSlot i fun slot =>
      { slot with state := .Active, setsRemaining := SETS_PER_POOL, highWaterGeneration := 0 }
    ({ r with active := some i }, .ok ())
  | none => r.createPoolActive create

/-- `none` is an index out of bounds. -/
def ensureActiveWithCapacity (r : DescriptorPoolRing) (create : Except VkResult VkHandle) :
    Option (DescriptorPoolRing × Except VkResult Unit) :=
  match r.active with
  | some idx => do
    let slot ← r.pools[idx]?
    if 0 < slot.setsRemaining then return (r, .ok ())
    else
      let r := r.updateSlot idx fun slot => { slot with state := .InFlight }
      return { r with active := none }.activatePool create
  | none => some (r.activatePool create)

/-- The set, with the slot of the pool that it is from. -/
def tryAllocateOne (r : DescriptorPoolRing) (allocate : Except VkResult VkHandle) :
    Option (Except VkResult (Nat × VkHandle)) := do
  let idx ← r.active
  let _ ← r.pools[idx]?
  return allocate.map fun set => (idx, set)

def noteAcquired (r : DescriptorPoolRing) (generation : UInt64) : Option DescriptorPoolRing := do
  let idx ← r.active
  let _ ← r.pools[idx]?
  return r.updateSlot idx (·.noteAcquired generation)

/-- The active pool has no more sets. -/
def exhaust (r : DescriptorPoolRing) : DescriptorPoolRing :=
  match r.active with
  | some idx => r.updateSlot idx fun slot => { slot with setsRemaining := 0 }
  | none => r

/-- A set, with the slot of its pool. The second attempt is made where the driver finds the
pool exhausted. `none` is a panic. -/
def acquireSet (r : DescriptorPoolRing) (generation : UInt64) (first second : VkAnswers) :
    Option (DescriptorPoolRing × Except VkResult (Nat × VkHandle)) :=
  if r.pools.any fun slot => slot.state = .Poisoned then some (r, .error ERROR_UNKNOWN)
  else do
    let (r, ready) ← r.ensureActiveWithCapacity first.create
    match ready with
    | .error e => return (r, .error e)
    | .ok () =>
      match ← r.tryAllocateOne first.allocate with
      | .ok set => return (← r.noteAcquired generation, .ok set)
      | .error e =>
        if e = ERROR_OUT_OF_POOL_MEMORY ∨ e = ERROR_FRAGMENTED_POOL then
          let (r, ready) ← r.exhaust.ensureActiveWithCapacity second.create
          match ready with
          | .error e => return (r, .error e)
          | .ok () =>
            match ← r.tryAllocateOne second.allocate with
            | .ok set => return (← r.noteAcquired generation, .ok set)
            | .error e => return (r, .error e)
        else return (r, .error e)

/-- The slots whose pools are reset. -/
def resetCalls (r : DescriptorPoolRing) (retiredWatermark : UInt64) : List Nat :=
  (List.range r.pools.length).filter fun i => r.pools[i]?.any (·.candidate retiredWatermark)

/-- `reset i` is what the driver answers for the pool of slot `i`. The count is of the pools
that are reclaimed. -/
def releaseUpTo (r : DescriptorPoolRing) (retiredWatermark : UInt64)
    (reset : Nat → Except VkResult Unit) : DescriptorPoolRing × Nat :=
  let reclaimed := (r.resetCalls retiredWatermark).countP fun i => (reset i).isOk
  ({ r with
    pools := r.pools.mapIdx fun i slot =>
      if slot.candidate retiredWatermark then slot.afterReset (reset i) else slot
    lifetimeResets :=
      UInt64.ofNat (min (r.lifetimeResets.toNat + reclaimed) (UInt64.size - 1)) }, reclaimed)

end DescriptorPoolRing

end X12

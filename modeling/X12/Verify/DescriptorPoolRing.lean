import X12.Core.DescriptorPoolRing
import Mathlib.Logic.Function.Basic

/-! # Pools are reset when their sets have retired

The generations of the sets that a pool has handed out are not in the ring, only a mark
that none of them is above. -/

namespace X12

/-! ## Slots -/

/-- What a slot says of the generations of the sets that its pool has handed out since it
was reset. -/
structure PoolSlot.Keeps (slot : PoolSlot) (handed : List UInt64) : Prop where
  marked : ∀ g ∈ handed, g ≤ slot.highWaterGeneration
  capacity : handed.length + slot.setsRemaining.toNat ≤ SETS_PER_POOL.toNat
  free : slot.state = .Free → handed = []

namespace PoolSlot.Keeps

variable {slot : PoolSlot} {handed : List UInt64} {state : PoolState}

/-- A pool that has handed out nothing. -/
theorem fresh {pool : VkHandle} : Keeps ⟨pool, state, 0, SETS_PER_POOL⟩ [] where
  marked _ h := absurd h List.not_mem_nil
  capacity := Nat.le_of_eq (Nat.zero_add _)
  free _ := rfl

theorem setState (h : slot.Keeps handed) (hstate : state ≠ .Free) :
    Keeps { slot with state := state } handed :=
  ⟨h.marked, h.capacity, fun hfree => absurd hfree hstate⟩

theorem exhaust (h : slot.Keeps handed) : Keeps { slot with setsRemaining := 0 } handed :=
  ⟨h.marked, Nat.le_trans (Nat.le_add_right ..) h.capacity, h.free⟩

/-- A set more, of the given generation. -/
theorem acquired (h : slot.Keeps handed) (hactive : slot.state = .Active)
    (hremaining : 0 < slot.setsRemaining) (generation : UInt64) :
    (slot.noteAcquired generation).Keeps (generation :: handed) := by
  have hpos : 0 < slot.setsRemaining.toNat := UInt32.lt_iff_toNat_lt.mp hremaining
  have hne : slot.setsRemaining ≠ 0 := fun h0 => by rw [h0] at hpos; cases hpos
  refine ⟨fun g hg => ?_, ?_, fun hfree => ?_⟩
  · dsimp only [PoolSlot.noteAcquired]
    rcases List.mem_cons.mp hg with rfl | hg
    · split
      · exact UInt64.le_refl _
      · next hle => exact UInt64.not_lt.mp hle
    · have hmark := h.marked g hg
      split
      · next hlt => exact UInt64.le_of_lt (UInt64.lt_of_le_of_lt hmark hlt)
      · exact hmark
  · have hcapacity := h.capacity
    have hone : (1 : UInt32) ≤ slot.setsRemaining := UInt32.le_iff_toNat_le.mpr hpos
    rw [PoolSlot.noteAcquired]
    dsimp only
    rw [if_neg hne, UInt32.toNat_sub_of_le _ _ hone, List.length_cons]
    change handed.length + 1 + (slot.setsRemaining.toNat - 1) ≤ _
    omega
  · exact absurd (hactive.symm.trans hfree) PoolState.noConfusion

end PoolSlot.Keeps

/-! ## The ring -/

namespace DescriptorPoolRing

/-- The active slot is the one that the ring names, and every slot keeps what its pool has
handed out. -/
structure Keeps (r : DescriptorPoolRing) (handed : Nat → List UInt64) : Prop where
  active : ∀ i, r.active = some i → ∃ slot : PoolSlot, r.pools[i]? = some slot ∧ slot.state = .Active
  named : ∀ i (slot : PoolSlot), r.pools[i]? = some slot → slot.state = .Active → r.active = some i
  slots : ∀ i (slot : PoolSlot), r.pools[i]? = some slot → slot.Keeps (handed i)
  unused : ∀ i, r.pools[i]? = none → handed i = []

def Poisoned (r : DescriptorPoolRing) : Prop :=
  ∃ (i : Nat) (slot : PoolSlot), r.pools[i]? = some slot ∧ slot.state = .Poisoned

variable {r : DescriptorPoolRing} {handed : Nat → List UInt64} {i : Nat} {slot : PoolSlot}

theorem get_updateSlot {f : PoolSlot → PoolSlot} {j : Nat} :
    (r.updateSlot i f).pools[j]? = if i = j then r.pools[j]?.map f else r.pools[j]? := by
  rw [updateSlot, List.getElem?_modify]
  split
  · rfl
  · exact Option.map_id' ..

variable {idx : Nat} {old : PoolSlot} {f : PoolSlot → PoolSlot} {active : Option Nat}
  {gens : List UInt64}

/-- A slot is changed, and is active or not, while no other is. -/
theorem Keeps.update (h : r.Keeps handed) (hold : r.pools[idx]? = some old)
    (hother : r.active = none ∨ r.active = some idx) (hnew : (f old).Keeps gens)
    (hactive : active = if (f old).state = .Active then some idx else none) :
    Keeps { r.updateSlot idx f with active := active } (Function.update handed idx gens) := by
  have hget (j : Nat) : ({ r.updateSlot idx f with active := active } : DescriptorPoolRing).pools[j]? =
      if idx = j then r.pools[j]?.map f else r.pools[j]? := get_updateSlot
  have hsome : ∀ j (slot : PoolSlot), (if idx = j then r.pools[j]?.map f else r.pools[j]?) = some slot →
      j = idx ∧ slot = f old ∨ j ≠ idx ∧ r.pools[j]? = some slot := by
    intro j slot hj
    split at hj
    · next heq =>
      subst heq
      rw [hold] at hj
      exact .inl ⟨rfl, (Option.some.inj hj).symm⟩
    · next hne => exact .inr ⟨Ne.symm hne, hj⟩
  refine ⟨fun j hj => ?_, fun j slot hj hstate => ?_, fun j slot hj => ?_, fun j hj => ?_⟩
  · rw [hget]
    have hj : active = some j := hj
    rw [hactive] at hj
    split at hj
    · next hstate =>
      cases hj
      exact ⟨f old, by rw [if_pos rfl, hold]; rfl, hstate⟩
    · cases hj
  · rw [hget] at hj
    change active = some j
    rcases hsome j slot hj with ⟨rfl, rfl⟩ | ⟨hne, hj⟩
    · rw [hactive, if_pos hstate]
    · have hj := h.named j slot hj hstate
      rcases hother with hnone | hidx
      · rw [hnone] at hj
        cases hj
      · rw [hidx] at hj
        exact absurd (Option.some.inj hj).symm hne
  · rw [hget] at hj
    rcases hsome j slot hj with ⟨rfl, rfl⟩ | ⟨hne, hj⟩
    · rw [Function.update_self]
      exact hnew
    · rw [Function.update_of_ne hne]
      exact h.slots j slot hj
  · rw [hget] at hj
    split at hj
    · next heq =>
      rw [← heq, hold] at hj
      cases hj
    · next hne =>
      rw [Function.update_of_ne (Ne.symm hne)]
      exact h.unused j hj

/-- What has been handed out stays as it is. -/
theorem Keeps.update_same (h : r.Keeps handed) (hold : r.pools[idx]? = some old)
    (hother : r.active = none ∨ r.active = some idx) (hnew : (f old).Keeps (handed idx))
    (hactive : active = if (f old).state = .Active then some idx else none) :
    Keeps { r.updateSlot idx f with active := active } handed := by
  have hkeeps := h.update hold hother hnew hactive
  rwa [Function.update_eq_self] at hkeeps

/-- A pool is active and has a set left. -/
def Ready (r : DescriptorPoolRing) : Prop :=
  ∃ idx slot, r.active = some idx ∧ r.pools[idx]? = some slot ∧ 0 < slot.setsRemaining

theorem sets_pos : 0 < SETS_PER_POOL := by decide

theorem ready_update (hold : r.pools[idx]? = some old) (hpos : 0 < (f old).setsRemaining) :
    Ready { r.updateSlot idx f with active := some idx } := by
  refine ⟨idx, f old, rfl, get_updateSlot.trans ?_, hpos⟩
  rw [if_pos rfl, hold]
  rfl

theorem getElem?_concat_some {pools : List PoolSlot} {new : PoolSlot} {j : Nat}
    (h : (pools ++ [new])[j]? = some slot) :
    pools[j]? = some slot ∨ j = pools.length ∧ slot = new := by
  rw [List.getElem?_append] at h
  split at h
  · exact .inl h
  · next hle =>
    obtain ⟨hzero, hnew⟩ := List.getElem?_singleton.symm.trans h |> fun h => by
      split at h
      · next hzero => exact And.intro hzero (Option.some.inj h)
      · cases h
    exact .inr ⟨by omega, hnew.symm⟩

theorem Keeps.createPoolActive (h : r.Keeps handed) (hnone : r.active = none)
    (create : Except VkResult VkHandle) :
    (r.createPoolActive create).1.Keeps handed ∧
      ((r.createPoolActive create).2 = .ok () → (r.createPoolActive create).1.Ready) := by
  cases create with
  | error e => exact ⟨h, fun hok => by cases hok⟩
  | ok pool =>
    have hlast : (r.createPoolActive (.ok pool)).1.pools[r.pools.length]? =
        some ⟨pool, .Active, 0, SETS_PER_POOL⟩ := List.getElem?_concat_length
    refine ⟨⟨fun j hj => ?_, fun j slot hj hstate => ?_, fun j slot hj => ?_, fun j hj => ?_⟩,
      fun _ => ⟨r.pools.length, _, rfl, hlast, sets_pos⟩⟩
    · cases hj
      exact ⟨_, hlast, rfl⟩
    · rcases getElem?_concat_some hj with hj | ⟨rfl, -⟩
      · have hactive := h.named j slot hj hstate
        rw [hnone] at hactive
        cases hactive
      · rfl
    · rcases getElem?_concat_some hj with hj | ⟨rfl, rfl⟩
      · exact h.slots j slot hj
      · rw [h.unused _ (List.getElem?_eq_none (Nat.le_refl _))]
        exact .fresh
    · refine h.unused j (List.getElem?_eq_none ?_)
      have hle : (r.pools ++ [(⟨pool, .Active, 0, SETS_PER_POOL⟩ : PoolSlot)]).length ≤ j :=
        List.getElem?_eq_none_iff.mp hj
      rw [List.length_append] at hle
      exact Nat.le_of_add_right_le hle

theorem Keeps.activatePool (h : r.Keeps handed) (hnone : r.active = none)
    (create : Except VkResult VkHandle) :
    (r.activatePool create).1.Keeps handed ∧
      ((r.activatePool create).2 = .ok () → (r.activatePool create).1.Ready) := by
  rw [DescriptorPoolRing.activatePool]
  split
  · next i hfind =>
    obtain ⟨hi, hfree, -⟩ := List.findIdx?_eq_some_iff_getElem.mp hfind
    have hslot : r.pools[i]? = some r.pools[i] := List.getElem?_eq_getElem hi
    have hempty := (h.slots i _ hslot).free (of_decide_eq_true hfree)
    refine ⟨h.update_same hslot (.inl hnone) ?_ rfl, fun _ => ready_update hslot sets_pos⟩
    rw [hempty]
    exact .fresh
  · exact h.createPoolActive hnone create

/-- The ring stays in order, without a panic. -/
theorem Keeps.ensureActiveWithCapacity (h : r.Keeps handed)
    (create : Except VkResult VkHandle) :
    ∃ r' ready, r.ensureActiveWithCapacity create = some (r', ready) ∧ r'.Keeps handed ∧
      (ready = .ok () → r'.Ready) := by
  rw [DescriptorPoolRing.ensureActiveWithCapacity]
  cases hactive : r.active with
  | none =>
    obtain ⟨hkeeps, hready⟩ := h.activatePool hactive create
    exact ⟨_, _, rfl, hkeeps, hready⟩
  | some idx =>
    obtain ⟨slot, hslot, hstate⟩ := h.active idx hactive
    dsimp only
    rw [hslot]
    by_cases hremaining : 0 < slot.setsRemaining
    · refine ⟨r, .ok (), ?_, h, fun _ => ⟨idx, slot, hactive, hslot, hremaining⟩⟩
      exact if_pos hremaining
    · have hretired : Keeps { r.updateSlot idx (fun slot => { slot with state := .InFlight }) with
          active := none } handed :=
        h.update_same hslot (.inr hactive) ((h.slots idx slot hslot).setState PoolState.noConfusion)
          rfl
      obtain ⟨hkeeps, hready⟩ := hretired.activatePool rfl create
      exact ⟨_, _, if_neg hremaining, hkeeps, hready⟩

/-! ## Acquiring -/

/-- The generations after a request for a set has been answered. -/
def handedAfter (handed : Nat → List UInt64) (generation : UInt64) :
    Except VkResult (Nat × VkHandle) → Nat → List UInt64
  | .ok (i, _) => Function.update handed i (generation :: handed i)
  | .error _ => handed

theorem Keeps.exhaust (h : r.Keeps handed) : r.exhaust.Keeps handed := by
  rw [DescriptorPoolRing.exhaust]
  split
  · next idx hactive =>
    obtain ⟨slot, hslot, hstate⟩ := h.active idx hactive
    exact h.update_same (f := fun slot => { slot with setsRemaining := 0 }) hslot (.inr hactive)
      (h.slots idx slot hslot).exhaust (hactive.trans (if_pos hstate).symm)
  · exact h

/-- The driver is asked for a set of the active pool. If it gives one, that is noted. -/
theorem Keeps.attempt (h : r.Keeps handed) (hready : r.Ready) (generation : UInt64)
    (allocate : Except VkResult VkHandle) :
    ∃ answer, r.tryAllocateOne allocate = some answer ∧
      ∀ set, answer = .ok set → ∃ next, r.noteAcquired generation = some next ∧
        next.Keeps (handedAfter handed generation answer) := by
  obtain ⟨idx, slot, hactive, hslot, hremaining⟩ := hready
  obtain ⟨active, hget, hstate⟩ := h.active idx hactive
  obtain rfl : active = slot := Option.some.inj (hget.symm.trans hslot)
  refine ⟨allocate.map fun set => (idx, set), ?_, fun set hset => ?_⟩
  · rw [tryAllocateOne, hactive]
    dsimp only [Option.bind_eq_bind, Option.bind_some]
    rw [hslot]
    rfl
  · have hkeeps := h.update (f := (·.noteAcquired generation)) hslot (.inr hactive)
      ((h.slots idx _ hslot).acquired hstate hremaining generation)
      (hactive.trans (if_pos hstate).symm)
    refine ⟨r.updateSlot idx (·.noteAcquired generation), ?_, ?_⟩
    · rw [noteAcquired, hactive]
      dsimp only [Option.bind_eq_bind, Option.bind_some]
      rw [hslot]
      rfl
    · cases allocate with
      | error e => cases hset
      | ok set => exact hkeeps

/-- A request is answered without a panic. -/
theorem Keeps.acquireSet (h : r.Keeps handed) (generation : UInt64) (first second : VkAnswers) :
    ∃ r' result, r.acquireSet generation first second = some (r', result) ∧
      r'.Keeps (handedAfter handed generation result) := by
  rw [DescriptorPoolRing.acquireSet]
  split
  · exact ⟨r, _, rfl, h⟩
  obtain ⟨r₁, ready, hensure, h₁, hready⟩ := h.ensureActiveWithCapacity first.create
  rw [hensure]
  cases ready with
  | error e => exact ⟨r₁, .error e, rfl, h₁⟩
  | ok =>
  obtain ⟨answer, htry, hnote⟩ := h₁.attempt (hready rfl) generation first.allocate
  dsimp only [Option.bind_eq_bind, Option.bind_some]
  rw [htry]
  cases answer with
  | ok set =>
    obtain ⟨next, hnext, hkeeps⟩ := hnote set rfl
    dsimp only [Option.bind_some]
    rw [hnext]
    exact ⟨next, .ok set, rfl, hkeeps⟩
  | error e =>
  dsimp only [Option.bind_some]
  split
  · -- the driver finds the pool exhausted
    obtain ⟨r₂, ready, hensure, h₂, hready⟩ :=
      h₁.exhaust.ensureActiveWithCapacity second.create
    rw [hensure]
    cases ready with
    | error e => exact ⟨r₂, .error e, rfl, h₂⟩
    | ok =>
    obtain ⟨answer, htry, hnote⟩ :=
      h₂.attempt (hready rfl) generation second.allocate
    dsimp only [Option.bind_some]
    rw [htry]
    cases answer with
    | ok set =>
      obtain ⟨next, hnext, hkeeps⟩ := hnote set rfl
      dsimp only [Option.bind_some]
      rw [hnext]
      exact ⟨next, .ok set, rfl, hkeeps⟩
    | error e => exact ⟨r₂, .error e, rfl, h₂⟩
  · exact ⟨r₁, .error e, rfl, h₁⟩

/-! ## Releasing -/

/-- A pool whose reset succeeds has handed out nothing since. -/
def handedReset (r : DescriptorPoolRing) (handed : Nat → List UInt64) (retiredWatermark : UInt64)
    (reset : Nat → Except VkResult Unit) (i : Nat) : List UInt64 :=
  if i ∈ r.resetCalls retiredWatermark ∧ (reset i).isOk then [] else handed i

theorem mem_resetCalls {watermark : UInt64} :
    i ∈ r.resetCalls watermark ↔
      ∃ slot, r.pools[i]? = some slot ∧ slot.candidate watermark = true := by
  rw [resetCalls, List.mem_filter, List.mem_range, Option.any_eq_true]
  refine and_iff_right_of_imp fun ⟨slot, hslot, _⟩ => ?_
  exact (List.getElem?_eq_some_iff.mp hslot).1

/-- The sets of a pool that is reset have retired. -/
theorem Keeps.retired (h : r.Keeps handed) {watermark : UInt64} (hi : i ∈ r.resetCalls watermark) :
    ∀ g ∈ handed i, g ≤ watermark := by
  obtain ⟨slot, hslot, hcandidate⟩ := mem_resetCalls.mp hi
  obtain ⟨-, hmark⟩ := of_decide_eq_true hcandidate
  exact fun g hg => UInt64.le_trans ((h.slots i slot hslot).marked g hg) hmark

variable {watermark : UInt64} {reset : Nat → Except VkResult Unit}

theorem get_releaseUpTo : (r.releaseUpTo watermark reset).1.pools[i]? =
    r.pools[i]?.map fun slot =>
      if slot.candidate watermark then slot.afterReset (reset i) else slot :=
  List.getElem?_mapIdx

theorem candidate_of_state {state : PoolState} (hstate : slot.state = state)
    (hne : state ≠ .InFlight) : slot.candidate watermark = false :=
  decide_eq_false fun h => hne (hstate.symm.trans h.1)

theorem afterReset_not_active {answer : Except VkResult Unit} :
    (slot.afterReset answer).state ≠ .Active := by
  cases answer <;> exact PoolState.noConfusion

theorem Keeps.releaseUpTo (h : r.Keeps handed) :
    (r.releaseUpTo watermark reset).1.Keeps (r.handedReset handed watermark reset) := by
  have hsome : ∀ j (slot : PoolSlot), (r.releaseUpTo watermark reset).1.pools[j]? = some slot →
      ∃ old : PoolSlot, r.pools[j]? = some old ∧ slot =
        if old.candidate watermark then old.afterReset (reset j) else old := by
    intro j slot hj
    rw [get_releaseUpTo] at hj
    obtain ⟨old, hold, heq⟩ := Option.map_eq_some_iff.mp hj
    exact ⟨old, hold, heq.symm⟩
  refine ⟨fun j hj => ?_, fun j slot hj hstate => ?_, fun j slot hj => ?_, fun j hj => ?_⟩
  · obtain ⟨slot, hslot, hstate⟩ := h.active j hj
    refine ⟨slot, ?_, hstate⟩
    rw [get_releaseUpTo, hslot, Option.map_some,
      candidate_of_state hstate PoolState.noConfusion]
    rfl
  · obtain ⟨old, hold, rfl⟩ := hsome j slot hj
    split at hstate
    · exact absurd hstate afterReset_not_active
    · exact h.named j old hold hstate
  · obtain ⟨old, hold, rfl⟩ := hsome j slot hj
    have hkeeps := h.slots j old hold
    rw [handedReset]
    split
    · next hcandidate =>
      have hcalled : j ∈ r.resetCalls watermark := mem_resetCalls.mpr ⟨old, hold, hcandidate⟩
      cases reset j with
      | ok =>
        rw [if_pos ⟨hcalled, rfl⟩]
        exact .fresh
      | error e =>
        rw [if_neg fun hok => Bool.false_ne_true hok.2]
        exact hkeeps.setState PoolState.noConfusion
    · next hcandidate =>
      have huncalled : j ∉ r.resetCalls watermark := fun hcalled => by
        obtain ⟨slot, hslot, hyes⟩ := mem_resetCalls.mp hcalled
        obtain rfl := Option.some.inj (hold.symm.trans hslot)
        exact hcandidate hyes
      rw [if_neg fun hok => huncalled hok.1]
      exact hkeeps
  · have hnone : r.pools[j]? = none := by
      rw [get_releaseUpTo] at hj
      exact Option.map_eq_none_iff.mp hj
    rw [handedReset, h.unused j hnone, ite_self]

/-! ## Poison -/

/-- A poisoned ring hands out nothing. -/
theorem Poisoned.acquireSet (h : r.Poisoned) (generation : UInt64) (first second : VkAnswers) :
    r.acquireSet generation first second = some (r, .error ERROR_UNKNOWN) := by
  obtain ⟨i, slot, hslot, hstate⟩ := h
  refine if_pos (List.any_eq_true.mpr ⟨slot, List.mem_of_getElem? hslot, ?_⟩)
  exact decide_eq_true hstate

theorem Poisoned.releaseUpTo (h : r.Poisoned) : (r.releaseUpTo watermark reset).1.Poisoned := by
  obtain ⟨i, slot, hslot, hstate⟩ := h
  refine ⟨i, slot, ?_, hstate⟩
  rw [get_releaseUpTo, hslot, Option.map_some, candidate_of_state hstate PoolState.noConfusion]
  rfl

/-- A reset that fails poisons the ring. -/
theorem poisoned_of_error (hi : i ∈ r.resetCalls watermark) (herror : (reset i).isOk = false) :
    (r.releaseUpTo watermark reset).1.Poisoned := by
  obtain ⟨slot, hslot, hcandidate⟩ := mem_resetCalls.mp hi
  refine ⟨i, { slot with state := .Poisoned }, ?_, rfl⟩
  rw [get_releaseUpTo, hslot, Option.map_some, if_pos hcandidate]
  cases hreset : reset i with
  | ok =>
    rw [hreset] at herror
    cases herror
  | error e => rfl

end DescriptorPoolRing

/-! ## Runs -/

inductive RingStep where
  | acquire (generation : UInt64) (first second : VkAnswers)
  | release (retiredWatermark : UInt64) (reset : Nat → Except VkResult Unit)

/-- The ring, the generations of the sets that each pool has handed out since it was reset,
and whether a reset has failed. -/
structure RingHistory where
  ring : DescriptorPoolRing
  handed : Nat → List UInt64
  poisoned : Bool

namespace RingHistory

open DescriptorPoolRing (Keeps handedAfter handedReset)

def start : RingHistory := ⟨.new, fun _ => [], false⟩

/-- `none` is a panic. -/
def next (h : RingHistory) : RingStep → Option RingHistory
  | .acquire generation first second => do
    let (ring, result) ← h.ring.acquireSet generation first second
    return { h with ring := ring, handed := handedAfter h.handed generation result }
  | .release watermark reset => some {
      ring := (h.ring.releaseUpTo watermark reset).1
      handed := h.ring.handedReset h.handed watermark reset
      poisoned := h.poisoned || (h.ring.resetCalls watermark).any fun i => !(reset i).isOk }

def run (steps : List RingStep) : Option RingHistory :=
  steps.foldlM next start

/-- What every step finds and leaves. -/
structure Sound (h : RingHistory) : Prop where
  keeps : h.ring.Keeps h.handed
  poisoned : h.poisoned = true → h.ring.Poisoned

theorem Sound.start : start.Sound where
  keeps := by
    refine ⟨fun i hi => ?_, fun i slot hi => ?_, fun i slot hi => ?_, fun i _ => rfl⟩
    · cases hi
    · cases hi
    · cases hi
  poisoned hp := by cases hp

theorem Sound.next {h : RingHistory} (hs : h.Sound) (step : RingStep) :
    ∃ h', h.next step = some h' ∧ h'.Sound := by
  cases step with
  | acquire generation first second =>
    obtain ⟨ring, result, hacquire, hkeeps⟩ := hs.keeps.acquireSet generation first second
    refine ⟨{ h with ring := ring, handed := handedAfter h.handed generation result }, ?_, hkeeps,
      fun hp => ?_⟩
    · rw [RingHistory.next, hacquire]
      rfl
    · have hpoisoned := hs.poisoned hp
      rw [hpoisoned.acquireSet] at hacquire
      cases hacquire
      exact hpoisoned
  | release watermark reset =>
    refine ⟨_, rfl, hs.keeps.releaseUpTo, fun hp => ?_⟩
    rcases (Bool.or_eq_true ..).mp hp with hp | hp
    · exact (hs.poisoned hp).releaseUpTo
    · obtain ⟨i, hi, herror⟩ := List.any_eq_true.mp hp
      exact DescriptorPoolRing.poisoned_of_error hi (Bool.not_eq_true' _ |>.mp herror)

theorem run_sound (steps : List RingStep) : ∃ h, run steps = some h ∧ h.Sound := by
  suffices hall : ∀ h : RingHistory, h.Sound → ∃ h', steps.foldlM next h = some h' ∧ h'.Sound from
    hall start .start
  induction steps with
  | nil => exact fun h hs => ⟨h, rfl, hs⟩
  | cons step steps ih =>
    intro h hs
    obtain ⟨mid, hmid, hsound⟩ := hs.next step
    obtain ⟨last, hlast, hdone⟩ := ih mid hsound
    refine ⟨last, ?_, hdone⟩
    rw [List.foldlM_cons, hmid]
    exact hlast

/-- What a ring has to keep, whatever comes next. -/
structure Safe (h : RingHistory) : Prop where
  /-- The active pool is the one that `active` names. -/
  active : ∀ (i : Nat) (slot : PoolSlot), h.ring.pools[i]? = some slot →
    (slot.state = .Active ↔ h.ring.active = some i)
  named : ∀ i, h.ring.active = some i → i < h.ring.pools.length
  /-- What is reset has retired. -/
  resets : ∀ watermark, ∀ i ∈ h.ring.resetCalls watermark, ∀ g ∈ h.handed i, g ≤ watermark
  capacity : ∀ i, (h.handed i).length ≤ SETS_PER_POOL.toNat
  /-- After a reset that failed no set is handed out. -/
  poisoned : h.poisoned = true → ∀ generation first second, ∃ error,
    h.ring.acquireSet generation first second = some (h.ring, .error error)

/-- In every run of requests and releases, whatever the driver answers. -/
theorem run_safe (steps : List RingStep) : ∃ h, run steps = some h ∧ h.Safe := by
  obtain ⟨h, hrun, hs⟩ := run_sound steps
  refine ⟨h, hrun, fun i slot hslot => ⟨hs.keeps.named i slot hslot, fun hactive => ?_⟩,
    fun i hi => ?_, fun watermark i hi => hs.keeps.retired hi, fun i => ?_,
    fun hp generation first second => ⟨_, (hs.poisoned hp).acquireSet generation first second⟩⟩
  · obtain ⟨named, hnamed, hstate⟩ := hs.keeps.active i hactive
    obtain rfl := Option.some.inj (hnamed.symm.trans hslot)
    exact hstate
  · obtain ⟨slot, hslot, -⟩ := hs.keeps.active i hi
    exact (List.getElem?_eq_some_iff.mp hslot).1
  · cases hslot : h.ring.pools[i]? with
    | none =>
      rw [hs.keeps.unused i hslot]
      exact Nat.zero_le _
    | some slot => exact Nat.le_of_add_right_le (hs.keeps.slots i slot hslot).capacity

end RingHistory

end X12

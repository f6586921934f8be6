import X12.Core.InputFreeze

/-! # What freezes withhold

What each call does to the queues of the input devices: most change grabs and
freezes only, and replay what they thaw. -/

namespace X12

/-! ## What the calls do -/

/-- The two devices whose queues are replayed. -/
def inputDevices : List UInt16 := [DEVICEID_SLAVE_POINTER, DEVICEID_SLAVE_KEYBOARD]

/-- Nothing withheld changes. -/
def SameQueues (s s' : InputState) : Prop :=
  ∀ dev, (s'.xi1Frozen dev).queue = (s.xi1Frozen dev).queue ∧
    (s'.xi1Frozen dev).coreKeyQueue = (s.xi1Frozen dev).coreKeyQueue

/-- No device is thawed. -/
def StaysFrozen (s s' : InputState) : Prop :=
  ∀ dev, s.frozen dev = true → s'.frozen dev = true

/-- A device that is thawed is drained. -/
def Replays (s : InputState) (o : InputOutcome) : Prop :=
  ∀ dev ∈ inputDevices, s.frozen dev = true → o.state.frozen dev = false → .drain dev ∈ o.rest

/-- Only the two input devices are drained. -/
def Pending.drainsDevices : Pending → Bool
  | .drain dev => inputDevices.contains dev
  | _ => true

/-- Work that carries no event that is under way. -/
def Pending.isEmpty : Pending → Bool
  | .deliverRouted _ _ | .deliverActivating _ _ => false
  | p => p.drainsDevices

theorem Pending.isEmpty_drainsDevices {p : Pending} (h : p.isEmpty = true) :
    p.drainsDevices = true := by
  cases p with
  | deliverRouted | deliverActivating => rfl
  | _ => exact h

/-- The call changes grabs and freezes only, and replays what it thaws. -/
structure Syncs (s : InputState) (o : InputOutcome) : Prop where
  queues : SameQueues s o.state
  events : o.events = []
  empty : ∀ p ∈ o.rest, p.isEmpty = true
  replays : Replays s o

variable {s s' s'' : InputState} {o : InputOutcome} {dev : UInt16}

namespace InputState

variable {d : UInt16} {f : Xi1Freeze → Xi1Freeze}

@[simp]
theorem updateFreeze_self : (s.updateFreeze dev f).xi1Frozen dev = f (s.xi1Frozen dev) :=
  Function.update_self ..

theorem updateFreeze_of_ne (h : d ≠ dev) :
    (s.updateFreeze dev f).xi1Frozen d = s.xi1Frozen d :=
  Function.update_of_ne h ..

end InputState

namespace SameQueues

theorem refl (s : InputState) : SameQueues s s := fun _ => ⟨rfl, rfl⟩

theorem trans (h : SameQueues s s') (h' : SameQueues s' s'') : SameQueues s s'' :=
  fun dev => ⟨(h' dev).1.trans (h dev).1, (h' dev).2.trans (h dev).2⟩

theorem of_eq (h : s'.xi1Frozen = s.xi1Frozen) : SameQueues s s' :=
  fun dev => ⟨by rw [h], by rw [h]⟩

/-- A change of the sync state of one device. -/
theorem updateFreeze (f : Xi1Freeze → Xi1Freeze)
    (hf : ∀ x, (f x).queue = x.queue ∧ (f x).coreKeyQueue = x.coreKeyQueue) :
    SameQueues s (s.updateFreeze dev f) := by
  intro d
  rcases eq_or_ne d dev with rfl | hd
  · rw [InputState.updateFreeze_self]
    exact hf _
  · rw [InputState.updateFreeze_of_ne hd]
    exact ⟨rfl, rfl⟩

theorem andUpdate (h : SameQueues s s') (f : Xi1Freeze → Xi1Freeze)
    (hf : ∀ x, (f x).queue = x.queue ∧ (f x).coreKeyQueue = x.coreKeyQueue) :
    SameQueues s (s'.updateFreeze dev f) :=
  h.trans (updateFreeze f hf)

theorem andUpdate_if {c : Prop} [Decidable c] (h : SameQueues s s') (f : Xi1Freeze → Xi1Freeze)
    (hf : ∀ x, (f x).queue = x.queue ∧ (f x).coreKeyQueue = x.coreKeyQueue) :
    SameQueues s (if c then s'.updateFreeze dev f else s') := by
  split
  · exact h.andUpdate f hf
  · exact h

theorem foldl {f : InputState → UInt16 → InputState} (h : ∀ s dev, SameQueues s (f s dev))
    (devs : List UInt16) (s : InputState) : SameQueues s (devs.foldl f s) := by
  induction devs generalizing s with
  | nil => exact refl s
  | cons dev devs ih => exact (h s dev).trans (ih (f s dev))

end SameQueues

namespace StaysFrozen

theorem of_eq (h : s'.xi1Frozen = s.xi1Frozen) : StaysFrozen s s' := by
  intro d hd
  rwa [InputState.frozen, h]

theorem trans (h : StaysFrozen s s') (h' : StaysFrozen s' s'') : StaysFrozen s s'' :=
  fun d hd => h' d (h d hd)

theorem updateFreeze (f : Xi1Freeze → Xi1Freeze) (hf : ∀ x, x.frozen = true → (f x).frozen = true) :
    StaysFrozen s (s.updateFreeze dev f) := by
  intro d hd
  rcases eq_or_ne d dev with rfl | hne
  · rw [InputState.frozen, InputState.updateFreeze_self]
    exact hf _ hd
  · rwa [InputState.frozen, InputState.updateFreeze_of_ne hne]

theorem andUpdate (h : StaysFrozen s s') (f : Xi1Freeze → Xi1Freeze)
    (hf : ∀ x, x.frozen = true → (f x).frozen = true) : StaysFrozen s (s'.updateFreeze dev f) :=
  h.trans (updateFreeze f hf)

end StaysFrozen

@[simp]
theorem Xi1Freeze.release_queue (f : Xi1Freeze) (client : ClientId) :
    (f.release client).queue = f.queue := by
  unfold Xi1Freeze.release
  split <;> rfl

@[simp]
theorem Xi1Freeze.release_coreKeyQueue (f : Xi1Freeze) (client : ClientId) :
    (f.release client).coreKeyQueue = f.coreKeyQueue := by
  unfold Xi1Freeze.release
  split <;> rfl

theorem mem_computeFreezes (h : dev ∈ inputDevices) : .drain dev ∈ computeFreezes := by
  rcases List.mem_cons.mp h with rfl | h
  · exact List.mem_cons_self
  · cases List.mem_singleton.mp h
    exact List.mem_cons_of_mem _ List.mem_cons_self

theorem computeFreezes_isEmpty : ∀ p ∈ computeFreezes, p.isEmpty = true := by
  decide

namespace Syncs

theorem done (h : SameQueues s s') (hf : StaysFrozen s s') : Syncs s (.done s') where
  queues := h
  events := rfl
  empty := fun _ hp => absurd hp List.not_mem_nil
  replays := fun d _ hd hd' => absurd (hf d hd) (Bool.eq_false_iff.mp hd')

/-- A call that ends with a replay of both devices. -/
theorem replaying (h : SameQueues s s') : Syncs s ⟨s', computeFreezes, []⟩ where
  queues := h
  events := rfl
  empty := computeFreezes_isEmpty
  replays := fun _ hd _ _ => mem_computeFreezes hd

theorem unchanged (s : InputState) : Syncs s (.done s) :=
  done (SameQueues.refl s) fun _ hd => hd

theorem ite {c : Prop} [Decidable c] {o' : InputOutcome} (h : Syncs s o) (h' : Syncs s o') :
    Syncs s (if c then o else o') := by
  split
  · exact h
  · exact h'

/-- Whatever a change thaws, a call that ends with a replay replays it. -/
theorem thenReplay {later : List Pending} (h : Syncs s' o) (hq : SameQueues s s')
    (hlater : ∀ p ∈ later, p.isEmpty = true) : Syncs s (o.andThen (later ++ computeFreezes)) where
  queues := hq.trans h.queues
  events := h.events
  empty := fun p hp => (List.mem_append.mp hp).elim (h.empty p) fun hp =>
    (List.mem_append.mp hp).elim (hlater p) (computeFreezes_isEmpty p)
  replays := fun _ hd _ _ =>
    List.mem_append_right _ (List.mem_append_right _ (mem_computeFreezes hd))

/-- A call after a change that thaws nothing. -/
theorem of_same (h : Syncs s' o) (hq : SameQueues s s') (hf : StaysFrozen s s') : Syncs s o where
  queues := hq.trans h.queues
  events := h.events
  empty := h.empty
  replays := fun d hd hs ho => h.replays d hd (hf d hs) ho

end Syncs

/-! ### Grabs and freezes -/

namespace InputState

variable {deviceid : UInt16} {owner client : ClientId} {q : Xi1QueuedEvent}

theorem checkGrabForSyncs_syncs (s : InputState) (deviceid : UInt16) (owner : ClientId)
    (thisSync otherSync : Bool) :
    Syncs s (s.xi1CheckGrabForSyncs deviceid owner thisSync otherSync) := by
  apply Syncs.replaying
  refine (SameQueues.updateFreeze _ fun x => ?_).andUpdate _ fun x => ?_
  · cases thisSync <;> simp
  · cases otherSync <;> simp

theorem freezeThisEvent_same (s : InputState) (deviceid : UInt16) (owner : ClientId)
    (q : Xi1QueuedEvent) : SameQueues s (s.xi1FreezeThisEventIfNeeded deviceid owner q) := by
  unfold xi1FreezeThisEventIfNeeded
  split
  · refine (SameQueues.updateFreeze _ fun x => ?_).andUpdate _ fun _ => ⟨rfl, rfl⟩
    split <;> exact ⟨rfl, rfl⟩
  · exact SameQueues.updateFreeze _ fun _ => ⟨rfl, rfl⟩
  · exact SameQueues.refl s

theorem freezeThisEvent_staysFrozen (s : InputState) (deviceid : UInt16) (owner : ClientId)
    (q : Xi1QueuedEvent) : StaysFrozen s (s.xi1FreezeThisEventIfNeeded deviceid owner q) := by
  have hstored : ∀ x : Xi1Freeze, x.frozen = true →
      Xi1Freeze.frozen { x with state := .FrozenWithEvent, stored := some q } = true :=
    fun x _ => by simp [Xi1Freeze.frozen, Xi1SyncState.isFrozen]
  unfold xi1FreezeThisEventIfNeeded
  split
  · refine (StaysFrozen.updateFreeze _ fun x _ => ?_).andUpdate _ hstored
    split
    · simp [Xi1Freeze.frozen, Xi1SyncState.isFrozen]
    · simp [Xi1Freeze.frozen]
  · exact StaysFrozen.updateFreeze _ hstored
  · exact fun _ hd => hd

theorem freezeThisEvent_if (s : InputState) (deviceid : UInt16) (owner : ClientId)
    (q : Xi1QueuedEvent) (b : Bool) :
    SameQueues s (if b then s.xi1FreezeThisEventIfNeeded deviceid owner q else s) ∧
      StaysFrozen s (if b then s.xi1FreezeThisEventIfNeeded deviceid owner q else s) := by
  cases b with
  | false => exact ⟨SameQueues.refl s, fun _ hd => hd⟩
  | true =>
    exact ⟨s.freezeThisEvent_same deviceid owner q, s.freezeThisEvent_staysFrozen deviceid owner q⟩

/-- A core grab of the device trips a freeze that is armed. -/
theorem coreGrabTrip_syncs (s : InputState) (q : Xi1QueuedEvent) :
    Syncs s (.done
      (match s.xi1DeviceGrabOwner q.deviceid with
      | some owner =>
        if q.isPress || q.isRelease then s.xi1FreezeThisEventIfNeeded q.deviceid owner q else s
      | none => s)) := by
  split
  · rename_i owner _
    have hfreeze := freezeThisEvent_if s q.deviceid owner q (q.isPress || q.isRelease)
    exact Syncs.done hfreeze.1 hfreeze.2
  · exact Syncs.unchanged s

theorem deactivateDeviceGrab_syncs (s : InputState) (deviceid : UInt16) :
    Syncs s (s.xi1DeactivateDeviceGrab deviceid) := by
  unfold xi1DeactivateDeviceGrab
  split
  · exact Syncs.unchanged s
  · apply Syncs.replaying
    apply SameQueues.andUpdate
    · apply SameQueues.andUpdate
      · exact SameQueues.of_eq rfl
      · exact fun _ => ⟨rfl, rfl⟩
    · intro x
      simp

theorem coreGrabBridgeRelease_syncs (s : InputState) (deviceid : UInt16) (owner : ClientId) :
    Syncs s (s.xi1CoreGrabBridgeRelease deviceid owner) := by
  apply Syncs.replaying
  refine SameQueues.andUpdate ?_ _ fun x => ?_
  · split
    · exact SameQueues.refl s
    · exact SameQueues.updateFreeze _ fun _ => ⟨rfl, rfl⟩
  · simp

theorem thawDevice_syncs (s : InputState) (deviceid : UInt16) :
    Syncs s (s.xi1ThawDevice deviceid) :=
  Syncs.replaying (SameQueues.updateFreeze _ fun _ => ⟨rfl, rfl⟩)

/-! ### Device events -/

/-- A device event that is not withheld is delivered, or under way to the grab
that it activated. -/
inductive Passed (q : Xi1QueuedEvent) (o : InputOutcome) : Prop where
  | delivered (receivers : List Receiver) (events : o.events = [.deviceDelivered q receivers])
      (empty : ∀ p ∈ o.rest, p.isEmpty = true)
  | activating (sync : List Pending) (g : Xi1PassiveGrab) (events : o.events = [])
      (rest : o.rest = sync ++ [.deliverActivating q g]) (empty : ∀ p ∈ sync, p.isEmpty = true)

theorem Passed.drainsDevices (h : Passed q o) : ∀ p ∈ o.rest, p.drainsDevices = true := by
  intro p hp
  cases h with
  | delivered _ _ empty => exact Pending.isEmpty_drainsDevices (empty p hp)
  | activating sync g _ rest empty =>
    rw [rest] at hp
    rcases List.mem_append.mp hp with hp | hp
    · exact Pending.isEmpty_drainsDevices (empty p hp)
    · rw [List.mem_singleton.mp hp]
      rfl

theorem routeDeviceEvent_frozen (h : s.frozen q.deviceid = true) :
    s.xi1RouteDeviceEvent q =
      .done (s.updateFreeze q.deviceid fun f => { f with queue := f.queue ++ [q] }) := by
  rw [xi1RouteDeviceEvent, if_pos h]

theorem Passed.of_syncs {s' : InputState} (h : Syncs s' o) (receivers : List Receiver) :
    Passed q (o.after [.deviceDelivered q receivers]) := by
  refine .delivered receivers ?_ h.empty
  rw [InputOutcome.after, h.events, List.append_nil]

/-- Routing an event of a device that is not frozen. -/
structure Routes (s : InputState) (q : Xi1QueuedEvent) (o : InputOutcome) : Prop where
  queues : SameQueues s o.state
  replays : Replays s o
  passed : Passed q o

theorem Routes.of_syncs (h : Syncs s o) (receivers : List Receiver) :
    Routes s q (o.after [.deviceDelivered q receivers]) where
  queues := h.queues
  replays := h.replays
  passed := Passed.of_syncs h receivers

theorem routeDeviceEvent_thawed (h : s.frozen q.deviceid = false) :
    Routes s q (s.xi1RouteDeviceEvent q) := by
  rw [xi1RouteDeviceEvent, if_neg (Bool.eq_false_iff.mp h)]
  split
  · -- an active grab
    rename_i grab _
    have hfreeze := freezeThisEvent_if s q.deviceid grab.owner q (q.isPress || q.isRelease)
    apply Routes.of_syncs
    split
    · exact (deactivateDeviceGrab_syncs _ _).of_same hfreeze.1 hfreeze.2
    · exact Syncs.done hfreeze.1 hfreeze.2
  · split
    · -- a passive grab is activated
      rename_i g _
      have hsyncs := (checkGrabForSyncs_syncs { s with server := { s.server with
        xi1ActiveGrabs := s.server.xi1ActiveGrabs.insert q.deviceid
          { owner := g.owner
            deviceid := q.deviceid
            grabWindow := g.grabWindow
            ownerEvents := g.ownerEvents
            thisMode := g.thisMode
            otherMode := g.otherMode
            passiveDetail := some q.detail } } } q.deviceid g.owner (g.thisMode = 0)
        (g.otherMode = 0)).of_same (SameQueues.of_eq rfl) (StaysFrozen.of_eq rfl)
      exact ⟨hsyncs.queues, fun d hd hs ho => List.mem_append_left _ (hsyncs.replays d hd hs ho),
        .activating _ g hsyncs.events rfl hsyncs.empty⟩
    · -- the selections
      cases s.computeXi1RouteTargets q with
      | some hit => exact Routes.of_syncs (coreGrabTrip_syncs s q) _
      | none => exact Routes.of_syncs (coreGrabTrip_syncs s q) []

/-- The press that activated a grab is stored with the freeze of the grab. -/
def storeActivating (q : Xi1QueuedEvent) (sync : Xi1Freeze) : Xi1Freeze :=
  if sync.state = .FrozenNoEvent then { sync with state := .FrozenWithEvent, stored := some q }
  else sync

theorem deliverActivating_same (s : InputState) (q : Xi1QueuedEvent) (g : Xi1PassiveGrab) :
    SameQueues s (s.deliverActivating q g).state := by
  apply SameQueues.updateFreeze (storeActivating q)
  intro x
  unfold storeActivating
  split <;> exact ⟨rfl, rfl⟩

theorem deliverActivating_staysFrozen (s : InputState) (q : Xi1QueuedEvent) (g : Xi1PassiveGrab) :
    StaysFrozen s (s.deliverActivating q g).state := by
  apply StaysFrozen.updateFreeze (storeActivating q)
  intro x hx
  unfold storeActivating
  split
  · simp [Xi1Freeze.frozen, Xi1SyncState.isFrozen]
  · exact hx

/-! ### Keys -/

theorem keyRoute_syncs (s : InputState) (event : HostKeyEvent) :
    Syncs s ⟨(s.keyRoute event).1, (s.keyRoute event).2.1, []⟩ := by
  unfold keyRoute
  split
  · split
    · exact (coreGrabBridgeRelease_syncs _ _ _).of_same (SameQueues.of_eq rfl)
        (StaysFrozen.of_eq rfl)
    · exact Syncs.unchanged s
  · split
    · -- a press
      dsimp only
      split
      · exact (checkGrabForSyncs_syncs _ _ _ _ _).of_same (SameQueues.of_eq rfl)
          (StaysFrozen.of_eq rfl)
      · exact Syncs.unchanged s
    · exact Syncs.unchanged s

theorem deliverRoutedKey_queues (s : InputState) (event : HostKeyEvent) :
    SameQueues s (s.deliverRoutedKey event).state :=
  (s.keyRoute_syncs event).queues

theorem deliverRoutedKey_replays (s : InputState) (event : HostKeyEvent) :
    Replays s (s.deliverRoutedKey event) :=
  fun d hd hs ho => List.mem_append_left _ ((s.keyRoute_syncs event).replays d hd hs ho)

theorem deliverRoutedKey_drainsDevices (s : InputState) (event : HostKeyEvent) :
    ∀ p ∈ (s.deliverRoutedKey event).rest, p.drainsDevices = true := by
  intro p hp
  rcases List.mem_append.mp hp with hp | hp
  · exact Pending.isEmpty_drainsDevices ((s.keyRoute_syncs event).empty p hp)
  · rw [List.mem_singleton.mp hp]
    rfl

/-- The state in which a key that has its route is delivered. -/
def holdKey (s : InputState) (event : HostKeyEvent) (route : KeyRoute) : InputState :=
  match route with
  | .PassiveGrabOwner _ _ true _ _ =>
    if event.pressed then { s with frozenKeyboardEvent := some event } else s
  | _ => s

theorem holdKey_xi1Frozen (s : InputState) (event : HostKeyEvent) (route : KeyRoute) :
    (s.holdKey event route).xi1Frozen = s.xi1Frozen := by
  unfold holdKey
  split
  · split <;> rfl
  · rfl

/-! ### Requests -/

theorem grabPointer_syncs (s : InputState) (grab : ActivePointerGrab) (confineTo : ResourceId)
    (pointerMode keyboardMode : UInt8) :
    Syncs s (s.handleGrabPointer grab confineTo pointerMode keyboardMode) := by
  apply Syncs.ite (Syncs.unchanged s)
  exact (checkGrabForSyncs_syncs _ _ _ _ _).of_same (SameQueues.of_eq rfl) (StaysFrozen.of_eq rfl)

theorem grabKeyboard_syncs (s : InputState) (client : ClientId) (grabWindow : ResourceId)
    (ownerEvents : Bool) (pointerMode keyboardMode : UInt8) :
    Syncs s (s.handleGrabKeyboard client grabWindow ownerEvents pointerMode keyboardMode) := by
  apply Syncs.ite (Syncs.unchanged s)
  exact (checkGrabForSyncs_syncs _ _ _ _ _).of_same (SameQueues.of_eq rfl) (StaysFrozen.of_eq rfl)

theorem grabDevice_syncs (s : InputState) (grab : Xi1ActiveGrab) : Syncs s (s.grabDevice grab) := by
  apply Syncs.ite (Syncs.unchanged s)
  exact (checkGrabForSyncs_syncs _ _ _ _ _).of_same (SameQueues.of_eq rfl) (StaysFrozen.of_eq rfl)

theorem activateButtonGrab_syncs (s : InputState) (grab : PassiveButtonGrab) :
    Syncs s (s.activateButtonGrab grab) :=
  (checkGrabForSyncs_syncs _ _ _ _ _).of_same (SameQueues.of_eq rfl) (StaysFrozen.of_eq rfl)

theorem deactivateCorePointerGrab_syncs (s : InputState) (client : ClientId) :
    Syncs s (s.deactivateCorePointerGrab client) :=
  (coreGrabBridgeRelease_syncs _ _ _).of_same (SameQueues.of_eq rfl) (StaysFrozen.of_eq rfl)

theorem ungrabPointer_syncs (s : InputState) (client : ClientId) :
    Syncs s (s.handleUngrabPointer client) :=
  Syncs.ite (s.deactivateCorePointerGrab_syncs client) (Syncs.unchanged s)

theorem deactivateCoreKeyboardGrab_syncs (s : InputState) (client : ClientId) :
    Syncs s (s.deactivateCoreKeyboardGrab client) := by
  refine Syncs.ite ?_ (Syncs.unchanged s)
  exact (coreGrabBridgeRelease_syncs _ _ _).of_same (SameQueues.of_eq rfl) (StaysFrozen.of_eq rfl)

theorem releaseButtonGrab_syncs (s : InputState) :
    Syncs s s.releasePassiveGrabOnButtonRelease := by
  refine Syncs.ite ?_ (Syncs.unchanged s)
  split
  · exact (coreGrabBridgeRelease_syncs _ _ _).of_same (SameQueues.of_eq rfl) (StaysFrozen.of_eq rfl)
  · exact Syncs.done (SameQueues.of_eq rfl) (StaysFrozen.of_eq rfl)

theorem ungrabDevice_syncs (s : InputState) (client : ClientId) (dev : UInt16) :
    Syncs s (s.ungrabDevice client dev) :=
  Syncs.ite (s.deactivateDeviceGrab_syncs dev) (Syncs.unchanged s)

/-! ### Thaws -/

theorem setSyncState_same (s : InputState) (client : ClientId) (dev : UInt16)
    (state : Xi1SyncState) : SameQueues s (s.setSyncState client dev state) := by
  refine SameQueues.updateFreeze _ fun x => ?_
  simp

theorem setBothSyncStates_same (s : InputState) (client : ClientId) (state : Xi1SyncState) :
    SameQueues s (s.setBothSyncStates client state) := by
  refine SameQueues.foldl (fun s dev => ?_) _ s
  split
  · exact s.setSyncState_same client dev state
  · exact SameQueues.refl s

theorem allowSyncStates_same (s : InputState) (client : ClientId) (mode : UInt8) :
    SameQueues s (s.allowSyncStates client mode) := by
  unfold allowSyncStates
  dsimp only
  split_ifs
  · exact s.setSyncState_same client _ _
  · exact s.setSyncState_same client _ _
  · exact s.setSyncState_same client _ _
  · exact s.setSyncState_same client _ _
  · exact s.setBothSyncStates_same client _
  · exact s.setBothSyncStates_same client _
  · exact SameQueues.refl s

theorem endReplayedPointerGrab_syncs (s : InputState) (client : ClientId)
    (pointerHasEvent : Bool) : Syncs s (s.endReplayedPointerGrab client pointerHasEvent) := by
  apply Syncs.ite
  · exact Syncs.done (SameQueues.of_eq rfl) (StaysFrozen.of_eq rfl)
  · exact Syncs.ite (s.deactivateCorePointerGrab_syncs client) (Syncs.unchanged s)

theorem endReplayedKeyboardGrab_syncs (s : InputState) (client : ClientId) (keyHeld : Bool) :
    Syncs s (s.endReplayedKeyboardGrab client keyHeld) := by
  unfold endReplayedKeyboardGrab
  split
  · apply Syncs.ite (Syncs.unchanged s)
    apply Syncs.ite
    · exact Syncs.done (SameQueues.of_eq rfl) (StaysFrozen.of_eq rfl)
    · exact Syncs.ite (s.deactivateCoreKeyboardGrab_syncs client) (Syncs.unchanged s)
  · exact Syncs.unchanged s

theorem allowEvents_syncs (s : InputState) (client : ClientId) (mode : UInt8)
    (pressHeld pointerHasEvent : Bool) :
    Syncs s (s.applyAllowEvents client mode pressHeld pointerHasEvent) := by
  have hplay : ∀ p ∈ [Pending.playPointer], p.isEmpty = true := by decide
  have hkey : ∀ held : Option HostKeyEvent, ∀ p ∈ held.toList.map Pending.replayKey,
      p.isEmpty = true := by
    intro held p hp
    obtain ⟨event, -, rfl⟩ := List.mem_map.mp hp
    rfl
  have hstates := s.allowSyncStates_same client mode
  apply Syncs.ite (Syncs.unchanged s)
  apply Syncs.ite
  · exact (endReplayedPointerGrab_syncs _ client pointerHasEvent).thenReplay hstates hplay
  · apply Syncs.ite
    · exact (Syncs.unchanged _).thenReplay hstates hplay
    · apply Syncs.ite
      · exact (endReplayedKeyboardGrab_syncs _ client _).thenReplay
          (hstates.trans (SameQueues.of_eq rfl)) (hkey _)
      · apply Syncs.ite
        · exact Syncs.replaying (hstates.trans (SameQueues.of_eq rfl))
        · have hheld := hstates.trans (SameQueues.of_eq
            (show { s.allowSyncStates client mode with frozenKeyboardEvent := none }.xi1Frozen = _
              from rfl))
          exact (Syncs.unchanged _).thenReplay hheld hplay

theorem allowDeviceStates_same (s : InputState) (client : ClientId) (devs : List UInt16)
    (state : Xi1SyncState) : SameQueues s (s.allowDeviceStates client devs state) := by
  refine SameQueues.foldl (fun s dev => ?_) _ s
  dsimp only
  apply SameQueues.andUpdate
  · split
    · exact SameQueues.updateFreeze _ fun _ => ⟨rfl, rfl⟩
    · exact SameQueues.refl s
  · intro x
    simp

theorem replayThisDevice_syncs (s : InputState) (client : ClientId) (dev : UInt16)
    (thisSynced : Bool) : Syncs s (s.replayThisDevice client dev thisSynced) := by
  have hrest : ∀ (stored : Option Xi1QueuedEvent) (floor : Option ResourceId),
      ∀ p ∈ stored.toList.map fun q => Pending.routeStored { q with replayFloor := floor },
      p.isEmpty = true := by
    intro stored floor p hp
    obtain ⟨event, -, rfl⟩ := List.mem_map.mp hp
    rfl
  have hend : ∀ s', SameQueues s s' → ∀ later : List Pending, (∀ p ∈ later, p.isEmpty = true) →
      Syncs s ((if s'.server.xi1ActiveGrabs.contains dev then s'.xi1DeactivateDeviceGrab dev
        else .done (s'.updateFreeze dev fun f => { f with state := .Thawed })).andThen
          (later ++ computeFreezes)) := by
    intro s' hsame later hlater
    split
    · exact (s'.deactivateDeviceGrab_syncs dev).thenReplay hsame hlater
    · exact (Syncs.unchanged _).thenReplay (hsame.andUpdate _ fun _ => ⟨rfl, rfl⟩) hlater
  refine Syncs.ite ?_ (Syncs.unchanged s)
  have hsame : SameQueues s ((if thisSynced then
      s.updateFreeze dev fun f => { f with other := none } else s).updateFreeze dev fun f => { f with stored := none }) := by
    apply SameQueues.andUpdate
    · apply SameQueues.andUpdate_if (SameQueues.refl s)
      exact fun _ => ⟨rfl, rfl⟩
    · exact fun _ => ⟨rfl, rfl⟩
  exact hend _ hsame _ (hrest _ _)

theorem allowDeviceEvents_syncs (s : InputState) (client : ClientId) (dev : UInt16)
    (mode : UInt8) : Syncs s (s.allowDeviceEvents client dev mode) := by
  apply Syncs.ite (Syncs.unchanged s)
  apply Syncs.ite
  · apply Syncs.replaying
    apply SameQueues.andUpdate_if
    · apply SameQueues.andUpdate_if (SameQueues.refl s)
      exact fun _ => ⟨rfl, rfl⟩
    · exact fun _ => ⟨rfl, rfl⟩
  · apply Syncs.ite
    · refine Syncs.ite (Syncs.replaying ?_) (Syncs.unchanged s)
      apply SameQueues.andUpdate_if
      · apply SameQueues.updateFreeze
        exact fun _ => ⟨rfl, rfl⟩
      · exact fun _ => ⟨rfl, rfl⟩
    · apply Syncs.ite (s.replayThisDevice_syncs client dev _)
      apply Syncs.ite (Syncs.unchanged s)
      exact Syncs.ite (Syncs.replaying (s.allowDeviceStates_same client _ _))
        (Syncs.replaying (s.allowDeviceStates_same client _ _))

end InputState

/-- Most actions change grabs and freezes only. -/
theorem perform_syncs (s : InputState) (action : InputAction) :
    (∃ event, action = .keyEvent event) ∨ (∃ q, action = .deviceEvent q) ∨
      Syncs s (s.perform action) := by
  cases action with
  | keyEvent event => exact .inl ⟨event, rfl⟩
  | deviceEvent q => exact .inr (.inl ⟨q, rfl⟩)
  | grabPointer => exact .inr (.inr (s.grabPointer_syncs ..))
  | grabKeyboard => exact .inr (.inr (s.grabKeyboard_syncs ..))
  | grabDevice grab => exact .inr (.inr (s.grabDevice_syncs grab))
  | activateButtonGrab grab => exact .inr (.inr (s.activateButtonGrab_syncs grab))
  | releaseButtonGrab => exact .inr (.inr s.releaseButtonGrab_syncs)
  | ungrabPointer client => exact .inr (.inr (s.ungrabPointer_syncs client))
  | ungrabKeyboard client => exact .inr (.inr (s.deactivateCoreKeyboardGrab_syncs client))
  | ungrabDevice client dev => exact .inr (.inr (s.ungrabDevice_syncs client dev))
  | allowEvents => exact .inr (.inr (s.allowEvents_syncs ..))
  | allowDeviceEvents client dev mode =>
    exact .inr (.inr (s.allowDeviceEvents_syncs client dev mode))
  | thawDevice dev => exact .inr (.inr (s.thawDevice_syncs dev))
  | change server deviceFocus pointerWindow =>
    exact .inr (.inr (Syncs.done (SameQueues.of_eq rfl) (StaysFrozen.of_eq rfl)))

/-! ## What is withheld -/

/-- Only the keyboard withholds keys, a device withholds its own events, and
what a thawed device withholds is about to be replayed. -/
structure Orderly (s : InputState) (pending : List Pending) : Prop where
  keyboard : ∀ dev, dev ≠ DEVICEID_SLAVE_KEYBOARD → (s.xi1Frozen dev).coreKeyQueue = []
  own : ∀ dev, ∀ q ∈ (s.xi1Frozen dev).queue, q.deviceid = dev
  drained : ∀ dev ∈ inputDevices, s.frozen dev = false →
    .drain dev ∈ pending ∨ (s.xi1Frozen dev).queue = [] ∧ (s.xi1Frozen dev).coreKeyQueue = []
  devices : ∀ p ∈ pending, p.drainsDevices = true

namespace Orderly

variable {pending pending' : List Pending} {q : Xi1QueuedEvent} {event : HostKeyEvent}

/-- Nothing withheld changes, and a device that is thawed will be drained. -/
theorem same (h : Orderly s pending) (hq : SameQueues s s')
    (hreplays : ∀ dev ∈ inputDevices, s.frozen dev = true → s'.frozen dev = false →
      .drain dev ∈ pending')
    (hpending : ∀ dev ∈ inputDevices, s.frozen dev = false → .drain dev ∈ pending →
      .drain dev ∈ pending' ∨ (s.xi1Frozen dev).queue = [] ∧
        (s.xi1Frozen dev).coreKeyQueue = [])
    (hdevices : ∀ p ∈ pending', p.drainsDevices = true) : Orderly s' pending' where
  keyboard := fun dev hdev => (hq dev).2.trans (h.keyboard dev hdev)
  own := fun dev q hq' => h.own dev q ((hq dev).1 ▸ hq')
  drained := by
    intro dev hdev hs'
    rw [(hq dev).1, (hq dev).2]
    cases hs : s.frozen dev with
    | true => exact .inl (hreplays dev hdev hs hs')
    | false => exact (h.drained dev hdev hs).elim (hpending dev hdev hs) .inr
  devices := hdevices

/-- A call that withholds nothing more. -/
theorem after (h : Orderly s pending) (hq : SameQueues s o.state) (hreplays : Replays s o)
    (hdevices : ∀ p ∈ o.rest, p.drainsDevices = true) : Orderly o.state (o.rest ++ pending) :=
  h.same hq (fun dev hdev hs hs' => List.mem_append_left _ (hreplays dev hdev hs hs'))
    (fun _ _ _ hp => .inl (List.mem_append_right _ hp))
    fun p hp => (List.mem_append.mp hp).elim (hdevices p) (h.devices p)

/-- The queues of one device change: they may be left alone if it is frozen, and else
it has to be drained. -/
theorem update (h : Orderly s pending) (f : Xi1Freeze → Xi1Freeze)
    (hkeys : dev ≠ DEVICEID_SLAVE_KEYBOARD → (f (s.xi1Frozen dev)).coreKeyQueue = [])
    (hown : ∀ q ∈ (f (s.xi1Frozen dev)).queue, q.deviceid = dev)
    (hdrain : (f (s.xi1Frozen dev)).frozen = false → .drain dev ∈ pending) :
    Orderly (s.updateFreeze dev f) pending where
  keyboard := by
    intro d hd
    rcases eq_or_ne d dev with rfl | hne
    · rw [InputState.updateFreeze_self]
      exact hkeys hd
    · rw [InputState.updateFreeze_of_ne hne]
      exact h.keyboard d hd
  own := by
    intro d q hq
    rcases eq_or_ne d dev with rfl | hne
    · rw [InputState.updateFreeze_self] at hq
      exact hown q hq
    · rw [InputState.updateFreeze_of_ne hne] at hq
      exact h.own d q hq
  drained := by
    intro d hd hthawed
    rcases eq_or_ne d dev with rfl | hne
    · rw [InputState.frozen, InputState.updateFreeze_self] at hthawed
      exact .inl (hdrain hthawed)
    · rw [InputState.frozen, InputState.updateFreeze_of_ne hne] at hthawed
      rw [InputState.updateFreeze_of_ne hne]
      exact h.drained d hd hthawed
  devices := h.devices

/-- A frozen device withholds one more event. -/
theorem withhold (h : Orderly s pending) (f : Xi1Freeze → Xi1Freeze)
    (hstays : (f (s.xi1Frozen dev)).frozen = true)
    (hkeys : dev ≠ DEVICEID_SLAVE_KEYBOARD → (f (s.xi1Frozen dev)).coreKeyQueue = [])
    (hown : ∀ q ∈ (f (s.xi1Frozen dev)).queue, q.deviceid = dev) :
    Orderly (s.updateFreeze dev f) pending := by
  refine h.update f hkeys hown fun hthawed => ?_
  rw [hstays] at hthawed
  cases hthawed

/-- A device that is being drained withholds one event less. -/
theorem takeUp (h : Orderly s pending) (f : Xi1Freeze → Xi1Freeze) (hdrain : .drain dev ∈ pending)
    (hkeys : (f (s.xi1Frozen dev)).coreKeyQueue <:+ (s.xi1Frozen dev).coreKeyQueue)
    (hown : (f (s.xi1Frozen dev)).queue <:+ (s.xi1Frozen dev).queue) :
    Orderly (s.updateFreeze dev f) pending := by
  refine h.update f (fun hd => ?_) (fun q hq => h.own dev q (hown.subset hq)) fun _ => hdrain
  rw [h.keyboard dev hd] at hkeys
  exact List.suffix_nil.mp hkeys

theorem tail {p : Pending} (h : Orderly s (p :: pending)) (hp : ∀ dev, p ≠ .drain dev) :
    Orderly s pending :=
  h.same (SameQueues.refl s) (fun _ _ hs hs' => (nomatch hs.symm.trans hs'))
    (fun dev _ _ hmem => .inl ((List.mem_cons.mp hmem).resolve_left fun heq => hp dev heq.symm))
    fun p hmem => h.devices p (List.mem_cons_of_mem _ hmem)

theorem of_eq (h : Orderly s pending) (heq : s'.xi1Frozen = s.xi1Frozen) : Orderly s' pending where
  keyboard := heq ▸ h.keyboard
  own := heq ▸ h.own
  drained := by
    intro d hd hs
    rw [InputState.frozen, heq] at hs
    rw [heq]
    exact h.drained d hd hs
  devices := h.devices

theorem arriveDevice (h : Orderly s pending) (q : Xi1QueuedEvent) :
    Orderly (s.arriveDevice q).state ((s.arriveDevice q).rest ++ pending) := by
  cases hs : s.frozen q.deviceid with
  | true =>
    rw [InputState.arriveDevice, InputState.routeDeviceEvent_frozen hs]
    apply h.withhold fun f => { f with queue := f.queue ++ [q] }
    · exact hs
    · exact h.keyboard _
    · intro q' hq'
      rcases List.mem_append.mp hq' with hq' | hq'
      · exact h.own _ q' hq'
      · rw [List.mem_singleton.mp hq']
  | false =>
    have hroutes := InputState.routeDeviceEvent_thawed hs
    exact h.after hroutes.queues hroutes.replays hroutes.passed.drainsDevices

theorem syncs (h : Orderly s pending) (hsyncs : Syncs s o) : Orderly o.state (o.rest ++ pending) :=
  h.after hsyncs.queues hsyncs.replays fun p hp => Pending.isEmpty_drainsDevices (hsyncs.empty p hp)

theorem keyEventFanout (h : Orderly s pending) (event : HostKeyEvent) :
    Orderly (s.keyEventFanout event).state ((s.keyEventFanout event).rest ++ pending) := by
  unfold InputState.keyEventFanout
  split
  · rename_i hs
    apply h.withhold fun f => { f with coreKeyQueue := f.coreKeyQueue ++ [event] }
    · exact hs
    · exact fun hne => absurd rfl hne
    · exact h.own _
  · exact h.after (s.deliverRoutedKey_queues event) (s.deliverRoutedKey_replays event)
      (s.deliverRoutedKey_drainsDevices event)

/-- A round of the loop over the queues of a device ends it, or replays the first key
or, when there is none, the first event of the device. -/
theorem drain_cases (h : Orderly s (.drain dev :: pending)) :
    (s.drain dev = .done s ∧ (s.frozen dev = true ∨
      (s.xi1Frozen dev).queue = [] ∧ (s.xi1Frozen dev).coreKeyQueue = [])) ∨
    (∃ event keys, s.frozen dev = false ∧ (s.xi1Frozen dev).coreKeyQueue = event :: keys ∧
      s.drain dev = ((s.updateFreeze dev fun f =>
        { f with coreKeyQueue := keys }).deliverRoutedKey event).andThen [.drain dev]) ∨
    ∃ q queue, s.frozen dev = false ∧ (s.xi1Frozen dev).coreKeyQueue = [] ∧
      (s.xi1Frozen dev).queue = q :: queue ∧ q.deviceid = dev ∧
      (s.updateFreeze dev fun f => { f with queue := queue }).frozen q.deviceid = false ∧
      s.drain dev = ((s.updateFreeze dev fun f =>
        { f with queue := queue }).xi1RouteDeviceEvent q).andThen [.drain dev] := by
  unfold InputState.drain
  cases hfrozen : s.frozen dev with
  | true => exact .inl ⟨rfl, .inl rfl⟩
  | false =>
    cases hkeys : (s.xi1Frozen dev).coreKeyQueue with
    | cons event keys => exact .inr (.inl ⟨event, keys, rfl, rfl, rfl⟩)
    | nil =>
      cases hqueue : (s.xi1Frozen dev).queue with
      | nil => exact .inl ⟨rfl, .inr ⟨rfl, rfl⟩⟩
      | cons q queue =>
        have hown : q.deviceid = dev := h.own dev q (hqueue ▸ List.mem_cons_self)
        refine .inr (.inr ⟨q, queue, rfl, rfl, rfl, hown, ?_, rfl⟩)
        rw [InputState.frozen, hown, InputState.updateFreeze_self]
        exact hfrozen

theorem drain (h : Orderly s (.drain dev :: pending)) :
    Orderly (s.drain dev).state ((s.drain dev).rest ++ pending) := by
  have hmem : ∀ d, d ≠ dev → .drain d ∈ Pending.drain dev :: pending → .drain d ∈ pending :=
    fun d hd hp => (List.mem_cons.mp hp).resolve_left fun heq => hd (Pending.drain.inj heq)
  have hdevices : ∀ p ∈ pending, p.drainsDevices = true :=
    fun p hp => h.devices p (List.mem_cons_of_mem _ hp)
  -- the loop goes on behind what the event leaves
  have hmove : ∀ (rest : List Pending) (s' : InputState),
      Orderly s' (rest ++ .drain dev :: pending) →
        Orderly s' (rest ++ [.drain dev] ++ pending) := by
    intro rest s' h'
    rwa [List.append_assoc, List.singleton_append]
  rcases h.drain_cases with ⟨heq, hover⟩ | ⟨event, keys, -, hkeys, heq⟩ |
    ⟨q, queue, -, -, hqueue, -, hs, heq⟩
  · rw [heq]
    refine h.same (SameQueues.refl s) (fun _ _ hs hs' => (nomatch hs.symm.trans hs'))
      (fun d _ hs hp => ?_) hdevices
    rcases eq_or_ne d dev with rfl | hd
    · exact .inr (hover.resolve_left fun hfrozen => nomatch hs.symm.trans hfrozen)
    · exact .inl (hmem d hd hp)
  · rw [heq]
    have htaken := h.takeUp (fun f => { f with coreKeyQueue := keys }) List.mem_cons_self
      (hkeys ▸ List.suffix_cons event keys) List.suffix_rfl
    apply hmove
    exact htaken.after (InputState.deliverRoutedKey_queues _ event)
      (InputState.deliverRoutedKey_replays _ event)
      (InputState.deliverRoutedKey_drainsDevices _ event)
  · rw [heq]
    have htaken := h.takeUp (fun f => { f with queue := queue }) List.mem_cons_self
      List.suffix_rfl (hqueue ▸ List.suffix_cons q queue)
    have hroutes := InputState.routeDeviceEvent_thawed hs
    apply hmove
    exact htaken.after hroutes.queues hroutes.replays hroutes.passed.drainsDevices

/-- What was left of a call is done. -/
theorem resume {p : Pending} (h : Orderly s (p :: pending)) :
    Orderly (s.resume p).state ((s.resume p).rest ++ pending) := by
  cases p with
  | drain dev => exact h.drain
  | deliverRouted event route =>
    have heq := s.holdKey_xi1Frozen event route
    exact ((h.tail nofun).of_eq heq).arriveDevice ((s.holdKey event route).xi1FocusedKey event)
  | deliverActivating q g =>
    exact (h.tail nofun).after (s.deliverActivating_same q g)
      (fun dev _ hs hs' => (nomatch hs'.symm.trans (s.deliverActivating_staysFrozen q g dev hs)))
      fun _ hp => absurd hp List.not_mem_nil
  | routeStored q => exact (h.tail nofun).arriveDevice q
  | replayKey event =>
    show Orderly (s.replayFrozenKeyToFocus event).state
      ((s.replayFrozenKeyToFocus event).rest ++ pending)
    unfold InputState.replayFrozenKeyToFocus
    split
    · exact h.tail nofun
    · exact (h.tail nofun).arriveDevice (s.xi1FocusedKey event)
  | playPointer => exact h.tail nofun

theorem perform (h : Orderly s pending) (action : InputAction) :
    Orderly (s.perform action).state ((s.perform action).rest ++ pending) := by
  rcases perform_syncs s action with ⟨event, rfl⟩ | ⟨q, rfl⟩ | hsyncs
  · exact h.keyEventFanout event
  · exact h.arriveDevice q
  · exact h.syncs hsyncs

end Orderly

end X12

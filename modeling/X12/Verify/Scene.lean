import X12.Core.Scene
import X12.Lib.Runs
import X12.Verify.Scanout
import Mathlib.Logic.Relation

/-! # The moves of an output

A tick, a completed flip and a suspend are sequences of moves, of which each settles the
buffer and the slot of one frame. What holds of the buffers and the slots is kept by every
move, and no assertion of the code fails. -/

namespace X12

/-- A buffer between two moves. -/
def BoState.Rests (s : BoState) : Prop :=
  s.inFenceFd = none ∧ match s.phase with
    | .Free | .Recording => s.releaseFenceFd = none
    | .Pending | .OnScreen => True
    | .Submitted | .Retiring => False

namespace Scanout

open ScanoutPool Slots

/-! ## Moves -/

section Moves

variable (o : Scanout) (i slot : Nat)

def takeSlot : Scanout :=
  o.modifyScene fun s => { s with poolRing := ⟨s.poolRing.inUse.set slot true⟩ }

def freeSlot : Scanout :=
  (o.modifyScene fun s => { s with poolRing := ⟨s.poolRing.inUse.set slot false⟩ }).emit
    [.resetDescriptorPool slot]

/-- The frame of a rejected flip is done with. -/
def recycled (failed : FailedSubmitBo) (rest : List FailedSubmitBo) : Scanout :=
  ((o.setPool (o.pool.recycleFailedSubmitBo failed.boIdx)).modifyScene fun s =>
    { s with failedSubmitBos := rest }).freeSlot failed.poolSlot

def released (rest : List (Nat × FenceTicket)) : Scanout :=
  (o.modifyScene fun s => { s with pendingPoolReleases := rest }).freeSlot slot

/-- A frame with buffer `i` gets a ticket. -/
def begun (invalid : Bool) (s : BoState) : Scanout :=
  let pool := if invalid then o.pool.invalidateBo i else o.pool
  { (o.takeSlot slot).setPool (pool.setState i s) with nextTicket := o.nextTicket + 1 }

/-- The frame has not come as far as the GPU. -/
def aborted (invalid : Bool) (damage : RegionSet) (failedAt : Nat) : Scanout :=
  ((o.begun i slot invalid .default).foldRepaintForward damage failedAt).freeSlot slot

/-- The GPU renders the frame, but KMS does not take it. -/
def rejected (invalid : Bool) (others : List SceneEvent) (damage : RegionSet) (failedAt : Nat) :
    Scanout :=
  (((o.begun i slot invalid ⟨.Recording, none, none⟩).emit
    (.queueSubmit2 i slot o.nextTicket :: others)).foldRepaintForward damage failedAt).modifyScene
    fun s => { s with failedSubmitBos := s.failedSubmitBos ++ [⟨i, slot, o.nextTicket⟩] }

def committed (others : List SceneEvent) (releaseFenceFd : Option Int) (built : BuiltScene) :
    Scanout :=
  ((o.begun i slot false ⟨.Pending, none, releaseFenceFd⟩).emit
    (.queueSubmit2 i slot o.nextTicket :: others)).queueAck slot
    (pendingAck o.scene built i o.nextTicket) built o.nextTicket

def arrived (ack : PendingAck) (pool : ScanoutPool) (closed : List Int) : Scanout :=
  ((o.setPool pool).emit (closed.map .closed)).retireAck ack.boIdx ack []

/-- The slot of the frame on screen is to be released. -/
def deferred (ack : PendingAck) (ticket : FenceTicket) (pool : ScanoutPool) (closed : List Int) :
    Scanout :=
  (o.arrived ack pool closed).modifyScene fun s => { s with
    poolSlots := []
    pendingPoolReleases := s.pendingPoolReleases ++ [(slot, ticket)] }

/-- The slot of the frame on screen is released, or its release is deferred. -/
def landed (ack : PendingAck) (ticket : FenceTicket) (pool : ScanoutPool) (closed : List Int) :
    Scanout :=
  if o.pollSignaled ticket then
    ((o.arrived ack pool closed).modifyScene fun s => { s with poolSlots := [] }).freeSlot slot
  else o.deferred slot ack ticket pool closed

def flipped (ack : PendingAck) (ticket : FenceTicket) (pool : ScanoutPool) (closed : List Int)
    (cursor : CursorAnswers) : Scanout :=
  let o := o.landed slot ack ticket pool closed
  (o.setPool (o.pool.commitBoPresent ack.boIdx ack.generation)).applyCursor ack.cursorTransition
    cursor

/-- The frames under way are dropped, with the slots whose release was deferred. -/
def suspended (cursor : CursorAnswers) (active : Bool) : Scanout :=
  { ((o.setPool o.pool.resetForSuspend.1).modifyScene fun s => { s with
      poolRing := ⟨s.poolSlots.foldl (fun inUse slot => inUse.set slot false) s.poolRing.inUse⟩
      poolSlots := []
      pendingAcks := []
      pendingPoolReleases := []
      lastFrameCursorMode := .Hidden
      cursorPrevPos := none
      lastPresentCursorRect := none
      lastPresentCursorVersion := none }).emit (.suspend ::
        (o.scene.poolSlots.map .resetDescriptorPool ++
          (.cursorHide cursor.setCursor2 :: o.pool.resetForSuspend.2.map .closed))) with
    active := active
    planeVisible := o.planeVisible && !cursor.setCursor2
    signalled := List.range o.nextTicket ++ o.signalled }

/-- The output is lit up, with the buffer that is in `modesetBo`. -/
def lit (ok active : Bool) : Scanout :=
  { o with active := active }.emit (o.pool.modesetBo.toList.map fun i => .modeset i ok)

end Moves

/-- A frame that KMS has accepted and that is not on screen yet. -/
structure Flight where
  ack : PendingAck
  slot : Nat
  ticket : FenceTicket

/-- What a tick has found when it composes a frame. -/
structure Ready (o : Scanout) (i slot : Nat) : Prop where
  noAcks : o.scene.pendingAcks = []
  retired : ∀ failed ∈ o.scene.failedSubmitBos, failed.ticket ∉ o.signalled
  free : o.pool.phaseAt i = some .Free
  slot : o.scene.poolRing.inUse[slot]? = some false

def openedFds (trace : List SceneEvent) : List Int :=
  trace.filterMap fun e => match e with
    | .opened fd => some fd
    | _ => none

def closedFds (trace : List SceneEvent) : List Int :=
  trace.filterMap fun e => match e with
    | .closed fd => some fd
    | _ => none

/-- Events in which only file descriptors are passed, of which those in `fds` stay open. -/
structure Passes (events : List SceneEvent) (fds : List Int) : Prop where
  quiet : ∀ e ∈ events, (∃ fd, e = .opened fd) ∨ (∃ fd, e = .closed fd) ∨ (∃ i, e = .rejected i) ∨
    ∃ ids t, e = .touchRenderFence ids t
  balance : (openedFds events).Perm (closedFds events ++ fds)

inductive Move : Scanout → Scanout → Prop where
  | signal (o t) : Move o (o.signal t)
  | damage (o r) : Move o (o.markSceneStructureDamageRect r)
  | recycle {o older failed newer} (hqueue : o.scene.failedSubmitBos = older ++ failed :: newer)
      (hticket : failed.ticket ∈ o.signalled) : Move o (o.recycled failed (older ++ newer))
  | release {o older slot ticket newer}
      (hqueue : o.scene.pendingPoolReleases = older ++ (slot, ticket) :: newer)
      (hticket : ticket ∈ o.signalled) : Move o (o.released slot (older ++ newer))
  | strand {o i slot} (h : Ready o i slot) : Move o (o.takeSlot slot)
  | abort {o i slot} (h : Ready o i slot) (invalid damage failedAt) :
      Move o (o.aborted i slot invalid damage failedAt)
  | reject {o i slot} (h : Ready o i slot) (invalid damage failedAt) {others}
      (hothers : Passes others []) : Move o (o.rejected i slot invalid others damage failedAt)
  | commit {o i slot} (h : Ready o i slot) (built) {others fd} (hothers : Passes others fd.toList) :
      Move o (o.committed i slot others fd built)
  | flip {o ack slot ticket s prev} (cursor) (hacks : o.scene.pendingAcks = [ack])
      (hslots : o.scene.poolSlots = [slot]) (hticket : ack.ticket = some ticket)
      (hbo : o.pool.stateAt ack.boIdx = some s) (hphase : s.phase = .Pending)
      (hprev : ∀ j st, prev = some (j, st) → o.pool.stateAt j = some st ∧ st.phase = .OnScreen)
      (hlast : prev = none → ∀ j, o.pool.phaseAt j ≠ some .OnScreen) :
      Move o (o.flipped slot ack ticket (o.pool.flipped ack.boIdx s prev)
        (prev.bind (·.2.releaseFenceFd)).toList cursor)
  | suspend (o cursor active) : Move o (o.suspended cursor active)
  | light (o ok active) : Move o (o.lit ok active)
  | rebind {o} (cursor : CursorAnswers) (h : o.planeVisible = true) :
      Move o (o.emit [.cursorRebind cursor.shown])

/-! ## Buffers and slots -/

/-- The slots of the frames that have one. -/
def heldSlots (o : Scanout) (flight : Option Flight) : List Nat :=
  (flight.map (·.slot)).toList ++
    (o.scene.pendingPoolReleases.map (·.1) ++ o.scene.failedSubmitBos.map (·.poolSlot))

/-- At most one frame is under way to the screen. The slots in `lost` are never released. -/
structure Inv (o : Scanout) (flight : Option Flight) (lost : List Nat) : Prop where
  acks : o.scene.pendingAcks = (flight.map (·.ack)).toList
  slots : o.scene.poolSlots = (flight.map (·.slot)).toList
  ticket : ∀ f, flight = some f → f.ack.ticket = some f.ticket
  pending : ∀ i, o.pool.phaseAt i = some .Pending ↔ ∃ f, flight = some f ∧ f.ack.boIdx = i
  onScreen : ∀ i j, o.pool.phaseAt i = some .OnScreen → o.pool.phaseAt j = some .OnScreen → i = j
  recording : ∀ i, o.pool.phaseAt i = some .Recording →
    ∃ failed ∈ o.scene.failedSubmitBos, failed.boIdx = i
  failed : ∀ failed ∈ o.scene.failedSubmitBos, o.pool.phaseAt failed.boIdx = some .Recording ∨
    o.pool.phaseAt failed.boIdx = some .Free ∧ failed.ticket ∈ o.signalled
  once : (o.scene.failedSubmitBos.map (·.boIdx)).Nodup
  numbered : ∀ failed ∈ o.scene.failedSubmitBos, failed.ticket < o.nextTicket
  rests : ∀ i s, o.pool.stateAt i = some s → s.Rests
  taken : Taken o.scene.poolRing.inUse (lost ++ o.heldSlots flight)
  issued : ∀ t ∈ o.signalled, t < o.nextTicket

variable {o o' : Scanout} {flight : Option Flight} {lost : List Nat} {i j slot : Nat}
  {t : FenceTicket}

namespace Ready

variable {s : BoState} (invalid : Bool)

theorem stateAt_begun (hready : Ready o i slot) :
    (o.begun i slot invalid s).pool.stateAt j = if j = i then some s else o.pool.stateAt j := by
  obtain ⟨st, hst, -⟩ := exists_of_phaseAt hready.free
  cases invalid with
  | true => exact stateAt_setState (p := o.pool.invalidateBo i) hst
  | false => exact stateAt_setState hst

theorem phaseAt_begun (hready : Ready o i slot) :
    (o.begun i slot invalid s).pool.phaseAt j =
      if j = i then some s.phase else o.pool.phaseAt j := by
  rw [phaseAt, hready.stateAt_begun invalid]
  split <;> rfl

/-- What is not free has not become free, and the other way round. -/
theorem phaseAt_begun_iff (hready : Ready o i slot) {phase : BoPhase} (hfree : phase ≠ .Free)
    (hs : phase ≠ s.phase) :
    (o.begun i slot invalid s).pool.phaseAt j = some phase ↔ o.pool.phaseAt j = some phase := by
  rw [hready.phaseAt_begun invalid]
  split
  · next heq =>
    rw [heq, hready.free]
    exact iff_of_false (fun heq => hs (Option.some.inj heq).symm)
      fun heq => hfree (Option.some.inj heq).symm
  · exact Iff.rfl

theorem rests_begun (hready : Ready o i slot) (hs : s.Rests)
    (hrests : ∀ j st, o.pool.stateAt j = some st → st.Rests) (j : Nat) (st : BoState)
    (hst : (o.begun i slot invalid s).pool.stateAt j = some st) : st.Rests := by
  rw [hready.stateAt_begun invalid] at hst
  split at hst
  · cases hst
    exact hs
  · exact hrests j st hst

end Ready

namespace Inv

variable (h : Inv o flight lost)
include h

theorem signal (t : FenceTicket) : Inv (o.signal t) flight lost := by
  unfold Scanout.signal
  split
  · next hissued =>
    exact { h with
      failed := fun failed hmem => (h.failed failed hmem).imp_right
        fun hfree => ⟨hfree.1, List.mem_cons_of_mem _ hfree.2⟩
      issued := List.forall_mem_cons.mpr ⟨hissued, h.issued⟩ }
  · exact h

theorem damage (r : Rect2D) : Inv (o.markSceneStructureDamageRect r) flight lost :=
  { h with }

theorem light (ok active : Bool) : Inv (o.lit ok active) flight lost :=
  { h with }

theorem emit (events : List SceneEvent) : Inv (o.emit events) flight lost :=
  { h with }

theorem rebind (cursor : CursorAnswers) : Inv (o.rebindVisibleCrtcs cursor) flight lost := by
  unfold rebindVisibleCrtcs
  split
  · exact h.emit _
  · exact h

/-- The buffers of rejected frames whose fences have not signalled are still theirs. -/
theorem recording_of_not_signalled {failed : FailedSubmitBo}
    (hmem : failed ∈ o.scene.failedSubmitBos) (hticket : failed.ticket ∉ o.signalled) :
    o.pool.phaseAt failed.boIdx = some .Recording :=
  (h.failed failed hmem).resolve_right fun hfree => hticket hfree.2

theorem recycle {older newer : List FailedSubmitBo} {failed : FailedSubmitBo}
    (hqueue : o.scene.failedSubmitBos = older ++ failed :: newer) :
    Inv (o.recycled failed (older ++ newer)) flight lost := by
  have hmem : failed ∈ o.scene.failedSubmitBos :=
    hqueue ▸ List.mem_append_right _ List.mem_cons_self
  have hsub : ∀ other ∈ older ++ newer, other ∈ o.scene.failedSubmitBos := by
    intro other hother
    rw [hqueue]
    exact (List.Sublist.append_left (List.sublist_cons_self ..) _).subset hother
  have honce := h.once
  rw [hqueue, List.map_append, List.map_cons] at honce
  obtain ⟨hnot, hnodup⟩ := List.nodup_cons.mp (List.perm_middle.nodup_iff.mp honce)
  rw [← List.map_append] at hnot hnodup
  have hne : ∀ other ∈ older ++ newer, other.boIdx ≠ failed.boIdx :=
    fun other hother heq => hnot (heq ▸ List.mem_map_of_mem hother)
  obtain ⟨phase, hphase, hnotPending⟩ : ∃ phase, o.pool.phaseAt failed.boIdx = some phase ∧
      phase ≠ .Pending ∧ phase ≠ .OnScreen := by
    rcases h.failed failed hmem with hrec | ⟨hfree, -⟩
    · exact ⟨_, hrec, BoPhase.noConfusion, BoPhase.noConfusion⟩
    · exact ⟨_, hfree, BoPhase.noConfusion, BoPhase.noConfusion⟩
  obtain ⟨s, hs, -⟩ := exists_of_phaseAt hphase
  have hat : ∀ j, (o.pool.recycleFailedSubmitBo failed.boIdx).phaseAt j =
      if j = failed.boIdx then some .Free else o.pool.phaseAt j := fun j => phaseAt_setState hs
  refine { h with pending := ?_, onScreen := ?_, recording := ?_, failed := ?_, once := ?_,
                  numbered := fun other hother => h.numbered other (hsub other hother)
                  rests := ?_, taken := ?_ }
  · intro i
    refine Iff.trans ?_ (h.pending i)
    change (o.pool.recycleFailedSubmitBo failed.boIdx).phaseAt i = _ ↔ _
    rw [hat]
    split
    · next heq =>
      rw [heq, hphase]
      refine iff_of_false (fun heq => by cases heq) fun heq => hnotPending.1 (Option.some.inj heq)
    · exact Iff.rfl
  · intro i j hi hj
    change (o.pool.recycleFailedSubmitBo failed.boIdx).phaseAt i = _ at hi
    change (o.pool.recycleFailedSubmitBo failed.boIdx).phaseAt j = _ at hj
    rw [hat] at hi hj
    split at hi
    · cases hi
    · split at hj
      · cases hj
      · exact h.onScreen i j hi hj
  · intro i hi
    change (o.pool.recycleFailedSubmitBo failed.boIdx).phaseAt i = _ at hi
    rw [hat] at hi
    split at hi
    · cases hi
    · next hne =>
      obtain ⟨other, hother, rfl⟩ := h.recording i hi
      refine ⟨other, ?_, rfl⟩
      rw [hqueue] at hother
      rcases List.mem_append.mp hother with hold | hnew
      · exact List.mem_append_left _ hold
      · refine List.mem_append_right _ ((List.mem_cons.mp hnew).resolve_left ?_)
        rintro rfl
        exact hne rfl
  · intro other hother
    change (o.pool.recycleFailedSubmitBo failed.boIdx).phaseAt other.boIdx = _ ∨
      (o.pool.recycleFailedSubmitBo failed.boIdx).phaseAt other.boIdx = _ ∧ _
    rw [hat, if_neg (hne other hother)]
    exact h.failed other (hsub other hother)
  · exact hnodup
  · intro i st hst
    rw [show (o.recycled failed (older ++ newer)).pool.stateAt i = _ from
      stateAt_setState hs] at hst
    split at hst
    · cases hst
      exact ⟨rfl, rfl⟩
    · exact h.rests i st hst
  · have htaken := h.taken
    rw [heldSlots, hqueue, List.map_append, List.map_cons] at htaken
    refine (htaken.perm ?_).giveBack
    change List.Perm _ (_ :: (_ ++ (_ ++ (_ ++ List.map _ (older ++ newer)))))
    rw [List.map_append]
    simp only [← List.append_assoc]
    exact List.perm_middle

theorem release {older newer : List (Nat × FenceTicket)} {ticket : FenceTicket}
    (hqueue : o.scene.pendingPoolReleases = older ++ (slot, ticket) :: newer) :
    Inv (o.released slot (older ++ newer)) flight lost := by
  refine { h with taken := ?_ }
  have htaken := h.taken
  rw [heldSlots, hqueue, List.map_append, List.map_cons, List.append_assoc, List.cons_append]
    at htaken
  refine (htaken.perm ?_).giveBack
  change List.Perm _ (_ :: (_ ++ (_ ++ (List.map _ (older ++ newer) ++ _))))
  rw [List.map_append, List.append_assoc]
  refine ((List.perm_middle.append_left _).append_left lost).trans ?_
  exact (List.perm_middle.append_left lost).trans List.perm_middle

theorem strand (hready : Ready o i slot) : Inv (o.takeSlot slot) flight (slot :: lost) :=
  { h with taken := h.taken.take hready.slot }

theorem flight_eq_none (hready : o.scene.pendingAcks = []) : flight = none := by
  rw [h.acks] at hready
  cases flight with
  | none => rfl
  | some f => cases hready

theorem boIdx_ne (hready : Ready o i slot) {failed : FailedSubmitBo}
    (hmem : failed ∈ o.scene.failedSubmitBos) : failed.boIdx ≠ i := by
  rintro rfl
  have hrec := h.recording_of_not_signalled hmem (hready.retired failed hmem)
  rw [hready.free] at hrec
  cases hrec

theorem abort (hready : Ready o i slot) (invalid : Bool) (damage : RegionSet) (failedAt : Nat) :
    Inv (o.aborted i slot invalid damage failedAt) flight lost := by
  have hsame {j : Nat} {phase : BoPhase} (hne : phase ≠ .Free) :=
    hready.phaseAt_begun_iff (s := .default) invalid (j := j) hne hne
  exact
    { acks := h.acks
      slots := h.slots
      ticket := h.ticket
      pending := fun j => (hsame BoPhase.noConfusion).trans (h.pending j)
      onScreen := fun j k hj hk => h.onScreen j k ((hsame BoPhase.noConfusion).mp hj)
        ((hsame BoPhase.noConfusion).mp hk)
      recording := fun j hj => h.recording j ((hsame BoPhase.noConfusion).mp hj)
      failed := fun failed hmem => .inl ((hsame BoPhase.noConfusion).mpr
        (h.recording_of_not_signalled hmem (hready.retired failed hmem)))
      once := h.once
      numbered := fun failed hmem => Nat.lt_succ_of_lt (h.numbered failed hmem)
      rests := hready.rests_begun invalid ⟨rfl, rfl⟩ h.rests
      taken := (h.taken.take hready.slot).giveBack
      issued := fun t ht => Nat.lt_succ_of_lt (h.issued t ht) }

theorem reject (hready : Ready o i slot) (invalid : Bool) (others : List SceneEvent)
    (damage : RegionSet) (failedAt : Nat) :
    Inv (o.rejected i slot invalid others damage failedAt) flight lost := by
  have hat (j : Nat) := hready.phaseAt_begun (s := ⟨.Recording, none, none⟩) invalid (j := j)
  have hsame {j : Nat} {phase : BoPhase} (hne : phase ≠ .Free) (hne' : phase ≠ .Recording) :=
    hready.phaseAt_begun_iff (s := ⟨.Recording, none, none⟩) invalid (j := j) hne hne'
  refine
    { acks := h.acks
      slots := h.slots
      ticket := h.ticket
      pending := fun j => (hsame BoPhase.noConfusion BoPhase.noConfusion).trans (h.pending j)
      onScreen := fun j k hj hk => h.onScreen j k
        ((hsame BoPhase.noConfusion BoPhase.noConfusion).mp hj)
        ((hsame BoPhase.noConfusion BoPhase.noConfusion).mp hk)
      recording := ?_
      failed := ?_
      once := ?_
      numbered := ?_
      rests := hready.rests_begun invalid ⟨rfl, rfl⟩ h.rests
      taken := ?_
      issued := fun t ht => Nat.lt_succ_of_lt (h.issued t ht) }
  · intro j hj
    have hj := (hat j).symm.trans hj
    split at hj
    · next heq => exact ⟨⟨i, slot, o.nextTicket⟩, List.mem_concat_self, heq.symm⟩
    · obtain ⟨failed, hmem, heq⟩ := h.recording j hj
      exact ⟨failed, List.mem_append_left _ hmem, heq⟩
  · intro failed hmem
    refine .inl ((hat _).trans ?_)
    rcases List.mem_append.mp hmem with hold | hnew
    · rw [if_neg (h.boIdx_ne hready hold)]
      exact h.recording_of_not_signalled hold (hready.retired failed hold)
    · rw [List.mem_singleton.mp hnew, if_pos rfl]
  · change (List.map _ (o.scene.failedSubmitBos ++ [_])).Nodup
    rw [List.map_append]
    refine List.nodup_append.mpr ⟨h.once, List.nodup_singleton _, ?_⟩
    intro j hj k hk
    obtain ⟨failed, hmem, rfl⟩ := List.mem_map.mp hj
    rw [List.mem_singleton.mp hk]
    exact h.boIdx_ne hready hmem
  · intro failed hmem
    rcases List.mem_append.mp hmem with hold | hnew
    · exact Nat.lt_succ_of_lt (h.numbered failed hold)
    · rw [List.mem_singleton.mp hnew]
      exact Nat.lt_succ_self _
  · refine (h.taken.take hready.slot).perm ?_
    change List.Perm _ (_ ++ (_ ++ (_ ++ List.map _ (o.scene.failedSubmitBos ++ [_]))))
    refine (List.perm_append_singleton slot _).symm.trans (.of_eq ?_)
    rw [heldSlots, List.map_append]
    simp only [List.append_assoc]
    rfl

theorem commit (hready : Ready o i slot) (others : List SceneEvent) (fd : Option Int)
    (built : BuiltScene) : Inv (o.committed i slot others fd built)
      (some ⟨pendingAck o.scene built i o.nextTicket, slot, o.nextTicket⟩) lost := by
  have hflight := h.flight_eq_none hready.noAcks
  subst hflight
  have hat (j : Nat) := hready.phaseAt_begun (s := ⟨.Pending, none, fd⟩) false (j := j)
  have hsame {j : Nat} {phase : BoPhase} (hne : phase ≠ .Free) (hne' : phase ≠ .Pending) :=
    hready.phaseAt_begun_iff (s := ⟨.Pending, none, fd⟩) false (j := j) hne hne'
  refine
    { acks := congrArg (· ++ [_]) h.acks
      slots := congrArg (· ++ [_]) h.slots
      ticket := ?_
      pending := ?_
      onScreen := fun j k hj hk => h.onScreen j k
        ((hsame BoPhase.noConfusion BoPhase.noConfusion).mp hj)
        ((hsame BoPhase.noConfusion BoPhase.noConfusion).mp hk)
      recording := fun j hj => h.recording j ((hsame BoPhase.noConfusion BoPhase.noConfusion).mp hj)
      failed := fun failed hmem => .inl ((hsame BoPhase.noConfusion BoPhase.noConfusion).mpr
        (h.recording_of_not_signalled hmem (hready.retired failed hmem)))
      once := h.once
      numbered := fun failed hmem => Nat.lt_succ_of_lt (h.numbered failed hmem)
      rests := hready.rests_begun false ⟨rfl, trivial⟩ h.rests
      taken := ?_
      issued := fun t ht => Nat.lt_succ_of_lt (h.issued t ht) }
  · intro f hf
    cases hf
    rfl
  · intro j
    refine (Eq.congr_left (hat j)).trans ?_
    split
    · next heq => exact iff_of_true rfl ⟨_, rfl, heq.symm⟩
    · next hne =>
      refine iff_of_false (fun hj => ?_) ?_
      · obtain ⟨_, hnone, -⟩ := (h.pending j).mp hj
        cases hnone
      · rintro ⟨_, hf, rfl⟩
        cases hf
        exact hne rfl
  · exact (h.taken.take hready.slot).perm List.perm_middle.symm

end Inv

namespace Inv

variable {f : Flight} {s : BoState} {prev : Option (Nat × BoState)}

theorem defer (h : Inv o (some f) lost) (hbo : o.pool.stateAt f.ack.boIdx = some s)
    (hphase : s.phase = .Pending)
    (hprev : ∀ j st, prev = some (j, st) → o.pool.stateAt j = some st ∧ st.phase = .OnScreen)
    (hlast : prev = none → ∀ j, o.pool.phaseAt j ≠ some .OnScreen) (closed : List Int) :
    Inv (o.deferred f.slot f.ack f.ticket (o.pool.flipped f.ack.boIdx s prev) closed) none
      lost := by
  have hat := stateAt_flipped hbo fun j st heq => (hprev j st heq).1
  have hpending := (phaseAt_eq hbo).trans (congrArg some hphase)
  -- Only the buffers of the two frames change, of which neither was `Recording`.
  have hphaseAt : ∀ k, (o.pool.flipped f.ack.boIdx s prev).phaseAt k =
      if k = f.ack.boIdx then some .OnScreen
      else if o.pool.phaseAt k = some .OnScreen then some .Free else o.pool.phaseAt k := by
    intro k
    rw [phaseAt, hat]
    split
    · rfl
    · cases prev with
      | none => exact (if_neg (hlast rfl k)).symm
      | some prev =>
        obtain ⟨j, st⟩ := prev
        obtain ⟨hj, honScreen⟩ := hprev j st rfl
        have hphaseAt := (phaseAt_eq hj).trans (congrArg some honScreen)
        dsimp only
        by_cases hkj : k = j
        · rw [if_pos hkj, hkj, if_pos hphaseAt]
          rfl
        · rw [if_neg hkj, if_neg fun hk => hkj (h.onScreen k j hk hphaseAt)]
          rfl
  have hkeeps : ∀ k phase, phase ≠ .Free → phase ≠ .OnScreen →
      ((o.pool.flipped f.ack.boIdx s prev).phaseAt k = some phase ↔
        k ≠ f.ack.boIdx ∧ o.pool.phaseAt k = some phase) := by
    intro k phase hfree honScreen
    rw [hphaseAt]
    split
    · next heq =>
      exact iff_of_false (fun h => honScreen (Option.some.inj h).symm) fun hne => hne.1 heq
    · next hne =>
      split
      · next hk =>
        rw [hk]
        refine iff_of_false (fun h => hfree (Option.some.inj h).symm) fun h => ?_
        exact honScreen (Option.some.inj h.2).symm
      · exact (and_iff_right hne).symm
  refine
    { acks := rfl
      slots := rfl
      ticket := fun f hf => by cases hf
      pending := fun k => ?_
      onScreen := fun j k hj hk => ?_
      recording := fun k hk => ?_
      failed := fun failed hmem => ?_
      once := h.once
      numbered := h.numbered
      rests := fun k st hst => ?_
      taken := ?_
      issued := h.issued }
  · refine (hkeeps k .Pending BoPhase.noConfusion BoPhase.noConfusion).trans ?_
    refine iff_of_false (fun hk => ?_) fun hflight => ?_
    · obtain ⟨_, hf, heq⟩ := (h.pending k).mp hk.2
      cases hf
      exact hk.1 heq.symm
    · obtain ⟨_, hnone, -⟩ := hflight
      cases hnone
  · have honly : ∀ k, (o.pool.flipped f.ack.boIdx s prev).phaseAt k = some .OnScreen →
        k = f.ack.boIdx := by
      intro k hk
      rw [hphaseAt] at hk
      split at hk
      · next heq => exact heq
      · split at hk
        · cases hk
        · next hnot => exact absurd hk hnot
    exact (honly j hj).trans (honly k hk).symm
  · exact h.recording k ((hkeeps k .Recording BoPhase.noConfusion BoPhase.noConfusion).mp hk).2
  · change (o.pool.flipped f.ack.boIdx s prev).phaseAt _ = _ ∨
      (o.pool.flipped f.ack.boIdx s prev).phaseAt _ = _ ∧ _
    have hne : failed.boIdx ≠ f.ack.boIdx := by
      intro heq
      rcases h.failed failed hmem with hrec | ⟨hfree, -⟩
      · rw [heq, hpending] at hrec
        cases hrec
      · rw [heq, hpending] at hfree
        cases hfree
    rcases h.failed failed hmem with hrec | ⟨hfree, hticket⟩
    · exact .inl ((hkeeps _ _ BoPhase.noConfusion BoPhase.noConfusion).mpr ⟨hne, hrec⟩)
    · refine .inr ⟨?_, hticket⟩
      rw [hphaseAt, if_neg hne, hfree, if_neg fun heq => by cases heq]
  · have hst := (hat k).symm.trans hst
    split at hst
    · cases hst
      exact ⟨(h.rests _ _ hbo).1, trivial⟩
    · cases prev with
      | none => exact h.rests k st hst
      | some prev =>
        dsimp only at hst
        split at hst
        · cases hst
          exact ⟨(h.rests _ _ (hprev _ _ rfl).1).1, rfl⟩
        · exact h.rests k st hst
  · refine h.taken.perm ?_
    change List.Perm (lost ++ (f.slot :: (List.map _ _ ++ _)))
      (lost ++ ([] ++ (List.map _ (o.scene.pendingPoolReleases ++ [_]) ++ _)))
    rw [List.map_append, List.append_assoc]
    exact (List.perm_middle.symm).append_left lost

theorem flip (h : Inv o (some f) lost) (hbo : o.pool.stateAt f.ack.boIdx = some s)
    (hphase : s.phase = .Pending)
    (hprev : ∀ j st, prev = some (j, st) → o.pool.stateAt j = some st ∧ st.phase = .OnScreen)
    (hlast : prev = none → ∀ j, o.pool.phaseAt j ≠ some .OnScreen) (closed : List Int)
    (cursor : CursorAnswers) :
    Inv (o.flipped f.slot f.ack f.ticket (o.pool.flipped f.ack.boIdx s prev) closed cursor)
      none lost := by
  have hdeferred := h.defer hbo hphase hprev hlast closed
  unfold flipped landed
  dsimp only
  split
  · exact { hdeferred with taken := (h.taken.perm List.perm_middle).giveBack }
  · exact { hdeferred with }

theorem suspend (h : Inv o flight lost) (cursor : CursorAnswers) (active : Bool) :
    Inv (o.suspended cursor active) none (o.scene.pendingPoolReleases.map (·.1) ++ lost) := by
  have hat : ∀ i, (o.suspended cursor active).pool.stateAt i =
      (o.pool.stateAt i).map fun _ => .default :=
    fun i => stateAt_resetForSuspend o.pool i
  have hphase : ∀ i phase, (o.suspended cursor active).pool.phaseAt i = some phase →
      phase = .Free := by
    intro i phase hi
    rw [phaseAt, hat, Option.map_map] at hi
    obtain ⟨_, -, rfl⟩ := Option.map_eq_some_iff.mp hi
    rfl
  refine
    { acks := rfl
      slots := rfl
      ticket := fun f hf => by cases hf
      pending := fun i => ?_
      onScreen := fun i j hi => by cases hphase i _ hi
      recording := fun i hi => by cases hphase i _ hi
      failed := fun failed hmem => .inr ⟨?_, ?_⟩
      once := h.once
      numbered := h.numbered
      rests := fun i s hs => ?_
      taken := ?_
      issued := fun t ht => ?_ }
  · refine iff_of_false (fun hi => by cases hphase i _ hi) fun hflight => ?_
    obtain ⟨_, hnone, -⟩ := hflight
    cases hnone
  · obtain ⟨phase, hsome⟩ : ∃ phase, o.pool.phaseAt failed.boIdx = some phase := by
      rcases h.failed failed hmem with hrec | ⟨hfree, -⟩
      · exact ⟨_, hrec⟩
      · exact ⟨_, hfree⟩
    obtain ⟨s, hs, -⟩ := exists_of_phaseAt hsome
    rw [phaseAt, hat, hs]
    rfl
  · exact List.mem_append_left _ (List.mem_range.mpr (h.numbered failed hmem))
  · rw [hat] at hs
    obtain ⟨_, -, rfl⟩ := Option.map_eq_some_iff.mp hs
    exact ⟨rfl, rfl⟩
  · have hperm : (lost ++ (o.scene.pendingPoolReleases.map (·.1) ++
        o.scene.failedSubmitBos.map (·.poolSlot))).Perm
        ((o.scene.pendingPoolReleases.map (·.1) ++ lost) ++
          (o.suspended cursor active).heldSlots none) := by
      rw [← List.append_assoc]
      exact List.perm_append_comm.append_right _
    cases flight with
    | none =>
      have hslots : o.scene.poolSlots = [] := h.slots
      have htaken := h.taken.perm hperm
      change Taken (o.scene.poolSlots.foldl _ o.scene.poolRing.inUse) _
      rwa [hslots]
    | some f =>
      have hslots : o.scene.poolSlots = [f.slot] := h.slots
      have htaken := (h.taken.perm List.perm_middle).giveBack.perm hperm
      change Taken (o.scene.poolSlots.foldl _ o.scene.poolRing.inUse) _
      rwa [hslots]
  · rcases List.mem_append.mp ht with hrange | hold
    · exact List.mem_range.mp hrange
    · exact h.issued t hold

end Inv

/-! ## Composing -/

@[simp] theorem openedFds_append (events events' : List SceneEvent) :
    openedFds (events ++ events') = openedFds events ++ openedFds events' :=
  List.filterMap_append

@[simp] theorem closedFds_append (events events' : List SceneEvent) :
    closedFds (events ++ events') = closedFds events ++ closedFds events' :=
  List.filterMap_append

/-- The driver does what it is asked to. -/
def Succeeds (a : ComposeAnswers) : Prop :=
  a.acquireFenceTicket = .ok () ∧ a.recordCommandBuffer = .ok () ∧ a.queueSubmit2 = .ok () ∧
    (∃ fd, a.exportSignaledFd = .ok fd) ∧ a.submitFlipWithFences = .ok ()

/-- How far a frame gets with a buffer that rests. -/
inductive Reaches (bo : ScanoutBo) (i slot : Nat) (t : FenceTicket) (a : ComposeAnswers) :
    Composed → Prop where
  | failed (s e) (hfail : bo.fbHandle = none ∨ ¬ Succeeds a) :
      Reaches bo i slot t a ⟨{ bo with state := s }, false, .error e, []⟩
  | rejected {others} (e) (hothers : Passes others []) (hfail : ¬ Succeeds a) :
      Reaches bo i slot t a ⟨{ bo with state := ⟨.Recording, none, none⟩ }, true, .error e,
        .queueSubmit2 i slot t :: others⟩
  | accepted {others fd} (hothers : Passes others fd.toList) :
      Reaches bo i slot t a ⟨{ bo with state := ⟨.Pending, none, fd⟩ }, true, .ok (),
        .queueSubmit2 i slot t :: others⟩

theorem recordComposeV2_reaches {bo : ScanoutBo} (hbo : bo.state = .default) (i slot : Nat)
    (t : FenceTicket) (a : ComposeAnswers) :
    ∃ c, recordComposeV2 bo i slot t a = some c ∧ Reaches bo i slot t a c := by
  obtain ⟨state, fbHandle⟩ := bo
  cases hbo
  obtain ⟨_, record, submit, exportFd, flip, outFence⟩ := a
  unfold recordComposeV2
  rw [if_neg (not_not.mpr rfl)]
  split
  · next hfb => exact ⟨_, rfl, .failed _ _ (.inl hfb)⟩
  · cases record with
    | error e => exact ⟨_, rfl, .failed _ _ (.inr fun h => by cases h.2.1)⟩
    | ok =>
      cases submit with
      | error e => exact ⟨_, rfl, .failed _ _ (.inr fun h => by cases h.2.2.1)⟩
      | ok =>
        cases exportFd with
        | error e =>
          refine ⟨_, rfl, .rejected _ ⟨nofun, .nil⟩ fun h => ?_⟩
          obtain ⟨_, hfd⟩ := h.2.2.2.1
          cases hfd
        | ok exported =>
          cases flip with
          | ok =>
            have hreaches {a others} := @Reaches.accepted ⟨.default, fbHandle⟩ i slot t a others
              (if 0 ≤ outFence then some outFence else none)
            refine ⟨_, rfl, hreaches ⟨?_, ?_⟩⟩
            · cases exported <;> by_cases hout : 0 ≤ outFence <;> simp [hout]
            · cases exported <;> by_cases hout : 0 ≤ outFence <;>
                simp [hout, openedFds, closedFds]
          | error e =>
            refine ⟨_, rfl, .rejected _ ⟨?_, ?_⟩ fun h => by cases h.2.2.2.2⟩
            · cases exported <;> by_cases hout : 0 ≤ outFence <;> simp [hout]
            · cases exported <;> by_cases hout : 0 ≤ outFence <;>
                simp [hout, openedFds, closedFds]

theorem Passes.touch {events : List SceneEvent} {fds : List Int} (h : Passes events fds)
    (ids : List DrawableId) (t : FenceTicket) :
    Passes (events ++ [.touchRenderFence ids t]) fds where
  quiet e he := by
    rcases List.mem_append.mp he with he | he
    · exact h.quiet e he
    · exact .inr (.inr (.inr ⟨ids, t, List.mem_singleton.mp he⟩))
  balance := by
    rw [openedFds_append, closedFds_append]
    change List.Perm (_ ++ []) (_ ++ [] ++ _)
    rw [List.append_nil, List.append_nil]
    exact h.balance

theorem emit_emit (o : Scanout) (events events' : List SceneEvent) :
    (o.emit events).emit events' = o.emit (events ++ events') := by
  rw [emit, emit, emit, List.append_assoc]

theorem emit_nil (o : Scanout) : o.emit [] = o := by
  rw [emit, List.append_nil]

theorem releaseSlot_eq (held : List Nat) (h : Taken o.scene.poolRing.inUse held)
    (hslot : slot ∈ held) : o.releaseSlot slot = some (o.freeSlot slot) := by
  rw [releaseSlot, SlotTracker.release_eq h hslot]
  rfl

namespace Ready

variable {p : ScanoutPool} {s : BoState} {bo : ScanoutBo}

/-- The frame is composed with a buffer that rests. -/
theorem exists_bo (hready : Ready o i slot) (h : Inv o flight lost) :
    ∃ bo, o.pool.bos[i]? = some bo ∧ bo.state = .default := by
  obtain ⟨s, hs, hfree⟩ := exists_of_phaseAt hready.free
  obtain ⟨bo, hbo, rfl⟩ := getElem?_of_stateAt hs
  obtain ⟨hin, hout⟩ := h.rests i _ hs
  rw [hfree] at hout
  refine ⟨bo, hbo, ?_⟩
  cases hstate : bo.state with
  | mk phase inFenceFd releaseFenceFd =>
    rw [hstate] at hfree hin hout
    cases hfree
    cases hin
    cases hout
    rfl

/-- What becomes of a frame with buffer `i`. -/
inductive Submits (o : Scanout) (i slot : Nat) (a : ComposeAnswers) :
    Scanout → Except SceneError TickOutcome → Prop where
  | strand {e} (hticket : a.acquireFenceTicket = .error e) :
      Submits o i slot a (o.takeSlot slot) (.error (.Present (.Vk e)))
  | abort (hticket : a.acquireFenceTicket = .ok ()) (invalid damage failedAt e)
      (hfail : none ∈ o.pool.fbHandles ∨ ¬ Succeeds a) :
      Submits o i slot a (o.aborted i slot invalid damage failedAt) (.error (.Present e))
  | reject (hticket : a.acquireFenceTicket = .ok ()) (invalid damage failedAt e) {others}
      (hothers : Passes others []) (hfail : ¬ Succeeds a) :
      Submits o i slot a (o.rejected i slot invalid others damage failedAt) (.error (.Present e))
  | commit (hticket : a.acquireFenceTicket = .ok ()) (built) {others fd}
      (hothers : Passes others fd.toList) :
      Submits o i slot a (o.committed i slot others fd built) (.ok .Composed)

theorem submitFrame (hready : Ready o i slot) (h : Inv o flight lost) {token : ScanoutBoToken}
    (htoken : token.boIdx = i) (built : BuiltScene) (a : ComposeAnswers) (failedAt : Nat) :
    ∃ o' r, (o.takeSlot slot).submitFrame token slot built a failedAt = some (o', r) ∧
      Submits o i slot a o' r := by
  obtain ⟨bo, hbo, hrests⟩ := hready.exists_bo h
  obtain ⟨c, hc, hreaches⟩ := recordComposeV2_reaches hrests i slot o.nextTicket a
  have hset (s : BoState) := setState_set (p := o.pool) (s := s) hbo
  unfold Scanout.submitFrame
  cases hfence : a.acquireFenceTicket with
  | error e => exact ⟨_, _, rfl, .strand hfence⟩
  | ok =>
    have hbo' : (o.takeSlot slot).pool.bos[token.boIdx]? = some bo := htoken ▸ hbo
    have hc' : recordComposeV2 bo token.boIdx slot (o.takeSlot slot).nextTicket a = some c :=
      htoken ▸ hc
    dsimp only
    rw [hbo']
    dsimp only
    rw [hc', Option.bind_eq_bind, Option.bind_some, htoken]
    cases hreaches with
    | accepted hothers =>
      refine ⟨_, _, rfl, ?_⟩
      dsimp only
      rw [show (o.takeSlot slot).pool = o.pool from rfl, hset]
      exact .commit hfence built hothers
    | rejected e hothers hfail =>
      refine ⟨_, _, rfl, ?_⟩
      dsimp only
      rw [show (o.takeSlot slot).pool = o.pool from rfl, hset]
      have htouched := hothers.touch built.sampledIds o.nextTicket
      cases e with
      | Io errno =>
        have hsubmits : Submits o i slot a _ _ := .reject hfence true
          (outputDamage o.scene built) failedAt (.Io errno) htouched hfail
        rw [Scanout.rejected, ← List.cons_append, ← emit_emit] at hsubmits
        exact hsubmits
      | _ => exact .reject hfence false (outputDamage o.scene built) failedAt _ hothers hfail
    | failed s e hfail =>
      have htaken := h.taken.take hready.slot
      have hfail' : none ∈ o.pool.fbHandles ∨ ¬ Succeeds a :=
        hfail.imp_left fun hfb => by rw [← hfb]; exact mem_fbHandles hbo
      have hagain (invalid : Bool) : (if invalid then (o.pool.setState i s).invalidateBo i
          else o.pool.setState i s).setState i .default =
          (if invalid then o.pool.invalidateBo i else o.pool).setState i .default := by
        cases invalid with
        | true => exact setState_setState (p := o.pool.invalidateBo i)
        | false => exact setState_setState
      have hsubmits (invalid : Bool) (e : PresentError) : Submits o i slot a _ _ :=
        .abort hfence invalid (outputDamage o.scene built) failedAt e hfail'
      dsimp only
      rw [emit_nil, show (o.takeSlot slot).pool = o.pool from rfl, hset, if_neg Bool.false_ne_true,
        if_neg Bool.false_ne_true]
      cases e with
      | Io errno =>
        dsimp only
        rw [emit_nil, releaseSlot_eq (slot :: (lost ++ o.heldSlots flight)) ?_ List.mem_cons_self]
        rotate_left
        · exact htaken
        refine ⟨_, _, rfl, ?_⟩
        have hsubmits := hsubmits true (.Io errno)
        rw [aborted, begun, ← hagain] at hsubmits
        exact hsubmits
      | _ =>
        dsimp only
        rw [releaseSlot_eq (slot :: (lost ++ o.heldSlots flight)) ?_ List.mem_cons_self]
        rotate_left
        · exact htaken
        refine ⟨_, _, rfl, ?_⟩
        have hsubmits := hsubmits false
        rw [aborted, begun, ← hagain] at hsubmits
        exact hsubmits _

namespace Submits

variable {a : ComposeAnswers} {r : Except SceneError TickOutcome}

theorem move (h : Submits o i slot a o' r) (hready : Ready o i slot) : Move o o' := by
  cases h with
  | strand => exact .strand hready
  | abort _ invalid damage failedAt => exact .abort hready invalid damage failedAt
  | reject _ invalid damage failedAt _ hothers =>
    exact .reject hready invalid damage failedAt hothers
  | commit _ built hothers => exact .commit hready built hothers

end Submits

end Ready

/-! ## Actions as moves -/

theorem mem_heldSlots_of_failed {failed : FailedSubmitBo}
    (h : failed ∈ o.scene.failedSubmitBos) : failed.poolSlot ∈ o.heldSlots flight :=
  List.mem_append_right _ (List.mem_append_right _ (List.mem_map_of_mem h))

theorem mem_heldSlots_of_release {ticket : FenceTicket}
    (h : (slot, ticket) ∈ o.scene.pendingPoolReleases) : slot ∈ o.heldSlots flight :=
  List.mem_append_right _ (List.mem_append_left _ (List.mem_map_of_mem (f := Prod.fst) h))

theorem Inv.releaseSlot (h : Inv o flight lost) (hslot : slot ∈ o.heldSlots flight) {o' : Scanout}
    (hring : o'.scene.poolRing = o.scene.poolRing) :
    o'.releaseSlot slot = some (o'.freeSlot slot) :=
  releaseSlot_eq _ (by rw [hring]; exact h.taken) (List.mem_append_right _ hslot)

/-- The state in which the loop has put `remaining` back and has still to go through `queue`. -/
def withFailed (o : Scanout) (queue : List FailedSubmitBo) : Scanout :=
  o.modifyScene fun s => { s with failedSubmitBos := queue }

def withReleases (o : Scanout) (queue : List (Nat × FenceTicket)) : Scanout :=
  o.modifyScene fun s => { s with pendingPoolReleases := queue }

/-- What a loop over a queue of frames does. -/
structure Advances (o o' : Scanout) (flight : Option Flight) (lost : List Nat) : Prop where
  moves : Relation.ReflTransGen Move o o'
  inv : Inv o' flight lost
  signalled : o'.signalled = o.signalled

theorem Advances.refl (h : Inv o flight lost) : Advances o o flight lost := ⟨.refl, h, rfl⟩

theorem retireFailedLoop_spec (queue remaining : List FailedSubmitBo)
    (h : Inv (o.withFailed (remaining ++ queue)) flight lost) :
    ∃ o', o.retireFailedLoop remaining queue = some o' ∧
      Advances (o.withFailed (remaining ++ queue)) o' flight lost ∧
      ∀ failed ∈ o'.scene.failedSubmitBos, failed ∈ remaining ∨ failed.ticket ∉ o.signalled := by
  induction queue generalizing o remaining with
  | nil =>
    rw [List.append_nil] at h ⊢
    exact ⟨_, rfl, .refl h, fun failed hmem => .inl hmem⟩
  | cons failed queue ih =>
    rw [retireFailedLoop]
    split
    · next hticket =>
      have hticket : failed.ticket ∈ o.signalled := List.contains_iff_mem.mp hticket
      have hmem : failed ∈ remaining ++ failed :: queue :=
        List.mem_append_right _ List.mem_cons_self
      have hmove : Move (o.withFailed (remaining ++ failed :: queue)) _ :=
        .recycle (o := o.withFailed (remaining ++ failed :: queue)) rfl hticket
      dsimp only
      rw [h.releaseSlot (mem_heldSlots_of_failed hmem)]
      · have hrecycled : Inv (((o.setPool (o.pool.recycleFailedSubmitBo failed.boIdx)).freeSlot
            failed.poolSlot).withFailed (remaining ++ queue)) flight lost := h.recycle rfl
        obtain ⟨o', ho', hadv, hleft⟩ := ih remaining hrecycled
        exact ⟨o', ho', ⟨.head hmove hadv.moves, hadv.inv, hadv.signalled⟩, hleft⟩
      · rfl
    · next hticket =>
      have hticket : failed.ticket ∉ o.signalled := fun hmem =>
        hticket (List.contains_iff_mem.mpr hmem)
      rw [List.append_cons remaining failed queue] at h ⊢
      obtain ⟨o', ho', hadv, hleft⟩ := ih (remaining ++ [failed]) h
      refine ⟨o', ho', hadv, fun other hmem => ?_⟩
      rcases hleft other hmem with hold | hnew
      · rcases List.mem_append.mp hold with hold | hlast
        · exact .inl hold
        · exact .inr (List.mem_singleton.mp hlast ▸ hticket)
      · exact .inr hnew

theorem drainReleasesLoop_spec (queue remaining : List (Nat × FenceTicket))
    (h : Inv (o.withReleases (remaining ++ queue)) flight lost) :
    ∃ o', o.drainReleasesLoop remaining queue = some o' ∧
      Advances (o.withReleases (remaining ++ queue)) o' flight lost ∧
      o'.scene.failedSubmitBos = o.scene.failedSubmitBos := by
  induction queue generalizing o remaining with
  | nil =>
    rw [List.append_nil] at h ⊢
    exact ⟨_, rfl, .refl h, rfl⟩
  | cons entry queue ih =>
    obtain ⟨slot, ticket⟩ := entry
    rw [drainReleasesLoop]
    split
    · next hticket =>
      have hticket : ticket ∈ o.signalled := List.contains_iff_mem.mp hticket
      have hmem : (slot, ticket) ∈ remaining ++ (slot, ticket) :: queue :=
        List.mem_append_right _ List.mem_cons_self
      have hmove : Move (o.withReleases (remaining ++ (slot, ticket) :: queue)) _ :=
        .release (o := o.withReleases (remaining ++ (slot, ticket) :: queue)) rfl hticket
      rw [h.releaseSlot (mem_heldSlots_of_release hmem)]
      · have hreleased : Inv ((o.freeSlot slot).withReleases (remaining ++ queue)) flight lost :=
          h.release rfl
        obtain ⟨o', ho', hadv, hfailed⟩ := ih remaining hreleased
        exact ⟨o', ho', ⟨.head hmove hadv.moves, hadv.inv, hadv.signalled⟩, hfailed⟩
      · rfl
    · rw [List.append_cons remaining (slot, ticket) queue] at h ⊢
      exact ih (remaining ++ [(slot, ticket)]) h

/-- Frames whose fences have signalled are cleared away first. -/
theorem exists_cleared (h : Inv o flight lost) :
    ∃ o₁ o₂, o.retireFailedSubmitBos = some o₁ ∧ o₁.drainPendingPoolReleases = some o₂ ∧
      Advances o o₂ flight lost ∧
      ∀ failed ∈ o₂.scene.failedSubmitBos, failed.ticket ∉ o₂.signalled := by
  obtain ⟨o₁, ho₁, hadv₁, hleft⟩ := retireFailedLoop_spec o.scene.failedSubmitBos [] h
  obtain ⟨o₂, ho₂, hadv₂, hfailed⟩ :=
    drainReleasesLoop_spec o₁.scene.pendingPoolReleases [] hadv₁.inv
  refine ⟨o₁, o₂, ho₁, ho₂, ⟨hadv₁.moves.trans hadv₂.moves, hadv₂.inv,
    hadv₂.signalled.trans hadv₁.signalled⟩, fun failed hmem => ?_⟩
  rw [hadv₂.signalled.trans hadv₁.signalled]
  exact (hleft failed (hfailed ▸ hmem)).resolve_left List.not_mem_nil

/-- A tick clears away what it can and then skips the frame or composes it. -/
inductive Ticks (o : Scanout) (a : ComposeAnswers) (flight : Option Flight) (lost : List Nat) :
    Scanout → Except SceneError TickOutcome → Prop where
  | skip {o₁} (reason) (hadv : Advances o o₁ flight lost) :
      Ticks o a flight lost o₁ (.ok (.Skipped reason))
  | submit {o₁ i slot o₂ r} (hadv : Advances o o₁ flight lost) (hready : Ready o₁ i slot)
      (hsubmits : Ready.Submits o₁ i slot a o₂ r) : Ticks o a flight lost o₂ r

theorem tickOneOutput_spec (h : Inv o flight lost) (now failedAt : Nat) (built : BuiltScene)
    (a : ComposeAnswers) :
    ∃ o' r, o.tickOneOutput now failedAt built a = some (o', r) ∧ Ticks o a flight lost o' r := by
  obtain ⟨o₁, o₂, ho₁, ho₂, hadv, hretired⟩ := exists_cleared h
  rw [tickOneOutput, ho₁, Option.bind_eq_bind, Option.bind_some, ho₂, Option.bind_some]
  split
  · exact ⟨_, _, rfl, .skip _ hadv⟩
  · next hacks =>
    split
    · exact ⟨_, _, rfl, .skip _ hadv⟩
    · split
      · exact ⟨_, _, rfl, .skip _ hadv⟩
      · split
        · exact ⟨_, _, rfl, .skip _ hadv⟩
        · next token htoken =>
          split
          · exact ⟨_, _, rfl, .skip _ hadv⟩
          · next ring slot hring =>
            obtain ⟨hslot, rfl⟩ := SlotTracker.acquire_eq_some hring
            have hready : Ready o₂ token.boIdx slot :=
              ⟨not_not.mp hacks, hretired, phaseAt_of_acquire htoken, hslot⟩
            obtain ⟨o', r, ho', hsubmits⟩ := hready.submitFrame hadv.inv rfl built a failedAt
            exact ⟨o', r, ho', .submit hadv hready hsubmits⟩

theorem Ticks.moves {a : ComposeAnswers} {r : Except SceneError TickOutcome}
    (h : Ticks o a flight lost o' r) : Relation.ReflTransGen Move o o' := by
  cases h with
  | skip _ hadv => exact hadv.moves
  | submit hadv hready hsubmits => exact hadv.moves.tail (hsubmits.move hready)

theorem handlePageFlipComplete_spec (h : Inv o flight lost) (cursor : CursorAnswers) :
    ∃ o' b, o.handlePageFlipComplete cursor = some (o', b) ∧ Advances o o' none lost := by
  cases flight with
  | none =>
    have hnone : ∀ i, o.pool.phaseAt i ≠ some .Pending := by
      intro i hi
      obtain ⟨_, hf, -⟩ := (h.pending i).mp hi
      cases hf
    rw [handlePageFlipComplete, onPageFlipComplete_none hnone]
    exact ⟨o.emit [], false, rfl, (emit_nil o).symm ▸ .refl h⟩
  | some f =>
    obtain ⟨s, hs, hphase⟩ := exists_of_phaseAt ((h.pending f.ack.boIdx).mpr ⟨f, rfl, rfl⟩)
    have honly : ∀ j, o.pool.phaseAt j = some .Pending → j = f.ack.boIdx := by
      intro j hj
      obtain ⟨_, hf, rfl⟩ := (h.pending j).mp hj
      cases hf
      rfl
    obtain ⟨prev, hprev, hlast, hflip⟩ := onPageFlipComplete_some hs hphase honly
    have hacks : o.scene.pendingAcks = [f.ack] := h.acks
    have hslots : o.scene.poolSlots = [f.slot] := h.slots
    have hmove := Move.flip cursor hacks hslots (h.ticket f rfl) hs hphase hprev hlast
    have hsignalled : ∀ pool closed, (o.flipped f.slot f.ack f.ticket pool closed
        cursor).signalled = o.signalled := by
      intro pool closed
      unfold flipped landed
      dsimp only
      split <;> rfl
    refine ⟨_, true, ?_, .single hmove, h.flip hs hphase hprev hlast _ cursor,
      hsignalled _ _⟩
    have hland : releaseRetired (o.arrived f.ack (o.pool.flipped f.ack.boIdx s prev)
        (prev.bind (·.2.releaseFenceFd)).toList) f.ack =
        some (o.landed f.slot f.ack f.ticket (o.pool.flipped f.ack.boIdx s prev)
          (prev.bind (·.2.releaseFenceFd)).toList) := by
      have hslots' : (o.arrived f.ack (o.pool.flipped f.ack.boIdx s prev)
        (prev.bind (·.2.releaseFenceFd)).toList).scene.poolSlots = [f.slot] := hslots
      unfold releaseRetired landed
      rw [hslots', h.ticket f rfl]
      dsimp only
      by_cases hticket : o.pollSignaled f.ticket
      · rw [if_pos hticket]
        refine (if_pos hticket).trans (h.releaseSlot List.mem_cons_self ?_)
        rfl
      · rw [if_neg hticket]
        exact if_neg hticket
    unfold handlePageFlipComplete
    rw [hflip, Option.bind_eq_bind, Option.bind_some]
    dsimp only
    have hacks' : ((o.setPool (o.pool.flipped f.ack.boIdx s prev)).emit
      ((prev.bind (·.2.releaseFenceFd)).toList.map .closed)).scene.pendingAcks = [f.ack] := hacks
    rw [hacks']
    dsimp only
    rw [arrived] at hland
    rw [hland]
    rfl

theorem releaseSlots_eq {held : List Nat} (slots : List Nat)
    (h : Taken o.scene.poolRing.inUse (slots ++ held)) :
    o.releaseSlots slots = some ((o.modifyScene fun s => { s with
      poolRing := ⟨slots.foldl (fun inUse slot => inUse.set slot false) s.poolRing.inUse⟩
      poolSlots := [] }).emit (slots.map .resetDescriptorPool)) := by
  induction slots generalizing o with
  | nil =>
    rw [releaseSlots, List.map_nil, emit_nil]
    rfl
  | cons slot slots ih =>
    rw [releaseSlots, releaseSlot_eq _ h List.mem_cons_self, Option.bind_eq_bind, Option.bind_some,
      ih (o := o.freeSlot slot) h.giveBack, List.map_cons]
    simp only [freeSlot, emit, modifyScene, List.append_assoc, List.cons_append, List.nil_append,
      List.foldl_cons]

theorem suspend_eq (h : Inv o flight lost) (cursor : CursorAnswers) (active : Bool) :
    o.suspend cursor active = some (o.suspended cursor active) := by
  have htaken : Taken o.scene.poolRing.inUse (o.scene.poolSlots ++ (lost ++
      (o.scene.pendingPoolReleases.map (·.1) ++ o.scene.failedSubmitBos.map (·.poolSlot)))) := by
    rw [h.slots]
    exact h.taken.perm (List.perm_append_comm_assoc ..)
  unfold suspend drainAll
  dsimp only
  have hslots := releaseSlots_eq (o := (({ o with
    active := active
    signalled := List.range o.nextTicket ++ o.signalled } : Scanout).emit [.suspend]).modifyScene
      fun s => { s with pendingPoolReleases := [] }) o.scene.poolSlots htaken
  refine (congrArg (Option.bind · _) (congrArg (Option.bind · _) hslots)).trans ?_
  refine congrArg some ?_
  simp only [suspended, applyCursor, planeAfter, cursorCalls, emit, modifyScene, setPool,
    List.append_assoc, List.cons_append, List.nil_append]

theorem rebindVisibleCrtcs_moves (o : Scanout) (cursor : CursorAnswers) :
    Relation.ReflTransGen Move o (o.rebindVisibleCrtcs cursor) := by
  unfold rebindVisibleCrtcs
  split
  · next hvisible => exact .single (.rebind cursor hvisible)
  · exact .refl

/-- Every action goes through, as a sequence of moves. -/
theorem act_spec (h : Inv o flight lost) (action : Action) :
    ∃ o', o.act action = some o' ∧ Relation.ReflTransGen Move o o' := by
  cases action with
  | tick now failedAt built a =>
    rw [act]
    split
    · obtain ⟨o', r, ho', hticks⟩ := tickOneOutput_spec h now failedAt built a
      exact ⟨o', by rw [ho', Option.map_some], hticks.moves⟩
    · exact ⟨o, rfl, .refl⟩
  | pageFlipComplete cursor =>
    obtain ⟨o', b, ho', hadv⟩ := handlePageFlipComplete_spec h cursor
    exact ⟨o', by rw [act, ho', Option.map_some], hadv.moves⟩
  | signal t => exact ⟨_, rfl, .single (.signal o t)⟩
  | sceneStructureDamage r => exact ⟨_, rfl, .single (.damage o r)⟩
  | rebindVisibleCrtcs cursor => exact ⟨_, rfl, rebindVisibleCrtcs_moves o cursor⟩
  | suspend cursor active =>
    exact ⟨_, suspend_eq h cursor active, .single (.suspend o cursor active)⟩
  | wake committed active cursor =>
    refine ⟨_, rfl, ?_⟩
    split
    · exact .refl
    · exact .head (.light o committed active) (rebindVisibleCrtcs_moves _ cursor)

/-! ## Runs -/

theorem new_inv (n : Nat) (extent : UInt32 × UInt32) (fbHandle : Nat → UInt32) :
    Inv (new n extent fbHandle) none [] := by
  have hstate : ∀ i s, (new n extent fbHandle).pool.stateAt i = some s → s = .default := by
    intro i s hs
    obtain ⟨bo, hbo, rfl⟩ := getElem?_of_stateAt hs
    obtain ⟨_, -, rfl⟩ := List.mem_map.mp (List.mem_of_getElem? hbo)
    rfl
  have hphase : ∀ i phase, (new n extent fbHandle).pool.phaseAt i = some phase → phase = .Free := by
    intro i phase hi
    obtain ⟨s, hs, rfl⟩ := exists_of_phaseAt hi
    rw [hstate i s hs]
    rfl
  exact
    { acks := rfl
      slots := rfl
      ticket := nofun
      pending := fun i => iff_of_false (fun hi => by cases hphase i _ hi)
        fun ⟨_, hnone, _⟩ => by cases hnone
      onScreen := fun i j hi => by cases hphase i _ hi
      recording := fun i hi => by cases hphase i _ hi
      failed := fun failed hmem => absurd hmem List.not_mem_nil
      once := .nil
      numbered := fun failed hmem => absurd hmem List.not_mem_nil
      rests := fun i s hs => by
        rw [hstate i s hs]
        exact ⟨rfl, rfl⟩
      taken := .none RING_LEN
      issued := fun t ht => absurd ht List.not_mem_nil }

/-- The frame whose flip completes is the one that is under way. -/
theorem Inv.eq_flight {ack : PendingAck} {ticket : FenceTicket} (h : Inv o flight lost)
    (hacks : o.scene.pendingAcks = [ack]) (hslots : o.scene.poolSlots = [slot])
    (hticket : ack.ticket = some ticket) : flight = some ⟨ack, slot, ticket⟩ := by
  rw [h.acks] at hacks
  rw [h.slots] at hslots
  cases flight with
  | none => cases hacks
  | some f =>
    obtain ⟨ack', slot', ticket'⟩ := f
    cases hacks
    cases hslots
    cases (h.ticket _ rfl).symm.trans hticket
    rfl

/-- A completed flip first closes the fence of the buffer that leaves the screen. -/
theorem flipped_trace (o : Scanout) (slot : Nat) (ack : PendingAck) (ticket : FenceTicket)
    (pool : ScanoutPool) (closed : List Int) (cursor : CursorAnswers) :
    ∃ resets, (resets = [] ∨ resets = [.resetDescriptorPool slot]) ∧
      (o.flipped slot ack ticket pool closed cursor).trace =
        ((o.trace ++ closed.map .closed) ++ [.flipComplete ack.boIdx ack.generation]) ++
          (.ackPresentationDamage ack.drawableSnapshots ::
            (resets ++ cursorCalls ack.cursorTransition cursor)) := by
  unfold flipped landed
  dsimp only
  split
  · refine ⟨_, .inr rfl, ?_⟩
    simp only [arrived, retireAck, settle, applyCursor, freeSlot, emit, modifyScene, setPool,
      List.append_assoc, List.cons_append, List.nil_append]
  · refine ⟨_, .inl rfl, ?_⟩
    simp only [deferred, arrived, retireAck, settle, applyCursor, emit, modifyScene, setPool,
      List.append_assoc, List.cons_append, List.nil_append]

theorem mem_cursorCalls {transition : Option CursorTransition} {cursor : CursorAnswers}
    {e : SceneEvent} (h : e ∈ cursorCalls transition cursor) :
    (∃ ok, e = .cursorShow ok) ∨ ∃ ok, e = .cursorHide ok := by
  unfold cursorCalls at h
  split at h
  · exact .inl ⟨_, List.mem_singleton.mp h⟩
  · exact .inr ⟨_, List.mem_singleton.mp h⟩
  · exact absurd h List.not_mem_nil

/-- The events after a completed flip. -/
def AfterFlip (e : SceneEvent) : Prop :=
  (∃ snapshots, e = .ackPresentationDamage snapshots) ∨ (∃ slot, e = .resetDescriptorPool slot) ∨
    (∃ ok, e = .cursorShow ok) ∨ ∃ ok, e = .cursorHide ok

theorem afterFlip_of_mem (ack : PendingAck) (cursor : CursorAnswers) {resets : List SceneEvent}
    (hresets : resets = [] ∨ resets = [.resetDescriptorPool slot]) :
    ∀ e ∈ SceneEvent.ackPresentationDamage ack.drawableSnapshots ::
      (resets ++ cursorCalls ack.cursorTransition cursor), AfterFlip e := by
  intro e he
  rcases List.mem_cons.mp he with rfl | he
  · exact .inl ⟨_, rfl⟩
  · rcases List.mem_append.mp he with he | he
    · rcases hresets with rfl | rfl
      · exact absurd he List.not_mem_nil
      · exact .inr (.inl ⟨_, List.mem_singleton.mp he⟩)
    · exact .inr (.inr (mem_cursorCalls he))

end Scanout

end X12

import X12.Verify.Scene

/-! # No frame is rendered into what is still in use

A buffer is in use while KMS has it, from the flip to it until the one to another buffer
has completed, and while the GPU renders a frame into it that KMS has rejected. A slot is
in use until the fence of its frame has signalled. -/

namespace X12

namespace Scanout

open ScanoutPool Slots Runs

/-! ## What a trace says -/

section Trace

variable (trace : List SceneEvent) (i slot : Nat) (t : FenceTicket)

/-- KMS has taken the flip to the buffer, and none to another one has completed since. -/
def WithKms : Prop :=
  Since (fun _ e => ∃ g a d, e = .accepted i g a d)
    (fun _ e => (∃ j g, e = .flipComplete j g ∧ j ≠ i) ∨ e = .suspend) trace

/-- The GPU renders a frame into the buffer that KMS has not taken. -/
def Rendering : Prop :=
  Since (fun _ e => ∃ slot, e = .queueSubmit2 i slot t)
    (fun _ e => e = .signalled t ∨ (∃ g a d, e = .accepted i g a d) ∨ e = .suspend) trace

/-- The GPU renders a frame with the descriptors in the slot. -/
def Bound : Prop :=
  Since (fun _ e => ∃ i, e = .queueSubmit2 i slot t)
    (fun _ e => e = .signalled t ∨ e = .suspend) trace

/-- A frame has been submitted with descriptors in the slot, which has not been reset since. -/
def Filled : Prop :=
  Since (fun _ e => ∃ i t, e = .queueSubmit2 i slot t)
    (fun _ e => e = .resetDescriptorPool slot) trace

end Trace

/-- The buffer and the slot of a frame are not in use. -/
def BufferUnused (before : List SceneEvent) (e : SceneEvent) : Prop :=
  ∀ i slot t, e = .queueSubmit2 i slot t → ¬ WithKms before i ∧ ∀ t', ¬ Rendering before i t'

/-- A slot is reset when the GPU is done with it, and before it is used again. -/
def SlotUnused (before : List SceneEvent) (e : SceneEvent) : Prop :=
  (∀ slot, e = .resetDescriptorPool slot → ∀ t, ¬ Bound before slot t) ∧
    ∀ i slot t, e = .queueSubmit2 i slot t → ¬ Filled before slot

def Safe (before : List SceneEvent) (e : SceneEvent) : Prop :=
  BufferUnused before e ∧ SlotUnused before e

/-- The frames whose descriptors are in slots, with their tickets. -/
def holders (o : Scanout) (flight : Option Flight) : List (Nat × FenceTicket) :=
  (flight.map fun f => (f.slot, f.ticket)).toList ++ (o.scene.pendingPoolReleases ++
    o.scene.failedSubmitBos.map fun failed => (failed.poolSlot, failed.ticket))

/-- What the state knows of what the trace says. -/
structure Traced (o : Scanout) (flight : Option Flight) : Prop where
  kms : ∀ i, WithKms o.trace i →
    o.pool.phaseAt i = some .Pending ∨ o.pool.phaseAt i = some .OnScreen
  rendering : ∀ i t, Rendering o.trace i t → t ∉ o.signalled ∧
    ∃ failed ∈ o.scene.failedSubmitBos, failed.boIdx = i ∧ failed.ticket = t
  bound : ∀ slot t, Bound o.trace slot t → t ∉ o.signalled ∧ (slot, t) ∈ o.holders flight
  filled : ∀ slot, Filled o.trace slot → o.scene.poolRing.inUse[slot]? = some true
  safe : AtEach Safe o.trace

/-! ## Quiet events -/

/-- The event is about a frame on its way to the screen. -/
def starts : SceneEvent → Bool
  | .queueSubmit2 .. | .accepted .. => true
  | _ => false

def resets : SceneEvent → Bool
  | .resetDescriptorPool _ => true
  | _ => false

theorem safe_of_quiet {e : SceneEvent} (hstarts : starts e = false) (hresets : resets e = false)
    (before : List SceneEvent) : Safe before e := by
  refine ⟨?_, ?_, ?_⟩
  · rintro i slot t rfl
    cases hstarts
  · rintro slot rfl
    cases hresets
  · rintro i slot t rfl
    cases hstarts

theorem Passes.quiet_events {events : List SceneEvent} {fds : List Int} (h : Passes events fds) :
    ∀ e ∈ events, starts e = false ∧ resets e = false := by
  intro e he
  rcases h.quiet e he with ⟨_, rfl⟩ | ⟨_, rfl⟩ | ⟨_, rfl⟩ | ⟨_, _, rfl⟩ <;> exact ⟨rfl, rfl⟩

section Append

variable {trace events : List SceneEvent} {i slot : Nat} {t : FenceTicket}
  (hquiet : ∀ e ∈ events, starts e = false)
include hquiet

theorem WithKms.of_append (h : WithKms (trace ++ events) i) :
    WithKms trace i ∧ ∀ e ∈ events, ¬ ((∃ j g, e = .flipComplete j g ∧ j ≠ i) ∨ e = .suspend) := by
  refine Since.of_append h fun e he ⟨g, a, d, heq⟩ => ?_
  have hstarts := hquiet e he
  rw [heq] at hstarts
  cases hstarts

theorem Rendering.of_append (h : Rendering (trace ++ events) i t) :
    Rendering trace i t ∧ ∀ e ∈ events,
      ¬ (e = .signalled t ∨ (∃ g a d, e = .accepted i g a d) ∨ e = .suspend) := by
  refine Since.of_append h fun e he ⟨slot, heq⟩ => ?_
  have hstarts := hquiet e he
  rw [heq] at hstarts
  cases hstarts

theorem Bound.of_append (h : Bound (trace ++ events) slot t) :
    Bound trace slot t ∧ ∀ e ∈ events, ¬ (e = .signalled t ∨ e = .suspend) := by
  refine Since.of_append h fun e he ⟨i, heq⟩ => ?_
  have hstarts := hquiet e he
  rw [heq] at hstarts
  cases hstarts

theorem Filled.of_append (h : Filled (trace ++ events) slot) :
    Filled trace slot ∧ ∀ e ∈ events, e ≠ .resetDescriptorPool slot := by
  refine Since.of_append h fun e he ⟨i, t, heq⟩ => ?_
  have hstarts := hquiet e he
  rw [heq] at hstarts
  cases hstarts

end Append

/-! ## Moves -/

variable {o : Scanout} {flight : Option Flight} {lost : List Nat} {i j slot : Nat}
  {t : FenceTicket}

theorem map_holders : (o.holders flight).map (·.1) = o.heldSlots flight := by
  cases flight <;> simp [holders, heldSlots, Function.comp_def]

/-- A slot holds the descriptors of one frame. -/
theorem Inv.holders_unique (h : Inv o flight lost) {t t' : FenceTicket}
    (hmem : (slot, t) ∈ o.holders flight) (hmem' : (slot, t') ∈ o.holders flight) : t = t' := by
  have hnodup := (List.nodup_append.mp h.taken.nodup).2.1
  rw [← map_holders] at hnodup
  exact congrArg Prod.snd (List.inj_on_of_nodup_map hnodup hmem hmem' rfl)

theorem Inv.inUse_of_holders (h : Inv o flight lost) (hmem : (slot, t) ∈ o.holders flight) :
    o.scene.poolRing.inUse[slot]? = some true := by
  refine (h.taken.mem_iff slot).mp (List.mem_append_right _ ?_)
  rw [← map_holders]
  exact List.mem_map_of_mem (f := Prod.fst) hmem

theorem getElem?_set_true {flags : List Bool} (h : flags[j]? = some true) :
    (flags.set i true)[j]? = some true := by
  have hlt := (List.getElem?_eq_some_iff.mp h).1
  rw [List.getElem?_set]
  split
  · rw [if_pos (by omega)]
  · exact h

theorem getElem?_set_false {flags : List Bool} (h : flags[j]? = some true) (hne : i ≠ j) :
    (flags.set i false)[j]? = some true := by
  rw [List.getElem?_set_ne hne, h]

namespace Traced

theorem signal (h : Traced o flight) (t : FenceTicket) : Traced (o.signal t) flight := by
  unfold Scanout.signal
  split
  · have hquiet : ∀ e ∈ [SceneEvent.signalled t], starts e = false :=
      List.forall_mem_singleton.mpr rfl
    have hother {t' : FenceTicket} (hold : t' ∉ o.signalled)
        (hevent : SceneEvent.signalled t ≠ .signalled t') : t' ∉ t :: o.signalled := by
      intro hmem
      rcases List.mem_cons.mp hmem with rfl | hmem
      · exact hevent rfl
      · exact hold hmem
    refine ⟨fun i hi => h.kms i (hi.of_append hquiet).1, fun i t' hi => ?_, fun slot t' hslot => ?_,
      fun slot hslot => h.filled slot (hslot.of_append hquiet).1, ?_⟩
    · obtain ⟨hbefore, hevents⟩ := hi.of_append hquiet
      obtain ⟨hnot, hfailed⟩ := h.rendering i t' hbefore
      exact ⟨hother hnot fun heq => hevents _ List.mem_cons_self (.inl heq), hfailed⟩
    · obtain ⟨hbefore, hevents⟩ := hslot.of_append hquiet
      obtain ⟨hnot, hholder⟩ := h.bound slot t' hbefore
      exact ⟨hother hnot fun heq => hevents _ List.mem_cons_self (.inl heq), hholder⟩
    · exact h.safe.append (List.forall_mem_singleton.mpr fun before => safe_of_quiet rfl rfl before)
  · exact h

theorem damage (h : Traced o flight) (r : Rect2D) :
    Traced (o.markSceneStructureDamageRect r) flight := by
  have hquiet : ∀ e ∈ [SceneEvent.sceneStructureDamage r], starts e = false :=
    List.forall_mem_singleton.mpr rfl
  exact
    { kms := fun i hi => h.kms i (hi.of_append hquiet).1
      rendering := fun i t hi => h.rendering i t (hi.of_append hquiet).1
      bound := fun slot t hslot => h.bound slot t (hslot.of_append hquiet).1
      filled := fun slot hslot => h.filled slot (hslot.of_append hquiet).1
      safe := h.safe.append
        (List.forall_mem_singleton.mpr fun before => safe_of_quiet rfl rfl before) }

theorem strand (h : Traced o flight) (slot : Nat) : Traced (o.takeSlot slot) flight :=
  { h with filled := fun j hj => getElem?_set_true (h.filled j hj) }

/-- A slot may be reset when no frame has it whose fence has not signalled. -/
theorem safe_reset (h : Traced o flight)
    (hnot : ∀ t, (slot, t) ∈ o.holders flight → t ∈ o.signalled) :
    AtEach Safe (o.trace ++ [.resetDescriptorPool slot]) := by
  refine AtEach.concat_iff.mpr ⟨h.safe, nofun, ?_, nofun⟩
  intro slot' heq t hbound
  cases heq
  obtain ⟨hsignalled, hmem⟩ := h.bound slot t hbound
  exact hsignalled (hnot t hmem)

theorem filled_reset (h : Traced o flight) {j : Nat}
    (hj : Filled (o.trace ++ [.resetDescriptorPool slot]) j) :
    slot ≠ j ∧ o.scene.poolRing.inUse[j]? = some true := by
  obtain ⟨hbefore, hevents⟩ := hj.of_append (List.forall_mem_singleton.mpr rfl)
  exact ⟨fun heq => hevents _ List.mem_cons_self (heq ▸ rfl), h.filled j hbefore⟩

theorem recycle (h : Traced o flight) (hinv : Inv o flight lost)
    {older newer : List FailedSubmitBo} {failed : FailedSubmitBo}
    (hqueue : o.scene.failedSubmitBos = older ++ failed :: newer)
    (hticket : failed.ticket ∈ o.signalled) :
    Traced (o.recycled failed (older ++ newer)) flight := by
  have hquiet : ∀ e ∈ [SceneEvent.resetDescriptorPool failed.poolSlot], starts e = false :=
    List.forall_mem_singleton.mpr rfl
  have hmem : failed ∈ o.scene.failedSubmitBos :=
    hqueue ▸ List.mem_append_right _ List.mem_cons_self
  have hholder : (failed.poolSlot, failed.ticket) ∈ o.holders flight :=
    List.mem_append_right _ (List.mem_append_right _ (List.mem_map_of_mem
      (f := fun failed : FailedSubmitBo => (failed.poolSlot, failed.ticket)) hmem))
  have hrest : ∀ other ∈ o.scene.failedSubmitBos, other.ticket ∉ o.signalled →
      other ∈ older ++ newer := by
    intro other hother hnot
    rw [hqueue] at hother
    rcases List.mem_append.mp hother with hold | hnew
    · exact List.mem_append_left _ hold
    · refine List.mem_append_right _ ((List.mem_cons.mp hnew).resolve_left ?_)
      rintro rfl
      exact hnot hticket
  refine
    { kms := fun i hi => ?_
      rendering := fun i t hi => ?_
      bound := fun slot t hslot => ?_
      filled := fun slot hslot => ?_
      safe := h.safe_reset fun t ht => hinv.holders_unique hholder ht ▸ hticket }
  · have hphase := h.kms i (hi.of_append hquiet).1
    have hne : failed.boIdx ≠ i := by
      rintro rfl
      rcases hinv.failed failed hmem with hrec | ⟨hfree, -⟩
      · rw [hrec] at hphase
        rcases hphase with heq | heq <;> cases heq
      · rw [hfree] at hphase
        rcases hphase with heq | heq <;> cases heq
    have hsame : (o.recycled failed (older ++ newer)).pool.phaseAt i = o.pool.phaseAt i :=
      congrArg (Option.map _) (stateAt_setState_ne hne)
    rwa [hsame]
  · obtain ⟨hnot, other, hother, heq, rfl⟩ := h.rendering i t (hi.of_append hquiet).1
    exact ⟨hnot, other, hrest other hother hnot, heq, rfl⟩
  · obtain ⟨hnot, hholds⟩ := h.bound slot t (hslot.of_append hquiet).1
    refine ⟨hnot, ?_⟩
    rcases List.mem_append.mp hholds with hflight | hqueues
    · exact List.mem_append_left _ hflight
    · refine List.mem_append_right _ ?_
      rcases List.mem_append.mp hqueues with hrelease | hfailed
      · exact List.mem_append_left _ hrelease
      · obtain ⟨other, hother, heq⟩ := List.mem_map.mp hfailed
        cases heq
        exact List.mem_append_right _ (List.mem_map_of_mem
          (f := fun failed : FailedSubmitBo => (failed.poolSlot, failed.ticket))
          (hrest other hother hnot))
  · obtain ⟨hne, htrue⟩ := h.filled_reset hslot
    exact getElem?_set_false htrue hne

theorem release (h : Traced o flight) (hinv : Inv o flight lost)
    {older newer : List (Nat × FenceTicket)} {ticket : FenceTicket}
    (hqueue : o.scene.pendingPoolReleases = older ++ (slot, ticket) :: newer)
    (hticket : ticket ∈ o.signalled) : Traced (o.released slot (older ++ newer)) flight := by
  have hquiet : ∀ e ∈ [SceneEvent.resetDescriptorPool slot], starts e = false :=
    List.forall_mem_singleton.mpr rfl
  have hmem : (slot, ticket) ∈ o.scene.pendingPoolReleases :=
    hqueue ▸ List.mem_append_right _ List.mem_cons_self
  have hholder : (slot, ticket) ∈ o.holders flight :=
    List.mem_append_right _ (List.mem_append_left _ hmem)
  refine
    { kms := fun i hi => h.kms i (hi.of_append hquiet).1
      rendering := fun i t hi => h.rendering i t (hi.of_append hquiet).1
      bound := fun slot' t hslot => ?_
      filled := fun slot' hslot => ?_
      safe := h.safe_reset fun t ht => hinv.holders_unique hholder ht ▸ hticket }
  · obtain ⟨hnot, hholds⟩ := h.bound slot' t (hslot.of_append hquiet).1
    refine ⟨hnot, ?_⟩
    rcases List.mem_append.mp hholds with hflight | hqueues
    · exact List.mem_append_left _ hflight
    · refine List.mem_append_right _ ?_
      rcases List.mem_append.mp hqueues with hrelease | hfailed
      · refine List.mem_append_left _ ?_
        rw [hqueue] at hrelease
        rcases List.mem_append.mp hrelease with hold | hnew
        · exact List.mem_append_left _ hold
        · refine List.mem_append_right _ ((List.mem_cons.mp hnew).resolve_left ?_)
          rintro heq
          cases heq
          exact hnot hticket
      · exact List.mem_append_right _ hfailed
  · obtain ⟨hne, htrue⟩ := h.filled_reset hslot
    exact getElem?_set_false htrue hne

/-- Nothing holds a slot that is free. -/
theorem not_holder (hinv : Inv o flight lost) (hready : Ready o i slot) (t : FenceTicket) :
    (slot, t) ∉ o.holders flight := by
  intro hmem
  have htrue := hinv.inUse_of_holders hmem
  rw [hready.slot] at htrue
  cases htrue

theorem kms_begun (h : Traced o flight) (hready : Ready o i slot) (invalid : Bool) {s : BoState}
    (hj : WithKms o.trace j) :
    (o.begun i slot invalid s).pool.phaseAt j = o.pool.phaseAt j ∧ j ≠ i := by
  have hne : j ≠ i := by
    rintro rfl
    have hphase := h.kms j hj
    rw [hready.free] at hphase
    rcases hphase with heq | heq <;> cases heq
  rw [hready.phaseAt_begun invalid, if_neg hne]
  exact ⟨rfl, hne⟩

theorem abort (h : Traced o flight) (hinv : Inv o flight lost) (hready : Ready o i slot)
    (invalid : Bool) (damage : RegionSet) (failedAt : Nat) :
    Traced (o.aborted i slot invalid damage failedAt) flight := by
  have hquiet : ∀ e ∈ [SceneEvent.resetDescriptorPool slot], starts e = false :=
    List.forall_mem_singleton.mpr rfl
  refine
    { kms := fun j hj => ?_
      rendering := fun j t hj => h.rendering j t (hj.of_append hquiet).1
      bound := fun slot' t hslot => h.bound slot' t (hslot.of_append hquiet).1
      filled := fun slot' hslot => ?_
      safe := h.safe_reset fun t ht => absurd ht (not_holder hinv hready t) }
  · have hbefore := (hj.of_append hquiet).1
    have hphase := h.kms j hbefore
    rw [← (h.kms_begun hready invalid (s := .default) hbefore).1] at hphase
    exact hphase
  · obtain ⟨hne, htrue⟩ := h.filled_reset hslot
    exact getElem?_set_false (getElem?_set_true htrue) hne

/-- A frame may be submitted with a buffer and a slot that a tick has found. -/
theorem safe_submit (h : Traced o flight) (hinv : Inv o flight lost) (hready : Ready o i slot)
    (t : FenceTicket) : AtEach Safe (o.trace ++ [.queueSubmit2 i slot t]) := by
  refine AtEach.concat_iff.mpr ⟨h.safe, ?_, nofun, ?_⟩
  · intro i' slot' t' heq
    cases heq
    refine ⟨fun hkms => (h.kms_begun hready false (s := .default) hkms).2 rfl,
      fun t' hrendering => ?_⟩
    obtain ⟨-, failed, hmem, heq, -⟩ := h.rendering i t' hrendering
    exact hinv.boIdx_ne hready hmem heq
  · intro i' slot' t' heq hfilled
    cases heq
    have htrue := h.filled slot hfilled
    rw [hready.slot] at htrue
    cases htrue

theorem filled_submit (h : Traced o flight) (hready : Ready o i slot)
    (hj : Filled (o.trace ++ [.queueSubmit2 i slot t]) j) :
    (o.scene.poolRing.inUse.set slot true)[j]? = some true := by
  rcases Since.concat_iff.mp hj with ⟨_, _, heq⟩ | ⟨hbefore, -⟩
  · cases heq
    have hlt := (List.getElem?_eq_some_iff.mp hready.slot).1
    rw [List.getElem?_set_self hlt]
  · exact getElem?_set_true (h.filled j hbefore)

theorem reject (h : Traced o flight) (hinv : Inv o flight lost) (hready : Ready o i slot)
    (invalid : Bool) {others : List SceneEvent} (hothers : Passes others []) (damage : RegionSet)
    (failedAt : Nat) : Traced (o.rejected i slot invalid others damage failedAt) flight := by
  have hquiet : ∀ e ∈ others, starts e = false := fun e he => (hothers.quiet_events e he).1
  have htrace : (o.rejected i slot invalid others damage failedAt).trace =
      (o.trace ++ [.queueSubmit2 i slot o.nextTicket]) ++ others := List.append_cons ..
  have hnew : o.nextTicket ∉ o.signalled := fun hmem => Nat.lt_irrefl _ (hinv.issued _ hmem)
  refine
    { kms := fun j hj => ?_
      rendering := fun j t hj => ?_
      bound := fun slot' t hslot => ?_
      filled := fun slot' hslot => ?_
      safe := ?_ }
  · rw [htrace] at hj
    rcases Since.concat_iff.mp (hj.of_append hquiet).1 with ⟨_, _, _, heq⟩ | ⟨hbefore, -⟩
    · cases heq
    · have hphase := h.kms j hbefore
      rw [← (h.kms_begun hready invalid (s := ⟨.Recording, none, none⟩) hbefore).1] at hphase
      exact hphase
  · rw [htrace] at hj
    rcases Since.concat_iff.mp (hj.of_append hquiet).1 with ⟨_, heq⟩ | ⟨hbefore, -⟩
    · cases heq
      exact ⟨hnew, _, List.mem_concat_self, rfl, rfl⟩
    · obtain ⟨hnot, failed, hmem, heq⟩ := h.rendering j t hbefore
      exact ⟨hnot, failed, List.mem_append_left _ hmem, heq⟩
  · rw [htrace] at hslot
    have hholders : ∀ entry, entry ∈ o.holders flight ∨ entry = (slot, o.nextTicket) →
        entry ∈ (o.rejected i slot invalid others damage failedAt).holders flight := by
      intro entry hentry
      change entry ∈ _ ++ (_ ++ List.map _ (o.scene.failedSubmitBos ++ [_]))
      rw [List.map_append, ← List.append_assoc, ← List.append_assoc,
        List.append_assoc (Option.toList _)]
      exact List.mem_append.mpr (hentry.imp_right List.mem_singleton.mpr)
    rcases Since.concat_iff.mp (hslot.of_append hquiet).1 with ⟨_, heq⟩ | ⟨hbefore, -⟩
    · cases heq
      exact ⟨hnew, hholders _ (.inr rfl)⟩
    · obtain ⟨hnot, hmem⟩ := h.bound slot' t hbefore
      exact ⟨hnot, hholders _ (.inl hmem)⟩
  · rw [htrace] at hslot
    exact h.filled_submit hready (hslot.of_append hquiet).1
  · rw [htrace]
    refine (h.safe_submit hinv hready _).append fun e he => ?_
    obtain ⟨hstarts, hresets⟩ := hothers.quiet_events e he
    exact safe_of_quiet hstarts hresets

theorem commit (h : Traced o none) (hinv : Inv o none lost) (hready : Ready o i slot)
    {others : List SceneEvent} {fd : Option Int} (hothers : Passes others fd.toList)
    (built : BuiltScene) : Traced (o.committed i slot others fd built)
      (some ⟨pendingAck o.scene built i o.nextTicket, slot, o.nextTicket⟩) := by
  have hquiet : ∀ e ∈ others, starts e = false := fun e he => (hothers.quiet_events e he).1
  let ack := pendingAck o.scene built i o.nextTicket
  let accepted := [SceneEvent.accepted i ack.generation built.cursorAssignment
    ack.submittedOutputDamage]
  have htouch : ∀ e ∈ [SceneEvent.touchRenderFence built.sampledIds o.nextTicket],
      starts e = false := List.forall_mem_singleton.mpr rfl
  have htrace : (o.committed i slot others fd built).trace =
      (((o.trace ++ [.queueSubmit2 i slot o.nextTicket]) ++ others) ++ accepted) ++
        [.touchRenderFence built.sampledIds o.nextTicket] := by
    rw [List.append_assoc _ accepted, List.append_assoc o.trace]
    rfl
  have hnew : o.nextTicket ∉ o.signalled := fun hmem => Nat.lt_irrefl _ (hinv.issued _ hmem)
  refine
    { kms := fun j hj => ?_
      rendering := fun j t hj => ?_
      bound := fun slot' t hslot => ?_
      filled := fun slot' hslot => ?_
      safe := ?_ }
  · rw [htrace] at hj
    rcases Since.concat_iff.mp (hj.of_append htouch).1 with ⟨_, _, _, heq⟩ | ⟨hbefore, -⟩
    · cases heq
      refine .inl ((hready.phaseAt_begun (s := ⟨.Pending, none, fd⟩) false).trans (if_pos rfl))
    · rcases Since.concat_iff.mp (WithKms.of_append hquiet hbefore).1 with
        ⟨_, _, _, heq⟩ | ⟨hbefore, -⟩
      · cases heq
      · have hphase := h.kms j hbefore
        rw [← (h.kms_begun hready false (s := ⟨.Pending, none, fd⟩) hbefore).1] at hphase
        exact hphase
  · rw [htrace] at hj
    rcases Since.concat_iff.mp (hj.of_append htouch).1 with ⟨_, heq⟩ | ⟨hbefore, hnot⟩
    · cases heq
    · rcases Since.concat_iff.mp (Rendering.of_append hquiet hbefore).1 with ⟨_, heq⟩ | ⟨hbefore, -⟩
      · cases heq
        exact absurd (.inr (.inl ⟨_, _, _, rfl⟩)) hnot
      · exact h.rendering j t hbefore
  · rw [htrace] at hslot
    rcases Since.concat_iff.mp (hslot.of_append htouch).1 with ⟨_, heq⟩ | ⟨hbefore, -⟩
    · cases heq
    · rcases Since.concat_iff.mp (Bound.of_append hquiet hbefore).1 with ⟨_, heq⟩ | ⟨hbefore, -⟩
      · cases heq
        exact ⟨hnew, List.mem_cons_self⟩
      · obtain ⟨hnot, hmem⟩ := h.bound slot' t hbefore
        exact ⟨hnot, List.mem_cons_of_mem _ hmem⟩
  · rw [htrace] at hslot
    rcases Since.concat_iff.mp (hslot.of_append htouch).1 with ⟨_, _, heq⟩ | ⟨hbefore, -⟩
    · cases heq
    · exact h.filled_submit hready (Filled.of_append hquiet hbefore).1
  · rw [htrace]
    refine AtEach.append (AtEach.concat_iff.mpr ⟨?_, nofun, nofun, nofun⟩)
      (List.forall_mem_singleton.mpr fun before => safe_of_quiet rfl rfl before)
    refine (h.safe_submit hinv hready _).append fun e he => ?_
    obtain ⟨hstarts, hresets⟩ := hothers.quiet_events e he
    exact safe_of_quiet hstarts hresets

theorem quiet_closed (closed : List Int) :
    ∀ e ∈ closed.map SceneEvent.closed, starts e = false ∧ resets e = false := by
  intro e he
  obtain ⟨_, -, rfl⟩ := List.mem_map.mp he
  exact ⟨rfl, rfl⟩

theorem quiet_cursorCalls (transition : Option CursorTransition) (cursor : CursorAnswers) :
    ∀ e ∈ cursorCalls transition cursor, starts e = false ∧ resets e = false := by
  intro e he
  rcases mem_cursorCalls he with ⟨_, rfl⟩ | ⟨_, rfl⟩ <;> exact ⟨rfl, rfl⟩

/-- Events that are about neither a frame nor a slot. -/
theorem emit (h : Traced o flight) {events : List SceneEvent}
    (hevents : ∀ e ∈ events, starts e = false ∧ resets e = false) :
    Traced (o.emit events) flight := by
  have hquiet : ∀ e ∈ events, starts e = false := fun e he => (hevents e he).1
  exact
    { kms := fun i hi => h.kms i (hi.of_append hquiet).1
      rendering := fun i t hi => h.rendering i t (hi.of_append hquiet).1
      bound := fun slot t hslot => h.bound slot t (hslot.of_append hquiet).1
      filled := fun slot hslot => h.filled slot (hslot.of_append hquiet).1
      safe := h.safe.append fun e he => safe_of_quiet (hevents e he).1 (hevents e he).2 }

variable {f : Flight} {s : BoState} {prev : Option (Nat × BoState)}

theorem defer (h : Traced o (some f)) (hbo : o.pool.stateAt f.ack.boIdx = some s)
    (hprev : ∀ j st, prev = some (j, st) → o.pool.stateAt j = some st ∧ st.phase = .OnScreen)
    (closed : List Int) :
    Traced (o.deferred f.slot f.ack f.ticket (o.pool.flipped f.ack.boIdx s prev) closed) none := by
  let events := closed.map .closed ++ [SceneEvent.flipComplete f.ack.boIdx f.ack.generation,
    .ackPresentationDamage f.ack.drawableSnapshots]
  have htrace : (o.deferred f.slot f.ack f.ticket (o.pool.flipped f.ack.boIdx s prev)
      closed).trace = o.trace ++ events := List.append_assoc ..
  have hevents : ∀ e ∈ events, starts e = false ∧ resets e = false := by
    intro e he
    rcases List.mem_append.mp he with he | he
    · exact quiet_closed closed e he
    · rcases List.mem_pair.mp he with rfl | rfl <;> exact ⟨rfl, rfl⟩
  have hquiet : ∀ e ∈ events, starts e = false := fun e he => (hevents e he).1
  refine
    { kms := fun j hj => ?_
      rendering := fun j t hj => ?_
      bound := fun slot t hslot => ?_
      filled := fun slot hslot => ?_
      safe := ?_ }
  · rw [htrace] at hj
    have hnot := (hj.of_append hquiet).2 (.flipComplete f.ack.boIdx f.ack.generation)
      (List.mem_append_right _ List.mem_cons_self)
    have heq : f.ack.boIdx = j := by
      by_contra hne
      exact hnot (.inl ⟨_, _, rfl, hne⟩)
    subst heq
    refine .inr ?_
    change (o.pool.flipped f.ack.boIdx s prev).phaseAt _ = _
    rw [phaseAt, stateAt_flipped hbo fun j st heq => (hprev j st heq).1, if_pos rfl]
    rfl
  · rw [htrace] at hj
    exact h.rendering j t (hj.of_append hquiet).1
  · rw [htrace] at hslot
    obtain ⟨hnot, hmem⟩ := h.bound slot t (hslot.of_append hquiet).1
    refine ⟨hnot, ?_⟩
    refine List.mem_append_right [] ?_
    change _ ∈ (o.scene.pendingPoolReleases ++ [(f.slot, f.ticket)]) ++ _
    rcases List.mem_append.mp hmem with hflight | hqueues
    · rw [List.mem_singleton.mp hflight]
      exact List.mem_append_left _ List.mem_concat_self
    · rcases List.mem_append.mp hqueues with hrelease | hfailed
      · exact List.mem_append_left _ (List.mem_append_left _ hrelease)
      · exact List.mem_append_right _ hfailed
  · rw [htrace] at hslot
    exact h.filled slot (hslot.of_append hquiet).1
  · rw [htrace]
    exact h.safe.append fun e he => safe_of_quiet (hevents e he).1 (hevents e he).2

theorem flip (h : Traced o (some f)) (hinv : Inv o (some f) lost)
    (hbo : o.pool.stateAt f.ack.boIdx = some s) (hphase : s.phase = .Pending)
    (hprev : ∀ j st, prev = some (j, st) → o.pool.stateAt j = some st ∧ st.phase = .OnScreen)
    (hlast : prev = none → ∀ j, o.pool.phaseAt j ≠ some .OnScreen) (closed : List Int)
    (cursor : CursorAnswers) :
    Traced (o.flipped f.slot f.ack f.ticket (o.pool.flipped f.ack.boIdx s prev) closed cursor)
      none := by
  have hdeferred := h.defer hbo hprev closed
  have hlanded : Traced (o.landed f.slot f.ack f.ticket (o.pool.flipped f.ack.boIdx s prev) closed)
      none := by
    unfold landed
    split
    · next hticket =>
      have hqueue : (o.deferred f.slot f.ack f.ticket (o.pool.flipped f.ack.boIdx s prev)
          closed).scene.pendingPoolReleases =
            o.scene.pendingPoolReleases ++ (f.slot, f.ticket) :: [] := rfl
      have hreleased := hdeferred.release (hinv.defer hbo hphase hprev hlast closed) hqueue
        (List.contains_iff_mem.mp hticket)
      rw [List.append_nil] at hreleased
      exact hreleased
    · exact hdeferred
  have hemitted := hlanded.emit (quiet_cursorCalls f.ack.cursorTransition cursor)
  exact { hemitted with }

theorem getElem?_foldl_set_false {slots : List Nat} {flags : List Bool} (hnot : j ∉ slots)
    (h : flags[j]? = some true) :
    (slots.foldl (fun flags slot => flags.set slot false) flags)[j]? = some true := by
  induction slots generalizing flags with
  | nil => exact h
  | cons slot slots ih =>
    have hne := List.ne_of_not_mem_cons hnot
    exact ih (List.not_mem_of_not_mem_cons hnot) (getElem?_set_false h (Ne.symm hne))

theorem light (h : Traced o flight) (ok active : Bool) : Traced (o.lit ok active) flight := by
  have hactive : Traced { o with active := active } flight := { h with }
  refine hactive.emit fun e he => ?_
  obtain ⟨_, -, rfl⟩ := List.mem_map.mp he
  exact ⟨rfl, rfl⟩

theorem suspend (h : Traced o flight) (cursor : CursorAnswers) (active : Bool) :
    Traced (o.suspended cursor active) none := by
  let events : List SceneEvent := .suspend :: (o.scene.poolSlots.map .resetDescriptorPool ++
    (.cursorHide cursor.setCursor2 :: o.pool.resetForSuspend.2.map .closed))
  have hquiet : ∀ e ∈ events, starts e = false := by
    intro e he
    rcases List.mem_cons.mp he with rfl | he
    · rfl
    · rcases List.mem_append.mp he with he | he
      · obtain ⟨_, -, rfl⟩ := List.mem_map.mp he
        rfl
      · rcases List.mem_cons.mp he with rfl | he
        · rfl
        · exact (quiet_closed _ e he).1
  have hsuspend : SceneEvent.suspend ∈ events := List.mem_cons_self
  refine
    { kms := fun i hi => absurd (.inr rfl) ((WithKms.of_append hquiet hi).2 _ hsuspend)
      rendering := fun i t hi =>
        absurd (.inr (.inr rfl)) ((Rendering.of_append hquiet hi).2 _ hsuspend)
      bound := fun slot t hslot =>
        absurd (.inr rfl) ((Bound.of_append hquiet hslot).2 _ hsuspend)
      filled := fun slot hslot => ?_
      safe := ?_ }
  · obtain ⟨hbefore, hnot⟩ := Filled.of_append hquiet hslot
    refine getElem?_foldl_set_false (fun hmem => ?_) (h.filled slot hbefore)
    exact hnot _ (List.mem_cons_of_mem _ (List.mem_append_left _ (List.mem_map_of_mem hmem))) rfl
  · refine AtEach.append_iff.mpr ⟨h.safe, AtEach.cons_iff.mpr ⟨safe_of_quiet rfl rfl _, ?_⟩⟩
    rintro mid e rest hsplit
    have hmid : ∀ e' ∈ .suspend :: mid, starts e' = false := by
      intro e' he'
      refine hquiet e' ?_
      rcases List.mem_cons.mp he' with rfl | he'
      · exact hsuspend
      · exact List.mem_cons_of_mem _ (hsplit ▸ List.mem_append_left _ he')
    have hstarts : starts e = false :=
      hquiet e (List.mem_cons_of_mem _ (hsplit ▸ List.mem_append_right _ List.mem_cons_self))
    refine ⟨?_, ?_, ?_⟩
    · rintro i slot t rfl
      cases hstarts
    · intro slot heq t hbound
      exact absurd (.inr rfl) ((Bound.of_append hmid hbound).2 _ List.mem_cons_self)
    · rintro i slot t rfl
      cases hstarts

end Traced

/-! ## Runs -/

theorem traced_move {o' : Scanout} (hinv : Inv o flight lost) (h : Traced o flight)
    (hmove : Move o o') : ∃ flight' lost', Inv o' flight' lost' ∧ Traced o' flight' := by
  cases hmove with
  | signal t => exact ⟨_, _, hinv.signal t, h.signal t⟩
  | damage r => exact ⟨_, _, hinv.damage r, h.damage r⟩
  | recycle hqueue hticket => exact ⟨_, _, hinv.recycle hqueue, h.recycle hinv hqueue hticket⟩
  | release hqueue hticket => exact ⟨_, _, hinv.release hqueue, h.release hinv hqueue hticket⟩
  | strand hready => exact ⟨_, _, hinv.strand hready, h.strand _⟩
  | abort hready invalid damage failedAt =>
    exact ⟨_, _, hinv.abort hready invalid damage failedAt,
      h.abort hinv hready invalid damage failedAt⟩
  | reject hready invalid damage failedAt hothers =>
    exact ⟨_, _, hinv.reject hready invalid _ damage failedAt,
      h.reject hinv hready invalid hothers damage failedAt⟩
  | commit hready built hothers =>
    cases hinv.flight_eq_none hready.noAcks
    exact ⟨_, _, hinv.commit hready _ _ built, h.commit hinv hready hothers built⟩
  | flip cursor hacks hslots hticket hbo hphase hprev hlast =>
    cases hinv.eq_flight hacks hslots hticket
    exact ⟨_, _, hinv.flip hbo hphase hprev hlast _ cursor,
      h.flip hinv hbo hphase hprev hlast _ cursor⟩
  | suspend cursor active =>
    exact ⟨_, _, hinv.suspend cursor active, h.suspend cursor active⟩
  | light ok active => exact ⟨_, _, hinv.light ok active, h.light ok active⟩
  | rebind => exact ⟨_, _, hinv.emit _, h.emit (List.forall_mem_singleton.mpr ⟨rfl, rfl⟩)⟩

theorem new_traced (n : Nat) (extent : UInt32 × UInt32) (fbHandle : Nat → UInt32) :
    Traced (new n extent fbHandle) none where
  kms _ h := absurd h Since.not_nil
  rendering _ _ h := absurd h Since.not_nil
  bound _ _ h := absurd h Since.not_nil
  filled _ h := absurd h Since.not_nil
  safe := .nil

/-- Every run goes through, as a sequence of moves from the start. -/
theorem run_spec (n : Nat) (extent : UInt32 × UInt32) (fbHandle : Nat → UInt32)
    (actions : List Action) :
    ∃ o, (new n extent fbHandle).run actions = some o ∧
      Relation.ReflTransGen Move (new n extent fbHandle) o ∧
      ∃ flight lost, Inv o flight lost ∧ Traced o flight := by
  induction actions using List.reverseRecOn with
  | nil => exact ⟨_, rfl, .refl, _, _, new_inv n extent fbHandle, new_traced n extent fbHandle⟩
  | append_singleton actions action ih =>
    obtain ⟨o, ho, hmoves, flight, lost, hinv, htraced⟩ := ih
    obtain ⟨o', ho', hmoves'⟩ := act_spec hinv action
    refine ⟨o', ?_, hmoves.trans hmoves', ?_⟩
    · rw [run, List.foldlM_append]
      exact (congrArg (Option.bind · _) ho).trans (by simpa using ho')
    · clear ho' hmoves
      induction hmoves' with
      | refl => exact ⟨flight, lost, hinv, htraced⟩
      | tail _ hmove ih =>
        obtain ⟨_, _, hinv, htraced⟩ := ih
        exact traced_move hinv htraced hmove

/-- In every run a descriptor pool is reset when the GPU has finished the frame that uses it, and
before it is used again. -/
theorem slots_unused (n : Nat) (extent : UInt32 × UInt32) (fbHandle : Nat → UInt32)
    (actions : List Action) :
    ∃ o, (new n extent fbHandle).run actions = some o ∧ AtEach SlotUnused o.trace := by
  obtain ⟨o, ho, -, _, _, -, htraced⟩ := run_spec n extent fbHandle actions
  exact ⟨o, ho, htraced.safe.imp fun _ _ h => h.2⟩

end Scanout

end X12

import X12.Verify.SceneTrace

/-! # Flips and their fences

KMS is asked for one flip at a time, and a flip that completes is the one that was asked
for. Each file descriptor that is received is held by one buffer until it is closed. -/

namespace X12

def BoState.fds (s : BoState) : List Int := s.inFenceFd.toList ++ s.releaseFenceFd.toList

namespace Scanout

open ScanoutPool Runs

variable {o o' : Scanout} {flight : Option Flight} {lost : List Nat} {i j slot : Nat}
  {t : FenceTicket}

/-! ## Flips -/

/-- KMS has accepted the frame as the last one, and no flip has completed since. -/
def Awaiting (trace : List SceneEvent) (i generation : Nat) : Prop :=
  Since (fun _ e => ∃ a d, e = .accepted i generation a d)
    (fun _ e => ((∃ j g, e = .flipComplete j g) ∨ e = .suspend) ∨ ∃ j g a d, e = .accepted j g a d)
    trace

def acceptedFrames (trace : List SceneEvent) : List Nat :=
  trace.filterMap fun e => match e with
    | .accepted _ g _ _ => some g
    | _ => none

/-- No frame is submitted while another one is under way to the screen, and the flip that
completes is the one to its buffer. Frames are numbered in the order in which KMS accepts them. -/
def InTurn (before : List SceneEvent) (e : SceneEvent) : Prop :=
  (∀ i slot t, e = .queueSubmit2 i slot t → ∀ j g, ¬ Awaiting before j g) ∧
  (∀ i g, e = .flipComplete i g → Awaiting before i g) ∧
  ∀ i g a d, e = .accepted i g a d → g = (acceptedFrames before).length + 1

structure Awaited (o : Scanout) (flight : Option Flight) : Prop where
  awaiting : ∀ i g, Awaiting o.trace i g ↔
    ∃ f, flight = some f ∧ f.ack.boIdx = i ∧ f.ack.generation = g
  generation : o.scene.currentGeneration = (acceptedFrames o.trace).length
  inTurn : AtEach InTurn o.trace

/-- The event is about a flip. -/
def flips : SceneEvent → Bool
  | .queueSubmit2 .. | .accepted .. | .flipComplete .. | .suspend => true
  | _ => false

theorem inTurn_of_quiet {e : SceneEvent} (h : flips e = false) (before : List SceneEvent) :
    InTurn before e := by
  refine ⟨?_, ?_, ?_⟩
  · rintro i slot t rfl
    cases h
  · rintro i g rfl
    cases h
  · rintro i g a d rfl
    cases h

theorem awaiting_append {trace events : List SceneEvent} {g : Nat}
    (h : ∀ e ∈ events, flips e = false) : Awaiting (trace ++ events) i g ↔ Awaiting trace i g := by
  refine Since.append_iff (fun e he ⟨_, _, heq⟩ => ?_) fun e he hor => ?_
  · have hflips := h e he
    rw [heq] at hflips
    cases hflips
  · have hflips := h e he
    rcases hor with (⟨_, _, rfl⟩ | rfl) | ⟨_, _, _, _, rfl⟩ <;> cases hflips

theorem acceptedFrames_append {trace events : List SceneEvent} (h : ∀ e ∈ events, flips e = false) :
    acceptedFrames (trace ++ events) = acceptedFrames trace := by
  rw [acceptedFrames, List.filterMap_append, ← acceptedFrames]
  refine (congrArg _ (List.filterMap_eq_nil_iff.mpr fun e he => ?_)).trans (List.append_nil _)
  have hflips := h e he
  cases e with
  | accepted => cases hflips
  | _ => rfl

theorem Passes.no_flips {events : List SceneEvent} {fds : List Int} (h : Passes events fds) :
    ∀ e ∈ events, flips e = false := by
  intro e he
  rcases h.quiet e he with ⟨_, rfl⟩ | ⟨_, rfl⟩ | ⟨_, rfl⟩ | ⟨_, _, rfl⟩ <;> rfl

theorem no_flips_closed (closed : List Int) :
    ∀ e ∈ closed.map SceneEvent.closed, flips e = false := by
  intro e he
  obtain ⟨_, -, rfl⟩ := List.mem_map.mp he
  rfl

theorem no_flips_afterFlip {e : SceneEvent} (h : AfterFlip e) : flips e = false := by
  rcases h with ⟨_, rfl⟩ | ⟨_, rfl⟩ | ⟨_, rfl⟩ | ⟨_, rfl⟩ <;> rfl

theorem no_flips_modeset (bo : Option Nat) (ok : Bool) :
    ∀ e ∈ bo.toList.map (SceneEvent.modeset · ok), flips e = false := by
  intro e he
  obtain ⟨_, -, rfl⟩ := List.mem_map.mp he
  rfl

namespace Awaited

/-- Moves that are not about a flip. -/
theorem quiet (h : Awaited o flight) {events : List SceneEvent}
    (hevents : ∀ e ∈ events, flips e = false) (htrace : o'.trace = o.trace ++ events)
    (hgeneration : o'.scene.currentGeneration = o.scene.currentGeneration) :
    Awaited o' flight where
  awaiting i g := by rw [htrace, awaiting_append hevents, h.awaiting]
  generation := by rw [htrace, acceptedFrames_append hevents, hgeneration, h.generation]
  inTurn := by
    rw [htrace]
    exact h.inTurn.append fun e he before => inTurn_of_quiet (hevents e he) before

/-- A frame is submitted where none is under way. -/
theorem submit (h : Awaited o none) {events : List SceneEvent}
    (hevents : ∀ e ∈ events, flips e = false)
    (htrace : o'.trace = (o.trace ++ [.queueSubmit2 i slot t]) ++ events)
    (hgeneration : o'.scene.currentGeneration = o.scene.currentGeneration) : Awaited o' none := by
  have hnone : ∀ j g, ¬ Awaiting o.trace j g := by
    intro j g hj
    obtain ⟨_, heq, -⟩ := (h.awaiting j g).mp hj
    cases heq
  have hsubmit : ∀ j g,
      Awaiting (o.trace ++ [.queueSubmit2 i slot t]) j g ↔ Awaiting o.trace j g := by
    intro j g
    refine Since.append_iff ?_ ?_ <;> simp
  refine ⟨fun j g => ?_, ?_, ?_⟩
  · rw [htrace, awaiting_append hevents, hsubmit]
    exact h.awaiting j g
  · rw [htrace, acceptedFrames_append hevents, hgeneration, h.generation, acceptedFrames,
      acceptedFrames, List.filterMap_append]
    exact (congrArg List.length (List.append_nil _)).symm
  · rw [htrace]
    refine AtEach.append (AtEach.concat_iff.mpr ⟨h.inTurn, fun _ _ _ _ => hnone, nofun, nofun⟩) ?_
    exact fun e he before => inTurn_of_quiet (hevents e he) before

theorem commit (h : Awaited o none) {others : List SceneEvent} {fd : Option Int}
    (hothers : Passes others fd.toList) (built : BuiltScene) :
    Awaited (o.committed i slot others fd built)
      (some ⟨pendingAck o.scene built i o.nextTicket, slot, o.nextTicket⟩) := by
  let ack := pendingAck o.scene built i o.nextTicket
  let o₁ := (o.begun i slot false ⟨.Pending, none, fd⟩).emit
    (.queueSubmit2 i slot o.nextTicket :: others)
  have h₁ : Awaited o₁ none :=
    h.submit hothers.no_flips (List.append_cons ..) rfl
  let accepted : SceneEvent := .accepted i ack.generation built.cursorAssignment
    ack.submittedOutputDamage
  have htouch : ∀ e ∈ [SceneEvent.touchRenderFence built.sampledIds o.nextTicket],
      flips e = false := List.forall_mem_singleton.mpr rfl
  have htrace : (o.committed i slot others fd built).trace = (o₁.trace ++ [accepted]) ++
      [.touchRenderFence built.sampledIds o.nextTicket] := List.append_cons ..
  have hgeneration : ack.generation = (acceptedFrames o₁.trace).length + 1 :=
    congrArg (· + 1) h₁.generation
  refine ⟨fun j g => ?_, ?_, ?_⟩
  · rw [htrace, awaiting_append htouch, Awaiting, Since.concat_iff]
    constructor
    · rintro (⟨_, _, heq⟩ | ⟨hbefore, -⟩)
      · obtain ⟨hi, hg, -⟩ := SceneEvent.accepted.inj heq
        exact ⟨_, rfl, hi, hg⟩
      · obtain ⟨_, heq, -⟩ := (h₁.awaiting j g).mp hbefore
        cases heq
    · rintro ⟨_, heq, rfl, rfl⟩
      cases heq
      exact .inl ⟨_, _, rfl⟩
  · rw [htrace, acceptedFrames_append htouch, acceptedFrames, List.filterMap_append,
      List.length_append]
    exact hgeneration
  · rw [htrace]
    refine AtEach.append (AtEach.concat_iff.mpr ⟨h₁.inTurn, nofun, nofun, ?_⟩)
      (List.forall_mem_singleton.mpr fun before => inTurn_of_quiet rfl before)
    intro _ _ _ _ heq
    exact (SceneEvent.accepted.inj heq).2.1.symm.trans hgeneration

/-- The flip of the frame that is under way has completed. -/
theorem complete {f : Flight} (h : Awaited o (some f)) {first last : List SceneEvent}
    (hfirst : ∀ e ∈ first, flips e = false) (hlast : ∀ e ∈ last, flips e = false)
    (htrace : o'.trace =
      ((o.trace ++ first) ++ [.flipComplete f.ack.boIdx f.ack.generation]) ++ last)
    (hgeneration : o'.scene.currentGeneration = o.scene.currentGeneration) : Awaited o' none := by
  have hawaiting : Awaiting (o.trace ++ first) f.ack.boIdx f.ack.generation :=
    (awaiting_append hfirst).mpr ((h.awaiting _ _).mpr ⟨f, rfl, rfl, rfl⟩)
  refine ⟨fun j g => ?_, ?_, ?_⟩
  · rw [htrace, awaiting_append hlast, Awaiting, Since.concat_iff]
    refine iff_of_false ?_ fun ⟨_, heq, _⟩ => by cases heq
    rintro (⟨_, _, heq⟩ | ⟨-, hnot⟩)
    · cases heq
    · exact hnot (.inl (.inl ⟨_, _, rfl⟩))
  · rw [htrace, acceptedFrames_append hlast, acceptedFrames, List.filterMap_append,
      ← acceptedFrames, acceptedFrames_append hfirst, hgeneration, h.generation]
    exact (congrArg List.length (List.append_nil _)).symm
  · rw [htrace]
    refine AtEach.append (AtEach.concat_iff.mpr ⟨?_, nofun, ?_, nofun⟩)
      fun e he before => inTurn_of_quiet (hlast e he) before
    · exact h.inTurn.append fun e he before => inTurn_of_quiet (hfirst e he) before
    · intro _ _ heq
      cases heq
      exact hawaiting

/-- The frame that is under way is dropped. -/
theorem suspend (h : Awaited o flight) (cursor : CursorAnswers) (active : Bool) :
    Awaited (o.suspended cursor active) none := by
  let rest : List SceneEvent := o.scene.poolSlots.map .resetDescriptorPool ++
    (.cursorHide cursor.setCursor2 :: o.pool.resetForSuspend.2.map .closed)
  have hrest : ∀ e ∈ rest, flips e = false := by
    intro e he
    rcases List.mem_append.mp he with he | he
    · obtain ⟨_, -, rfl⟩ := List.mem_map.mp he
      rfl
    · rcases List.mem_cons.mp he with rfl | he
      · rfl
      · exact no_flips_closed _ e he
  have htrace : (o.suspended cursor active).trace = (o.trace ++ [.suspend]) ++ rest :=
    List.append_cons ..
  refine ⟨fun j g => ?_, ?_, ?_⟩
  · rw [htrace, awaiting_append hrest, Awaiting, Since.concat_iff]
    refine iff_of_false ?_ fun ⟨_, heq, _⟩ => by cases heq
    rintro (⟨_, _, heq⟩ | ⟨-, hnot⟩)
    · cases heq
    · exact hnot (.inl (.inr rfl))
  · rw [htrace, acceptedFrames_append hrest, acceptedFrames, List.filterMap_append]
    exact h.generation.trans (congrArg List.length (List.append_nil _).symm)
  · rw [htrace]
    exact AtEach.append (AtEach.concat_iff.mpr ⟨h.inTurn, nofun, nofun, nofun⟩)
      fun e he before => inTurn_of_quiet (hrest e he) before

end Awaited

/-! ## Fences -/

/-- The file descriptors that the buffers hold. -/
def heldFds (p : ScanoutPool) : List Int :=
  p.bos.flatMap fun bo => bo.state.fds

/-- What has been received is closed or held, once. -/
def Balanced (o : Scanout) : Prop :=
  (openedFds o.trace).Perm (closedFds o.trace ++ heldFds o.pool)

section Held

variable {p : ScanoutPool} {s st : BoState}

theorem heldFds_setState (h : p.stateAt i = some st) :
    (st.fds ++ heldFds (p.setState i s)).Perm (s.fds ++ heldFds p) := by
  obtain ⟨bo, hbo, rfl⟩ := getElem?_of_stateAt h
  rw [← setState_set hbo]
  obtain ⟨hlt, rfl⟩ := List.getElem?_eq_some_iff.mp hbo
  obtain ⟨before, after, hsplit, -, hset⟩ : ∃ before after, p.bos = before ++ p.bos[i] :: after ∧
      before.length = i ∧ p.bos.set i { p.bos[i] with state := s } =
        before ++ { p.bos[i] with state := s } :: after := List.exists_of_set hlt
  unfold heldFds
  dsimp only
  rw [hset]
  conv =>
    rhs
    rw [hsplit]
  simp only [List.flatMap_append, List.flatMap_cons]
  refine (List.perm_append_comm_assoc ..).trans ?_
  refine .trans (.append_left _ (List.perm_append_comm_assoc ..)) ?_
  exact List.perm_append_comm_assoc ..

/-- A buffer without file descriptors has got some. -/
theorem heldFds_setState_of_nil (h : p.stateAt i = some st) (hst : st.fds = []) :
    (heldFds (p.setState i s)).Perm (s.fds ++ heldFds p) := by
  have hperm := heldFds_setState (s := s) h
  rwa [hst] at hperm

theorem fds_of_rests (h : s.Rests) (hphase : s.phase = .Free ∨ s.phase = .Recording) :
    s.fds = [] := by
  obtain ⟨hin, hout⟩ := h
  have hnone : s.releaseFenceFd = none := by
    rcases hphase with heq | heq <;> rwa [heq] at hout
  rw [BoState.fds, hin, hnone]
  rfl

/-- The buffer that leaves the screen gives its fence up. -/
theorem heldFds_flipped {prev : Option (Nat × BoState)} (h : p.stateAt i = some s)
    (hne : ∀ j st, prev = some (j, st) → j ≠ i ∧ p.stateAt j = some st ∧ st.inFenceFd = none) :
    (heldFds p).Perm ((prev.bind (·.2.releaseFenceFd)).toList ++ heldFds (p.flipped i s prev)) := by
  have hshow {q : ScanoutPool} (hq : q.stateAt i = some s) :
      (heldFds (q.setState i { s with phase := .OnScreen })).Perm (heldFds q) := by
    have hperm : (s.fds ++ heldFds (q.setState i { s with phase := .OnScreen })).Perm
        (s.fds ++ heldFds q) := heldFds_setState hq
    exact (List.perm_append_left_iff _).mp hperm
  cases prev with
  | none => exact (hshow h).symm
  | some prev =>
    obtain ⟨j, st⟩ := prev
    obtain ⟨hji, hj, hin⟩ := hne j st rfl
    let freed : BoState := { st with phase := .Free, releaseFenceFd := none }
    have hshown : (heldFds (p.flipped i s (some (j, st)))).Perm (heldFds (p.setState j freed)) :=
      hshow ((stateAt_setState_ne hji).trans h)
    have hfreed := heldFds_setState (s := freed) hj
    have hnil : freed.fds = [] := by
      change st.inFenceFd.toList ++ [] = []
      rw [hin]
      rfl
    have hst : st.fds = st.releaseFenceFd.toList := by rw [BoState.fds, hin]; rfl
    rw [hnil, hst] at hfreed
    exact (hfreed.symm).trans (hshown.symm.append_left _)

theorem heldFds_resetForSuspend (p : ScanoutPool) :
    p.resetForSuspend.2 = heldFds p ∧ heldFds p.resetForSuspend.1 = [] := by
  constructor
  · rw [resetForSuspend, heldFds, List.flatMap_map]
    rfl
  · rw [resetForSuspend, heldFds, List.flatMap_map]
    exact List.flatMap_eq_nil_iff.mpr fun _ _ => rfl

end Held

def passesFd : SceneEvent → Bool
  | .opened _ | .closed _ => true
  | _ => false

theorem fds_of_not_passesFd {events : List SceneEvent} (h : ∀ e ∈ events, passesFd e = false) :
    openedFds events = [] ∧ closedFds events = [] := by
  constructor
  · refine List.filterMap_eq_nil_iff.mpr fun e he => ?_
    have hpasses := h e he
    cases e with
    | opened => cases hpasses
    | _ => rfl
  · refine List.filterMap_eq_nil_iff.mpr fun e he => ?_
    have hpasses := h e he
    cases e with
    | closed => cases hpasses
    | _ => rfl

theorem passesFd_afterFlip {e : SceneEvent} (h : AfterFlip e) : passesFd e = false := by
  rcases h with ⟨_, rfl⟩ | ⟨_, rfl⟩ | ⟨_, rfl⟩ | ⟨_, rfl⟩ <;> rfl

theorem openedFds_closed (closed : List Int) : openedFds (closed.map .closed) = [] := by
  rw [openedFds, List.filterMap_map]
  exact List.filterMap_eq_nil_iff.mpr fun _ _ => rfl

theorem closedFds_closed (closed : List Int) : closedFds (closed.map .closed) = closed := by
  rw [closedFds, List.filterMap_map]
  exact List.filterMap_some

namespace Balanced

theorem step (h : Balanced o) {events : List SceneEvent} (htrace : o'.trace = o.trace ++ events)
    (hheld : (openedFds events ++ heldFds o.pool).Perm (closedFds events ++ heldFds o'.pool)) :
    Balanced o' := by
  rw [Balanced, htrace, openedFds_append, closedFds_append, List.append_assoc]
  refine (h.append_right _).trans ?_
  rw [List.append_assoc]
  exact (List.perm_append_comm.trans hheld).append_left _

/-- No file descriptor is passed. -/
theorem quiet (h : Balanced o) {events : List SceneEvent} (htrace : o'.trace = o.trace ++ events)
    (hopened : openedFds events = []) (hclosed : closedFds events = [])
    (hheld : (heldFds o.pool).Perm (heldFds o'.pool)) : Balanced o' :=
  h.step htrace (by rw [hopened, hclosed]; exact hheld)

/-- A frame gets a buffer without file descriptors, and leaves some with it. -/
theorem begun {invalid : Bool} {s : BoState} {events : List SceneEvent} (h : Balanced o)
    (hinv : Inv o flight lost) (hready : Ready o i slot)
    (htrace : o'.trace = o.trace ++ events) (hpool : o'.pool = (o.begun i slot invalid s).pool)
    (hevents : (openedFds events).Perm (closedFds events ++ s.fds)) : Balanced o' := by
  obtain ⟨st, hst, hfree⟩ := exists_of_phaseAt hready.free
  have hnil := fds_of_rests (hinv.rests i st hst) (.inl hfree)
  have hheld : (heldFds (o.begun i slot invalid s).pool).Perm (s.fds ++ heldFds o.pool) := by
    cases invalid with
    | true => exact heldFds_setState_of_nil (p := o.pool.invalidateBo i) hst hnil
    | false => exact heldFds_setState_of_nil hst hnil
  refine h.step htrace ((hevents.append_right _).trans ?_)
  rw [List.append_assoc, hpool]
  exact hheld.symm.append_left _

theorem move (h : Balanced o) (hinv : Inv o flight lost) (hmove : Move o o') : Balanced o' := by
  cases hmove with
  | signal t =>
    unfold Scanout.signal
    split
    · exact h.quiet rfl rfl rfl (.refl _)
    · exact h
  | damage r => exact h.quiet rfl rfl rfl (.refl _)
  | @recycle older failed newer hqueue hticket =>
    have hmem : failed ∈ o.scene.failedSubmitBos :=
      hqueue ▸ List.mem_append_right _ List.mem_cons_self
    obtain ⟨s, hs, hphase⟩ : ∃ s, o.pool.stateAt failed.boIdx = some s ∧
        (s.phase = .Free ∨ s.phase = .Recording) := by
      rcases hinv.failed failed hmem with hrec | ⟨hfree, -⟩
      · obtain ⟨s, hs, heq⟩ := exists_of_phaseAt hrec
        exact ⟨s, hs, .inr heq⟩
      · obtain ⟨s, hs, heq⟩ := exists_of_phaseAt hfree
        exact ⟨s, hs, .inl heq⟩
    have hnil := fds_of_rests (hinv.rests _ _ hs) hphase
    exact h.quiet rfl rfl rfl (heldFds_setState_of_nil (s := .default) hs hnil).symm
  | release hqueue hticket => exact h.quiet rfl rfl rfl (.refl _)
  | strand hready => exact h.quiet (List.append_nil _).symm rfl rfl (.refl _)
  | abort hready invalid damage failedAt => exact h.begun hinv hready rfl rfl .nil
  | reject hready invalid damage failedAt hothers =>
    exact h.begun hinv hready rfl rfl hothers.balance
  | @commit i slot hready built others fd hothers =>
    refine h.begun hinv hready (List.append_assoc ..) rfl ?_
    rw [openedFds_append, closedFds_append]
    change (openedFds others ++ []).Perm (closedFds others ++ [] ++ fd.toList)
    rw [List.append_nil, List.append_nil]
    exact hothers.balance
  | @flip ack slot ticket s prev cursor hacks hslots hticket hbo hphase hprev hlast =>
    let closed := (prev.bind (·.2.releaseFenceFd)).toList
    have hne : ∀ j st, prev = some (j, st) →
        j ≠ ack.boIdx ∧ o.pool.stateAt j = some st ∧ st.inFenceFd = none := by
      intro j st heq
      obtain ⟨hj, honScreen⟩ := hprev j st heq
      refine ⟨?_, hj, (hinv.rests j st hj).1⟩
      rintro rfl
      cases hj.symm.trans hbo
      cases honScreen.symm.trans hphase
    obtain ⟨resets, hresets, htrace⟩ := flipped_trace o slot ack ticket
      (o.pool.flipped ack.boIdx s prev) closed cursor
    rw [List.append_assoc, List.append_assoc] at htrace
    refine h.step htrace ?_
    have hpool : heldFds (o.flipped slot ack ticket (o.pool.flipped ack.boIdx s prev) closed
        cursor).pool = heldFds (o.pool.flipped ack.boIdx s prev) := by
      unfold flipped landed
      dsimp only
      split <;> rfl
    have hlast : ∀ e ∈ [.flipComplete ack.boIdx ack.generation] ++
        .ackPresentationDamage ack.drawableSnapshots ::
          (resets ++ cursorCalls ack.cursorTransition cursor), passesFd e = false := by
      refine List.forall_mem_cons.mpr ⟨rfl, fun e he => ?_⟩
      exact passesFd_afterFlip (afterFlip_of_mem ack cursor hresets e he)
    obtain ⟨hopened, hclosed⟩ := fds_of_not_passesFd hlast
    rw [openedFds_append, closedFds_append, openedFds_closed, closedFds_closed, hpool, hopened,
      hclosed]
    simp only [List.append_nil, List.nil_append]
    exact heldFds_flipped hbo hne
  | light ok active =>
    have hevents : ∀ e ∈ o.pool.modesetBo.toList.map (SceneEvent.modeset · ok),
        passesFd e = false := by
      intro e he
      obtain ⟨_, -, rfl⟩ := List.mem_map.mp he
      rfl
    obtain ⟨hopened, hclosed⟩ := fds_of_not_passesFd hevents
    exact h.quiet rfl hopened hclosed (.refl _)
  | rebind => exact h.quiet rfl rfl rfl (.refl _)
  | suspend cursor active =>
    obtain ⟨hreleased, hnil⟩ := heldFds_resetForSuspend o.pool
    have hfirst : ∀ e ∈ SceneEvent.suspend ::
        (o.scene.poolSlots.map .resetDescriptorPool ++ [.cursorHide cursor.setCursor2]),
        passesFd e = false := by
      intro e he
      rcases List.mem_cons.mp he with rfl | he
      · rfl
      · rcases List.mem_append.mp he with he | he
        · obtain ⟨_, -, rfl⟩ := List.mem_map.mp he
          rfl
        · rw [List.mem_singleton.mp he]
          rfl
    have htrace : (o.suspended cursor active).trace = o.trace ++ ((.suspend ::
        (o.scene.poolSlots.map .resetDescriptorPool ++ [.cursorHide cursor.setCursor2])) ++
          o.pool.resetForSuspend.2.map .closed) :=
      congrArg (o.trace ++ ·) (congrArg _ (List.append_cons ..))
    obtain ⟨hopened, hclosed⟩ := fds_of_not_passesFd hfirst
    refine h.step htrace ?_
    change (_ ++ heldFds o.pool).Perm (_ ++ heldFds o.pool.resetForSuspend.1)
    rw [openedFds_append, closedFds_append, openedFds_closed, closedFds_closed, hopened, hclosed,
      hreleased, hnil]
    simp only [List.append_nil, List.nil_append, List.Perm.refl]

end Balanced

theorem Awaited.move (h : Awaited o flight) (hinv : Inv o flight lost) (hmove : Move o o') :
    ∃ flight' lost', Inv o' flight' lost' ∧ Awaited o' flight' := by
  cases hmove with
  | signal t =>
    refine ⟨_, _, hinv.signal t, ?_⟩
    unfold Scanout.signal
    split
    · exact h.quiet (List.forall_mem_singleton.mpr rfl) rfl rfl
    · exact h
  | damage r =>
    exact ⟨_, _, hinv.damage r, h.quiet (List.forall_mem_singleton.mpr rfl) rfl rfl⟩
  | recycle hqueue hticket =>
    exact ⟨_, _, hinv.recycle hqueue, h.quiet (List.forall_mem_singleton.mpr rfl) rfl rfl⟩
  | release hqueue hticket =>
    exact ⟨_, _, hinv.release hqueue, h.quiet (List.forall_mem_singleton.mpr rfl) rfl rfl⟩
  | strand hready =>
    exact ⟨_, _, hinv.strand hready,
      h.quiet (fun e he => absurd he List.not_mem_nil) (List.append_nil _).symm rfl⟩
  | abort hready invalid damage failedAt =>
    exact ⟨_, _, hinv.abort hready invalid damage failedAt,
      h.quiet (List.forall_mem_singleton.mpr rfl) rfl rfl⟩
  | reject hready invalid damage failedAt hothers =>
    cases hinv.flight_eq_none hready.noAcks
    exact ⟨_, _, hinv.reject hready invalid _ damage failedAt,
      h.submit hothers.no_flips (List.append_cons ..) rfl⟩
  | commit hready built hothers =>
    cases hinv.flight_eq_none hready.noAcks
    exact ⟨_, _, hinv.commit hready _ _ built, h.commit hothers built⟩
  | @flip ack slot ticket s prev cursor hacks hslots hticket hbo hphase hprev hlast =>
    cases hinv.eq_flight hacks hslots hticket
    refine ⟨_, _, hinv.flip hbo hphase hprev hlast _ cursor, ?_⟩
    obtain ⟨resets, hresets, htrace⟩ := flipped_trace o slot ack ticket
      (o.pool.flipped ack.boIdx s prev) (prev.bind (·.2.releaseFenceFd)).toList cursor
    refine h.complete (no_flips_closed _) (fun e he => ?_) htrace ?_
    · exact no_flips_afterFlip (afterFlip_of_mem ack cursor hresets e he)
    · unfold flipped landed
      dsimp only
      split <;> rfl
  | suspend cursor active =>
    exact ⟨_, _, hinv.suspend cursor active, h.suspend cursor active⟩
  | light ok active =>
    exact ⟨_, _, hinv.light ok active, h.quiet (no_flips_modeset _ ok) rfl rfl⟩
  | rebind =>
    exact ⟨_, _, hinv.emit _, h.quiet (List.forall_mem_singleton.mpr rfl) rfl rfl⟩

/-! ## Runs -/

theorem run_fences (n : Nat) (extent : UInt32 × UInt32) (fbHandle : Nat → UInt32)
    (actions : List Action) :
    ∃ o, (new n extent fbHandle).run actions = some o ∧ Balanced o ∧ AtEach InTurn o.trace := by
  obtain ⟨o, ho, hmoves, -⟩ := run_spec n extent fbHandle actions
  refine ⟨o, ho, ?_⟩
  have hstart : Balanced (new n extent fbHandle) ∧ ∃ flight lost,
      Inv (new n extent fbHandle) flight lost ∧ Awaited (new n extent fbHandle) flight := by
    refine ⟨?_, none, [], new_inv n extent fbHandle, ?_⟩
    · have hnil : heldFds (new n extent fbHandle).pool = [] := by
        refine List.flatMap_eq_nil_iff.mpr fun bo hbo => ?_
        obtain ⟨_, -, rfl⟩ := List.mem_map.mp hbo
        rfl
      rw [Balanced, hnil]
      exact .nil
    · refine ⟨fun _ _ => iff_of_false Since.not_nil ?_, rfl, .nil⟩
      rintro ⟨_, heq, -⟩
      cases heq
  have hend : Balanced o ∧ ∃ flight lost, Inv o flight lost ∧ Awaited o flight := by
    clear ho
    induction hmoves with
    | refl => exact hstart
    | tail _ hmove ih =>
      obtain ⟨hbalanced, _, _, hinv, hawaited⟩ := ih
      exact ⟨hbalanced.move hinv hmove, hawaited.move hinv hmove⟩
  obtain ⟨hbalanced, _, _, -, hawaited⟩ := hend
  exact ⟨hbalanced, hawaited.inTurn⟩

/-- In every run no frame is submitted while another one is under way to the screen, and each
flip that completes is the one to the frame that KMS has accepted last. -/
theorem flips_in_turn (n : Nat) (extent : UInt32 × UInt32) (fbHandle : Nat → UInt32)
    (actions : List Action) :
    ∃ o, (new n extent fbHandle).run actions = some o ∧ AtEach InTurn o.trace := by
  obtain ⟨o, ho, -, hinTurn⟩ := run_fences n extent fbHandle actions
  exact ⟨o, ho, hinTurn⟩

/-! ## Lit outputs -/

/-- The first frame after a wake is rendered into the buffer that is to be seen. -/
example :
    let actions : List Action := [.suspend ⟨true, true⟩ false, .wake true true ⟨true, true⟩,
      .tick 0 0 ⟨[], [], [], .Hidden, none, none⟩ ⟨.ok (), .ok (), .ok (), .ok none, .ok (), -1⟩]
    ((new 2 (640, 480) fun i => i.toUInt32).run actions).map
        (·.trace.filter fun e => e matches .modeset .. | .queueSubmit2 ..) =
      some [.modeset 0 true, .queueSubmit2 0 0 0] := rfl

/-! ## Received descriptors -/

/-- In every run each file descriptor that has been received has been closed once, or is held
by one buffer. -/
theorem fences_balanced (n : Nat) (extent : UInt32 × UInt32) (fbHandle : Nat → UInt32)
    (actions : List Action) :
    ∃ o, (new n extent fbHandle).run actions = some o ∧
      (openedFds o.trace).Perm (closedFds o.trace ++ heldFds o.pool) := by
  obtain ⟨o, ho, hbalanced, -⟩ := run_fences n extent fbHandle actions
  exact ⟨o, ho, hbalanced⟩

end Scanout

end X12

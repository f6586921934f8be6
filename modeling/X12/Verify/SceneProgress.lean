import X12.Verify.Scene

/-! # Ticks that compose a frame

A frame takes a descriptor pool and gives it back when the GPU is done with it, unless there
is no fence for the frame or the output is suspended before it is given back. As long as not
all are lost this way, a tick with something to repaint composes a frame. -/

namespace X12

namespace Scanout

open ScanoutPool Slots

variable {o o' : Scanout} {flight : Option Flight} {lost : List Nat}

/-! ## Lost slots -/

/-- How many slots are never released after the action. -/
def losesSlots (o : Scanout) : Action → Nat
  | .suspend .. => o.scene.pendingPoolReleases.length
  | .tick now failedAt built a =>
    match o.active, a.acquireFenceTicket, o.tickOneOutput now failedAt built a with
    | true, .error _, some (_, .error _) => 1
    | _, _, _ => 0
  | _ => 0

def lostSlots (o : Scanout) : List Action → Nat
  | [] => 0
  | action :: actions => o.losesSlots action + (o.act action).elim 0 (lostSlots · actions)

theorem tick_lost (h : Inv o flight lost) (hactive : o.active = true) (now failedAt : Nat)
    (built : BuiltScene) (a : ComposeAnswers) :
    ∃ o' flight' lost', o.act (.tick now failedAt built a) = some o' ∧
      Relation.ReflTransGen Move o o' ∧ Inv o' flight' lost' ∧
      lost'.length = o.losesSlots (.tick now failedAt built a) + lost.length := by
  obtain ⟨o', r, ho', hticks⟩ := tickOneOutput_spec h now failedAt built a
  have hact : o.act (.tick now failedAt built a) = some o' := by
    rw [act, if_pos hactive, ho', Option.map_some]
  refine ⟨o', ?_⟩
  rw [losesSlots, ho', hactive]
  cases hticks with
  | skip _ hadv =>
    refine ⟨flight, lost, hact, hadv.moves, hadv.inv, ?_⟩
    cases a.acquireFenceTicket <;> exact (Nat.zero_add _).symm
  | submit hadv hready hsubmits =>
    have hmoves := hadv.moves.tail (hsubmits.move hready)
    cases hsubmits with
    | strand hticket =>
      refine ⟨flight, _, hact, hmoves, hadv.inv.strand hready, ?_⟩
      rw [hticket, List.length_cons, Nat.add_comm]
    | abort hticket invalid damage failedAt =>
      refine ⟨flight, lost, hact, hmoves, hadv.inv.abort hready invalid damage failedAt, ?_⟩
      rw [hticket, Nat.zero_add]
    | reject hticket invalid damage failedAt =>
      refine ⟨flight, lost, hact, hmoves, hadv.inv.reject hready invalid _ damage failedAt, ?_⟩
      rw [hticket, Nat.zero_add]
    | commit hticket built =>
      cases hadv.inv.flight_eq_none hready.noAcks
      refine ⟨_, lost, hact, hmoves, hadv.inv.commit hready _ _ built, ?_⟩
      rw [hticket, Nat.zero_add]

theorem act_lost (h : Inv o flight lost) (action : Action) :
    ∃ o' flight' lost', o.act action = some o' ∧ Relation.ReflTransGen Move o o' ∧
      Inv o' flight' lost' ∧ lost'.length = o.losesSlots action + lost.length := by
  cases action with
  | tick now failedAt built a =>
    cases hactive : o.active with
    | true => exact tick_lost h hactive now failedAt built a
    | false =>
      refine ⟨o, flight, lost, ?_, .refl, h, ?_⟩
      · rw [act, hactive, if_neg Bool.false_ne_true]
      · rw [losesSlots, hactive]
        exact (Nat.zero_add _).symm
  | pageFlipComplete cursor =>
    obtain ⟨o', b, ho', hadv⟩ := handlePageFlipComplete_spec h cursor
    refine ⟨o', none, lost, ?_, hadv.moves, hadv.inv, (Nat.zero_add _).symm⟩
    rw [act, ho', Option.map_some]
  | signal t =>
    exact ⟨_, flight, lost, rfl, .single (.signal o t), h.signal t, (Nat.zero_add _).symm⟩
  | sceneStructureDamage r =>
    exact ⟨_, flight, lost, rfl, .single (.damage o r), h.damage r, (Nat.zero_add _).symm⟩
  | rebindVisibleCrtcs cursor =>
    exact ⟨_, flight, lost, rfl, rebindVisibleCrtcs_moves o cursor, h.rebind cursor,
      (Nat.zero_add _).symm⟩
  | suspend cursor active =>
    refine ⟨_, none, _, suspend_eq h cursor active, .single (.suspend o cursor active),
      h.suspend cursor active, ?_⟩
    rw [List.length_append, List.length_map]
    rfl
  | wake committed active cursor =>
    refine ⟨_, flight, lost, rfl, ?_, ?_, (Nat.zero_add _).symm⟩
    · split
      · exact .refl
      · exact .head (.light o committed active) (rebindVisibleCrtcs_moves _ cursor)
    · split
      · exact h
      · exact (h.light committed active).rebind cursor

/-! ## What the moves keep -/

/-- The buffers have framebuffers, and there are as many as at first. -/
structure Furnished (n : Nat) (o : Scanout) : Prop where
  bos : o.pool.fbHandles.length = n
  fb : none ∉ o.pool.fbHandles
  slots : o.scene.poolRing.inUse.length = RING_LEN

namespace Furnished

variable {n : Nat}

theorem of_eq (h : Furnished n o) (hpool : o'.pool.fbHandles = o.pool.fbHandles)
    (hring : o'.scene.poolRing.inUse.length = o.scene.poolRing.inUse.length) : Furnished n o' where
  bos := by rw [hpool, h.bos]
  fb := by rw [hpool]; exact h.fb
  slots := by rw [hring, h.slots]

theorem begun (h : Furnished n o) (i slot : Nat) (invalid : Bool) (s : BoState) :
    Furnished n (o.begun i slot invalid s) := by
  refine h.of_eq ?_ List.length_set
  cases invalid <;> exact fbHandles_setState

theorem length_foldl_set (slots : List Nat) (inUse : List Bool) :
    (slots.foldl (fun inUse slot => inUse.set slot false) inUse).length = inUse.length := by
  induction slots generalizing inUse with
  | nil => rfl
  | cons slot slots ih => exact (ih _).trans List.length_set

theorem move (h : Furnished n o) (hmove : Move o o') : Furnished n o' := by
  cases hmove with
  | signal t =>
    unfold Scanout.signal
    split
    · exact h.of_eq rfl rfl
    · exact h
  | damage => exact h.of_eq rfl rfl
  | recycle => exact h.of_eq fbHandles_setState List.length_set
  | release => exact h.of_eq rfl List.length_set
  | strand => exact h.of_eq rfl List.length_set
  | @abort i slot _ invalid => exact (h.begun i slot invalid .default).of_eq rfl List.length_set
  | @reject i slot _ invalid => exact (h.begun i slot invalid _).of_eq rfl rfl
  | @commit i slot => exact (h.begun i slot false _).of_eq rfl rfl
  | flip =>
    unfold flipped landed
    dsimp only
    split
    · exact h.of_eq fbHandles_flipped List.length_set
    · exact h.of_eq fbHandles_flipped rfl
  | suspend => exact h.of_eq fbHandles_resetForSuspend (length_foldl_set _ _)
  | light => exact h.of_eq rfl rfl
  | rebind => exact h.of_eq rfl rfl

theorem moves (h : Furnished n o) (hmoves : Relation.ReflTransGen Move o o') : Furnished n o' := by
  induction hmoves with
  | refl => exact h
  | tail _ hmove ih => exact ih.move hmove

theorem new (n : Nat) (extent : UInt32 × UInt32) (fbHandle : Nat → UInt32) :
    Furnished n (new n extent fbHandle) where
  bos := by simp [Scanout.new, fbHandles]
  fb := by simp [Scanout.new, fbHandles]
  slots := rfl

end Furnished

/-! ## Clearing away -/

/-- Nothing keeps the output from a frame but the slots, and there is something to repaint. The
GPU is done with all frames. -/
structure Due (o : Scanout) (now : Nat) (built : BuiltScene) : Prop where
  noAcks : o.scene.pendingAcks = []
  retry : ∀ deadline, o.scene.nextSubmitRetryAt = some deadline → deadline ≤ now
  damaged : outputDamage o.scene built ≠ [] ∨ o.scene.currentGeneration = 0
  failed : ∀ failed ∈ o.scene.failedSubmitBos, failed.ticket ∈ o.signalled
  releases : ∀ entry ∈ o.scene.pendingPoolReleases, entry.2 ∈ o.signalled

/-- Only the queues of slots and the slots have changed. -/
structure Clears (o o' : Scanout) : Prop where
  scene : ∃ ring failed releases, o'.scene = { o.scene with
    poolRing := ring, failedSubmitBos := failed, pendingPoolReleases := releases }
  signalled : o'.signalled = o.signalled

namespace Clears

variable {o'' : Scanout}

theorem trans (h : Clears o o') (h' : Clears o' o'') : Clears o o'' where
  scene := by
    obtain ⟨_, _, _, hscene⟩ := h.scene
    obtain ⟨ring, failed, releases, hscene'⟩ := h'.scene
    exact ⟨ring, failed, releases, by rw [hscene', hscene]⟩
  signalled := h'.signalled.trans h.signalled

theorem releaseSlot {slot : Nat} (h : o.releaseSlot slot = some o') : Clears o o' := by
  obtain ⟨ring, -, heq⟩ := Option.bind_eq_some_iff.mp h
  cases heq
  exact ⟨⟨ring, _, _, rfl⟩, rfl⟩

theorem pollSignaled_of_mem {t : FenceTicket} (h : t ∈ o.signalled) : o.pollSignaled t = true :=
  List.contains_iff_mem.mpr h

theorem retireFailedLoop {queue remaining : List FailedSubmitBo}
    (h : o.retireFailedLoop remaining queue = some o')
    (hsignalled : ∀ failed ∈ queue, failed.ticket ∈ o.signalled) :
    Clears o o' ∧ o'.scene.failedSubmitBos = remaining ∧
      o'.scene.pendingPoolReleases = o.scene.pendingPoolReleases := by
  induction queue generalizing o with
  | nil =>
    cases h
    exact ⟨⟨⟨_, _, _, rfl⟩, rfl⟩, rfl, rfl⟩
  | cons failed queue ih =>
    obtain ⟨hfirst, hrest⟩ := List.forall_mem_cons.mp hsignalled
    rw [Scanout.retireFailedLoop, if_pos (pollSignaled_of_mem hfirst)] at h
    obtain ⟨o₁, ho₁, hloop⟩ := Option.bind_eq_some_iff.mp h
    have hrecycled : Clears o (o.setPool (o.pool.recycleFailedSubmitBo failed.boIdx)) :=
      ⟨⟨_, _, _, rfl⟩, rfl⟩
    have hclears := hrecycled.trans (releaseSlot ho₁)
    obtain ⟨hclears', hfailed, hreleases⟩ := ih hloop fun failed hmem => by
      rw [hclears.signalled]
      exact hrest failed hmem
    refine ⟨hclears.trans hclears', hfailed, ?_⟩
    obtain ⟨_, -, heq⟩ := Option.bind_eq_some_iff.mp ho₁
    cases heq
    exact hreleases

theorem drainReleasesLoop {queue remaining : List (Nat × FenceTicket)}
    (h : o.drainReleasesLoop remaining queue = some o')
    (hsignalled : ∀ entry ∈ queue, entry.2 ∈ o.signalled) :
    Clears o o' ∧ o'.scene.pendingPoolReleases = remaining ∧
      o'.scene.failedSubmitBos = o.scene.failedSubmitBos := by
  induction queue generalizing o with
  | nil =>
    cases h
    exact ⟨⟨⟨_, _, _, rfl⟩, rfl⟩, rfl, rfl⟩
  | cons entry queue ih =>
    obtain ⟨slot, ticket⟩ := entry
    obtain ⟨hfirst, hrest⟩ := List.forall_mem_cons.mp hsignalled
    rw [Scanout.drainReleasesLoop, if_pos (pollSignaled_of_mem hfirst)] at h
    obtain ⟨o₁, ho₁, hloop⟩ := Option.bind_eq_some_iff.mp h
    have hclears := releaseSlot ho₁
    obtain ⟨hclears', hreleases, hfailed⟩ := ih hloop fun entry hmem => by
      rw [hclears.signalled]
      exact hrest entry hmem
    refine ⟨hclears.trans hclears', hreleases, ?_⟩
    obtain ⟨_, -, heq⟩ := Option.bind_eq_some_iff.mp ho₁
    cases heq
    exact hfailed

end Clears

/-! ## Runs -/

/-- One of two buffers is free where none is under way. -/
theorem Inv.exists_token (h : Inv o none lost) (hfailed : o.scene.failedSubmitBos = [])
    (htwo : 2 ≤ o.pool.bos.length) : ∃ token, o.pool.acquireScanoutBo = some token := by
  cases hacquire : o.pool.acquireScanoutBo with
  | some token => exact ⟨token, rfl⟩
  | none =>
    have honScreen : ∀ i < o.pool.bos.length, o.pool.phaseAt i = some .OnScreen := by
      intro i hi
      have hs : o.pool.stateAt i = some o.pool.bos[i].state := by
        rw [stateAt, List.getElem?_eq_getElem hi, Option.map_some]
      have hphase := phaseAt_eq hs
      have hrests := (h.rests i _ hs).2
      rw [hphase]
      cases hstate : o.pool.bos[i].state.phase with
      | Free => exact absurd (hstate ▸ hphase) (not_free_of_acquire_none hacquire i)
      | OnScreen => rfl
      | Recording =>
        obtain ⟨_, hmem, -⟩ := h.recording i (hstate ▸ hphase)
        exact absurd (hfailed ▸ hmem) List.not_mem_nil
      | Pending =>
        obtain ⟨_, hnone, -⟩ := (h.pending i).mp (hstate ▸ hphase)
        cases hnone
      | Submitted | Retiring =>
        rw [hstate] at hrests
        exact hrests.elim
    have heq := h.onScreen 0 1 (honScreen 0 (by omega)) (honScreen 1 (by omega))
    cases heq

/-- Whether a frame is composed depends on the slots that have been lost. -/
theorem tick_of_due (h : Inv o flight lost) {n : Nat} (hfurnished : Furnished n o) (htwo : 2 ≤ n)
    {now : Nat} {built : BuiltScene} (hdue : o.Due now built) {a : ComposeAnswers}
    (ha : Succeeds a) (failedAt : Nat) :
    ∃ o', o.tickOneOutput now failedAt built a =
      some (o', .ok (if lost.length < RING_LEN then .Composed else .Skipped .NoPool)) := by
  obtain ⟨o₁, o₂, ho₁, ho₂, hadv, hretired⟩ := exists_cleared h
  obtain ⟨hclears₁, hfailed₁, hreleases₁⟩ := Clears.retireFailedLoop ho₁ hdue.failed
  obtain ⟨hclears₂, hreleases, hfailed⟩ := Clears.drainReleasesLoop ho₂ fun entry hmem => by
    rw [hclears₁.signalled]
    exact hdue.releases entry (hreleases₁ ▸ hmem)
  have hfailed := hfailed.trans hfailed₁
  obtain ⟨ring, _, _, hscene⟩ := (hclears₁.trans hclears₂).scene
  have hacks : o₂.scene.pendingAcks = [] := by rw [hscene]; exact hdue.noAcks
  have hretry : ¬ o₂.scene.nextSubmitRetryAt.any (now < ·) = true := by
    rw [hscene, Option.any_eq_true]
    rintro ⟨deadline, hdeadline, hlt⟩
    exact absurd (of_decide_eq_true hlt) (Nat.not_lt.mpr (hdue.retry deadline hdeadline))
  have hdamage : ¬ (outputDamage o₂.scene built = [] ∧ o₂.scene.currentGeneration ≠ 0) := by
    rw [hscene]
    intro h
    exact hdue.damaged.elim (fun hne => hne h.1) h.2
  have hinv := hadv.inv
  cases hinv.flight_eq_none hacks
  have hfurnished := hfurnished.moves hadv.moves
  have hbos : o₂.pool.bos.length = n := (List.length_map _).symm.trans hfurnished.bos
  obtain ⟨token, htoken⟩ := hinv.exists_token hfailed (hbos ▸ htwo)
  have htaken : Taken o₂.scene.poolRing.inUse lost := by
    have htaken := hinv.taken
    rw [heldSlots, hreleases, hfailed] at htaken
    exact htaken.perm (.of_eq (List.append_nil lost))
  rw [tickOneOutput, ho₁, Option.bind_eq_bind, Option.bind_some, ho₂, Option.bind_some,
    if_neg (not_not.mpr hacks), if_neg hretry, if_neg hdamage, htoken]
  dsimp only
  cases hring : o₂.scene.poolRing.acquire with
  | none =>
    have hfull : ¬ lost.length < RING_LEN := by
      intro hlt
      obtain ⟨i, hi⟩ := htaken.exists_free (hfurnished.slots ▸ hlt)
      exact SlotTracker.acquire_eq_none hring i hi
    rw [if_neg hfull]
    exact ⟨_, rfl⟩
  | some entry =>
    obtain ⟨ring, slot⟩ := entry
    obtain ⟨hslot, rfl⟩ := SlotTracker.acquire_eq_some hring
    have hlt : lost.length < RING_LEN := by
      have hle := (htaken.take hslot).length_le
      rwa [List.length_set, hfurnished.slots] at hle
    rw [if_pos hlt]
    have hready : Ready o₂ token.boIdx slot :=
      ⟨hacks, hretired, phaseAt_of_acquire htoken, hslot⟩
    obtain ⟨o', r, ho', hsubmits⟩ := hready.submitFrame hinv rfl built a failedAt
    cases hsubmits with
    | strand hticket => cases ha.1.symm.trans hticket
    | abort _ _ _ _ _ hfail => exact (hfail.elim hfurnished.fb (· ha)).elim
    | reject _ _ _ _ _ _ hfail => exact absurd ha hfail
    | commit => exact ⟨_, ho'⟩

theorem run_lost {n : Nat} (h : Inv o flight lost) (hfurnished : Furnished n o)
    (actions : List Action) :
    ∃ o' flight' lost', o.run actions = some o' ∧ Inv o' flight' lost' ∧ Furnished n o' ∧
      lost'.length = o.lostSlots actions + lost.length := by
  induction actions generalizing o flight lost with
  | nil => exact ⟨o, flight, lost, rfl, h, hfurnished, (Nat.zero_add _).symm⟩
  | cons action actions ih =>
    obtain ⟨o₁, flight₁, lost₁, ho₁, hmoves, h₁, hlength₁⟩ := act_lost h action
    obtain ⟨o', flight', lost', ho', h', hfurnished', hlength⟩ := ih h₁ (hfurnished.moves hmoves)
    refine ⟨o', flight', lost', ?_, h', hfurnished', ?_⟩
    · rw [run, List.foldlM_cons, ho₁]
      exact ho'
    · rw [hlength, hlength₁, lostSlots, ho₁]
      dsimp only [Option.elim]
      omega

/-- In every run a tick composes a frame where there is one to compose and the driver does its
part, until all slots have been lost. From then on there is none. -/
theorem frame_composed (n : Nat) (extent : UInt32 × UInt32) (fbHandle : Nat → UInt32)
    (htwo : 2 ≤ n) (actions : List Action) :
    ∃ o, (new n extent fbHandle).run actions = some o ∧
      ∀ now failedAt built a, o.Due now built → Succeeds a →
        ∃ o', o.tickOneOutput now failedAt built a = some (o',
          .ok (if (new n extent fbHandle).lostSlots actions < RING_LEN then .Composed
            else .Skipped .NoPool)) := by
  obtain ⟨o, flight, lost, ho, hinv, hfurnished, hlength⟩ :=
    run_lost (new_inv n extent fbHandle) (Furnished.new n extent fbHandle) actions
  refine ⟨o, ho, fun now failedAt built a hdue ha => ?_⟩
  rw [← Nat.add_zero (lostSlots _ _), ← List.length_nil, ← hlength]
  exact tick_of_due hinv hfurnished htwo hdue ha failedAt

def emptyFrame : BuiltScene := ⟨[], [], [], .Hidden, none, none⟩

def allSucceed : ComposeAnswers := ⟨.ok (), .ok (), .ok (), .ok none, .ok (), -1⟩

/-- A frame comes on screen before the GPU is done with it, and there is no fence for the next
one. -/
def lateActions : List Action :=
  [.tick 0 0 emptyFrame allSucceed, .pageFlipComplete ⟨true, true⟩,
    .sceneStructureDamage ⟨0, 0, 8, 8⟩,
    .tick 16 16 emptyFrame { allSucceed with acquireFenceTicket := .error ERROR_UNKNOWN },
    .signal 0]

theorem frame_composed_late :
    lostSlots (new 2 (640, 480) fun i => i.toUInt32) lateActions = 1 ∧
      ∃ o, (new 2 (640, 480) fun i => i.toUInt32).run lateActions = some o ∧
        o.scene.pendingPoolReleases = [(0, 0)] ∧ o.pool.phaseAt 0 = some .OnScreen ∧
        ∃ o', o.tickOneOutput 33 33 emptyFrame allSucceed = some (o', .ok .Composed) := by
  obtain ⟨o, ho, hcomposed⟩ :=
    frame_composed 2 (640, 480) (fun i => i.toUInt32) (by decide) lateActions
  have hlost : lostSlots (new 2 (640, 480) fun i => i.toUInt32) lateActions = 1 := by decide
  have hrun : ((new 2 (640, 480) fun i => i.toUInt32).run lateActions).map (fun o =>
      (o.scene.pendingAcks, o.scene.nextSubmitRetryAt, outputDamage o.scene emptyFrame,
        o.scene.failedSubmitBos, o.scene.pendingPoolReleases, o.signalled, o.pool.phaseAt 0)) =
      some ([], none, [⟨0, 0, 8, 8⟩], [], [(0, 0)], [0], some .OnScreen) := rfl
  rw [ho, Option.map_some, Option.some.injEq] at hrun
  simp only [Prod.mk.injEq] at hrun
  obtain ⟨hacks, hretry, hdamage, hfailed, hreleases, hsignalled, hphase⟩ := hrun
  rw [hlost] at hcomposed
  have hdue : o.Due 33 emptyFrame := by
    refine ⟨hacks, by simp [hretry], .inl ?_, by simp [hfailed], by simp [hreleases, hsignalled]⟩
    rw [hdamage]
    exact List.cons_ne_nil _ _
  have hsucceeds : Succeeds allSucceed := ⟨rfl, rfl, rfl, ⟨_, rfl⟩, rfl⟩
  exact ⟨hlost, o, ho, hreleases, hphase, hcomposed 33 33 emptyFrame allSucceed hdue hsucceeds⟩

end Scanout

end X12

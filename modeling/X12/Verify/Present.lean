import X12.Core.Present
import X12.Verify.Damage

/-! # Completions of presented frames

Every completion that the backend holds back is reported once, whenever the
copies get done. A frame that is accepted but dropped has no completion. -/

namespace X12

/-! ## What is counted -/

/-- A completion of a frame of a pixmap. -/
def CompletedPresentEvent.isFrame (event : CompletedPresentEvent) (window : ResourceId)
    (serial : UInt32) (pixmap : ResourceId) : Bool :=
  event.dstHostXid == window && event.serial == serial && event.hostXid == pixmap

/-- A completion under a serial number. -/
def CompletedPresentEvent.isSerial (event : CompletedPresentEvent) (window : ResourceId)
    (serial : UInt32) : Bool :=
  event.dstHostXid == window && event.serial == serial

namespace PresentNotify

def eid : PresentNotify → ResourceId
  | IdleNotify eid _ _ _ _ => eid
  | CompleteNotify eid _ _ _ _ _ _ => eid

def isIdle (window : ResourceId) (serial : UInt32) (pixmap : ResourceId) : PresentNotify → Bool
  | IdleNotify _ w s p _ => w == window && s == serial && p == pixmap
  | CompleteNotify _ _ _ _ _ _ _ => false

/-- A CompleteNotify does not name the pixmap. -/
def isComplete (window : ResourceId) (serial : UInt32) : PresentNotify → Bool
  | IdleNotify _ _ _ _ _ => false
  | CompleteNotify _ w s kind _ _ _ => w == window && s == serial && kind == COMPLETE_KIND_PIXMAP

end PresentNotify

/-- The client is sent an event of a kind through the event context. -/
def sentTo (owner : ClientId) (eid : ResourceId) (kind : PresentNotify → Bool)
    (sent : ClientId × PresentNotify) : Bool :=
  sent.1 == owner && sent.2.eid == eid && kind sent.2

inductive PresentRequest where
  | Pixmap (req : PixmapRequest)
  | PixmapSynced (req : PixmapSyncedRequest)

namespace PresentRequest

def window : PresentRequest → ResourceId
  | Pixmap req => req.window
  | PixmapSynced req => req.window

def pixmap : PresentRequest → ResourceId
  | Pixmap req => req.pixmap
  | PixmapSynced req => req.pixmap

def serial : PresentRequest → UInt32
  | Pixmap req => req.serial
  | PixmapSynced req => req.serial

def isFrame (request : PresentRequest) (window : ResourceId) (serial : UInt32)
    (pixmap : ResourceId) : Bool :=
  request.window == window && request.serial == serial && request.pixmap == pixmap

def isSerial (request : PresentRequest) (window : ResourceId) (serial : UInt32) : Bool :=
  request.window == window && request.serial == serial

def completion (client : ClientId) (caps : PresentCaps) : PresentRequest → CompletedPresentEvent
  | Pixmap req => PresentState.pixmapCompletion client caps req
  | PixmapSynced req => PresentState.syncedCompletion client caps req

def apply (client : ClientId) (caps : PresentCaps) (ok : Nat → Bool) (s : PresentState) :
    PresentRequest → PresentState × PresentOutcome
  | Pixmap req => s.presentPixmap client caps ok req
  | PixmapSynced req => s.presentPixmapSynced client caps ok req

/-- The frame is copied: the pixmap and the window have host drawables, no
backend call fails, and the depths agree. PresentPixmap refuses a frame whose
depths differ. -/
def Copied (ok : Nat → Bool) (s : PresentState) : PresentRequest → Prop
  | Pixmap req =>
    ∃ src dst, s.server.resources.hostPixmapTarget req.pixmap = some src ∧
      s.server.resources.hostDrawableTarget req.window = some dst ∧
      ∀ n < (s.presentCopies req src dst.hostXid).length + 2, ok n = true
  | PixmapSynced req =>
    ∃ src dst, s.server.resources.hostPixmapTarget req.pixmap = some src ∧
      s.server.resources.hostDrawableTarget req.window = some dst ∧
      src.depth = dst.depth ∧ ok 0 = true

/-- The request does not produce an error. -/
def Accepted (client : ClientId) (caps : PresentCaps) (ok : Nat → Bool) (s : PresentState)
    (request : PresentRequest) : Prop :=
  ∀ error, (request.apply client caps ok s).2 ≠ .Error error

end PresentRequest

/-! ## One request -/

namespace PresentState

variable {s : PresentState} {client owner : ClientId} {caps : PresentCaps} {ok : Nat → Bool}
  {request : PresentRequest} {event : CompletedPresentEvent} {eid window pixmap : ResourceId}
  {serial : UInt32} {sel : PresentEventSelection}

theorem all_range_iff {n : Nat} : (List.range n).all ok = true ↔ ∀ i < n, ok i = true := by
  simp only [List.all_eq_true, List.mem_range]

/-! ### When a frame is copied -/

theorem not_copied_of_source
    (hsrc : s.server.resources.hostPixmapTarget request.pixmap = none) :
    ¬ request.Copied ok s := by
  intro hcopied
  cases request with
  | Pixmap req =>
    obtain ⟨src, dst, hfound, -⟩ := hcopied
    cases hsrc.symm.trans hfound
  | PixmapSynced req =>
    obtain ⟨src, dst, hfound, -⟩ := hcopied
    cases hsrc.symm.trans hfound

theorem not_copied_of_destination
    (hdst : s.server.resources.hostDrawableTarget request.window = none) :
    ¬ request.Copied ok s := by
  intro hcopied
  cases request with
  | Pixmap req =>
    obtain ⟨src, dst, -, hfound, -⟩ := hcopied
    cases hdst.symm.trans hfound
  | PixmapSynced req =>
    obtain ⟨src, dst, -, hfound, -⟩ := hcopied
    cases hdst.symm.trans hfound

theorem copied_pixmap_iff {req : PixmapRequest} {src : HostPixmapTarget}
    {dst : HostDrawableTarget}
    (hsrc : s.server.resources.hostPixmapTarget req.pixmap = some src)
    (hdst : s.server.resources.hostDrawableTarget req.window = some dst) :
    PresentRequest.Copied ok s (.Pixmap req) ↔
      (List.range ((s.presentCopies req src dst.hostXid).length + 2)).all ok = true := by
  rw [all_range_iff]
  constructor
  · intro ⟨src', dst', hsrc', hdst', hok⟩
    obtain rfl := Option.some.inj (hsrc.symm.trans hsrc')
    obtain rfl := Option.some.inj (hdst.symm.trans hdst')
    exact hok
  · intro hok
    exact ⟨src, dst, hsrc, hdst, hok⟩

theorem copied_synced_iff {req : PixmapSyncedRequest} {src : HostPixmapTarget}
    {dst : HostDrawableTarget}
    (hsrc : s.server.resources.hostPixmapTarget req.pixmap = some src)
    (hdst : s.server.resources.hostDrawableTarget req.window = some dst) :
    PresentRequest.Copied ok s (.PixmapSynced req) ↔
      src.depth = dst.depth ∧ (List.range 1).all ok = true := by
  constructor
  · intro ⟨src', dst', hsrc', hdst', hdepth, hok⟩
    obtain rfl := Option.some.inj (hsrc.symm.trans hsrc')
    obtain rfl := Option.some.inj (hdst.symm.trans hdst')
    refine ⟨hdepth, all_range_iff.mpr fun i hi => ?_⟩
    rwa [Nat.lt_one_iff.mp hi]
  · intro ⟨hdepth, hok⟩
    exact ⟨src, dst, hsrc, hdst, hdepth, all_range_iff.mp hok 0 Nat.one_pos⟩

/-- The cases of PresentPixmap. -/
theorem presentPixmap_cases (req : PixmapRequest) :
    (∃ error, s.presentPixmap client caps ok req = (s, .Error error)) ∨
    (PresentRequest.Copied ok s (.Pixmap req) ∧
      (s.presentPixmap client caps ok req).2 = .Handled ∧
      (s.presentPixmap client caps ok req).1.pendingCompletions =
        s.pendingCompletions ++ [pixmapCompletion client caps req]) ∨
    (¬ PresentRequest.Copied ok s (.Pixmap req) ∧
      (∀ error, (s.presentPixmap client caps ok req).2 ≠ .Error error) ∧
      (s.presentPixmap client caps ok req).1.pendingCompletions = s.pendingCompletions) := by
  unfold presentPixmap
  dsimp only
  split
  · exact .inl ⟨_, rfl⟩
  · split
    · exact .inl ⟨_, rfl⟩
    · cases hsrc : s.server.resources.hostPixmapTarget req.pixmap with
      | none => exact .inr (.inr ⟨not_copied_of_source hsrc, nofun, rfl⟩)
      | some src =>
        cases hdst : s.server.resources.hostDrawableTarget req.window with
        | none => exact .inr (.inr ⟨not_copied_of_destination hdst, nofun, rfl⟩)
        | some dst =>
          rw [copied_pixmap_iff hsrc hdst]
          dsimp only
          split
          · exact .inl ⟨_, rfl⟩
          · split
            · next hfails =>
              rw [Bool.not_eq_true', Bool.eq_false_iff] at hfails
              exact .inr (.inr ⟨hfails, nofun, rfl⟩)
            · next hfails =>
              rw [Bool.not_eq_true', Bool.not_eq_false] at hfails
              exact .inr (.inl ⟨hfails, rfl, rfl⟩)

theorem presentPixmapSynced_cases (req : PixmapSyncedRequest) :
    (∃ error, s.presentPixmapSynced client caps ok req = (s, .Error error)) ∨
    (PresentRequest.Copied ok s (.PixmapSynced req) ∧
      (s.presentPixmapSynced client caps ok req).2 = .Handled ∧
      (s.presentPixmapSynced client caps ok req).1.pendingCompletions =
        s.pendingCompletions ++ [syncedCompletion client caps req]) ∨
    (¬ PresentRequest.Copied ok s (.PixmapSynced req) ∧
      (∀ error, (s.presentPixmapSynced client caps ok req).2 ≠ .Error error) ∧
      (s.presentPixmapSynced client caps ok req).1.pendingCompletions = s.pendingCompletions) := by
  unfold presentPixmapSynced
  dsimp only
  split
  · exact .inl ⟨_, rfl⟩
  · split
    · exact .inl ⟨_, rfl⟩
    · cases hsrc : s.server.resources.hostPixmapTarget req.pixmap with
      | none => exact .inr (.inr ⟨not_copied_of_source hsrc, nofun, rfl⟩)
      | some src =>
        cases hdst : s.server.resources.hostDrawableTarget req.window with
        | none => exact .inr (.inr ⟨not_copied_of_destination hdst, nofun, rfl⟩)
        | some dst =>
          rw [copied_synced_iff hsrc hdst]
          dsimp only [List.length_singleton]
          split
          · next hcopied => exact .inr (.inl ⟨hcopied, rfl, rfl⟩)
          · next hdropped => exact .inr (.inr ⟨hdropped, nofun, rfl⟩)

/-- A request is refused and changes nothing, or its frame is copied and leaves
a completion, or it is dropped and leaves none. -/
theorem apply_cases (client : ClientId) (caps : PresentCaps) (ok : Nat → Bool)
    (s : PresentState) (request : PresentRequest) :
    (∃ error, request.apply client caps ok s = (s, .Error error)) ∨
    (request.Copied ok s ∧ request.Accepted client caps ok s ∧
      (request.apply client caps ok s).1.pendingCompletions =
        s.pendingCompletions ++ [request.completion client caps]) ∨
    (¬ request.Copied ok s ∧ request.Accepted client caps ok s ∧
      (request.apply client caps ok s).1.pendingCompletions = s.pendingCompletions) := by
  have haccepted {outcome : PresentOutcome} (h : outcome = .Handled) :
      ∀ error, outcome ≠ .Error error := fun error hne => nomatch h.symm.trans hne
  cases request with
  | Pixmap req =>
    exact (presentPixmap_cases req).imp_right
      (.imp_left fun ⟨hcopied, hhandled, hpending⟩ => ⟨hcopied, haccepted hhandled, hpending⟩)
  | PixmapSynced req =>
    exact (presentPixmapSynced_cases req).imp_right
      (.imp_left fun ⟨hcopied, hhandled, hpending⟩ => ⟨hcopied, haccepted hhandled, hpending⟩)

/-! ## One completion -/

/-- The event context asks for both events of a window, and its owner is
connected. -/
def Selected (s : PresentState) (owner : ClientId) (eid window : ResourceId) : Prop :=
  ∃ mask, s.server.presentEventSelections[eid]? = some ⟨owner, window, mask⟩ ∧
    mask &&& IDLE_NOTIFY_MASK ≠ 0 ∧ mask &&& COMPLETE_NOTIFY_MASK ≠ 0 ∧
    s.server.clients.contains owner = true

theorem countP_flatMap_of_unique {κ ν γ : Type} {l : List (κ × ν)} {k : κ} {v : ν}
    {f : κ × ν → List γ} {p : γ → Bool} (hunique : (l.map (·.1)).Nodup) (hmem : (k, v) ∈ l)
    (hp : ∀ x ∈ l, x.1 ≠ k → (f x).countP p = 0) : (l.flatMap f).countP p = (f (k, v)).countP p := by
  induction l with
  | nil => cases hmem
  | cons x l ih =>
    rw [List.map_cons, List.nodup_cons] at hunique
    rw [List.flatMap_cons, List.countP_append]
    rcases List.mem_cons.mp hmem with rfl | hrest
    · have hzero : (l.flatMap f).countP p = 0 := by
        rw [List.countP_eq_zero]
        intro c hc
        obtain ⟨y, hy, hcy⟩ := List.mem_flatMap.mp hc
        have hne : y.1 ≠ k := fun hsame => hunique.1 (List.mem_map.mpr ⟨y, hy, hsame⟩)
        exact List.countP_eq_zero.mp (hp y (List.mem_cons_of_mem _ hy) hne) c hcy
      rw [hzero, Nat.add_zero]
    · have hne : x.1 ≠ k := fun hsame => hunique.1 (hsame ▸ List.mem_map_of_mem hrest)
      rw [hp x (.head _) hne, Nat.zero_add,
        ih hunique.2 hrest fun y hy => hp y (List.mem_cons_of_mem _ hy)]

theorem presentTargets_nodup : ((s.presentTargets window).map (·.1)).Nodup := by
  have hkeys : s.server.presentEventSelections.toList.Pairwise fun a b => a.1 ≠ b.1 :=
    Std.ExtTreeMap.distinct_keys_toList.imp fun h heq => h (by rw [heq]; exact Std.ReflCmp.compare_self)
  exact (hkeys.filter _).map _ fun _ _ h => h

theorem mem_presentTargets (h : s.Selected owner eid window) :
    ∃ sel, (eid, sel) ∈ s.presentTargets window ∧ sel.owner = owner ∧
      sel.eventMask &&& IDLE_NOTIFY_MASK ≠ 0 ∧ sel.eventMask &&& COMPLETE_NOTIFY_MASK ≠ 0 := by
  obtain ⟨mask, hsel, hidle, hcomplete, hclient⟩ := h
  refine ⟨_, List.mem_filter.mpr ⟨Std.ExtTreeMap.mem_toList_iff_getElem?_eq_some.mpr hsel, ?_⟩,
    rfl, hidle, hcomplete⟩
  simp only [beq_self_eq_true, hclient, Bool.and_self]

theorem eid_of_mem_completionEvents {msc : UInt64} {sent : ClientId × PresentNotify}
    (h : sent ∈ completionEvents event msc eid sel) : sent.2.eid = eid := by
  rcases List.mem_append.mp h with h | h
  · split at h
    · rw [List.mem_singleton.mp h]
      rfl
    · cases h
  · split at h
    · rw [List.mem_singleton.mp h]
      rfl
    · cases h

section

variable {msc : UInt64} (hidle : sel.eventMask &&& IDLE_NOTIFY_MASK ≠ 0)
  (hcomplete : sel.eventMask &&& COMPLETE_NOTIFY_MASK ≠ 0)
include hidle hcomplete

theorem countP_idle :
    (completionEvents event msc eid sel).countP
        (sentTo sel.owner eid (·.isIdle window serial pixmap)) =
      if event.isFrame window serial pixmap then 1 else 0 := by
  unfold completionEvents
  dsimp only
  rw [if_pos hidle, if_pos hcomplete]
  simp [sentTo, PresentNotify.isIdle, PresentNotify.eid, CompletedPresentEvent.isFrame,
    List.countP_cons, and_assoc]

theorem countP_complete :
    (completionEvents event msc eid sel).countP (sentTo sel.owner eid (·.isComplete window serial)) =
      if event.isSerial window serial then 1 else 0 := by
  unfold completionEvents
  dsimp only
  rw [if_pos hidle, if_pos hcomplete]
  simp [sentTo, PresentNotify.isComplete, PresentNotify.eid, CompletedPresentEvent.isSerial,
    List.countP_cons]

end

/-- The context is told once about each completion of a sort, and not about
others. -/
def Reports (owner : ClientId) (eid : ResourceId) (kind : PresentNotify → Bool)
    (about : CompletedPresentEvent → Bool) (s : PresentState) : Prop :=
  ∀ event, (s.firePresentCompletionEvents event).countP (sentTo owner eid kind) =
    if about event then 1 else 0

/-- Completions of other windows are not for the context. -/
theorem countP_fire_of_window_ne (h : s.Selected owner eid window) {kind : PresentNotify → Bool}
    (hwindow : event.dstHostXid ≠ window) :
    (s.firePresentCompletionEvents event).countP (sentTo owner eid kind) = 0 := by
  obtain ⟨mask, hsel, -⟩ := h
  refine List.countP_eq_zero.mpr fun sent hsent htold => ?_
  obtain ⟨⟨other, sel⟩, htarget, hsent⟩ := List.mem_flatMap.mp hsent
  have heid := eid_of_mem_completionEvents hsent
  simp only [sentTo, Bool.and_eq_true, beq_iff_eq] at htold
  obtain ⟨hmem, hmatch⟩ := List.mem_filter.mp htarget
  have hother := Std.ExtTreeMap.mem_toList_iff_getElem?_eq_some.mp hmem
  rw [← heid, htold.1.2, hsel, Option.some.injEq] at hother
  simp only [← hother, Bool.and_eq_true, beq_iff_eq] at hmatch
  exact hwindow hmatch.1.symm

theorem countP_fire (h : s.Selected owner eid window) {kind : PresentNotify → Bool} {told : Bool}
    (htold : told = true → event.dstHostXid = window)
    (hone : ∀ sel : PresentEventSelection, sel.owner = owner →
      sel.eventMask &&& IDLE_NOTIFY_MASK ≠ 0 → sel.eventMask &&& COMPLETE_NOTIFY_MASK ≠ 0 →
      ∀ msc, (completionEvents event msc eid sel).countP (sentTo owner eid kind) =
        if told then 1 else 0) :
    (s.firePresentCompletionEvents event).countP (sentTo owner eid kind) =
      if told then 1 else 0 := by
  by_cases hwindow : event.dstHostXid = window
  · obtain ⟨sel, hmem, howner, hidle, hcomplete⟩ := mem_presentTargets h
    unfold firePresentCompletionEvents
    dsimp only
    rw [hwindow, countP_flatMap_of_unique presentTargets_nodup hmem]
    · exact hone sel howner hidle hcomplete _
    · rintro ⟨other, sel⟩ - hne
      refine List.countP_eq_zero.mpr fun sent hsent hto => hne ?_
      simp only [sentTo, Bool.and_eq_true, beq_iff_eq] at hto
      rw [← eid_of_mem_completionEvents hsent, hto.1.2]
  · rw [countP_fire_of_window_ne h hwindow, if_neg fun hkind => hwindow (htold hkind)]

theorem Selected.reports_idle (h : s.Selected owner eid window) :
    s.Reports owner eid (·.isIdle window serial pixmap) (·.isFrame window serial pixmap) := by
  refine fun event => countP_fire h (fun hframe => ?_) fun sel howner hidle hcomplete msc => ?_
  · simp only [CompletedPresentEvent.isFrame, Bool.and_eq_true, beq_iff_eq] at hframe
    exact hframe.1.1
  · rw [← howner]
    exact countP_idle hidle hcomplete

theorem Selected.reports_complete (h : s.Selected owner eid window) :
    s.Reports owner eid (·.isComplete window serial) (·.isSerial window serial) := by
  refine fun event => countP_fire h (fun hserial => ?_) fun sel howner hidle hcomplete msc => ?_
  · simp only [CompletedPresentEvent.isSerial, Bool.and_eq_true, beq_iff_eq] at hserial
    exact hserial.1
  · rw [← howner]
    exact countP_complete hidle hcomplete

/-! ## Draining -/

theorem Selected.triggerIdleFence (wake : PresentWake) (h : s.Selected owner eid window) :
    (s.triggerIdleFence wake).Selected owner eid window := by
  unfold PresentState.triggerIdleFence
  split
  · split
    · exact h
    · exact h
  · exact h

/-- The events of completions that are reported one after the other. -/
theorem countP_foldl_fire {kind : PresentNotify → Bool} {about : CompletedPresentEvent → Bool}
    (completed : List CompletedPresentEvent) (sent : List (ClientId × PresentNotify))
    (hreports : ∀ s : PresentState, s.Selected owner eid window → s.Reports owner eid kind about)
    (h : s.Selected owner eid window) :
    let result := completed.foldl (fun (s, sent) event =>
      let s := s.triggerIdleFence event.wake
      (s, sent ++ s.firePresentCompletionEvents event)) (s, sent)
    result.2.countP (sentTo owner eid kind) =
      sent.countP (sentTo owner eid kind) + completed.countP about := by
  induction completed generalizing s sent with
  | nil => rfl
  | cons event rest ih =>
    have htriggered := h.triggerIdleFence event.wake
    have hfired := hreports _ htriggered event
    have hrest := ih (sent ++
      (s.triggerIdleFence event.wake).firePresentCompletionEvents event) htriggered
    simp only [List.foldl_cons, List.countP_cons] at hrest ⊢
    rw [hrest, List.countP_append, hfired]
    omega

theorem foldl_fire_pendingCompletions {completed : List CompletedPresentEvent}
    {sent : List (ClientId × PresentNotify)} :
    (completed.foldl (fun (s, sent) event =>
      let s := s.triggerIdleFence event.wake
      (s, sent ++ s.firePresentCompletionEvents event)) (s, sent)).1.pendingCompletions =
      s.pendingCompletions := by
  induction completed generalizing s sent with
  | nil => rfl
  | cons event rest ih =>
    rw [List.foldl_cons, ih]
    unfold PresentState.triggerIdleFence
    split
    · split
      · rfl
      · rfl
    · rfl

/-- A completion is reported or stays. -/
theorem drain_countP {kind : PresentNotify → Bool} {about : CompletedPresentEvent → Bool}
    (hreports : ∀ s : PresentState, s.Selected owner eid window → s.Reports owner eid kind about)
    (h : s.Selected owner eid window) (done : Nat → Bool) :
    (s.drainPresentCompletions done).2.countP (sentTo owner eid kind) +
        (s.drainPresentCompletions done).1.pendingCompletions.countP about =
      s.pendingCompletions.countP about := by
  have hkept : ({ s with pendingCompletions :=
      (s.pendingCompletions.zipIdx.filter fun e => !done e.2).map (·.1) } :
        PresentState).Selected owner eid window := h
  unfold drainPresentCompletions
  dsimp only
  rw [countP_foldl_fire _ _ hreports hkept, foldl_fire_pendingCompletions, List.countP_nil,
    Nat.zero_add, List.countP_map, List.countP_map]
  have hsplit := List.countP_eq_countP_filter_add s.pendingCompletions.zipIdx
    (about ∘ (·.1)) (fun e => done e.2)
  rw [← List.countP_map, List.zipIdx_map_fst] at hsplit
  exact hsplit.symm

end PresentState

/-! ## Runs -/

/-- What happens to the presented frames. Requests of other extensions and the
end of clients and windows change the rest of the server. -/
inductive PresentEvent where
  | present (client : ClientId) (caps : PresentCaps) (ok : Nat → Bool) (request : PresentRequest)
  | drain (done : Nat → Bool)
  | selectInput (client : ClientId) (eid window : ResourceId) (eventMask : UInt32)
  | notifyMsc (req : NotifyMscRequest)
  | other (next : ServerState) (queues : PresentScheduler)

/-- A state with the events that have been sent and the requests that have been
accepted on the way to it. -/
structure PresentHistory where
  state : PresentState
  sent : List (ClientId × PresentNotify)
  accepted : List PresentRequest

def PresentHistory.step (h : PresentHistory) : PresentEvent → PresentHistory
  | .present client caps ok request =>
    let applied := request.apply client caps ok h.state
    { h with
      state := applied.1
      accepted :=
        match applied.2 with
        | .Error _ => h.accepted
        | _ => h.accepted ++ [request] }
  | .drain done =>
    let drained := h.state.drainPresentCompletions done
    { h with state := drained.1, sent := h.sent ++ drained.2 }
  | .selectInput client eid window eventMask =>
    { h with state := h.state.selectInput client eid window eventMask }
  | .notifyMsc req =>
    let notified := h.state.notifyMsc req
    { h with state := notified.1, sent := h.sent ++ notified.2 }
  | .other next queues =>
    { h with state := { h.state with server := next, presentScheduler := queues } }

def runPresent (s : PresentState) (events : List PresentEvent) : PresentHistory :=
  events.foldl PresentHistory.step ⟨s, [], []⟩

/-- An accepted frame of the window is copied. -/
def PresentEvent.Delivers (window : ResourceId) (s : PresentState) : PresentEvent → Prop
  | present client caps ok request =>
    request.window = window → request.Accepted client caps ok s → request.Copied ok s
  | _ => True

/-- As many completions have been reported or wait as were waiting or have been
asked for. -/
def PresentHistory.Balanced (owner : ClientId) (eid : ResourceId) (kind : PresentNotify → Bool)
    (about : CompletedPresentEvent → Bool) (asked : PresentRequest → Bool) (start : PresentState)
    (h : PresentHistory) : Prop :=
  h.sent.countP (sentTo owner eid kind) + h.state.pendingCompletions.countP about =
    start.pendingCompletions.countP about + h.accepted.countP asked

/-- Every accepted frame of the window has been reported once through the event
context, by an IdleNotify and a CompleteNotify, or waits to be. -/
structure CompletedOnce (owner : ClientId) (eid window : ResourceId) (start : PresentState)
    (h : PresentHistory) : Prop where
  idle : ∀ serial pixmap, h.Balanced owner eid (·.isIdle window serial pixmap)
    (·.isFrame window serial pixmap) (·.isFrame window serial pixmap) start
  complete : ∀ serial, h.Balanced owner eid (·.isComplete window serial)
    (·.isSerial window serial) (·.isSerial window serial) start

section

variable {s start : PresentState} {h : PresentHistory} {owner client : ClientId}
  {eid window : ResourceId} {caps : PresentCaps} {ok : Nat → Bool} {request : PresentRequest}
  {events : List PresentEvent} {e : PresentEvent}

theorem PresentHistory.step_present (hrequest : request.Accepted client caps ok h.state) :
    h.step (.present client caps ok request) =
      { h with
        state := (request.apply client caps ok h.state).1
        accepted := h.accepted ++ [request] } := by
  unfold step
  dsimp only
  split
  · next error herror => exact absurd herror (hrequest error)
  · rfl

/-- A NotifyMSC is not about a frame. -/
theorem PresentState.countP_notifyMsc {kind : PresentNotify → Bool} {req : NotifyMscRequest}
    (hkind : ∀ eid window serial mode ust msc,
      kind (.CompleteNotify eid window serial COMPLETE_KIND_NOTIFY_MSC mode ust msc) = false) :
    (s.notifyMsc req).2.countP (sentTo owner eid kind) = 0 := by
  refine List.countP_eq_zero.mpr fun sent hsent htold => ?_
  unfold notifyMsc at hsent
  dsimp only at hsent
  split at hsent
  · obtain ⟨target, -, rfl⟩ := List.mem_map.mp hsent
    rw [sentTo, hkind, Bool.and_false] at htold
    cases htold
  · cases hsent

section

variable {kind : PresentNotify → Bool} {about : CompletedPresentEvent → Bool}
  {asked : PresentRequest → Bool}

/-- A step keeps the balance if it copies the frame it is asked for. -/
theorem PresentHistory.Balanced.step (hb : h.Balanced owner eid kind about asked start)
    (hasked : ∀ request client caps, about (PresentRequest.completion client caps request) =
      asked request)
    (hkind : ∀ eid window serial mode ust msc,
      kind (.CompleteNotify eid window serial COMPLETE_KIND_NOTIFY_MSC mode ust msc) = false)
    (hreports : ∀ s : PresentState, s.Selected owner eid window → s.Reports owner eid kind about)
    (hselected : ∀ done, e = .drain done → h.state.Selected owner eid window)
    (hwindow : ∀ request, asked request = true → request.window = window)
    (hdelivers : e.Delivers window h.state) :
    (h.step e).Balanced owner eid kind about asked start := by
  unfold Balanced at hb ⊢
  cases e with
  | present client caps ok request =>
    rcases PresentState.apply_cases client caps ok h.state request with
      ⟨error, hrefused⟩ | ⟨-, haccepted, hpending⟩ | ⟨hdropped, haccepted, hpending⟩
    · simpa only [PresentHistory.step, hrefused] using hb
    · rw [step_present haccepted]
      dsimp only
      rw [hpending, List.countP_append, List.countP_append, List.countP_singleton,
        List.countP_singleton, hasked]
      omega
    · have hother : asked request = false := by
        refine Bool.eq_false_iff.mpr fun hthis => ?_
        exact hdropped (hdelivers (hwindow request hthis) haccepted)
      rw [step_present haccepted]
      dsimp only
      rw [hpending, List.countP_append, List.countP_singleton, hother]
      exact hb
  | drain done =>
    have hdrained := PresentState.drain_countP hreports (hselected done rfl) done
    dsimp only [PresentHistory.step]
    rw [List.countP_append]
    omega
  | selectInput client eid window eventMask => exact hb
  | notifyMsc req =>
    dsimp only [PresentHistory.step]
    rw [List.countP_append, PresentState.countP_notifyMsc hkind]
    exact hb
  | other next queues => exact hb

/-- A frame that is accepted and dropped upsets the balance for good. -/
theorem PresentHistory.Balanced.not_step (hb : h.Balanced owner eid kind about asked start)
    (hthis : asked request = true) (haccepted : request.Accepted client caps ok h.state)
    (hdropped : ¬ request.Copied ok h.state) :
    ¬ (h.step (.present client caps ok request)).Balanced owner eid kind about asked start := by
  unfold Balanced at hb ⊢
  rcases PresentState.apply_cases client caps ok h.state request with
    ⟨error, hrefused⟩ | ⟨hcopied, -, -⟩ | ⟨-, -, hpending⟩
  · exact absurd (congrArg Prod.snd hrefused) (haccepted error)
  · exact absurd hcopied hdropped
  · rw [step_present haccepted]
    dsimp only
    rw [hpending, List.countP_append, List.countP_singleton, hthis, if_pos rfl]
    omega

end

namespace CompletedOnce

theorem step (hb : CompletedOnce owner eid window start h)
    (hselected : ∀ done, e = .drain done → h.state.Selected owner eid window)
    (hdelivers : e.Delivers window h.state) : CompletedOnce owner eid window start (h.step e) where
  idle serial pixmap := by
    refine (hb.idle serial pixmap).step ?_ (fun _ _ _ _ _ _ => rfl)
      (fun _ hs => hs.reports_idle) hselected (fun request hframe => ?_) hdelivers
    · intro request client caps
      cases request <;> rfl
    · simp only [PresentRequest.isFrame, Bool.and_eq_true, beq_iff_eq] at hframe
      exact hframe.1.1
  complete serial := by
    refine (hb.complete serial).step ?_ (fun _ _ _ _ _ _ => ?_)
      (fun _ hs => hs.reports_complete) hselected (fun request hserial => ?_) hdelivers
    · intro request client caps
      cases request <;> rfl
    · exact Bool.and_false _
    · simp only [PresentRequest.isSerial, Bool.and_eq_true, beq_iff_eq] at hserial
      exact hserial.1

/-- The balance tells whether a step delivers. -/
theorem delivers (hb : CompletedOnce owner eid window start h)
    (hstep : CompletedOnce owner eid window start (h.step e)) : e.Delivers window h.state := by
  cases e with
  | present client caps ok request =>
    intro hwindow haccepted
    by_contra hdropped
    refine (hb.idle request.serial request.pixmap).not_step ?_ haccepted hdropped
      (hstep.idle request.serial request.pixmap)
    simp only [PresentRequest.isFrame, hwindow, beq_self_eq_true, Bool.and_self]
  | _ => trivial

end CompletedOnce

theorem runPresent_concat : runPresent s (events ++ [e]) = (runPresent s events).step e := by
  rw [runPresent, List.foldl_append]
  rfl

/-- All along a run every accepted frame is completed exactly once for the event
context, if and only if every accepted frame is copied. -/
theorem present_completed_iff
    (hselected : ∀ before done after, events = before ++ .drain done :: after →
      (runPresent s before).state.Selected owner eid window) :
    (∀ past, past <+: events → CompletedOnce owner eid window s (runPresent s past)) ↔
      ∀ before e after, events = before ++ e :: after →
        e.Delivers window (runPresent s before).state := by
  constructor
  · rintro honce before e after rfl
    refine (honce before (List.prefix_append _ _)).delivers ?_
    rw [← runPresent_concat]
    exact honce _ ⟨after, by rw [List.append_assoc, List.singleton_append]⟩
  · rintro hdelivers past ⟨future, rfl⟩
    induction past using List.reverseRecOn generalizing future with
    | nil => exact ⟨fun _ _ => Nat.add_comm _ _, fun _ => Nat.add_comm _ _⟩
    | append_singleton past e ih =>
      have hsplit : past ++ [e] ++ future = past ++ (e :: future) := by
        rw [List.append_assoc, List.singleton_append]
      rw [hsplit] at hselected hdelivers
      rw [runPresent_concat]
      refine (ih (e :: future) hselected hdelivers).step ?_ (hdelivers past e future rfl)
      rintro done rfl
      exact hselected past done future rfl

/-- Client 1 has a window of 8 by 8 with an event context for it, a pixmap of
that size and one without a host pixmap. -/
def presentState : PresentState where
  server :=
    let s := (ServerState.new.connectClient 1).getD .new
    { s with
      presentEventSelections := s.presentEventSelections.insert 0x100004 ⟨1, 0x100002, 6⟩
      resources := { s.resources with
        pixmaps := (s.resources.pixmaps.insert 0x100001
          ⟨0x100001, ROOT_WINDOW, 8, 8, 24, 1, some 1⟩).insert 0x100003
          ⟨0x100003, ROOT_WINDOW, 8, 8, 24, 1, none⟩
        windows := s.resources.windows.insert 0x100002
          { Window.placeholder 0x100002 with
            width := 8
            height := 8
            owner := 1
            hostXid := some 2 } } }
  screenSize := (800, 600)
  presentScheduler := ∅
  pendingCompletions := []

/-- The frame of a pixmap, without fences or a region. -/
def framePixmap (pixmap : ResourceId) : PixmapRequest where
  window := 0x100002
  pixmap := pixmap
  serial := 7
  valid := 0
  update := 0
  xOff := 0
  yOff := 0
  waitFence := 0
  idleFence := 0
  options := 0
  targetMsc := 0
  divisor := 0
  remainder := 0

theorem present_completed_pixmap :
    let run := runPresent presentState
      [.present 1 ⟨false, false, false⟩ (fun _ => true) (.Pixmap (framePixmap 0x100001)),
        .drain fun _ => true]
    CompletedOnce 1 0x100004 0x100002 presentState run ∧ run.state.pendingCompletions = [] := by
  refine ⟨(present_completed_iff ?_).mpr ?_ _ (List.prefix_refl _), rfl⟩
  · intro before done after hsplit
    match before, hsplit with
    | [], hsplit => cases hsplit
    | [_], hsplit =>
      obtain rfl := (List.cons.inj hsplit).1
      exact ⟨6, rfl, by decide, by decide, rfl⟩
    | _ :: _ :: _, hsplit =>
      have hrest := (List.cons.inj (List.cons.inj hsplit).2).2
      exact absurd hrest.symm (List.append_ne_nil_of_right_ne_nil _ nofun)
  · intro before e after hsplit
    match before, hsplit with
    | [], hsplit =>
      obtain rfl := (List.cons.inj hsplit).1
      exact fun _ _ => ⟨_, _, rfl, rfl, fun _ _ => rfl⟩
    | [_], hsplit =>
      obtain rfl := (List.cons.inj (List.cons.inj hsplit).2).1
      trivial
    | _ :: _ :: _, hsplit =>
      have hrest := (List.cons.inj (List.cons.inj hsplit).2).2
      exact absurd hrest.symm (List.append_ne_nil_of_right_ne_nil _ nofun)

/-- The frame of a pixmap without a host pixmap is accepted, and nothing is ever
sent for it. -/
theorem present_dropped :
    let request : PresentRequest := .Pixmap (framePixmap 0x100003)
    let run := runPresent presentState
      [.present 1 ⟨false, false, false⟩ (fun _ => true) request, .drain fun _ => true]
    (request.apply 1 ⟨false, false, false⟩ (fun _ => true) presentState).2 = .Handled ∧
      run.state.Selected 1 0x100004 0x100002 ∧ run.state.pendingCompletions = [] ∧
      run.sent = [] ∧ ¬ CompletedOnce 1 0x100004 0x100002 presentState run := by
  refine ⟨rfl, ⟨6, rfl, by decide, by decide, rfl⟩, rfl, rfl, fun honce => ?_⟩
  exact absurd (honce.idle 7 0x100003) (by unfold PresentHistory.Balanced; decide)

end

end X12

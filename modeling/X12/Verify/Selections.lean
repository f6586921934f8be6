import X12.Core.Selections
import X12.Lib.Runs
import X12.Protocol.Replies
import X12.Verify.ServerRun

/-! # The time of a selection

A selection has an owner and the time of its last change, which also a release is. The
server forgets the time with the owner, and takes the client of a window for the owner. -/

namespace X12

/-! ## Ownership -/

/-- Who holds something, and when that was last changed. -/
structure Ownership (ω τ : Type) where
  owner : Option ω
  changed : Option τ
  deriving DecidableEq

namespace Ownership

variable {ω τ : Type} [LT τ] {t : Ownership ω τ} {owner : Option ω} {time now : τ}

/-- The time is in the future, or before the last change. -/
def Untimely (t : Ownership ω τ) (time now : τ) : Prop :=
  now < time ∨ ∃ last ∈ t.changed, time < last

instance [DecidableLT τ] (t : Ownership ω τ) (time now : τ) : Decidable (t.Untimely time now) :=
  inferInstanceAs (Decidable (_ ∨ ∃ last ∈ t.changed, _))

variable [DecidableLT τ]

/-- Changing the owner at an untimely time does nothing. -/
def change (t : Ownership ω τ) (owner : Option ω) (time now : τ) : Ownership ω τ :=
  if t.Untimely time now then t else ⟨owner, some time⟩

/-- An owner that is gone owns nothing; the time stays. -/
def keep (t : Ownership ω τ) (present : ω → Bool) : Ownership ω τ :=
  { t with owner := t.owner.filter present }

end Ownership

/-! ## Requests -/

def requestWindow (body : List UInt8) : ResourceId :=
  u32Le body 0

def requestSelection (body : List UInt8) : AtomId :=
  u32Le body 4

/-- The time of a SetSelectionOwner request. -/
def requestTime (body : List UInt8) (now : UInt32) : UInt32 :=
  let time := if 12 ≤ body.length then u32Le body 8 else 0
  if time = 0 then now else time

namespace ServerState

variable {s : ServerState} {atoms : AtomTable} {client : ClientId} {body : List UInt8}
  {now : UInt32} {sel : AtomId}

/-- The request is long enough, and its window and its selection exist. -/
structure WellFormedRequest (s : ServerState) (atoms : AtomTable) (body : List UInt8) : Prop where
  long : 8 ≤ body.length
  window : requestWindow body = 0 ∨ s.resources.windows.contains (requestWindow body) = true
  selection : atoms.atomExists (requestSelection body) = true

instance : Decidable (s.WellFormedRequest atoms body) :=
  decidable_of_iff (8 ≤ body.length ∧
      (requestWindow body = 0 ∨ s.resources.windows.contains (requestWindow body) = true) ∧
      atoms.atomExists (requestSelection body) = true)
    ⟨fun h => ⟨h.1, h.2.1, h.2.2⟩, fun h => ⟨h.long, h.window, h.selection⟩⟩

/-- The request changes its selection. -/
structure Accepts (s : ServerState) (atoms : AtomTable) (body : List UInt8) (now : UInt32) :
    Prop where
  wellFormed : s.WellFormedRequest atoms body
  notFuture : ¬ now < requestTime body now
  notStale : ∀ w t, s.selections[requestSelection body]? = some (w, t) → ¬ requestTime body now < t

/-- What a request does to the selections. -/
def setSelection (s : ServerState) (body : List UInt8) (now : UInt32) : ServerState :=
  { s with
    selections :=
      if requestWindow body = 0 then s.selections.erase (requestSelection body)
      else s.selections.insert (requestSelection body)
        (requestWindow body, requestTime body now) }

/-- The stale requests, as the handler finds them. -/
theorem stale_iff :
    (s.selections[requestSelection body]?.any fun (_, priorLastTime) =>
      requestTime body now < priorLastTime) = true ↔
    ∃ w t, s.selections[requestSelection body]? = some (w, t) ∧ requestTime body now < t := by
  rw [Option.any_eq_true]
  simp only [decide_eq_true_eq, Prod.exists]

theorem handleSetSelectionOwner_state :
    (s.Accepts atoms body now ∧
      (s.handleSetSelectionOwner atoms client body now).1 = s.setSelection body now) ∨
    (¬ s.Accepts atoms body now ∧ (s.handleSetSelectionOwner atoms client body now).1 = s) := by
  unfold handleSetSelectionOwner
  split
  · next hshort =>
    exact .inr ⟨fun h => Nat.not_le.mpr hshort h.wellFormed.long, rfl⟩
  next hlong =>
  have htime : requestTime body now =
      if (if 12 ≤ body.length then u32Le body 8 else 0) = 0 then now
      else if 12 ≤ body.length then u32Le body 8 else 0 := rfl
  dsimp only
  rw [← htime]
  generalize (if 12 ≤ body.length then u32Le body 8 else 0) = time at htime ⊢
  have hfuture : (time ≠ 0 ∧ now < time) ↔ now < requestTime body now := by
    rw [htime]
    split
    · simp [*]
    · simp [*]
  split
  · next hlate => exact .inr ⟨fun h => h.notFuture (hfuture.mp hlate), rfl⟩
  next hnow =>
  split
  · next hwindow => exact .inr ⟨fun h => h.wellFormed.window.elim hwindow.1 hwindow.2, rfl⟩
  next hwindow =>
  split
  · next hatom => exact .inr ⟨fun h => hatom h.wellFormed.selection, rfl⟩
  next hatom =>
  split
  · next hstale =>
    obtain ⟨w, t, hentry, hlt⟩ := stale_iff.mp hstale
    exact .inr ⟨fun h => h.notStale w t hentry hlt, rfl⟩
  · next hstale =>
    refine .inl ⟨⟨⟨Nat.not_lt.mp hlong, ?_, not_not.mp hatom⟩, mt hfuture.mpr hnow, ?_⟩, rfl⟩
    · exact or_iff_not_imp_left.mpr fun hne => not_not.mp fun hgone => hwindow ⟨hne, hgone⟩
    · exact fun w t hentry hlt => hstale (stale_iff.mpr ⟨w, t, hentry, hlt⟩)

/-! ## What a disconnect does -/

variable {record : ClientState} {choices : DisconnectChoices} {id : ResourceId}

theorem removeClient_selections {mode : UInt8} :
    (s.removeClient client record mode).selections = s.selections := by
  rw [removeClient]
  split <;> rfl

theorem get_dropSelections {windows : List ResourceId} :
    (s.dropSelectionsOwnedByWindows windows).selections[sel]? =
      s.selections[sel]?.filter fun entry => entry.1 ∉ windows := by
  rw [dropSelectionsOwnedByWindows, Std.ExtTreeMap.getElem?_filter']

/-- The selections that a client gives up are those of windows that are destroyed with it,
or have been given up before. -/
theorem processDisconnect_selections (hrec : s.clients[client]? = some record)
    (howned : ∀ w, s.resources.windowOwner w = some client →
      w ∈ (s.resources.destroyOwnedWindows choices.roots).2) :
    (s.processDisconnect choices client).selections[sel]? =
      s.selections[sel]?.filter fun entry =>
        entry.1 ∉ (s.resources.destroyOwnedWindows choices.roots).2 := by
  have hclose : ({ s with closeDownModes := s.closeDownModes.erase client }.xfixesSelectionClientClose
      client).selections[sel]?.filter (fun entry =>
        entry.1 ∉ (s.resources.destroyOwnedWindows choices.roots).2) =
      s.selections[sel]?.filter fun entry =>
        entry.1 ∉ (s.resources.destroyOwnedWindows choices.roots).2 := by
    unfold xfixesSelectionClientClose
    dsimp only
    split
    · rfl
    rw [get_dropSelections]
    cases s.selections[sel]? with
    | none => rfl
    | some entry =>
      rw [Option.filter_some]
      split
      · rfl
      · next hgiven =>
        -- the entry has been given up, so its window is destroyed
        rw [decide_eq_true_eq, not_not] at hgiven
        rw [Option.filter_some, if_neg]
        · rfl
        · rw [decide_eq_true_eq, not_not]
          exact howned entry.1 (of_decide_eq_true (List.mem_filter.mp hgiven).2)
  rw [processDisconnect, hrec]
  dsimp only
  rw [get_dropSelections, releaseDeviceGrabs_others]
  simp only [dropGrabs, retainUnrelated, dropWindowSubscriptions]
  rw [removeClient_selections, xfixesSelectionClientClose_others]
  exact hclose

/-! ## Owners -/

variable {w : ResourceId} {t : UInt32} {next : ServerState}

theorem target_of_none (h : s.selections[sel]? = none) : s.selectionOwnerTargetId sel = none := by
  rw [selectionOwnerTargetId, h]
  rfl

theorem target_of_entry (h : s.selections[sel]? = some (w, t)) :
    s.selectionOwnerTargetId sel = (s.resources.windowOwner w).bind fun c =>
      if s.clients.contains c then some (w, c) else none := by
  rw [selectionOwnerTargetId, h]
  rfl

/-- The same entry, of a window with the same owner. -/
theorem target_congr (hentry : s.selections[sel]? = some (w, t))
    (hnext : next.selections[sel]? = some (w, t))
    (howner : next.resources.windowOwner w = s.resources.windowOwner w)
    (hclient : ∀ c, s.resources.windowOwner w = some c →
      next.clients.contains c = s.clients.contains c) :
    next.selectionOwnerTargetId sel = s.selectionOwnerTargetId sel := by
  rw [target_of_entry hentry, target_of_entry hnext, howner]
  cases hc : s.resources.windowOwner w with
  | none => rfl
  | some c => rw [Option.bind_some, Option.bind_some, hclient c hc]

end ServerState

/-! ## Histories -/

/-- What can happen to a selection. The last case is any step that does not change who
owns it, but may destroy the window that does. -/
inductive SelectionStep where
  | setOwner (client : ClientId) (atoms : AtomTable) (body : List UInt8) (now : UInt32)
  | disconnect (client : ClientId) (choices : DisconnectChoices)
  | other (next : ServerState)

/-- The server, and who should own the selection since when. -/
structure SelectionHistory where
  server : ServerState
  tenure : Ownership (ResourceId × ClientId) UInt32

namespace SelectionHistory

/-- The window and the client are still there. -/
def present (s : ServerState) (owner : ResourceId × ClientId) : Bool :=
  s.resources.windows.contains owner.1 && s.clients.contains owner.2

/-- A well-formed request for the selection makes its window and its client the owner at
its time. -/
def apply (sel : AtomId) (h : SelectionHistory) : SelectionStep → SelectionHistory
  | .setOwner client atoms body now =>
    { server := (h.server.handleSetSelectionOwner atoms client body now).1
      tenure :=
        if h.server.WellFormedRequest atoms body ∧ requestSelection body = sel then
          h.tenure.change
            (if requestWindow body = 0 then none else some (requestWindow body, client))
            (requestTime body now) now
        else h.tenure }
  | .disconnect client choices =>
    let next := h.server.processDisconnect choices client
    { server := next, tenure := h.tenure.keep (present next) }
  | .other next => { server := next, tenure := h.tenure.keep (present next) }

/-- The server finds the owner that the history says, and the time that it has for one is
that of the last change. -/
structure Agrees (sel : AtomId) (h : SelectionHistory) : Prop where
  window : h.server.selections[sel]?.map Prod.fst = h.tenure.owner.map Prod.fst
  client : h.server.selectionOwnerTargetId sel = h.tenure.owner
  dated : ∀ w t, h.server.selections[sel]? = some (w, t) → h.tenure.changed = some t

/-- The same owner, or its window is destroyed. -/
inductive KeepsOwner (sel : AtomId) (s next : ServerState) : Prop
  | kept (selections : next.selections[sel]? = s.selections[sel]?)
      (owner : ∀ w t, s.selections[sel]? = some (w, t) →
        next.resources.windowOwner w = s.resources.windowOwner w ∧
        ∀ c, s.resources.windowOwner w = some c → next.clients.contains c = s.clients.contains c)
  | destroyed (selections : next.selections[sel]? = none)
      (window : ∀ w t, s.selections[sel]? = some (w, t) → next.resources.windows[w]? = none)

/-- A request is made by a connected client, and what is not described here leaves the
selection alone. -/
def Admitted (sel : AtomId) (h : SelectionHistory) : SelectionStep → Prop
  | .setOwner client _ _ _ => h.server.clients.contains client = true
  | .disconnect client choices => choices.Allowed h.server client
  | .other next => ServerInvariant next ∧ KeepsOwner sel h.server next

/-- An acquisition that is too early for the last change finds an owner, and one that is
timely is for a window of the client. -/
def Regular (sel : AtomId) (h : SelectionHistory) : SelectionStep → Prop
  | .setOwner client atoms body now =>
    h.server.WellFormedRequest atoms body → requestSelection body = sel → requestWindow body ≠ 0 →
      if h.tenure.Untimely (requestTime body now) now then
        now < requestTime body now ∨ h.server.selections[sel]? ≠ none
      else h.server.resources.windowOwner (requestWindow body) = some client
  | _ => True

/-- What every step finds. -/
structure Follows (sel : AtomId) (h : SelectionHistory) : Prop where
  agrees : h.Agrees sel
  invariant : ServerInvariant h.server

variable {sel : AtomId} {h : SelectionHistory} {client : ClientId} {atoms : AtomTable}
  {body : List UInt8} {now : UInt32} {next : ServerState} {choices : DisconnectChoices}

/-- A selection without an owner. -/
theorem Follows.of_none (hinvariant : ServerInvariant h.server)
    (hnone : h.server.selections[sel]? = none) (hunowned : h.tenure.owner = none) :
    h.Follows sel := by
  refine ⟨⟨?_, ?_, ?_⟩, hinvariant⟩
  · rw [hnone, hunowned]
  · rw [ServerState.target_of_none hnone, hunowned]
  · intro w t ht
    rw [hnone] at ht
    cases ht

theorem Follows.owner_of_none (hf : h.Follows sel) (hnone : h.server.selections[sel]? = none) :
    h.tenure.owner = none := by
  rw [← hf.agrees.client, ServerState.target_of_none hnone]

theorem Follows.owner_of_entry (hf : h.Follows sel) {w : ResourceId} {t : UInt32}
    (hentry : h.server.selections[sel]? = some (w, t)) :
    ∃ c, h.tenure.owner = some (w, c) ∧ h.server.resources.windowOwner w = some c ∧
      h.server.clients.contains c = true := by
  have hwindow := hf.agrees.window
  rw [hentry, Option.map_some] at hwindow
  obtain ⟨⟨w', c⟩, howner, hw⟩ := Option.map_eq_some_iff.mp hwindow.symm
  obtain rfl : w' = w := hw
  have htarget := hf.agrees.client
  rw [ServerState.target_of_entry hentry, howner] at htarget
  obtain ⟨c', hc', hsome⟩ := Option.bind_eq_some_iff.mp htarget
  split at hsome
  · next hconnected =>
    cases hsome
    exact ⟨_, howner, hc', hconnected⟩
  · cases hsome

/-- A request that the server refuses is untimely, if it is for the selection. -/
theorem Follows.untimely (hf : h.Follows sel) (hwf : h.server.WellFormedRequest atoms body)
    (hsel : requestSelection body = sel) (hrefused : ¬ h.server.Accepts atoms body now) :
    h.tenure.Untimely (requestTime body now) now ∧
      (now < requestTime body now ∨ h.server.selections[sel]? ≠ none) := by
  by_cases hfuture : now < requestTime body now
  · exact ⟨.inl hfuture, .inl hfuture⟩
  by_cases hstale : ∀ w t, h.server.selections[requestSelection body]? = some (w, t) →
      ¬ requestTime body now < t
  · exact absurd ⟨hwf, hfuture, hstale⟩ hrefused
  · simp only [not_forall, not_not] at hstale
    obtain ⟨w, t, hentry, hlt⟩ := hstale
    rw [hsel] at hentry
    refine ⟨.inr ⟨t, hf.agrees.dated w t hentry, hlt⟩, .inr ?_⟩
    rw [hentry]
    exact Option.some_ne_none _

/-- What a step has to show: a regular one keeps the server and the history together, and
one that keeps them together is regular. -/
def StepSound (sel : AtomId) (h : SelectionHistory) (step : SelectionStep) : Prop :=
  (h.Regular sel step → (h.apply sel step).Follows sel) ∧
    ((h.apply sel step).Agrees sel → h.Regular sel step)

theorem Follows.refused (hf : h.Follows sel)
    (hrefused : ¬ h.server.Accepts atoms body now)
    (hserver : (h.server.handleSetSelectionOwner atoms client body now).1 = h.server) :
    StepSound sel h (.setOwner client atoms body now) := by
  have happly : h.apply sel (.setOwner client atoms body now) = h := by
    rw [apply, hserver]
    split
    · next hfor => rw [Ownership.change, if_pos (hf.untimely hfor.1 hfor.2 hrefused).1]
    · rfl
  rw [StepSound, happly]
  refine ⟨fun _ => hf, fun _ hwf hsel _ => ?_⟩
  obtain ⟨huntimely, hseen⟩ := hf.untimely hwf hsel hrefused
  rw [if_pos huntimely]
  exact hseen

theorem setSelection_entry {s : ServerState} :
    (s.setSelection body now).selections[requestSelection body]? =
      if requestWindow body = 0 then none else some (requestWindow body, requestTime body now) := by
  rw [ServerState.setSelection]
  dsimp only
  split
  · rw [ResourceMap.get_erase, if_pos rfl]
  · rw [ResourceMap.get_insert, if_pos rfl]

/-- A request for the selection that the server accepts although it is untimely: the time
of the last change has been forgotten with the owner. -/
theorem Follows.accepted_untimely (hf : h.Follows (requestSelection body))
    (haccepts : h.server.Accepts atoms body now)
    (huntimely : h.tenure.Untimely (requestTime body now) now)
    (hinvariant : ServerInvariant (h.server.setSelection body now)) :
    (h.Regular (requestSelection body) (.setOwner client atoms body now) →
      Follows (requestSelection body)
        { server := h.server.setSelection body now, tenure := h.tenure }) ∧
    (Agrees (requestSelection body)
        { server := h.server.setSelection body now, tenure := h.tenure } →
      h.Regular (requestSelection body) (.setOwner client atoms body now)) := by
  have hentry : (h.server.setSelection body now).selections[requestSelection body]? =
      if requestWindow body = 0 then none else some (requestWindow body, requestTime body now) :=
    setSelection_entry
  have hnone : h.server.selections[requestSelection body]? = none := by
    refine Option.eq_none_iff_forall_ne_some.mpr fun entry hsome => ?_
    obtain ⟨last, hlast, hlt⟩ := huntimely.resolve_left haccepts.notFuture
    have hdated := hf.agrees.dated entry.1 entry.2 hsome
    rw [Option.mem_def, hdated, Option.some.injEq] at hlast
    exact haccepts.notStale entry.1 entry.2 hsome (hlast ▸ hlt)
  have hunowned := hf.owner_of_none hnone
  by_cases hwindow : requestWindow body = 0
  · rw [if_pos hwindow] at hentry
    exact ⟨fun _ => .of_none hinvariant hentry hunowned, fun _ _ _ hne => absurd hwindow hne⟩
  · rw [if_neg hwindow] at hentry
    constructor
    · intro hregular
      have hseen := hregular haccepts.wellFormed rfl hwindow
      rw [if_pos huntimely] at hseen
      exact absurd hnone (hseen.resolve_left haccepts.notFuture)
    · intro hagrees
      have hsame := hagrees.window
      dsimp only at hsame
      rw [hentry, hunowned] at hsame
      cases hsame

/-- A timely acquisition makes the client of the window the owner. -/
theorem Follows.acquired (hconnected : h.server.clients.contains client = true)
    (hwindow : requestWindow body ≠ 0)
    (hinvariant : ServerInvariant (h.server.setSelection body now)) :
    (h.server.resources.windowOwner (requestWindow body) = some client →
      Follows (requestSelection body)
        { server := h.server.setSelection body now
          tenure := ⟨some (requestWindow body, client), some (requestTime body now)⟩ }) ∧
    (Agrees (requestSelection body)
        { server := h.server.setSelection body now
          tenure := ⟨some (requestWindow body, client), some (requestTime body now)⟩ } →
      h.server.resources.windowOwner (requestWindow body) = some client) := by
  have hentry : (h.server.setSelection body now).selections[requestSelection body]? =
      some (requestWindow body, requestTime body now) :=
    setSelection_entry.trans (if_neg hwindow)
  have htarget : (h.server.setSelection body now).selectionOwnerTargetId (requestSelection body) =
      (h.server.resources.windowOwner (requestWindow body)).bind fun c =>
        if h.server.clients.contains c then some (requestWindow body, c) else none :=
    ServerState.target_of_entry hentry
  constructor
  · intro howner
    refine ⟨⟨?_, ?_, ?_⟩, hinvariant⟩
    · rw [hentry]
      rfl
    · rw [htarget, howner, Option.bind_some]
      exact if_pos hconnected
    · intro w t ht
      rw [hentry] at ht
      cases ht
      rfl
  · intro hagrees
    obtain ⟨c, hc, hsome⟩ := Option.bind_eq_some_iff.mp (htarget.symm.trans hagrees.client)
    split at hsome
    · cases hsome
      exact hc
    · cases hsome

/-- A request for the selection that the server accepts. -/
theorem Follows.accepted_for (hf : h.Follows (requestSelection body))
    (hconnected : h.server.clients.contains client = true)
    (haccepts : h.server.Accepts atoms body now)
    (hserver : (h.server.handleSetSelectionOwner atoms client body now).1 =
      h.server.setSelection body now)
    (hinvariant : ServerInvariant (h.server.setSelection body now)) :
    StepSound (requestSelection body) h (.setOwner client atoms body now) := by
  rw [StepSound, apply, hserver, if_pos ⟨haccepts.wellFormed, rfl⟩]
  by_cases huntimely : h.tenure.Untimely (requestTime body now) now
  · rw [Ownership.change, if_pos huntimely]
    exact hf.accepted_untimely haccepts huntimely hinvariant
  rw [Ownership.change, if_neg huntimely]
  by_cases hwindow : requestWindow body = 0
  · rw [if_pos hwindow]
    have hentry : (h.server.setSelection body now).selections[requestSelection body]? = none :=
      setSelection_entry.trans (if_pos hwindow)
    exact ⟨fun _ => .of_none hinvariant hentry rfl, fun _ _ _ hne => absurd hwindow hne⟩
  · rw [if_neg hwindow]
    obtain ⟨hfollows, hagrees⟩ :=
      Follows.acquired hconnected hwindow hinvariant
    constructor
    · intro hregular
      have howner := hregular haccepts.wellFormed rfl hwindow
      rw [if_neg huntimely] at howner
      exact hfollows howner
    · intro hagreed _ _ _
      rw [if_neg huntimely]
      exact hagrees hagreed

theorem Follows.accepted (hf : h.Follows sel)
    (hconnected : h.server.clients.contains client = true)
    (haccepts : h.server.Accepts atoms body now)
    (hserver : (h.server.handleSetSelectionOwner atoms client body now).1 =
      h.server.setSelection body now) :
    StepSound sel h (.setOwner client atoms body now) := by
  have hinvariant : ServerInvariant (h.server.setSelection body now) :=
    ⟨hf.invariant.tree, hf.invariant.rootOwner, hf.invariant.clients⟩
  by_cases hsel : requestSelection body = sel
  · subst hsel
    exact hf.accepted_for hconnected haccepts hserver hinvariant
  · -- a request for another selection
    have happly : h.apply sel (.setOwner client atoms body now) =
        { h with server := h.server.setSelection body now } := by
      rw [apply, hserver, if_neg fun hfor => hsel hfor.2]
    have hentry : (h.server.setSelection body now).selections[sel]? =
        h.server.selections[sel]? := by
      rw [ServerState.setSelection]
      dsimp only
      split
      · rw [ResourceMap.get_erase, if_neg (Ne.symm hsel)]
      · rw [ResourceMap.get_insert, if_neg (Ne.symm hsel)]
    rw [StepSound, happly]
    refine ⟨fun _ => ⟨⟨?_, ?_, ?_⟩, hinvariant⟩, fun _ _ hsame => absurd hsame hsel⟩
    · exact (congrArg _ hentry).trans hf.agrees.window
    · refine Eq.trans ?_ hf.agrees.client
      cases hold : h.server.selections[sel]? with
      | none =>
        rw [ServerState.target_of_none hold, ServerState.target_of_none (hentry.trans hold)]
      | some entry =>
        exact ServerState.target_congr hold (hentry.trans hold) rfl fun _ _ => rfl
    · intro w t ht
      exact hf.agrees.dated w t (hentry.symm.trans ht)

/-- Where the entry of the selection is gone, so is its window or its client. -/
theorem Follows.cleared (hf : h.Follows sel) (hinvariant : ServerInvariant next)
    (hnone : next.selections[sel]? = none)
    (hgone : ∀ w t, h.server.selections[sel]? = some (w, t) → next.resources.windows[w]? = none) :
    Follows sel { server := next, tenure := h.tenure.keep (present next) } := by
  have howner : (h.tenure.keep (present next)).owner = none := by
    rw [Ownership.keep]
    dsimp only
    cases hentry : h.server.selections[sel]? with
    | none => rw [hf.owner_of_none hentry, Option.filter_none]
    | some entry =>
      obtain ⟨c, hold, -, -⟩ := hf.owner_of_entry hentry
      rw [hold, Option.filter_some, if_neg]
      rw [present, Std.ExtTreeMap.contains_eq_isSome_getElem?, hgone entry.1 entry.2 hentry]
      exact Bool.false_ne_true
  exact .of_none hinvariant hnone howner

/-- Where the entry stays, and its window with its owner. -/
theorem Follows.stays (hf : h.Follows sel) (hinvariant : ServerInvariant next)
    (hsame : next.selections[sel]? = h.server.selections[sel]?)
    (howner : ∀ w t, h.server.selections[sel]? = some (w, t) →
      next.resources.windowOwner w = h.server.resources.windowOwner w ∧
      ∀ c, h.server.resources.windowOwner w = some c →
        next.clients.contains c = h.server.clients.contains c) :
    Follows sel { server := next, tenure := h.tenure.keep (present next) } := by
  cases hentry : h.server.selections[sel]? with
  | none =>
    refine hf.cleared hinvariant (hsame.trans hentry) fun w t ht => ?_
    rw [hentry] at ht
    cases ht
  | some entry =>
    obtain ⟨w, t⟩ := entry
    obtain ⟨c, hold, hwindow, hconnected⟩ := hf.owner_of_entry hentry
    obtain ⟨hnext, hclients⟩ := howner w t hentry
    have hkept : (h.tenure.keep (present next)).owner = h.tenure.owner := by
      have hpresent : present next (w, c) = true := by
        have hnext := hnext.trans hwindow
        obtain ⟨v, hv, -⟩ := Option.map_eq_some_iff.mp hnext
        rw [present, hclients c hwindow, hconnected, Bool.and_true,
          Std.ExtTreeMap.contains_eq_isSome_getElem?, hv]
        rfl
      rw [Ownership.keep, hold, Option.filter_some, if_pos hpresent]
    refine ⟨⟨?_, ?_, ?_⟩, hinvariant⟩
    · exact (congrArg _ hsame).trans (hf.agrees.window.trans (congrArg _ hkept.symm))
    · exact ((ServerState.target_congr hentry (hsame.trans hentry) hnext hclients).trans
        hf.agrees.client).trans hkept.symm
    · intro w' t' ht
      exact hf.agrees.dated w' t' (hsame.symm.trans ht)

theorem Follows.disconnect (hf : h.Follows sel) (hallowed : choices.Allowed h.server client) :
    (h.apply sel (.disconnect client choices)).Follows sel := by
  have hinvariant := hf.invariant.disconnect hallowed
  cases hrec : h.server.clients[client]? with
  | none =>
    have hnoop : h.server.processDisconnect choices client = h.server := by
      rw [ServerState.processDisconnect, hrec]
    rw [apply, hnoop]
    exact hf.stays hf.invariant rfl fun _ _ _ => ⟨rfl, fun _ _ => rfl⟩
  | some record =>
    have hclosed := hf.invariant.tree.closesDown (hf.invariant.root_not_owned hrec) hallowed.roots
    have howned : ∀ w, h.server.resources.windowOwner w = some client →
        w ∈ (h.server.resources.destroyOwnedWindows choices.roots).2 :=
      fun w howner => (hclosed.mem_iff w).mpr ⟨w, howner, .refl⟩
    have hselections := @ServerState.processDisconnect_selections h.server client sel record choices
      hrec howned
    have hwindows := @ServerState.processDisconnect_windows h.server client record choices hrec
    have hget (w : ResourceId) := (congrArg (·[w]?) hwindows).trans (hclosed.get w)
    by_cases hlive : ∀ w t, h.server.selections[sel]? = some (w, t) →
        w ∉ (h.server.resources.destroyOwnedWindows choices.roots).2
    · refine hf.stays hinvariant ?_ fun w t hentry => ⟨?_, fun c hc => ?_⟩
      · rw [hselections]
        cases hentry : h.server.selections[sel]? with
        | none => rfl
        | some entry => rw [Option.filter_some, if_pos (decide_eq_true (hlive _ _ hentry))]
      · have hkept := hget w
        rw [if_neg (hlive w t hentry)] at hkept
        rw [ResourceTable.windowOwner, hkept, Option.map_map]
        rfl
      · have hne : c ≠ client := fun heq => hlive w t hentry (howned w (heq ▸ hc))
        rw [Std.ExtTreeMap.contains_eq_isSome_getElem?,
          ServerState.processDisconnect_clients hrec, if_neg hne, Option.isSome_map,
          ← Std.ExtTreeMap.contains_eq_isSome_getElem?]
    · simp only [not_forall, not_not] at hlive
      obtain ⟨w, t, hentry, hdead⟩ := hlive
      refine hf.cleared hinvariant ?_ fun w' t' hentry' => ?_
      · rw [hselections, hentry, Option.filter_some, if_neg]
        rwa [decide_eq_true_eq, not_not]
      · rw [hentry] at hentry'
        cases hentry'
        exact (hget w).trans (if_pos hdead)

theorem Follows.step (hf : h.Follows sel) {step : SelectionStep} (hadmitted : h.Admitted sel step) :
    StepSound sel h step := by
  cases step with
  | setOwner client atoms body now =>
    rcases ServerState.handleSetSelectionOwner_state with ⟨haccepts, hserver⟩ | ⟨hrefused, hserver⟩
    · exact hf.accepted hadmitted haccepts hserver
    · exact hf.refused hrefused hserver
  | disconnect client choices => exact ⟨fun _ => hf.disconnect hadmitted, fun _ => trivial⟩
  | other next =>
    refine ⟨fun _ => ?_, fun _ => trivial⟩
    obtain ⟨hinvariant, hkeeps⟩ := hadmitted
    cases hkeeps with
    | kept hsame howner => exact hf.stays hinvariant hsame howner
    | destroyed hnone hgone => exact hf.cleared hinvariant hnone hgone

/-! ## Runs -/

/-- The history of the selection after the steps. -/
def run (sel : AtomId) (start : ServerState) (steps : List SelectionStep) : SelectionHistory :=
  steps.foldl (apply sel) { server := start, tenure := ⟨none, none⟩ }

theorem run_concat {start : ServerState} {steps : List SelectionStep} {step : SelectionStep} :
    run sel start (steps ++ [step]) = (run sel start steps).apply sel step :=
  List.foldl_concat _ _ _ _

/-- Steps that are taken in the states that they find. -/
def AllAdmitted (sel : AtomId) (start : ServerState) (steps : List SelectionStep) : Prop :=
  Runs.AtEach (fun before step => (run sel start before).Admitted sel step) steps

/-- The server agrees with the history after every step. -/
def AlwaysAgrees (sel : AtomId) (start : ServerState) (steps : List SelectionStep) : Prop :=
  Runs.AtEach (fun before step => (run sel start (before ++ [step])).Agrees sel) steps

/-- Every step is regular in the state that it finds. -/
def AllRegular (sel : AtomId) (start : ServerState) (steps : List SelectionStep) : Prop :=
  Runs.AtEach (fun before step => (run sel start before).Regular sel step) steps

variable {start : ServerState} {steps : List SelectionStep}

theorem run_follows (hinvariant : ServerInvariant start) (hnone : start.selections[sel]? = none)
    (hadmitted : AllAdmitted sel start steps) (hregular : AllRegular sel start steps) :
    (run sel start steps).Follows sel := by
  induction steps using List.reverseRecOn with
  | nil => exact .of_none hinvariant hnone rfl
  | append_singleton before step ih =>
    obtain ⟨hadmitted, hstep⟩ := Runs.AtEach.concat_iff.mp hadmitted
    obtain ⟨hregular, hlast⟩ := Runs.AtEach.concat_iff.mp hregular
    rw [run_concat]
    exact ((ih hadmitted hregular).step hstep).1 hlast

/-- A selection has the owner and the time of its last change throughout a run exactly when
no acquisition that is too early for the last change finds the selection without an owner,
and no timely one is for the window of another client. -/
theorem selection_agrees_iff (hinvariant : ServerInvariant start)
    (hnone : start.selections[sel]? = none) (hadmitted : AllAdmitted sel start steps) :
    AlwaysAgrees sel start steps ↔ AllRegular sel start steps := by
  induction steps using List.reverseRecOn with
  | nil => exact ⟨fun _ => .nil, fun _ => .nil⟩
  | append_singleton before step ih =>
    obtain ⟨hbefore, hstep⟩ := Runs.AtEach.concat_iff.mp hadmitted
    have ih := ih hbefore
    rw [AlwaysAgrees, AllRegular, Runs.AtEach.concat_iff, Runs.AtEach.concat_iff]
    constructor
    · rintro ⟨hagreed, hagrees⟩
      have hregular := ih.mp hagreed
      have hsound := (run_follows hinvariant hnone hbefore hregular).step hstep
      rw [run_concat] at hagrees
      exact ⟨hregular, hsound.2 hagrees⟩
    · rintro ⟨hregular, hlast⟩
      have hsound := (run_follows hinvariant hnone hbefore hregular).step hstep
      refine ⟨ih.mpr hregular, ?_⟩
      rw [run_concat]
      exact (hsound.1 hlast).agrees

/-- A request for selection 1. -/
def requestBody (window : ResourceId) (time : UInt32) : List UInt8 :=
  u32LeBytes window ++ u32LeBytes 1 ++ u32LeBytes time

def staleReacquisition : List SelectionStep :=
  [.setOwner 1 .new (requestBody 0x100000 50) 100,
    .setOwner 1 .new (requestBody 0 80) 100,
    .setOwner 1 .new (requestBody 0x100000 60) 100]

/-- The selection is given up at 80 and owned again since 60. -/
theorem staleReacquisition_accepted :
    ServerReachable framedState ∧ AllAdmitted 1 framedState staleReacquisition ∧
      (run 1 framedState staleReacquisition).tenure = ⟨none, some 80⟩ ∧
      (run 1 framedState staleReacquisition).server.handleGetSelectionOwner [1, 0, 0, 0] =
        0x100000 ∧
      ¬ AlwaysAgrees 1 framedState staleReacquisition := by
  refine ⟨framedState_reachable, ?_, by decide +kernel, by decide +kernel, fun h => ?_⟩
  · simp only [AllAdmitted, staleReacquisition, Runs.AtEach.cons_iff, Admitted]
    exact ⟨by decide +kernel, by decide +kernel, by decide +kernel, .nil⟩
  · have hlast := h (staleReacquisition.take 2) _ [] rfl
    exact absurd hlast.window (by decide +kernel)

def takeover : List SelectionStep :=
  [.setOwner 1 .new (requestBody 0x100000 50) 100,
    .setOwner 2 .new (requestBody 0x200000 40) 100,
    .setOwner 2 .new (requestBody 0x200000 60) 100]

theorem selection_agrees_takeover :
    AlwaysAgrees 1 framedState (takeover ++
      [.disconnect 2 ((run 1 framedState takeover).server.quietChoices 2),
        .setOwner 1 .new (requestBody 0x100000 70) 100]) := by
  refine (selection_agrees_iff framedState_reachable.invariant (by decide +kernel) ?_).mpr ?_
  · rw [AllAdmitted, Runs.AtEach.append_iff, takeover]
    simp only [Runs.AtEach.cons_iff, Admitted, List.append_nil]
    exact ⟨⟨by decide +kernel, by decide +kernel, by decide +kernel, .nil⟩,
      ServerState.quietChoices_allowed _ 2, by decide +kernel, .nil⟩
  · rw [AllRegular, Runs.AtEach.append_iff, takeover]
    simp only [Runs.AtEach.cons_iff, Regular]
    exact ⟨⟨by decide +kernel, by decide +kernel, by decide +kernel, .nil⟩,
      trivial, by decide +kernel, .nil⟩

end SelectionHistory

end X12

import X12.Core.PointerFanout
import X12.Lib.Tenure
import X12.Verify.ButtonGrabs
import Mathlib.Data.Finset.Basic

/-! # How long a button grab lasts

A passive grab should last until the last button is up. Every release that is not withheld
ends it, whichever buttons are still down. -/

namespace X12

/-! ## What leaves the grab alone -/

namespace InputState

structure SamePointerGrab (s s' : InputState) : Prop where
  grab : s'.server.pointerGrab = s.server.pointerGrab
  passive : s'.server.pointerGrabIsPassive = s.server.pointerGrabIsPassive

namespace SamePointerGrab

variable {s s' s'' : InputState}

theorem of_server (h : s'.server = s.server) : SamePointerGrab s s' where
  grab := by rw [h]
  passive := by rw [h]

theorem refl (s : InputState) : SamePointerGrab s s := of_server rfl

theorem trans (h : SamePointerGrab s s') (h' : SamePointerGrab s' s'') : SamePointerGrab s s'' where
  grab := h'.grab.trans h.grab
  passive := h'.passive.trans h.passive

theorem ite {c : Prop} [Decidable c] (h : SamePointerGrab s s') (h' : SamePointerGrab s s'') :
    SamePointerGrab s (if c then s' else s'') := by
  split
  · exact h
  · exact h'

end SamePointerGrab

variable (s : InputState)

theorem freezeThisEvent_server (deviceid : UInt16) (owner : ClientId) (q : Xi1QueuedEvent) :
    (s.xi1FreezeThisEventIfNeeded deviceid owner q).server = s.server := by
  unfold xi1FreezeThisEventIfNeeded
  split <;> rfl

theorem deactivateDeviceGrab_samePointerGrab (deviceid : UInt16) :
    SamePointerGrab s (s.xi1DeactivateDeviceGrab deviceid).state := by
  unfold xi1DeactivateDeviceGrab
  split
  · exact .refl s
  · exact ⟨rfl, rfl⟩

theorem coreGrabBridgeRelease_server (deviceid : UInt16) (owner : ClientId) :
    (s.xi1CoreGrabBridgeRelease deviceid owner).state.server = s.server := by
  unfold xi1CoreGrabBridgeRelease
  dsimp only [updateFreeze]
  split <;> rfl

/-- An armed freeze is tripped, or nothing happens. -/
theorem freezeThisEvent_if_server (c : Bool) (deviceid : UInt16) (owner : ClientId)
    (q : Xi1QueuedEvent) :
    (if c then s.xi1FreezeThisEventIfNeeded deviceid owner q else s).server = s.server := by
  split
  · exact s.freezeThisEvent_server deviceid owner q
  · rfl

theorem routeDeviceEvent_samePointerGrab (q : Xi1QueuedEvent) :
    SamePointerGrab s (s.xi1RouteDeviceEvent q).state := by
  unfold xi1RouteDeviceEvent
  split
  · exact .of_server rfl
  · split
    · -- an active grab
      rename_i grab _
      have hfreeze : SamePointerGrab s (if q.isPress || q.isRelease then
          s.xi1FreezeThisEventIfNeeded q.deviceid grab.owner q else s) :=
        .of_server (s.freezeThisEvent_if_server _ q.deviceid grab.owner q)
      dsimp only [InputOutcome.after]
      split
      · exact hfreeze.trans (deactivateDeviceGrab_samePointerGrab _ q.deviceid)
      · exact hfreeze
    · split
      · exact ⟨rfl, rfl⟩
      · -- the selections
        dsimp only [InputOutcome.after, InputOutcome.done]
        split
        · exact .of_server (s.freezeThisEvent_if_server _ q.deviceid _ q)
        · exact .refl s

theorem keyRoute_samePointerGrab (event : HostKeyEvent) :
    SamePointerGrab s (s.keyRoute event).1 := by
  unfold keyRoute
  split
  · dsimp only
    split
    · refine SamePointerGrab.trans ?_ (.of_server (coreGrabBridgeRelease_server _ _ _))
      exact ⟨rfl, rfl⟩
    · exact .refl s
  · dsimp only
    split
    · exact ⟨rfl, rfl⟩
    · exact .refl s

theorem deliverXi1FocusedKey_samePointerGrab (event : HostKeyEvent) :
    SamePointerGrab s (s.deliverXi1FocusedKey event).state :=
  s.routeDeviceEvent_samePointerGrab _

theorem deliverRouted_samePointerGrab (event : HostKeyEvent) (route : KeyRoute) :
    SamePointerGrab s (s.deliverRouted event route).state := by
  unfold deliverRouted
  refine SamePointerGrab.trans ?_ (deliverXi1FocusedKey_samePointerGrab _ event)
  split
  · exact .ite (.of_server rfl) (.refl s)
  · exact .refl s

theorem drain_samePointerGrab (dev : UInt16) : SamePointerGrab s (s.drain dev).state := by
  unfold drain
  split
  · exact .refl s
  · dsimp only [InputOutcome.andThen, deliverRoutedKey]
    split
    · refine SamePointerGrab.trans ?_ (keyRoute_samePointerGrab _ _)
      exact .of_server rfl
    · split
      · refine SamePointerGrab.trans ?_ (routeDeviceEvent_samePointerGrab _ _)
        exact .of_server rfl
      · exact .refl s

/-- What remains of a call leaves the grab of the pointer alone. -/
theorem resume_samePointerGrab (p : Pending) : SamePointerGrab s (s.resume p).state := by
  cases p with
  | drain dev => exact s.drain_samePointerGrab dev
  | deliverRouted event route => exact s.deliverRouted_samePointerGrab event route
  | deliverActivating q grab => exact .of_server rfl
  | routeStored q => exact s.routeDeviceEvent_samePointerGrab q
  | replayKey event =>
    dsimp only [resume, replayFrozenKeyToFocus]
    split
    · exact .refl s
    · exact s.deliverXi1FocusedKey_samePointerGrab event
  | playPointer => exact .refl s

end InputState

/-! ## What a fanout does to the grab -/

namespace PointerState

/-- A passive grab of the pointer is active for this client and window. -/
def Grabbed (s : PointerState) (g : ClientId × ResourceId) : Prop :=
  s.input.server.pointerGrab = some g ∧ s.input.server.pointerGrabIsPassive = true

variable {s s' : PointerState} {event e : HostPointerEvent} {xidMap : HostXidMap}
  {handleGrabs isReplay : Bool} {g : ClientId × ResourceId}

theorem grabbed_iff (hsame : s.input.SamePointerGrab s'.input) : s'.Grabbed g ↔ s.Grabbed g := by
  unfold Grabbed
  rw [hsame.grab, hsame.passive]

theorem grabbed_congr (hsame : s'.input = s.input) : s'.Grabbed g ↔ s.Grabbed g := by
  unfold Grabbed
  rw [hsame]

theorem mapButton_kind (h : s.mapButton event = some e) : e.kind = event.kind := by
  unfold mapButton at h
  split at h
  · rw [← Option.some.inj h]
  · split at h
    · cases h
    · rw [← Option.some.inj h]

@[simp]
theorem trackButton_input (s : PointerState) (e : HostPointerEvent) :
    (s.trackButton e).input = s.input := by
  unfold trackButton
  split <;> rfl

@[simp]
theorem trackButton_frozenPointerEvent (s : PointerState) (e : HostPointerEvent) :
    (s.trackButton e).frozenPointerEvent = s.frozenPointerEvent := by
  unfold trackButton
  split <;> rfl

@[simp]
theorem confine_kind (s : PointerState) (e : HostPointerEvent) : (s.confine e).kind = e.kind := by
  unfold confine
  dsimp only
  repeat' split
  all_goals rfl

@[simp]
theorem translateHostEvent_kind (s : PointerState) (xidMap : HostXidMap) (e : HostPointerEvent) :
    (s.translateHostEvent xidMap e).kind = e.kind := by
  unfold translateHostEvent
  split <;> rfl

theorem withholds_congr (hinput : s'.input = s.input)
    (hevent : s'.frozenPointerEvent = s.frozenPointerEvent) (kind : PointerEventKind) :
    s'.withholds kind handleGrabs isReplay = s.withholds kind handleGrabs isReplay := by
  unfold withholds
  rw [hinput, hevent]

/-- An event whose button is not disabled is withheld or goes through the grabs, with the
button noted. -/
theorem pointerEventFanout_cases (h : s.mapButton event = some e) (xidMap : HostXidMap)
    (handleGrabs isReplay : Bool) :
    (s.withholds event.kind handleGrabs isReplay = true ∧
        (s.pointerEventFanout xidMap event handleGrabs isReplay).1.input = s.input ∧
        (s.pointerEventFanout xidMap event handleGrabs isReplay).1.buttonsDown =
          (s.trackButton e).buttonsDown) ∨
      (s.withholds event.kind handleGrabs isReplay = false ∧
        ∃ (s' : PointerState) (e' : HostPointerEvent),
          s'.input = s.input ∧ s'.buttonsDown = (s.trackButton e).buttonsDown ∧
          e'.kind = event.kind ∧
          s.pointerEventFanout xidMap event handleGrabs isReplay =
            s'.routeThroughGrabs xidMap e' handleGrabs) := by
  rw [pointerEventFanout, h]
  dsimp only
  generalize hplace : (s.trackButton e).translateHostEvent xidMap
    (if isReplay then e else (s.trackButton e).confine e) = e'
  have hkind : e'.kind = event.kind := by
    rw [← hplace, translateHostEvent_kind, ← mapButton_kind h]
    split
    · rfl
    · exact confine_kind _ e
  generalize hs : { s.trackButton e with pointerRoot := (e'.rootX, e'.rootY) } = s'
  have hinput : s'.input = s.input := by
    rw [← hs]
    exact trackButton_input s e
  have hevent : s'.frozenPointerEvent = s.frozenPointerEvent := by
    rw [← hs]
    exact trackButton_frozenPointerEvent s e
  have hdown : s'.buttonsDown = (s.trackButton e).buttonsDown := by rw [← hs]
  rw [hkind, withholds_congr hinput hevent]
  cases hw : s.withholds event.kind handleGrabs isReplay with
  | true =>
    rw [if_pos rfl]
    exact .inl ⟨rfl, trackButton_input s e, rfl⟩
  | false => exact .inr ⟨rfl, s', e', hinput, hdown, hkind, rfl⟩

theorem releasePassiveGrab_of_ne {kind : PointerEventKind} (hkind : kind ≠ .ButtonRelease) :
    s.releasePassiveGrabOnButtonRelease kind = (s, []) :=
  if_neg fun h => hkind h.1

theorem releasePassiveGrab_buttonsDown (s : PointerState) (kind : PointerEventKind) :
    (s.releasePassiveGrabOnButtonRelease kind).1.buttonsDown = s.buttonsDown := by
  unfold releasePassiveGrabOnButtonRelease
  split <;> rfl

/-- A release ends the passive grab. -/
theorem releasePassiveGrab_grabbed (h : s.Grabbed g) :
    (s.releasePassiveGrabOnButtonRelease .ButtonRelease).1.input.server.pointerGrab = none := by
  rw [releasePassiveGrabOnButtonRelease, if_pos ⟨rfl, h.2⟩]
  unfold InputState.releasePassiveGrabOnButtonRelease
  rw [if_pos h.2, h.1]
  exact congrArg ServerState.pointerGrab (InputState.coreGrabBridgeRelease_server _ _ _)

theorem releasePassiveGrab_takes (hfree : ∀ c, ¬ s.Grabbed c) (kind : PointerEventKind) :
    ¬ (s.releasePassiveGrabOnButtonRelease kind).1.Grabbed g := by
  unfold releasePassiveGrabOnButtonRelease
  split
  · rename_i h
    cases hgrab : s.input.server.pointerGrab with
    | some c => exact absurd ⟨hgrab, h.2⟩ (hfree c)
    | none =>
      unfold InputState.releasePassiveGrabOnButtonRelease
      rw [if_pos h.2, hgrab]
      intro hg
      cases hg.1
  · exact hfree g

/-- A press may activate a grab when none is active. -/
theorem routeThroughGrabs_cases (s : PointerState) (xidMap : HostXidMap) (e : HostPointerEvent)
    (handleGrabs : Bool) :
    (s.routeThroughGrabs xidMap e handleGrabs).1 =
        (s.releasePassiveGrabOnButtonRelease e.kind).1 ∨
      e.kind = .ButtonPress ∧ s.input.server.pointerGrab = none ∧
        ∃ grab target, (s.routeThroughGrabs xidMap e handleGrabs).1 =
          (s.activatePassiveGrab grab e target).1 := by
  unfold routeThroughGrabs
  dsimp only
  split
  · rename_i hpress
    simp only [Bool.and_eq_true, decide_eq_true_eq, Option.isNone_iff_eq_none] at hpress
    obtain ⟨⟨⟨-, hnone⟩, -⟩, hkind⟩ := hpress
    have hne : e.kind ≠ .ButtonRelease := by
      rw [hkind]
      decide
    rw [releasePassiveGrab_of_ne hne] at hnone ⊢
    split
    · exact .inr ⟨hkind, hnone, _, _, rfl⟩
    · exact .inl rfl
  · exact .inl rfl

theorem routeThroughGrabs_release (h : s.Grabbed g) (hkind : e.kind = .ButtonRelease) :
    (s.routeThroughGrabs xidMap e handleGrabs).1.input.server.pointerGrab = none := by
  rcases s.routeThroughGrabs_cases xidMap e handleGrabs with heq | ⟨hpress, -⟩
  · rw [heq, hkind]
    exact releasePassiveGrab_grabbed h
  · cases hkind.symm.trans hpress

theorem routeThroughGrabs_grabbed (h : s.Grabbed g) (hkind : e.kind ≠ .ButtonRelease) :
    (s.routeThroughGrabs xidMap e handleGrabs).1 = s := by
  rcases s.routeThroughGrabs_cases xidMap e handleGrabs with heq | ⟨-, hnone, -⟩
  · rw [heq, releasePassiveGrab_of_ne hkind]
  · cases hnone.symm.trans h.1

/-- It is a press that activates a grab. -/
theorem routeThroughGrabs_takes (hfree : ∀ c, ¬ s.Grabbed c)
    (h : (s.routeThroughGrabs xidMap e handleGrabs).1.Grabbed g) : e.kind = .ButtonPress := by
  rcases s.routeThroughGrabs_cases xidMap e handleGrabs with heq | ⟨hpress, -⟩
  · rw [heq] at h
    exact absurd h (releasePassiveGrab_takes hfree e.kind)
  · exact hpress

theorem routeThroughGrabs_buttonsDown (s : PointerState) (xidMap : HostXidMap)
    (e : HostPointerEvent) (handleGrabs : Bool) :
    (s.routeThroughGrabs xidMap e handleGrabs).1.buttonsDown = s.buttonsDown := by
  rcases s.routeThroughGrabs_cases xidMap e handleGrabs with heq | ⟨-, -, grab, target, heq⟩
  · rw [heq, releasePassiveGrab_buttonsDown]
  · rw [heq]
    rfl

/-- A release that is not withheld ends the grab. -/
theorem pointerEventFanout_release (h : s.Grabbed g) (he : s.mapButton event = some e)
    (hkind : event.kind = .ButtonRelease)
    (hw : s.withholds event.kind handleGrabs isReplay = false) :
    (s.pointerEventFanout xidMap event handleGrabs isReplay).1.input.server.pointerGrab =
      none := by
  rcases pointerEventFanout_cases he xidMap handleGrabs isReplay with
    ⟨hwithheld, -⟩ | ⟨-, s', e', hinput, -, hkind', heq⟩
  · cases hw.symm.trans hwithheld
  · rw [heq]
    exact routeThroughGrabs_release ((grabbed_congr hinput).mpr h) (hkind'.trans hkind)

/-- Any other event leaves it as it is. -/
theorem pointerEventFanout_grabbed (h : s.Grabbed g)
    (hrelease : ∀ e, s.mapButton event = some e → event.kind = .ButtonRelease →
      s.withholds event.kind handleGrabs isReplay = true) :
    (s.pointerEventFanout xidMap event handleGrabs isReplay).1.Grabbed g := by
  cases he : s.mapButton event with
  | none =>
    rw [pointerEventFanout, he]
    exact h
  | some e =>
    rcases pointerEventFanout_cases he xidMap handleGrabs isReplay with
      ⟨-, hinput, -⟩ | ⟨hw, s', e', hinput, -, hkind, heq⟩
    · exact (grabbed_congr hinput).mpr h
    · have hne : e'.kind ≠ .ButtonRelease := fun hrel =>
        Bool.false_ne_true (hw.symm.trans (hrelease e he (hkind.symm.trans hrel)))
      have hg : s'.Grabbed g := (grabbed_congr hinput).mpr h
      rw [heq, routeThroughGrabs_grabbed hg hne]
      exact hg

/-- A grab is activated by a press whose button is not disabled. -/
theorem pointerEventFanout_takes (hfree : ∀ c, ¬ s.Grabbed c)
    (h : (s.pointerEventFanout xidMap event handleGrabs isReplay).1.Grabbed g) :
    ∃ e, s.mapButton event = some e ∧ e.kind = .ButtonPress := by
  cases he : s.mapButton event with
  | none =>
    rw [pointerEventFanout, he] at h
    exact absurd h (hfree g)
  | some e =>
    refine ⟨e, rfl, ?_⟩
    rcases pointerEventFanout_cases he xidMap handleGrabs isReplay with
      ⟨-, hinput, -⟩ | ⟨-, s', e', hinput, -, hkind, heq⟩
    · exact absurd ((grabbed_congr hinput).mp h) (hfree g)
    · rw [heq] at h
      have hfree' : ∀ c, ¬ s'.Grabbed c := fun c hc => hfree c ((grabbed_congr hinput).mp hc)
      rw [mapButton_kind he, ← hkind]
      exact routeThroughGrabs_takes hfree' h

theorem not_grabbed_of_none (h : s.input.server.pointerGrab = none) : ¬ s.Grabbed g := by
  intro hg
  cases h.symm.trans hg.1

end PointerState

/-! ## The pointer mapping -/

/-- What a pointer mapping says of a physical button. Its first entry is that of button 1. -/
def mappedButton (mapping : Option (List UInt8)) (button : UInt8) : Option UInt8 :=
  (none :: (mapping.getD []).map some)[button.toNat]?.join

/-- The logical number of a physical button, which keeps its own where the mapping has no entry
for it. The entry 0 disables it. -/
def logicalButton (mapping : Option (List UInt8)) (button : UInt8) : Option UInt8 :=
  match mappedButton mapping button with
  | none => some button
  | some logical => if logical = 0 then none else some logical

theorem mappingEntry_eq (s : PointerState) (button : UInt8) :
    s.mappingEntry button = mappedButton s.pointerMappingOverride button := by
  unfold PointerState.mappingEntry mappedButton
  cases hbutton : button.toNat with
  | zero => rw [if_pos (UInt8.toNat_inj.mp hbutton)]; rfl
  | succ n =>
    have hne : button ≠ 0 := by
      intro hzero
      rw [hzero] at hbutton
      cases hbutton
    rw [if_neg hne, List.getElem?_cons_succ, Nat.add_sub_cancel]
    cases s.pointerMappingOverride with
    | none => rfl
    | some map => cases hentry : map[n]? <;> simp [hentry]

/-- The events of a button come with its logical number, or not at all. -/
theorem mapButton_detail {s : PointerState} {event : HostPointerEvent}
    (hkind : event.kind.isButton = true) :
    (s.mapButton event).map (·.detail) = logicalButton s.pointerMappingOverride event.detail := by
  rw [PointerState.mapButton, if_pos hkind, mappingEntry_eq, logicalButton]
  cases hentry : mappedButton s.pointerMappingOverride event.detail with
  | none => rfl
  | some logical =>
    by_cases hzero : logical = 0 <;> simp [hzero]

/-! ## Runs -/

/-- What else clients and devices do, as long as nobody ungrabs or grabs the pointer. -/
structure OtherChange where
  run : PointerState → PointerState
  samePointerGrab : ∀ s : PointerState, s.input.SamePointerGrab (run s).input
  buttonsDown : ∀ s : PointerState, (run s).buttonsDown = s.buttonsDown

inductive PointerInput where
  | event (xidMap : HostXidMap) (event : HostPointerEvent) (handleGrabs isReplay : Bool)
  | setPointerMapping (data : UInt8) (body : List UInt8)
  /-- A part of what remains of an earlier call. -/
  | resume (p : Pending)
  | other (change : OtherChange)

def PointerInput.isRelease : PointerInput → Bool
  | .event _ e _ _ => e.kind = .ButtonRelease
  | _ => false

/-- The state, with the logical buttons that are down by the events so far. -/
structure TrackedPointer where
  state : PointerState
  down : Finset UInt8

namespace TrackedPointer

def downAfter (t : TrackedPointer) (event : HostPointerEvent) : Finset UInt8 :=
  match event.kind, logicalButton t.state.pointerMappingOverride event.detail with
  | .ButtonPress, some button => insert button t.down
  | .ButtonRelease, some button => t.down.erase button
  | _, _ => t.down

def step (t : TrackedPointer) : PointerInput → TrackedPointer
  | .event xidMap event handleGrabs isReplay =>
    { state := (t.state.pointerEventFanout xidMap event handleGrabs isReplay).1
      down := t.downAfter event }
  | .setPointerMapping data body =>
    { t with state := (t.state.handleSetPointerMapping data body).1 }
  | .resume p => { t with state := { t.state with input := (t.state.input.resume p).state } }
  | .other change => { t with state := change.run t.state }

/-- The passive grab of the pointer and the buttons that are down. -/
def buttonTenure : Tenure TrackedPointer PointerInput (ClientId × ResourceId) where
  step := step
  held t := t.state.Grabbed
  busy t := t.down.Nonempty
  free t := t.state.input.server.pointerGrab = none

/-- A grab that is activated stays while a button is down and is released by the release after
which none is. -/
structure LastsUntilUp (t : TrackedPointer) (inputs : List PointerInput) : Prop where
  kept : buttonTenure.Kept t inputs
  released : ∀ n input, inputs[n]? = some input → (buttonTenure.after t inputs n).down.Nonempty →
    ¬ (buttonTenure.after t inputs (n + 1)).down.Nonempty → input.isRelease = true

/-- During a grab another button is down after a release if and only if the pointer is
frozen. -/
def ReleasesLast (t : TrackedPointer) : PointerInput → Prop
  | .event _ event handleGrabs isReplay => ∀ g button, t.state.Grabbed g →
    event.kind = .ButtonRelease →
    logicalButton t.state.pointerMappingOverride event.detail = some button →
    ((t.down.erase button).Nonempty ↔
      t.state.withholds event.kind handleGrabs isReplay = true)
  | _ => True

variable {t : TrackedPointer} {event e : HostPointerEvent} {g : ClientId × ResourceId}
  {xidMap : HostXidMap} {handleGrabs isReplay : Bool}

theorem logicalButton_of_mapButton (h : t.state.mapButton event = some e)
    (hkind : event.kind.isButton = true) :
    logicalButton t.state.pointerMappingOverride event.detail = some e.detail := by
  rw [← mapButton_detail hkind, h, Option.map_some]

theorem downAfter_press (h : t.state.mapButton event = some e) (hkind : e.kind = .ButtonPress) :
    t.downAfter event = insert e.detail t.down := by
  have hkind : event.kind = .ButtonPress := (PointerState.mapButton_kind h).symm.trans hkind
  rw [downAfter, logicalButton_of_mapButton h (by rw [hkind]; rfl), hkind]

theorem downAfter_release (h : t.state.mapButton event = some e)
    (hkind : e.kind = .ButtonRelease) : t.downAfter event = t.down.erase e.detail := by
  have hkind : event.kind = .ButtonRelease := (PointerState.mapButton_kind h).symm.trans hkind
  rw [downAfter, logicalButton_of_mapButton h (by rw [hkind]; rfl), hkind]

/-- An event of a disabled button, or of none. -/
theorem downAfter_of_none (h : t.state.mapButton event = none) : t.downAfter event = t.down := by
  have hnone (hkind : event.kind.isButton = true) :
      logicalButton t.state.pointerMappingOverride event.detail = none := by
    rw [← mapButton_detail hkind, h, Option.map_none]
  cases hkind : event.kind with
  | ButtonPress => rw [downAfter, hkind, hnone (by rw [hkind]; rfl)]
  | ButtonRelease => rw [downAfter, hkind, hnone (by rw [hkind]; rfl)]
  | _ => rw [downAfter, hkind]

theorem downAfter_nonempty (h : t.down.Nonempty) (hkind : event.kind ≠ .ButtonRelease) :
    (t.downAfter event).Nonempty := by
  unfold downAfter
  split
  · exact Finset.insert_nonempty _ _
  · rename_i hrelease _
    exact absurd hrelease hkind
  · exact h

theorem handleSetPointerMapping_same (s : PointerState) (data : UInt8) (body : List UInt8) :
    (s.handleSetPointerMapping data body).1.input = s.input ∧
      (s.handleSetPointerMapping data body).1.buttonsDown = s.buttonsDown := by
  unfold PointerState.handleSetPointerMapping
  dsimp only
  repeat' split
  all_goals exact ⟨rfl, rfl⟩

/-- Anything but a fanout leaves the grab and the buttons alone. -/
theorem step_cases (t : TrackedPointer) (input : PointerInput) :
    (∃ xidMap event handleGrabs isReplay, input = .event xidMap event handleGrabs isReplay) ∨
      t.state.input.SamePointerGrab (t.step input).state.input ∧ (t.step input).down = t.down := by
  cases input with
  | event xidMap event handleGrabs isReplay => exact .inl ⟨_, _, _, _, rfl⟩
  | setPointerMapping data body =>
    refine .inr ⟨.of_server ?_, rfl⟩
    exact congrArg InputState.server (handleSetPointerMapping_same t.state data body).1
  | resume p => exact .inr ⟨t.state.input.resume_samePointerGrab p, rfl⟩
  | other change => exact .inr ⟨change.samePointerGrab t.state, rfl⟩

theorem buttonTenure_lawful : buttonTenure.Lawful where
  free := PointerState.not_grabbed_of_none
  takes := by
    intro t input g hg hfree
    rcases t.step_cases input with ⟨xidMap, event, handleGrabs, isReplay, rfl⟩ | ⟨hsame, -⟩
    · obtain ⟨e, he, hkind⟩ := PointerState.pointerEventFanout_takes hfree hg
      show (t.downAfter event).Nonempty
      rw [downAfter_press he hkind]
      exact Finset.insert_nonempty _ _
    · exact absurd ((PointerState.grabbed_iff hsame).mp hg) (hfree g)

/-- A release that is not withheld is the last one, and one that is withheld is not. -/
theorem releasesLast_of_stepKeeps {input : PointerInput} (h : buttonTenure.StepKeeps t input) :
    t.ReleasesLast input := by
  cases input with
  | event xidMap event handleGrabs isReplay =>
    intro g button hg hkind' hbutton
    obtain ⟨e, he, rfl⟩ : ∃ e, t.state.mapButton event = some e ∧ e.detail = button := by
      rw [← mapButton_detail (by rw [hkind']; rfl)] at hbutton
      exact Option.map_eq_some_iff.mp hbutton
    rw [← downAfter_release he ((PointerState.mapButton_kind he).trans hkind')]
    constructor
    · intro hmore
      by_contra hw
      have hheld : (t.step (.event xidMap event handleGrabs isReplay)).state.Grabbed g :=
        h.stays g hg hmore
      exact PointerState.not_grabbed_of_none (PointerState.pointerEventFanout_release hg he hkind'
        (Bool.eq_false_iff.mpr hw)) hheld
    · intro hw
      by_contra hlast
      exact PointerState.not_grabbed_of_none (h.ends g hg hlast)
        (PointerState.pointerEventFanout_grabbed hg fun _ _ _ => hw)
  | _ => trivial

/-- A fanout that keeps the grab while a button remains down. -/
theorem stepKeeps_of_grabbed {input : PointerInput} (hheld : (t.step input).state.Grabbed g)
    (hg : t.state.Grabbed g) (hdown : (t.step input).down.Nonempty) :
    buttonTenure.StepKeeps t input where
  stays b hb _ := by
    cases Option.some.inj (hb.1.symm.trans hg.1)
    exact hheld
  ends _ _ hidle := absurd hdown hidle

/-- The last release ends the grab. -/
theorem stepKeeps_of_released {input : PointerInput}
    (hnone : (t.step input).state.input.server.pointerGrab = none)
    (hidle : ¬ (t.step input).down.Nonempty) : buttonTenure.StepKeeps t input where
  stays _ _ hdown := absurd hdown hidle
  ends _ _ _ := hnone

theorem ReleasesLast.stepKeeps_release
    (h : t.ReleasesLast (.event xidMap event handleGrabs isReplay)) (hg : t.state.Grabbed g)
    (he : t.state.mapButton event = some e) (hkind : event.kind = .ButtonRelease) :
    buttonTenure.StepKeeps t (.event xidMap event handleGrabs isReplay) := by
  have hkind' : e.kind = .ButtonRelease := (PointerState.mapButton_kind he).trans hkind
  have hdown := downAfter_release he hkind'
  have hlast := h g e.detail hg hkind (logicalButton_of_mapButton he (by rw [hkind]; rfl))
  rw [← hdown] at hlast
  cases hw : t.state.withholds event.kind handleGrabs isReplay with
  | true =>
    exact stepKeeps_of_grabbed (PointerState.pointerEventFanout_grabbed hg fun _ _ _ => hw) hg
      (hlast.mpr hw)
  | false =>
    refine stepKeeps_of_released (PointerState.pointerEventFanout_release hg he hkind hw) ?_
    intro hmore
    exact Bool.false_ne_true (hw.symm.trans (hlast.mp hmore))

theorem ReleasesLast.stepKeeps {input : PointerInput} (h : t.ReleasesLast input)
    (hbusy : ∀ g, t.state.Grabbed g → t.down.Nonempty) : buttonTenure.StepKeeps t input := by
  by_cases hgrab : ∃ g, t.state.Grabbed g
  case neg => exact ⟨fun b hb => absurd ⟨b, hb⟩ hgrab, fun b hb => absurd ⟨b, hb⟩ hgrab⟩
  obtain ⟨g, hg⟩ := hgrab
  rcases t.step_cases input with ⟨xidMap, event, handleGrabs, isReplay, rfl⟩ | ⟨hsame, hdown⟩
  · by_cases hkind : event.kind = .ButtonRelease
    · cases he : t.state.mapButton event with
      | some e => exact h.stepKeeps_release hg he hkind
      | none =>
        refine stepKeeps_of_grabbed (PointerState.pointerEventFanout_grabbed hg ?_) hg ?_
        · intro e he'
          cases he.symm.trans he'
        · show (t.downAfter event).Nonempty
          rw [downAfter_of_none he]
          exact hbusy g hg
    · exact stepKeeps_of_grabbed
        (PointerState.pointerEventFanout_grabbed hg fun _ _ hrel => absurd hrel hkind) hg
        (downAfter_nonempty (hbusy g hg) hkind)
  · refine stepKeeps_of_grabbed ((PointerState.grabbed_iff hsame).mpr hg) hg ?_
    rw [hdown]
    exact hbusy g hg

/-- The buttons stop being down with a release. -/
theorem isRelease_of_idle {input : PointerInput} (hdown : t.down.Nonempty)
    (hidle : ¬ (t.step input).down.Nonempty) : input.isRelease = true := by
  rcases t.step_cases input with ⟨xidMap, event, handleGrabs, isReplay, rfl⟩ | ⟨-, hsame⟩
  · by_contra hne
    exact hidle (downAfter_nonempty hdown fun hkind => hne (decide_eq_true hkind))
  · rw [hsame] at hidle
    exact absurd hdown hidle

/-! ## The mask -/

open ServerState (ButtonDown buttonDown_press buttonDown_release)

/-- Among the first sixteen buttons, the mask has those that are down. -/
def MaskTracks (t : TrackedPointer) : Prop :=
  ∀ b : UInt8, 1 ≤ b → b ≤ 16 → (ButtonDown t.state.buttonsDown b.toNat ↔ b ∈ t.down)

theorem trackButton_of_not {s : PointerState} (h : ¬ (1 ≤ e.detail ∧ e.detail ≤ 16)) :
    s.trackButton e = s :=
  if_neg fun hb => h hb.2

theorem MaskTracks.press (h : t.MaskTracks) (hkind : e.kind = .ButtonPress) {b : UInt8}
    (hb : 1 ≤ b) (hb' : b ≤ 16) :
    ButtonDown (t.state.trackButton e).buttonsDown b.toNat ↔ b ∈ insert e.detail t.down := by
  rw [Finset.mem_insert]
  by_cases hd : 1 ≤ e.detail ∧ e.detail ≤ 16
  · rw [PointerState.trackButton, if_pos ⟨by rw [hkind]; rfl, hd⟩]
    dsimp only
    rw [if_pos hkind, buttonDown_press _ hd.1 hd.2 hb, h b hb hb']
  · have hne : b ≠ e.detail := fun heq => hd (heq ▸ ⟨hb, hb'⟩)
    rw [trackButton_of_not hd, h b hb hb', or_iff_right hne]

theorem MaskTracks.release (h : t.MaskTracks) (hkind : e.kind = .ButtonRelease) {b : UInt8}
    (hb : 1 ≤ b) (hb' : b ≤ 16) :
    ButtonDown (t.state.trackButton e).buttonsDown b.toNat ↔ b ∈ t.down.erase e.detail := by
  rw [Finset.mem_erase]
  by_cases hd : 1 ≤ e.detail ∧ e.detail ≤ 16
  · rw [PointerState.trackButton, if_pos ⟨by rw [hkind]; rfl, hd⟩]
    dsimp only
    rw [if_neg (by rw [hkind]; decide), buttonDown_release _ hd.1 hd.2 hb hb', h b hb hb']
  · have hne : b ≠ e.detail := fun heq => hd (heq ▸ ⟨hb, hb'⟩)
    rw [trackButton_of_not hd, h b hb hb', and_iff_right hne]

theorem MaskTracks.track (h : t.MaskTracks) (he : t.state.mapButton event = some e) {b : UInt8}
    (hb : 1 ≤ b) (hb' : b ≤ 16) :
    ButtonDown (t.state.trackButton e).buttonsDown b.toNat ↔ b ∈ t.downAfter event := by
  cases hkind : e.kind with
  | ButtonPress => rw [downAfter_press he hkind, h.press hkind hb hb']
  | ButtonRelease => rw [downAfter_release he hkind, h.release hkind hb hb']
  | _ =>
    rw [downAfter, ← PointerState.mapButton_kind he, hkind, PointerState.trackButton,
      if_neg (by rw [hkind]; simp [PointerEventKind.isButton])]
    exact h b hb hb'

theorem fanout_buttonsDown {s : PointerState} (he : s.mapButton event = some e) :
    (s.pointerEventFanout xidMap event handleGrabs isReplay).1.buttonsDown =
      (s.trackButton e).buttonsDown := by
  rcases PointerState.pointerEventFanout_cases he xidMap handleGrabs isReplay with
    ⟨-, -, hdown⟩ | ⟨-, s', e', -, hdown, -, heq⟩
  · exact hdown
  · rw [heq, PointerState.routeThroughGrabs_buttonsDown, hdown]

theorem MaskTracks.step (h : t.MaskTracks) (input : PointerInput) : (t.step input).MaskTracks := by
  cases input with
  | event xidMap event handleGrabs isReplay =>
    intro b hb hb'
    show ButtonDown (t.state.pointerEventFanout xidMap event handleGrabs isReplay).1.buttonsDown _ ↔
      b ∈ t.downAfter event
    cases he : t.state.mapButton event with
    | none =>
      rw [PointerState.pointerEventFanout, downAfter_of_none he, he]
      exact h b hb hb'
    | some e => rw [fanout_buttonsDown he, h.track he hb hb']
  | setPointerMapping data body =>
    intro b hb hb'
    exact (handleSetPointerMapping_same t.state data body).2 ▸ h b hb hb'
  | resume p => exact h
  | other change =>
    intro b hb hb'
    exact change.buttonsDown t.state ▸ h b hb hb'

theorem MaskTracks.after (h : t.MaskTracks) (inputs : List PointerInput) (n : Nat) :
    (buttonTenure.after t inputs n).MaskTracks := by
  unfold Tenure.after
  induction inputs.take n generalizing t with
  | nil => exact h
  | cons input rest ih => exact ih (h.step input)

/-- A grab that is activated in a run lasts until the last button is up exactly if each
release during it is of the last button, or is withheld and is not. -/
theorem buttonGrab_lasts_iff (t : TrackedPointer) (inputs : List PointerInput)
    (hstart : ∀ g, ¬ t.state.Grabbed g) (hmask : t.MaskTracks) :
    (∀ n, (buttonTenure.after t inputs n).MaskTracks) ∧
      (LastsUntilUp t inputs ↔ ∀ n input, inputs[n]? = some input →
        (buttonTenure.after t inputs n).ReleasesLast input) := by
  have hT := buttonTenure_lawful
  refine ⟨hmask.after inputs, fun h n input hinput => ?_, fun h => ?_⟩
  · exact releasesLast_of_stepKeeps ((hT.kept_iff hstart).mp h.kept n input hinput)
  · have hsteps : ∀ n input, inputs[n]? = some input →
        buttonTenure.StepKeeps (buttonTenure.after t inputs n) input := by
      intro n input hinput
      have hn : n ≤ inputs.length := Nat.le_of_lt (List.getElem?_eq_some_iff.mp hinput).1
      exact (h n input hinput).stepKeeps <| hT.busy_after hstart
        (fun m i hi hbusy => (h m i hi).stepKeeps hbusy) n hn
    refine ⟨(hT.kept_iff hstart).mpr hsteps, fun n input hinput hdown hidle => ?_⟩
    rw [Tenure.after_succ hinput] at hidle
    exact isRelease_of_idle hdown hidle

/-- A client that has grabbed the first button on the root asynchronously, and nothing is
down. -/
def clickStart : TrackedPointer where
  state :=
    { input := (InputConfig.start
        ((((ServerState.new.connectClient 1).getD .new).handleGrabButton 1
          (ServerState.rootGrab 1 ANY_MODIFIER 0xC 0)).1)).state
      pointerMappingOverride := none
      buttonsDown := 0
      pointerConfineTo := 0
      pointerRoot := (0, 0)
      frozenPointerEvent := none
      frozenPointerQueue := [] }
  down := ∅

def buttonInput (kind : PointerEventKind) (button : UInt8) : PointerInput :=
  .event ∅
    { kind := kind
      hostXid := 0
      detail := button
      rootX := 5
      rootY := 5
      eventX := 5
      eventY := 5
      state := 0 } true false

theorem clickStart_ungrabbed (g : ClientId × ResourceId) : ¬ clickStart.state.Grabbed g :=
  PointerState.not_grabbed_of_none rfl

theorem clickStart_mask : clickStart.MaskTracks := by
  intro b _ _
  simp [clickStart, ButtonDown]

theorem handleGrabButton_pointerGrab (s : ServerState) (client : ClientId)
    (request : GrabButtonRequest) :
    (s.handleGrabButton client request).1.pointerGrab = s.pointerGrab ∧
      (s.handleGrabButton client request).1.pointerGrabIsPassive = s.pointerGrabIsPassive := by
  unfold ServerState.handleGrabButton
  split <;> exact ⟨rfl, rfl⟩

/-- A client makes a passive grab of another button. -/
def grabButtonChange (client : ClientId) (request : GrabButtonRequest) : OtherChange where
  run s := { s with
    input := { s.input with server := (s.input.server.handleGrabButton client request).1 } }
  samePointerGrab _ :=
    ⟨(handleGrabButton_pointerGrab _ _ _).1, (handleGrabButton_pointerGrab _ _ _).2⟩
  buttonsDown _ := rfl

/-- The mapping exchanges the first button and the third. The third one is pressed, and while it
is down the client grabs the second one. -/
def leftHanded : List PointerInput :=
  [.setPointerMapping 7 [3, 2, 1, 4, 5, 6, 7], buttonInput .ButtonPress 3,
    .other (grabButtonChange 1 (ServerState.rootGrab 2 ANY_MODIFIER 0xC 0)),
    buttonInput .ButtonRelease 3]

theorem buttonGrab_lasts_leftHanded :
    (buttonTenure.after clickStart leftHanded 3).state.Grabbed (1, ROOT_WINDOW) ∧
      (buttonTenure.after clickStart leftHanded 3).state.input.server.buttonGrabs.length = 2 ∧
      LastsUntilUp clickStart leftHanded := by
  refine ⟨⟨by decide, by decide⟩, by decide, ?_⟩
  refine (buttonGrab_lasts_iff clickStart _ clickStart_ungrabbed clickStart_mask).2.mpr ?_
  intro n input hinput
  rcases n with _ | _ | _ | _ | n <;> cases hinput
  · trivial
  · intro _ _ _ hkind
    cases hkind
  · trivial
  · intro g button _ _ hbutton
    have hbutton : some 1 = some button := hbutton
    cases hbutton
    decide

/-- The second button goes down and up while the first one is down. -/
def secondButton : List PointerInput :=
  [buttonInput .ButtonPress 1, buttonInput .ButtonPress 2, buttonInput .ButtonRelease 2]

/-- The grab is over although the first button is still down. -/
theorem second_button_releases :
    (∀ g, ¬ clickStart.state.Grabbed g) ∧ clickStart.MaskTracks ∧
      ¬ LastsUntilUp clickStart secondButton := by
  refine ⟨clickStart_ungrabbed, clickStart_mask, fun h => ?_⟩
  have hbusy : buttonTenure.BusyFrom clickStart secondButton 1 3 := by
    intro k hlow hhigh
    obtain rfl | rfl | rfl : k = 1 ∨ k = 2 ∨ k = 3 := by omega
    all_goals exact ⟨1, by decide⟩
  have hheld := h.kept.stays 1 3 (1, ROOT_WINDOW) (by decide) (by decide)
    ⟨by decide, by decide⟩ hbusy
  exact absurd hheld.1 (by decide)

end TrackedPointer

end X12

import X12.Verify.SceneTrace

/-! # The cursor on screen

The cursor of a frame is painted into it or left to the cursor plane of the output, which is
shown and hidden when the frame is on screen. What is to be seen on the output is read off
the trace. -/

namespace X12

/-- What is to be seen on an output. -/
structure Display where
  underWay : Option CursorAssignment
  onScreen : Option CursorAssignment
  /-- The cursor plane is shown. -/
  plane : Bool
  /-- The last call to show or hide the cursor plane has failed, or one since to show it again. -/
  failed : Bool
  deriving DecidableEq, Repr

namespace Display

def next (d : Display) : SceneEvent → Display
  | .accepted _ _ assignment _ => { d with underWay := some assignment }
  | .flipComplete .. => { d with underWay := none, onScreen := d.underWay }
  | .cursorShow ok => { d with plane := d.plane || ok, failed := !ok }
  | .cursorHide ok => { d with plane := d.plane && !ok, failed := !ok }
  | .cursorRebind ok => { d with plane := d.plane || ok, failed := d.failed || !ok }
  | .suspend => { d with underWay := none, onScreen := none }
  | _ => d

def ofTrace (trace : List SceneEvent) : Display :=
  trace.foldl next ⟨none, none, false, false⟩

@[simp] theorem ofTrace_append (trace events : List SceneEvent) :
    ofTrace (trace ++ events) = events.foldl next (ofTrace trace) :=
  List.foldl_append

/-- The event changes nothing that is to be seen. -/
def Unseen (e : SceneEvent) : Prop := ∀ d : Display, d.next e = d

theorem foldl_unseen {events : List SceneEvent} (h : ∀ e ∈ events, Unseen e) (d : Display) :
    events.foldl next d = d := by
  induction events with
  | nil => rfl
  | cons e events ih =>
    obtain ⟨he, hevents⟩ := List.forall_mem_cons.mp h
    rw [List.foldl_cons, he, ih hevents]

/-- The frame on screen leaves the cursor to the plane. -/
def LeavesToPlane (d : Display) : Prop :=
  ∃ x y version hotX hotY, d.onScreen = some (.Hw x y version hotX hotY)

end Display

namespace Scanout

open Display

variable {o o' : Scanout} {flight : Option Flight} {lost : List Nat}

theorem Passes.unseen {events : List SceneEvent} {fds : List Int} (h : Passes events fds) :
    ∀ e ∈ events, Unseen e := by
  intro e he d
  rcases h.quiet e he with ⟨_, rfl⟩ | ⟨_, rfl⟩ | ⟨_, rfl⟩ | ⟨_, _, rfl⟩ <;> rfl

theorem unseen_closed (closed : List Int) : ∀ e ∈ closed.map SceneEvent.closed, Unseen e := by
  intro e he
  obtain ⟨_, -, rfl⟩ := List.mem_map.mp he
  exact fun _ => rfl

theorem unseen_resets (slots : List Nat) :
    ∀ e ∈ slots.map SceneEvent.resetDescriptorPool, Unseen e := by
  intro e he
  obtain ⟨_, -, rfl⟩ := List.mem_map.mp he
  exact fun _ => rfl

/-! ## The mode of the cursor -/

/-- The mode follows from where the frame leaves the cursor. -/
theorem mode_derive (prev : OutputCursorMode) (a : CursorAssignment) :
    (deriveCursorTransition prev a).2.2 = .Hw ↔
      ∃ x y version hotX hotY, a = .Hw x y version hotX hotY := by
  cases prev <;> cases a <;> simp [deriveCursorTransition]

/-- The plane is shown or hidden where the mode changes. -/
theorem transition_derive (prev : OutputCursorMode) (a : CursorAssignment) :
    match (deriveCursorTransition prev a).1 with
    | some (.ShowOnRetire ..) => (deriveCursorTransition prev a).2.2 = .Hw
    | some .HideOnRetire => (deriveCursorTransition prev a).2.2 ≠ .Hw
    | none => (deriveCursorTransition prev a).2.2 = .Hw ↔ prev = .Hw := by
  cases prev <;> cases a <;> simp [deriveCursorTransition]

/-- What is to be seen agrees with what the output keeps of the cursor. -/
structure Displays (o : Scanout) (flight : Option Flight) : Prop where
  plane : (ofTrace o.trace).failed = false →
    ((ofTrace o.trace).plane = true ↔ o.scene.lastFrameCursorMode = .Hw) ∧
      o.planeVisible = (ofTrace o.trace).plane
  onScreen : o.scene.lastFrameCursorMode = .Hw ↔ (ofTrace o.trace).LeavesToPlane
  flies : ∀ f, flight = some f → ∃ a, (ofTrace o.trace).underWay = some a ∧
    f.ack.cursorTransition = (deriveCursorTransition o.scene.lastFrameCursorMode a).1 ∧
    f.ack.cursorModeAfterRetire = (deriveCursorTransition o.scene.lastFrameCursorMode a).2.2

namespace Displays

theorem unseen (h : Displays o flight) {events : List SceneEvent}
    (hevents : ∀ e ∈ events, Unseen e) (htrace : o'.trace = o.trace ++ events)
    (hmode : o'.scene.lastFrameCursorMode = o.scene.lastFrameCursorMode)
    (hvisible : o'.planeVisible = o.planeVisible) : Displays o' flight := by
  have hsame : ofTrace o'.trace = ofTrace o.trace := by
    rw [htrace, ofTrace_append, foldl_unseen hevents]
  constructor
  · rw [hsame, hmode, hvisible]
    exact h.plane
  · rw [hsame, hmode]
    exact h.onScreen
  · rw [hsame, hmode]
    exact h.flies

theorem commit (h : Displays o none) {i slot : Nat} {others : List SceneEvent} {fd : Option Int}
    (hothers : Passes others fd.toList) (built : BuiltScene) :
    Displays (o.committed i slot others fd built)
      (some ⟨pendingAck o.scene built i o.nextTicket, slot, o.nextTicket⟩) := by
  have hshown : ofTrace (o.committed i slot others fd built).trace =
      { ofTrace o.trace with underWay := some built.cursorAssignment } := by
    change ofTrace ((o.trace ++ (_ :: others)) ++ [_, _]) = _
    rw [ofTrace_append, ofTrace_append]
    have hquiet : ∀ e ∈ .queueSubmit2 i slot o.nextTicket :: others, Unseen e :=
      List.forall_mem_cons.mpr ⟨fun _ => rfl, hothers.unseen⟩
    rw [foldl_unseen hquiet]
    rfl
  constructor
  · rw [hshown]
    exact h.plane
  · rw [hshown]
    exact h.onScreen
  · intro f hf
    cases hf
    rw [hshown]
    exact ⟨_, rfl, rfl, rfl⟩

/-- What the calls for the plane do to it, where the mode was as it is to be seen. -/
theorem plane_cursorCalls {d : Display} {prev mode : OutputCursorMode} {visible : Bool}
    {transition : Option CursorTransition} (cursor : CursorAnswers)
    (hplane : d.failed = false → (d.plane = true ↔ prev = .Hw) ∧ visible = d.plane)
    (htransition : match transition with
      | some (.ShowOnRetire ..) => mode = .Hw
      | some .HideOnRetire => mode ≠ .Hw
      | none => mode = .Hw ↔ prev = .Hw)
    (hok : ((cursorCalls transition cursor).foldl next d).failed = false) :
    (((cursorCalls transition cursor).foldl next d).plane = true ↔ mode = .Hw) ∧
      planeAfter visible transition cursor =
        ((cursorCalls transition cursor).foldl next d).plane := by
  cases transition with
  | none =>
    obtain ⟨hiff, hvisible⟩ := hplane hok
    exact ⟨hiff.trans htransition.symm, hvisible⟩
  | some t =>
    cases t with
    | ShowOnRetire =>
      have hok : cursor.shown = true := (Bool.not_eq_eq_eq_not ..).mp hok
      have hbound : cursor.setCursor2 = true := (Bool.and_eq_true_iff.mp hok).1
      have hplane' : (d.plane || cursor.shown) = true := by rw [hok, Bool.or_true]
      refine ⟨iff_of_true hplane' htransition, ?_⟩
      change (visible || cursor.setCursor2) = (d.plane || cursor.shown)
      rw [hplane', hbound, Bool.or_true]
    | HideOnRetire =>
      have hok : cursor.setCursor2 = true := (Bool.not_eq_eq_eq_not ..).mp hok
      have hplane' : (d.plane && !cursor.setCursor2) = false := by
        rw [hok, Bool.not_true, Bool.and_false]
      refine ⟨iff_of_false (Bool.eq_false_iff.mp hplane') htransition, ?_⟩
      change (visible && !cursor.setCursor2) = (d.plane && !cursor.setCursor2)
      rw [hplane', hok, Bool.not_true, Bool.and_false]

theorem onScreen_cursorCalls (d : Display) (transition : Option CursorTransition)
    (cursor : CursorAnswers) :
    ((cursorCalls transition cursor).foldl next d).onScreen = d.onScreen := by
  unfold cursorCalls
  split <;> rfl

theorem flip {f : Flight} (h : Displays o (some f)) (pool : ScanoutPool) (closed : List Int)
    (cursor : CursorAnswers) :
    Displays (o.flipped f.slot f.ack f.ticket pool closed cursor) none := by
  obtain ⟨a, ha, htransition, hmode⟩ := h.flies f rfl
  obtain ⟨resets, hresets, htrace⟩ :=
    flipped_trace o f.slot f.ack f.ticket pool closed cursor
  have hunseen : ∀ e ∈ resets, Unseen e := by
    rcases hresets with rfl | rfl
    · exact fun e he => absurd he List.not_mem_nil
    · exact unseen_resets [f.slot]
  have hshown : ofTrace (o.flipped f.slot f.ack f.ticket pool closed cursor).trace =
      (cursorCalls f.ack.cursorTransition cursor).foldl next
        { ofTrace o.trace with underWay := none, onScreen := some a } := by
    rw [htrace, ofTrace_append, ofTrace_append, ofTrace_append,
      foldl_unseen (unseen_closed closed), List.foldl_cons, List.foldl_append]
    refine congrArg (List.foldl next · _) ((foldl_unseen hunseen _).trans ?_)
    change { ofTrace o.trace with underWay := none, onScreen := (ofTrace o.trace).underWay } = _
    rw [ha]
  have hmode' : (o.flipped f.slot f.ack f.ticket pool closed cursor).scene.lastFrameCursorMode =
      f.ack.cursorModeAfterRetire := by
    unfold flipped landed
    dsimp only
    split <;> rfl
  have hvisible : (o.flipped f.slot f.ack f.ticket pool closed cursor).planeVisible =
      planeAfter o.planeVisible f.ack.cursorTransition cursor := by
    unfold flipped landed
    dsimp only
    split <;> rfl
  have hderive := transition_derive o.scene.lastFrameCursorMode a
  rw [← htransition, ← hmode] at hderive
  constructor
  · rw [hshown, hmode', hvisible]
    exact plane_cursorCalls cursor h.plane hderive
  · rw [hmode', hmode, mode_derive, LeavesToPlane, hshown, onScreen_cursorCalls]
    exact exists₅_congr fun _ _ _ _ _ => Option.some_inj.symm
  · exact nofun

theorem suspend (o : Scanout) (cursor : CursorAnswers) (active : Bool) :
    Displays (o.suspended cursor active) none := by
  have hshown : ofTrace (o.suspended cursor active).trace =
      (⟨none, none, (ofTrace o.trace).plane && !cursor.setCursor2, !cursor.setCursor2⟩ :
        Display) := by
    change ofTrace (o.trace ++ (.suspend :: (_ ++ (.cursorHide cursor.setCursor2 :: _)))) = _
    rw [ofTrace_append, List.foldl_cons, List.foldl_append, foldl_unseen (unseen_resets _),
      List.foldl_cons, foldl_unseen (unseen_closed _)]
    rfl
  constructor
  · rw [hshown]
    intro hok
    have hok : cursor.setCursor2 = true := (Bool.not_eq_eq_eq_not ..).mp hok
    change ((_ && !cursor.setCursor2) = true ↔ _) ∧ (_ && !cursor.setCursor2) = (_ && _)
    rw [hok, Bool.not_true, Bool.and_false, Bool.and_false]
    exact ⟨iff_of_false Bool.false_ne_true OutputCursorMode.noConfusion, rfl⟩
  · rw [LeavesToPlane, hshown]
    exact iff_of_false OutputCursorMode.noConfusion fun ⟨_, _, _, _, _, h⟩ => by cases h
  · exact nofun

/-- The plane is shown again where it is shown already. -/
theorem rebind (h : Displays o flight) (cursor : CursorAnswers) (hvisible : o.planeVisible = true) :
    Displays (o.emit [.cursorRebind cursor.shown]) flight := by
  have hshown : ofTrace (o.emit [.cursorRebind cursor.shown]).trace =
      { ofTrace o.trace with
        plane := (ofTrace o.trace).plane || cursor.shown
        failed := (ofTrace o.trace).failed || !cursor.shown } := ofTrace_append ..
  constructor
  · rw [hshown]
    intro hok
    obtain ⟨hiff, hsame⟩ := h.plane (Bool.or_eq_false_iff.mp hok).1
    have hplane : (ofTrace o.trace).plane = true := hsame.symm.trans hvisible
    change ((_ || _) = true ↔ _) ∧ o.planeVisible = (_ || _)
    rw [hplane, Bool.true_or]
    exact ⟨iff_of_true rfl (hiff.mp hplane), hvisible⟩
  · rw [LeavesToPlane, hshown]
    exact h.onScreen
  · rw [hshown]
    exact h.flies

theorem move (h : Displays o flight) (hinv : Inv o flight lost) (hmove : Move o o') :
    ∃ flight' lost', Inv o' flight' lost' ∧ Displays o' flight' := by
  cases hmove with
  | signal t =>
    refine ⟨_, _, hinv.signal t, ?_⟩
    unfold Scanout.signal
    split
    · exact h.unseen (List.forall_mem_singleton.mpr fun _ => rfl) rfl rfl rfl
    · exact h
  | damage r =>
    exact ⟨_, _, hinv.damage r, h.unseen (List.forall_mem_singleton.mpr fun _ => rfl) rfl rfl rfl⟩
  | recycle hqueue hticket =>
    exact ⟨_, _, hinv.recycle hqueue, h.unseen (unseen_resets [_]) rfl rfl rfl⟩
  | release hqueue hticket =>
    exact ⟨_, _, hinv.release hqueue, h.unseen (unseen_resets [_]) rfl rfl rfl⟩
  | strand hready =>
    exact ⟨_, _, hinv.strand hready,
      h.unseen (fun e he => absurd he List.not_mem_nil) (List.append_nil _).symm rfl rfl⟩
  | abort hready invalid damage failedAt =>
    exact ⟨_, _, hinv.abort hready invalid damage failedAt, h.unseen (unseen_resets [_]) rfl rfl rfl⟩
  | reject hready invalid damage failedAt hothers =>
    refine ⟨_, _, hinv.reject hready invalid _ damage failedAt, h.unseen ?_ rfl rfl rfl⟩
    exact List.forall_mem_cons.mpr ⟨fun _ => rfl, hothers.unseen⟩
  | commit hready built hothers =>
    cases hinv.flight_eq_none hready.noAcks
    exact ⟨_, _, hinv.commit hready _ _ built, h.commit hothers built⟩
  | flip cursor hacks hslots hticket hbo hphase hprev hlast =>
    cases hinv.eq_flight hacks hslots hticket
    exact ⟨_, _, hinv.flip hbo hphase hprev hlast _ cursor, h.flip _ _ cursor⟩
  | suspend cursor active =>
    exact ⟨_, _, hinv.suspend cursor active, suspend o cursor active⟩
  | light ok active =>
    refine ⟨_, _, hinv.light ok active, h.unseen (fun e he => ?_) rfl rfl rfl⟩
    obtain ⟨_, -, rfl⟩ := List.mem_map.mp he
    exact fun _ => rfl
  | rebind cursor hvisible => exact ⟨_, _, hinv.emit _, h.rebind cursor hvisible⟩

end Displays

end Scanout

end X12

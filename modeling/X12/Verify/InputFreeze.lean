import X12.Lib.Runs
import X12.Lib.Turns
import X12.Verify.InputQueues

/-! # Replay of frozen input

The keys, and the device events of each device, are delivered in the order in
which they arrive, unless an event is overtaken while it is being routed. -/

namespace X12

/-! ## Streams of events -/

/-- One kind of event on its way: where it arrives and is delivered, where it is
between a replay and its delivery, and where it is withheld. -/
structure InputStream (α : Type) where
  arrived : InputEvent → Option α
  delivered : InputEvent → Option α
  underWay : Pending → Option α
  withheld : InputState → List α

/-- The keys. -/
def keyStream : InputStream HostKeyEvent where
  arrived | .keyArrived event => some event
          | _ => none
  delivered | .keyDelivered event _ => some event
            | _ => none
  underWay | .deliverRouted event _ => some event
           | _ => none
  withheld s := (s.xi1Frozen DEVICEID_SLAVE_KEYBOARD).coreKeyQueue

/-- The XI1 events of a device. -/
def deviceStream (dev : UInt16) : InputStream Xi1QueuedEvent where
  arrived | .deviceArrived q => if q.deviceid = dev then some q else none
          | _ => none
  delivered | .deviceDelivered q _ => if q.deviceid = dev then some q else none
            | _ => none
  underWay | .deliverActivating q _ => if q.deviceid = dev then some q else none
           | _ => none
  withheld s := (s.xi1Frozen dev).queue

namespace InputStream

variable {α : Type}

/-- Everything of the kind that has arrived was delivered, is under way or is
withheld, in the order of arrival. -/
def InTurn (σ : InputStream α) (c : InputConfig) (events : List InputEvent) : Prop :=
  Turns.InTurn (events.filterMap σ.arrived) (events.filterMap σ.delivered)
    (c.pending.filterMap σ.underWay) (σ.withheld c.state)

/-- What a call does to the stream: what it lets arrive, delivers, leaves under
way and withholds. -/
structure Does (σ : InputStream α) (o : InputOutcome)
    (arrived delivered underWay withheld : List α) : Prop where
  arrived : o.events.filterMap σ.arrived = arrived
  delivered : o.events.filterMap σ.delivered = delivered
  underWay : o.rest.filterMap σ.underWay = underWay
  withheld : σ.withheld o.state = withheld

variable {σ : InputStream α} {o : InputOutcome} {events : List InputEvent} {rest : List Pending}
  {arrived delivered underWay withheld : List α} {a : α}

theorem Does.inTurn (h : σ.Does o arrived delivered underWay withheld)
    (turn : Turns.InTurn (events.filterMap σ.arrived ++ arrived)
      (events.filterMap σ.delivered ++ delivered) (underWay ++ rest.filterMap σ.underWay)
      withheld) :
    σ.InTurn ⟨o.state, o.rest ++ rest⟩ (events ++ o.events) := by
  unfold InTurn
  rw [List.filterMap_append, List.filterMap_append, List.filterMap_append, h.arrived, h.delivered,
    h.underWay, h.withheld]
  exact turn

end InputStream

variable {s s' : InputState} {o : InputOutcome} {dev : UInt16}

/-! ## What the calls do to a stream -/

namespace InputStream

variable {α : Type} {σ : InputStream α} {events : List InputEvent}
  {pending rest : List Pending} {arrived delivered underWay withheld : List α} {a : α}

/-- The stream does not see other work, and is withheld in the queues. -/
structure Lawful (σ : InputStream α) : Prop where
  empty : ∀ p, p.isEmpty = true → σ.underWay p = none
  same : ∀ s s', SameQueues s s' → σ.withheld s' = σ.withheld s

theorem Lawful.underWay_empty (hσ : σ.Lawful) (h : ∀ p ∈ rest, p.isEmpty = true) :
    rest.filterMap σ.underWay = [] :=
  List.filterMap_eq_nil_iff.mpr fun p hp => hσ.empty p (h p hp)

/-- The call does nothing to the stream. -/
def Ignores (σ : InputStream α) (s : InputState) (o : InputOutcome) : Prop :=
  σ.Does o [] [] [] (σ.withheld s)

theorem Ignores.of_syncs (hσ : σ.Lawful) (h : Syncs s o) : σ.Ignores s o where
  arrived := by rw [h.events, List.filterMap_nil]
  delivered := by rw [h.events, List.filterMap_nil]
  underWay := hσ.underWay_empty h.empty
  withheld := hσ.same s o.state h.queues

theorem Does.afterArrival {e : InputEvent} (h : σ.Does o [] delivered underWay withheld)
    (ha : σ.arrived e = some a) (hd : σ.delivered e = none) :
    σ.Does (o.after [e]) [a] delivered underWay withheld where
  arrived := by
    rw [InputOutcome.after, List.singleton_append, List.filterMap_cons_some ha, h.arrived]
  delivered := by
    rw [InputOutcome.after, List.singleton_append, List.filterMap_cons_none hd, h.delivered]
  underWay := h.underWay
  withheld := h.withheld

theorem Does.afterDelivery {e : InputEvent} (h : σ.Does o arrived [] underWay withheld)
    (ha : σ.arrived e = none) (hd : σ.delivered e = some a) :
    σ.Does (o.after [e]) arrived [a] underWay withheld where
  arrived := by
    rw [InputOutcome.after, List.singleton_append, List.filterMap_cons_none ha, h.arrived]
  delivered := by
    rw [InputOutcome.after, List.singleton_append, List.filterMap_cons_some hd, h.delivered]
  underWay := h.underWay
  withheld := h.withheld

theorem Does.afterOther {e : InputEvent} (h : σ.Does o arrived delivered underWay withheld)
    (ha : σ.arrived e = none) (hd : σ.delivered e = none) :
    σ.Does (o.after [e]) arrived delivered underWay withheld where
  arrived := by
    rw [InputOutcome.after, List.singleton_append, List.filterMap_cons_none ha, h.arrived]
  delivered := by
    rw [InputOutcome.after, List.singleton_append, List.filterMap_cons_none hd, h.delivered]
  underWay := h.underWay
  withheld := h.withheld

theorem Does.andThen {later : List Pending} (h : σ.Does o arrived delivered underWay withheld)
    (hlater : later.filterMap σ.underWay = []) :
    σ.Does (o.andThen later) arrived delivered underWay withheld where
  arrived := h.arrived
  delivered := h.delivered
  underWay := by
    rw [← h.underWay, ← List.append_nil (o.rest.filterMap σ.underWay), ← hlater,
      ← List.filterMap_append]
    rfl
  withheld := h.withheld

/-- The loop that drains a device goes on behind a call. -/
theorem Ignores.andDrain (h : σ.Ignores s' o) (dev : UInt16)
    (hwithheld : σ.withheld s' = σ.withheld s) (hdrain : σ.underWay (.drain dev) = none) :
    σ.Ignores s (o.andThen [.drain dev]) := by
  have hlater : [Pending.drain dev].filterMap σ.underWay = [] :=
    List.filterMap_cons_none hdrain
  have hdoes := Does.andThen h hlater
  rwa [hwithheld] at hdoes

/-- Work that does nothing to the stream keeps its turns. -/
theorem Ignores.inTurn (h : σ.Ignores s o)
    (turn : σ.InTurn ⟨s, rest⟩ events) :
    σ.InTurn ⟨o.state, o.rest ++ rest⟩ (events ++ o.events) := by
  apply Does.inTurn h
  rw [List.append_nil, List.append_nil, List.nil_append]
  exact turn

end InputStream

open InputStream

theorem keyStream_lawful : keyStream.Lawful where
  empty p hp := by
    cases p with
    | deliverRouted => exact (nomatch hp)
    | _ => rfl
  same _ _ h := (h _).2

theorem deviceStream_lawful (dev : UInt16) : (deviceStream dev).Lawful where
  empty p hp := by
    cases p with
    | deliverActivating => exact (nomatch hp)
    | _ => rfl
  same _ _ h := (h _).1

section Routing

variable {q : Xi1QueuedEvent}

/-- Device events are no keys. -/
theorem InputState.Routes.keys (h : InputState.Routes s q o) : keyStream.Ignores s o := by
  obtain ⟨hqueues, -, hpassed⟩ := h
  have hwithheld := keyStream_lawful.same s o.state hqueues
  cases hpassed with
  | delivered receivers events empty =>
    exact ⟨by rw [events]; rfl, by rw [events]; rfl, keyStream_lawful.underWay_empty empty,
      hwithheld⟩
  | activating sync g events rest empty =>
    refine ⟨by rw [events]; rfl, by rw [events]; rfl, ?_, hwithheld⟩
    rw [rest, List.filterMap_append, keyStream_lawful.underWay_empty empty]
    rfl

theorem InputState.Routes.other_device (h : InputState.Routes s q o) (hq : q.deviceid ≠ dev) :
    (deviceStream dev).Ignores s o := by
  obtain ⟨hqueues, -, hpassed⟩ := h
  have hwithheld := (deviceStream_lawful dev).same s o.state hqueues
  cases hpassed with
  | delivered receivers events empty =>
    refine ⟨by rw [events]; rfl, ?_, (deviceStream_lawful dev).underWay_empty empty, hwithheld⟩
    rw [events]
    exact List.filterMap_cons_none (if_neg hq)
  | activating sync g events rest empty =>
    refine ⟨by rw [events]; rfl, by rw [events]; rfl, ?_, hwithheld⟩
    rw [rest, List.filterMap_append, (deviceStream_lawful dev).underWay_empty empty]
    exact List.filterMap_cons_none (if_neg hq)

/-- An event that is let through is delivered, or under way. -/
theorem InputState.Routes.same_device (h : InputState.Routes s q o) :
    (deviceStream q.deviceid).Does o [] [q] [] (s.xi1Frozen q.deviceid).queue ∨
      (deviceStream q.deviceid).Does o [] [] [q] (s.xi1Frozen q.deviceid).queue := by
  obtain ⟨hqueues, -, hpassed⟩ := h
  have hlawful := deviceStream_lawful q.deviceid
  have hwithheld := hlawful.same s o.state hqueues
  cases hpassed with
  | delivered receivers events empty =>
    refine .inl ⟨by rw [events]; rfl, ?_, hlawful.underWay_empty empty, hwithheld⟩
    rw [events]
    exact List.filterMap_cons_some (if_pos rfl)
  | activating sync g events rest empty =>
    refine .inr ⟨by rw [events]; rfl, by rw [events]; rfl, ?_, hwithheld⟩
    rw [rest, List.filterMap_append, hlawful.underWay_empty empty]
    exact List.filterMap_cons_some (if_pos rfl)

/-- An event may be routed anew when its device is frozen, or when no earlier
event of the device is withheld or under way. -/
def InputState.routesInTurn (s : InputState) (dev : UInt16) (rest : List Pending) : Bool :=
  s.frozen dev ||
    (s.xi1Frozen dev).queue.isEmpty && (rest.filterMap (deviceStream dev).underWay).isEmpty

theorem arriveDevice_keys (s : InputState) (q : Xi1QueuedEvent) :
    keyStream.Ignores s (s.arriveDevice q) := by
  cases hs : s.frozen q.deviceid with
  | true =>
    rw [InputState.arriveDevice, InputState.routeDeviceEvent_frozen hs]
    refine ⟨rfl, rfl, rfl, ?_⟩
    show ((s.updateFreeze q.deviceid fun f => { f with queue := f.queue ++ [q] }).xi1Frozen
      DEVICEID_SLAVE_KEYBOARD).coreKeyQueue = (s.xi1Frozen DEVICEID_SLAVE_KEYBOARD).coreKeyQueue
    rcases eq_or_ne DEVICEID_SLAVE_KEYBOARD q.deviceid with heq | hne
    · rw [heq, InputState.updateFreeze_self]
    · rw [InputState.updateFreeze_of_ne hne]
  | false => exact (InputState.routeDeviceEvent_thawed hs).keys.afterOther rfl rfl

theorem arriveDevice_other (s : InputState) (hq : q.deviceid ≠ dev) :
    (deviceStream dev).Ignores s (s.arriveDevice q) := by
  cases hs : s.frozen q.deviceid with
  | true =>
    rw [InputState.arriveDevice, InputState.routeDeviceEvent_frozen hs]
    refine ⟨List.filterMap_cons_none (if_neg hq), rfl, rfl, ?_⟩
    show ((s.updateFreeze q.deviceid fun f => { f with queue := f.queue ++ [q] }).xi1Frozen
      dev).queue = (s.xi1Frozen dev).queue
    rw [InputState.updateFreeze_of_ne (Ne.symm hq)]
  | false =>
    exact ((InputState.routeDeviceEvent_thawed hs).other_device hq).afterOther (if_neg hq) rfl

/-- An event of a frozen device is withheld. -/
theorem arriveDevice_frozen (hs : s.frozen q.deviceid = true) :
    (deviceStream q.deviceid).Does (s.arriveDevice q) [q] [] []
      ((s.xi1Frozen q.deviceid).queue ++ [q]) := by
  rw [InputState.arriveDevice, InputState.routeDeviceEvent_frozen hs]
  refine ⟨List.filterMap_cons_some (if_pos rfl), rfl, rfl, ?_⟩
  show ((s.updateFreeze q.deviceid fun f => { f with queue := f.queue ++ [q] }).xi1Frozen
    q.deviceid).queue = _
  rw [InputState.updateFreeze_self]

/-- An event that arrives in its turn keeps the turns of its device. -/
theorem arriveDevice_inTurn {events : List InputEvent} {rest : List Pending}
    (h : (deviceStream dev).InTurn ⟨s, rest⟩ events)
    (hturn : s.routesInTurn q.deviceid rest = true) :
    (deviceStream dev).InTurn ⟨(s.arriveDevice q).state, (s.arriveDevice q).rest ++ rest⟩
      (events ++ (s.arriveDevice q).events) := by
  by_cases hq : q.deviceid = dev
  · subst hq
    cases hs : s.frozen q.deviceid with
    | true =>
      apply (arriveDevice_frozen hs).inTurn
      rw [List.append_nil, List.nil_append]
      exact Turns.InTurn.withhold h q
    | false =>
      rw [InputState.routesInTurn, hs, Bool.false_or, Bool.and_eq_true, List.isEmpty_iff,
        List.isEmpty_iff] at hturn
      obtain ⟨hqueue, hrest⟩ := hturn
      have hempty : Turns.InTurn (events.filterMap (deviceStream q.deviceid).arrived)
          (events.filterMap (deviceStream q.deviceid).delivered) [] [] := by
        have hturns := h
        unfold InputStream.InTurn at hturns
        rwa [show (deviceStream q.deviceid).withheld s = [] from hqueue, hrest] at hturns
      have harrived : (deviceStream q.deviceid).arrived (.deviceArrived q) = some q := if_pos rfl
      have hpassed := (InputState.routeDeviceEvent_thawed hs).same_device
      rw [hqueue] at hpassed
      rcases hpassed with hdone | hdone
      · apply (hdone.afterArrival harrived rfl).inTurn
        rw [hrest]
        exact (hempty.letIn q).deliver
      · apply (hdone.afterArrival harrived rfl).inTurn
        rw [hrest, List.append_nil, List.append_nil]
        exact hempty.letIn q
  · exact (arriveDevice_other s hq).inTurn h

end Routing

/-! ## One move -/

namespace InputConfig

/-- No event is overtaken by the move. A queue is not drained past an event that
is still under way, and an event is not routed past those still in the queue. -/
def keepsTurns (c : InputConfig) : InputMove → Bool
  | .resume =>
    match c.pending with
    | .drain dev :: rest =>
      c.state.frozen dev ||
        match (c.state.xi1Frozen dev).coreKeyQueue with
        | _ :: _ => (rest.filterMap keyStream.underWay).isEmpty
        | [] => (c.state.xi1Frozen dev).queue.isEmpty ||
            (rest.filterMap (deviceStream dev).underWay).isEmpty
    | .deliverRouted _ _ :: rest => c.state.routesInTurn DEVICEID_SLAVE_KEYBOARD rest
    | .replayKey _ :: rest =>
      c.state.currentFocus = 0 || c.state.routesInTurn DEVICEID_SLAVE_KEYBOARD rest
    | .routeStored q :: rest => c.state.routesInTurn q.deviceid rest
    | _ => true
  | .act (.deviceEvent q) =>
    !c.accepts (.deviceEvent q) || c.state.routesInTurn q.deviceid c.pending
  | .act _ => true

end InputConfig

section Moves

variable {events : List InputEvent} {rest : List Pending} {q : Xi1QueuedEvent}

theorem deliverRoutedKey_keys (s : InputState) (event : HostKeyEvent) :
    keyStream.Does (s.deliverRoutedKey event) [] [] [event] (keyStream.withheld s) where
  arrived := rfl
  delivered := rfl
  underWay := by
    show ((s.keyRoute event).2.1 ++ [Pending.deliverRouted event _]).filterMap
      keyStream.underWay = [event]
    rw [List.filterMap_append, keyStream_lawful.underWay_empty (s.keyRoute_syncs event).empty]
    rfl
  withheld := keyStream_lawful.same s _ (s.deliverRoutedKey_queues event)

theorem deliverRoutedKey_device (s : InputState) (event : HostKeyEvent) (dev : UInt16) :
    (deviceStream dev).Ignores s (s.deliverRoutedKey event) where
  arrived := rfl
  delivered := rfl
  underWay := by
    show ((s.keyRoute event).2.1 ++ [Pending.deliverRouted event _]).filterMap _ = []
    rw [List.filterMap_append,
      (deviceStream_lawful dev).underWay_empty (s.keyRoute_syncs event).empty]
    rfl
  withheld := (deviceStream_lawful dev).same s _ (s.deliverRoutedKey_queues event)

/-- A drained device takes up the key that was withheld first. -/
theorem drain_keys (h : Orderly s (.drain dev :: rest))
    (turn : keyStream.InTurn ⟨s, .drain dev :: rest⟩ events)
    (hkeeps : InputConfig.keepsTurns ⟨s, .drain dev :: rest⟩ .resume = true) :
    keyStream.InTurn ⟨(s.drain dev).state, (s.drain dev).rest ++ rest⟩
      (events ++ (s.drain dev).events) := by
  rcases h.drain_cases with ⟨heq, -⟩ | ⟨event, keys, hthawed, hkeys, heq⟩ |
    ⟨q, queue, -, -, -, -, hs, heq⟩
  · rw [heq]
    exact (Ignores.of_syncs keyStream_lawful (Syncs.unchanged s)).inTurn turn
  · simp only [InputConfig.keepsTurns, hthawed, hkeys, Bool.false_or, List.isEmpty_iff] at hkeeps
    have hdev : dev = DEVICEID_SLAVE_KEYBOARD := by
      by_contra hne
      rw [h.keyboard dev hne] at hkeys
      exact (nomatch hkeys)
    subst hdev
    have hwithheld : keyStream.withheld (s.updateFreeze DEVICEID_SLAVE_KEYBOARD fun f =>
        { f with coreKeyQueue := keys }) = keys := by
      show (InputState.xi1Frozen _ _).coreKeyQueue = keys
      rw [InputState.updateFreeze_self]
    have hlater : [Pending.drain DEVICEID_SLAVE_KEYBOARD].filterMap keyStream.underWay = [] := rfl
    have hdoes := (deliverRoutedKey_keys (s.updateFreeze DEVICEID_SLAVE_KEYBOARD fun f =>
      { f with coreKeyQueue := keys }) event).andThen hlater
    rw [heq]
    apply hdoes.inTurn
    rw [hwithheld, hkeeps, List.append_nil, List.append_nil, List.append_nil]
    have hturns : Turns.InTurn (events.filterMap keyStream.arrived)
        (events.filterMap keyStream.delivered) (rest.filterMap keyStream.underWay)
        (s.xi1Frozen DEVICEID_SLAVE_KEYBOARD).coreKeyQueue := turn
    rw [hkeeps, hkeys] at hturns
    exact hturns.takeUp
  · have hwithheld : keyStream.withheld (s.updateFreeze dev fun f =>
        { f with queue := queue }) = keyStream.withheld s := by
      show (InputState.xi1Frozen _ _).coreKeyQueue = (InputState.xi1Frozen _ _).coreKeyQueue
      rcases eq_or_ne DEVICEID_SLAVE_KEYBOARD dev with hsame | hne
      · rw [← hsame, InputState.updateFreeze_self]
      · rw [InputState.updateFreeze_of_ne hne]
    rw [heq]
    exact ((InputState.routeDeviceEvent_thawed hs).keys.andDrain dev hwithheld rfl).inTurn turn

/-- A drained device takes up the event that was withheld first. -/
theorem drain_device (d : UInt16) (h : Orderly s (.drain dev :: rest))
    (turn : (deviceStream d).InTurn ⟨s, .drain dev :: rest⟩ events)
    (hkeeps : InputConfig.keepsTurns ⟨s, .drain dev :: rest⟩ .resume = true) :
    (deviceStream d).InTurn ⟨(s.drain dev).state, (s.drain dev).rest ++ rest⟩
      (events ++ (s.drain dev).events) := by
  rcases h.drain_cases with ⟨heq, -⟩ | ⟨event, keys, -, -, heq⟩ |
    ⟨q, queue, hthawed, hkeys, hqueue, hown, hs, heq⟩
  · rw [heq]
    exact (Ignores.of_syncs (deviceStream_lawful d) (Syncs.unchanged s)).inTurn turn
  · have hwithheld : (deviceStream d).withheld (s.updateFreeze dev fun f =>
        { f with coreKeyQueue := keys }) = (deviceStream d).withheld s := by
      show (InputState.xi1Frozen _ _).queue = (InputState.xi1Frozen _ _).queue
      rcases eq_or_ne d dev with hsame | hne
      · rw [← hsame, InputState.updateFreeze_self]
      · rw [InputState.updateFreeze_of_ne hne]
    rw [heq]
    exact ((deliverRoutedKey_device _ event d).andDrain dev hwithheld rfl).inTurn turn
  · rw [heq]
    rcases eq_or_ne q.deviceid d with hq | hq
    · -- the event of the drained device is taken up
      subst hq
      subst hown
      simp only [InputConfig.keepsTurns, hthawed, hkeys, hqueue, List.isEmpty_cons, Bool.false_or,
        List.isEmpty_iff] at hkeeps
      have hturns : Turns.InTurn (events.filterMap (deviceStream q.deviceid).arrived)
          (events.filterMap (deviceStream q.deviceid).delivered)
          (rest.filterMap (deviceStream q.deviceid).underWay)
          (s.xi1Frozen q.deviceid).queue := turn
      rw [hkeeps, hqueue] at hturns
      have hdoes := (InputState.routeDeviceEvent_thawed hs).same_device
      rw [InputState.updateFreeze_self] at hdoes
      have hlater :
          [Pending.drain q.deviceid].filterMap (deviceStream q.deviceid).underWay = [] := rfl
      rcases hdoes with hdone | hdone
      · apply (hdone.andThen hlater).inTurn
        rw [hkeeps, List.append_nil]
        exact hturns.takeUp.deliver
      · apply (hdone.andThen hlater).inTurn
        rw [hkeeps, List.append_nil, List.append_nil, List.append_nil]
        exact hturns.takeUp
    · have hwithheld : (deviceStream d).withheld (s.updateFreeze dev fun f =>
          { f with queue := queue }) = (deviceStream d).withheld s := by
        show (InputState.xi1Frozen _ _).queue = (InputState.xi1Frozen _ _).queue
        rw [InputState.updateFreeze_of_ne (hown ▸ hq.symm)]
      exact (((InputState.routeDeviceEvent_thawed hs).other_device hq).andDrain dev
        hwithheld rfl).inTurn turn

/-- An event of another kind. -/
theorem InTurn.skip {α : Type} {σ : InputStream α} {c : InputConfig} {later : List InputEvent}
    {e : InputEvent} (h : σ.InTurn c (events ++ later)) (ha : σ.arrived e = none)
    (hd : σ.delivered e = none) : σ.InTurn c (events ++ ([e] ++ later)) := by
  have hskip : ∀ f : InputEvent → Option α, f e = none →
      (events ++ ([e] ++ later)).filterMap f = (events ++ later).filterMap f := by
    intro f hf
    rw [List.filterMap_append, List.singleton_append, List.filterMap_cons_none hf,
      List.filterMap_append]
  unfold InputStream.InTurn at h ⊢
  rwa [hskip σ.arrived ha, hskip σ.delivered hd]

theorem InTurn.of_eq {α : Type} {σ : InputStream α} (hσ : σ.Lawful)
    (h : σ.InTurn ⟨s, rest⟩ events) (hq : SameQueues s s') : σ.InTurn ⟨s', rest⟩ events := by
  unfold InputStream.InTurn at h ⊢
  rwa [show σ.withheld s' = σ.withheld s from hσ.same s s' hq]

theorem resume_keys {p : Pending} (h : Orderly s (p :: rest))
    (turn : keyStream.InTurn ⟨s, p :: rest⟩ events)
    (hkeeps : InputConfig.keepsTurns ⟨s, p :: rest⟩ .resume = true) :
    keyStream.InTurn ⟨(s.resume p).state, (s.resume p).rest ++ rest⟩
      (events ++ (s.resume p).events) := by
  cases p with
  | drain dev => exact drain_keys h turn hkeeps
  | deliverRouted event route =>
    have hdoes := (arriveDevice_keys (s.holdKey event route)
      ((s.holdKey event route).xi1FocusedKey event)).afterDelivery (a := event)
      (e := .keyDelivered event ((s.holdKey event route).keyReceivers event route)) rfl rfl
    have hturns : Turns.InTurn (events.filterMap keyStream.arrived)
        (events.filterMap keyStream.delivered) (event :: rest.filterMap keyStream.underWay)
        (keyStream.withheld s) := turn
    apply hdoes.inTurn
    rw [List.append_nil, List.nil_append,
      keyStream_lawful.same s _ (SameQueues.of_eq (s.holdKey_xi1Frozen event route))]
    exact hturns.deliver
  | deliverActivating q g =>
    have hignores : keyStream.Ignores s (s.deliverActivating q g) :=
      ⟨rfl, rfl, rfl, keyStream_lawful.same s _ (s.deliverActivating_same q g)⟩
    exact hignores.inTurn turn
  | routeStored q => exact (arriveDevice_keys s q).inTurn turn
  | replayKey event =>
    have hrest : keyStream.InTurn ⟨s, rest⟩ events := turn
    show keyStream.InTurn ⟨(s.replayFrozenKeyToFocus event).state,
      (s.replayFrozenKeyToFocus event).rest ++ rest⟩
      (events ++ (s.replayFrozenKeyToFocus event).events)
    unfold InputState.replayFrozenKeyToFocus
    split
    · exact (Ignores.of_syncs keyStream_lawful (Syncs.unchanged s)).inTurn hrest
    · exact InTurn.skip ((arriveDevice_keys s (s.xi1FocusedKey event)).inTurn hrest) rfl rfl
  | playPointer => exact (Ignores.of_syncs keyStream_lawful (Syncs.unchanged s)).inTurn turn

theorem resume_device (d : UInt16) {p : Pending} (h : Orderly s (p :: rest))
    (turn : (deviceStream d).InTurn ⟨s, p :: rest⟩ events)
    (hkeeps : InputConfig.keepsTurns ⟨s, p :: rest⟩ .resume = true) :
    (deviceStream d).InTurn ⟨(s.resume p).state, (s.resume p).rest ++ rest⟩
      (events ++ (s.resume p).events) := by
  cases p with
  | drain dev => exact drain_device d h turn hkeeps
  | deliverRouted event route =>
    have heq := s.holdKey_xi1Frozen event route
    have hroutes : (s.holdKey event route).routesInTurn DEVICEID_SLAVE_KEYBOARD rest = true := by
      rw [InputState.routesInTurn, InputState.frozen, heq]
      exact hkeeps
    have hheld : (deviceStream d).InTurn ⟨s.holdKey event route, rest⟩ events :=
      InTurn.of_eq (deviceStream_lawful d) turn (SameQueues.of_eq heq)
    exact InTurn.skip (arriveDevice_inTurn
      (q := (s.holdKey event route).xi1FocusedKey event) hheld hroutes) rfl rfl
  | deliverActivating q g =>
    have hwithheld := (deviceStream_lawful d).same s _ (s.deliverActivating_same q g)
    by_cases hq : q.deviceid = d
    · have hdoes : (deviceStream d).Does (s.deliverActivating q g) [] [q] []
          ((deviceStream d).withheld s) :=
        ⟨rfl, List.filterMap_cons_some (if_pos hq), rfl, hwithheld⟩
      have hunderWay : (Pending.deliverActivating q g :: rest).filterMap (deviceStream d).underWay =
          q :: rest.filterMap (deviceStream d).underWay := List.filterMap_cons_some (if_pos hq)
      unfold InputStream.InTurn at turn
      rw [hunderWay] at turn
      apply hdoes.inTurn
      rw [List.append_nil, List.nil_append]
      exact turn.deliver
    · have hignores : (deviceStream d).Ignores s (s.deliverActivating q g) :=
        ⟨rfl, List.filterMap_cons_none (if_neg hq), rfl, hwithheld⟩
      have hunderWay : (Pending.deliverActivating q g :: rest).filterMap (deviceStream d).underWay =
          rest.filterMap (deviceStream d).underWay := List.filterMap_cons_none (if_neg hq)
      unfold InputStream.InTurn at turn
      rw [hunderWay] at turn
      exact hignores.inTurn turn
  | routeStored q => exact arriveDevice_inTurn turn hkeeps
  | replayKey event =>
    have hrest : (deviceStream d).InTurn ⟨s, rest⟩ events := turn
    show (deviceStream d).InTurn ⟨(s.replayFrozenKeyToFocus event).state,
      (s.replayFrozenKeyToFocus event).rest ++ rest⟩
      (events ++ (s.replayFrozenKeyToFocus event).events)
    unfold InputState.replayFrozenKeyToFocus
    split
    · exact (Ignores.of_syncs (deviceStream_lawful d) (Syncs.unchanged s)).inTurn hrest
    · rename_i hfocus
      have hroutes : s.routesInTurn DEVICEID_SLAVE_KEYBOARD rest = true :=
        ((Bool.or_eq_true _ _).mp hkeeps).resolve_left fun hzero =>
          hfocus (of_decide_eq_true hzero)
      exact InTurn.skip (arriveDevice_inTurn (q := s.xi1FocusedKey event) hrest hroutes) rfl rfl
  | playPointer => exact (Ignores.of_syncs (deviceStream_lawful d) (Syncs.unchanged s)).inTurn turn

/-- A key that arrives is withheld, or taken up when no other key waits. -/
theorem keyEvent_keys (h : Orderly s []) (turn : keyStream.InTurn ⟨s, []⟩ events)
    (event : HostKeyEvent) :
    keyStream.InTurn ⟨(s.keyEventFanout event).state, (s.keyEventFanout event).rest ++ []⟩
      (events ++ (s.keyEventFanout event).events) := by
  unfold InputState.keyEventFanout
  split
  · have hdoes : keyStream.Does ((InputOutcome.done (s.updateFreeze DEVICEID_SLAVE_KEYBOARD fun f =>
        { f with coreKeyQueue := f.coreKeyQueue ++ [event] })).after [.keyArrived event])
        [event] [] [] (keyStream.withheld s ++ [event]) := by
      refine ⟨rfl, rfl, rfl, ?_⟩
      show ((s.updateFreeze DEVICEID_SLAVE_KEYBOARD fun f =>
        { f with coreKeyQueue := f.coreKeyQueue ++ [event] }).xi1Frozen _).coreKeyQueue = _
      rw [InputState.updateFreeze_self]
      rfl
    apply hdoes.inTurn
    rw [List.append_nil, List.filterMap_nil, List.append_nil]
    exact Turns.InTurn.withhold turn event
  · rename_i hthawed
    have hnone : keyStream.withheld s = [] :=
      ((h.drained DEVICEID_SLAVE_KEYBOARD (by decide) (Bool.eq_false_iff.mpr hthawed)).resolve_left
        List.not_mem_nil).2
    have hdoes := (deliverRoutedKey_keys s event).afterArrival (e := .keyArrived event) rfl rfl
    unfold InputStream.InTurn at turn
    rw [hnone] at hdoes turn
    apply hdoes.inTurn
    rw [List.append_nil, List.filterMap_nil, List.append_nil]
    exact turn.letIn event

theorem keyEvent_device (s : InputState) (event : HostKeyEvent) (d : UInt16) :
    (deviceStream d).Ignores s (s.keyEventFanout event) := by
  unfold InputState.keyEventFanout
  split
  · refine ⟨rfl, rfl, rfl, ?_⟩
    show ((s.updateFreeze DEVICEID_SLAVE_KEYBOARD fun f =>
      { f with coreKeyQueue := f.coreKeyQueue ++ [event] }).xi1Frozen d).queue = _
    rcases eq_or_ne d DEVICEID_SLAVE_KEYBOARD with rfl | hne
    · rw [InputState.updateFreeze_self]
      rfl
    · rw [InputState.updateFreeze_of_ne hne]
      rfl
  · exact (deliverRoutedKey_device s event d).afterOther rfl rfl

end Moves

/-! ## The replay ends -/

/-- What a piece of work may still cost; a device event that it routes anew may
be withheld. -/
def Pending.weight : Pending → Nat
  | .drain _ | .deliverActivating _ _ | .playPointer => 1
  | .deliverRouted _ _ | .routeStored _ | .replayKey _ => 5

def pendingWeight (pending : List Pending) : Nat :=
  (pending.map Pending.weight).sum

theorem pendingWeight_append (pending later : List Pending) :
    pendingWeight (pending ++ later) = pendingWeight pending + pendingWeight later := by
  rw [pendingWeight, List.map_append, List.sum_append]
  rfl

namespace InputState

/-- What the withheld events may still cost. -/
def withheldWeight (s : InputState) : Nat :=
  (inputDevices.map fun dev =>
    8 * (s.xi1Frozen dev).coreKeyQueue.length + 4 * (s.xi1Frozen dev).queue.length).sum

theorem withheldWeight_same (h : SameQueues s s') : s'.withheldWeight = s.withheldWeight := by
  unfold withheldWeight
  congr 1
  refine List.map_congr_left fun dev _ => ?_
  rw [(h dev).1, (h dev).2]

theorem withheldWeight_update (dev : UInt16) (f : Xi1Freeze → Xi1Freeze)
    (hdev : dev ∈ inputDevices) :
    (s.updateFreeze dev f).withheldWeight + 8 * (s.xi1Frozen dev).coreKeyQueue.length +
        4 * (s.xi1Frozen dev).queue.length =
      s.withheldWeight + 8 * (f (s.xi1Frozen dev)).coreKeyQueue.length +
        4 * (f (s.xi1Frozen dev)).queue.length := by
  have hne : DEVICEID_SLAVE_POINTER ≠ DEVICEID_SLAVE_KEYBOARD := by decide
  unfold withheldWeight inputDevices
  simp only [List.map_cons, List.map_nil, List.sum_cons, List.sum_nil]
  rcases List.mem_cons.mp hdev with rfl | hdev
  · rw [updateFreeze_self, updateFreeze_of_ne hne.symm]
    omega
  · cases List.mem_singleton.mp hdev
    rw [updateFreeze_self, updateFreeze_of_ne hne]
    omega

theorem deactivateDeviceGrab_weight (s : InputState) (deviceid : UInt16) :
    pendingWeight (s.xi1DeactivateDeviceGrab deviceid).rest ≤ 2 := by
  unfold xi1DeactivateDeviceGrab
  split
  · exact Nat.zero_le 2
  · exact le_refl 2

theorem routeDeviceEvent_weight (s : InputState) (q : Xi1QueuedEvent) :
    pendingWeight (s.xi1RouteDeviceEvent q).rest ≤ 3 := by
  unfold xi1RouteDeviceEvent
  split
  · exact Nat.zero_le 3
  · split
    · dsimp only [InputOutcome.after]
      split
      · exact (deactivateDeviceGrab_weight _ _).trans (by decide)
      · exact Nat.zero_le 3
    · split
      · exact le_refl 3
      · exact Nat.zero_le 3

theorem keyRoute_weight (s : InputState) (event : HostKeyEvent) :
    pendingWeight (s.keyRoute event).2.1 ≤ 2 := by
  unfold keyRoute
  split
  · split
    · exact le_refl 2
    · exact Nat.zero_le 2
  · split
    · dsimp only
      split
      · exact le_refl 2
      · exact Nat.zero_le 2
    · exact Nat.zero_le 2

theorem deliverRoutedKey_weight (s : InputState) (event : HostKeyEvent) :
    pendingWeight (s.deliverRoutedKey event).rest ≤ 7 := by
  show pendingWeight ((s.keyRoute event).2.1 ++ [.deliverRouted event _]) ≤ 7
  rw [pendingWeight_append]
  exact Nat.add_le_add_right (s.keyRoute_weight event) 5

theorem withheldWeight_push (s : InputState) (q : Xi1QueuedEvent) :
    (s.updateFreeze q.deviceid fun f => { f with queue := f.queue ++ [q] }).withheldWeight ≤
      s.withheldWeight + 4 := by
  by_cases hdev : q.deviceid ∈ inputDevices
  · have hupdate := s.withheldWeight_update q.deviceid
      (fun f => { f with queue := f.queue ++ [q] }) hdev
    rw [List.length_append, List.length_singleton] at hupdate
    dsimp only at hupdate
    omega
  · have hsame : (s.updateFreeze q.deviceid fun f =>
        { f with queue := f.queue ++ [q] }).withheldWeight = s.withheldWeight := by
      unfold withheldWeight
      congr 1
      refine List.map_congr_left fun dev hmem => ?_
      have hne : dev ≠ q.deviceid := fun heq => hdev (heq ▸ hmem)
      rw [updateFreeze_of_ne hne]
    omega

/-- Routing an event anew costs less than the work that does it. -/
theorem arriveDevice_weight (s : InputState) (q : Xi1QueuedEvent) :
    (s.arriveDevice q).state.withheldWeight + pendingWeight (s.arriveDevice q).rest ≤
      s.withheldWeight + 4 := by
  cases hs : s.frozen q.deviceid with
  | true =>
    rw [arriveDevice, routeDeviceEvent_frozen hs]
    exact s.withheldWeight_push q
  | false =>
    have hsame : (s.arriveDevice q).state.withheldWeight = s.withheldWeight :=
      withheldWeight_same (routeDeviceEvent_thawed hs).queues
    have hrest : pendingWeight (s.arriveDevice q).rest ≤ 3 := s.routeDeviceEvent_weight q
    omega

theorem withheldWeight_eq (h : s'.xi1Frozen = s.xi1Frozen) :
    s'.withheldWeight = s.withheldWeight :=
  withheldWeight_same (SameQueues.of_eq h)

/-- A round of the loop costs more than it leaves. -/
theorem drain_weight {rest : List Pending} (h : Orderly s (.drain dev :: rest)) :
    (s.drain dev).state.withheldWeight + pendingWeight (s.drain dev).rest <
      s.withheldWeight + 1 := by
  have hdev : dev ∈ inputDevices := List.contains_iff_mem.mp (h.devices _ List.mem_cons_self)
  rcases h.drain_cases with ⟨heq, -⟩ | ⟨event, keys, -, hkeys, heq⟩ |
    ⟨q, queue, -, -, hqueue, -, hs, heq⟩
  · rw [heq]
    exact Nat.lt_succ_self _
  · have hupdate := s.withheldWeight_update dev (fun f => { f with coreKeyQueue := keys }) hdev
    rw [hkeys, List.length_cons] at hupdate
    dsimp only at hupdate
    have hsame := withheldWeight_same (deliverRoutedKey_queues
      (s.updateFreeze dev fun f => { f with coreKeyQueue := keys }) event)
    have hrest := deliverRoutedKey_weight (s.updateFreeze dev fun f =>
      { f with coreKeyQueue := keys }) event
    have hcall : pendingWeight (((s.updateFreeze dev fun f =>
        { f with coreKeyQueue := keys }).deliverRoutedKey event).andThen [.drain dev]).rest ≤ 8 := by
      rw [InputOutcome.andThen, pendingWeight_append]
      exact Nat.add_le_add_right hrest 1
    rw [heq]
    dsimp only [InputOutcome.andThen] at hcall ⊢
    omega
  · have hupdate := s.withheldWeight_update dev (fun f => { f with queue := queue }) hdev
    rw [hqueue, List.length_cons] at hupdate
    dsimp only at hupdate
    have hsame := withheldWeight_same (routeDeviceEvent_thawed hs).queues
    have hrest := routeDeviceEvent_weight (s.updateFreeze dev fun f =>
      { f with queue := queue }) q
    have hcall : pendingWeight (((s.updateFreeze dev fun f =>
        { f with queue := queue }).xi1RouteDeviceEvent q).andThen [.drain dev]).rest ≤ 4 := by
      rw [InputOutcome.andThen, pendingWeight_append]
      exact Nat.add_le_add_right hrest 1
    rw [heq]
    dsimp only [InputOutcome.andThen] at hcall ⊢
    omega

end InputState

namespace InputConfig

def weight (c : InputConfig) : Nat :=
  c.state.withheldWeight + pendingWeight c.pending

/-- Resuming costs more than it leaves. -/
theorem resume_weight {p : Pending} {rest : List Pending} (h : Orderly s (p :: rest)) :
    (InputConfig.step ⟨s, p :: rest⟩ .resume).1.weight < weight ⟨s, p :: rest⟩ := by
  have hgoal : (s.resume p).state.withheldWeight + pendingWeight (s.resume p).rest <
      s.withheldWeight + p.weight := by
    cases p with
    | drain dev => exact InputState.drain_weight h
    | deliverRouted event route =>
      have hkey := (s.holdKey event route).arriveDevice_weight
        ((s.holdKey event route).xi1FocusedKey event)
      rw [InputState.withheldWeight_eq (s.holdKey_xi1Frozen event route)] at hkey
      exact Nat.lt_succ_of_le hkey
    | deliverActivating q g =>
      have hsame := InputState.withheldWeight_same (s.deliverActivating_same q g)
      exact Nat.lt_succ_of_le hsame.le
    | routeStored q => exact Nat.lt_succ_of_le (s.arriveDevice_weight q)
    | replayKey event =>
      show (s.replayFrozenKeyToFocus event).state.withheldWeight +
        pendingWeight (s.replayFrozenKeyToFocus event).rest < s.withheldWeight + 5
      unfold InputState.replayFrozenKeyToFocus
      split
      · exact Nat.lt_add_of_pos_right (by decide)
      · exact Nat.lt_succ_of_le (s.arriveDevice_weight (s.xi1FocusedKey event))
    | playPointer => exact Nat.lt_succ_self _
  show (s.resume p).state.withheldWeight + pendingWeight ((s.resume p).rest ++ rest) <
    s.withheldWeight + pendingWeight ([p] ++ rest)
  rw [pendingWeight_append, pendingWeight_append]
  show _ + (_ + pendingWeight rest) < _ + (p.weight + pendingWeight rest)
  omega

/-- Work that is resumed again and again comes to an end. -/
theorem resume_ends (c : InputConfig) (h : Orderly c.state c.pending) :
    ∃ n, (c.run (List.replicate n .resume)).1.pending = [] := by
  obtain ⟨s, pending⟩ := c
  induction hweight : weight ⟨s, pending⟩ using Nat.strong_induction_on generalizing s pending with
  | _ w ih =>
    cases pending with
    | nil => exact ⟨0, rfl⟩
    | cons p rest =>
      have hless := resume_weight h
      rw [hweight] at hless
      obtain ⟨n, hn⟩ := ih _ hless _ _ h.resume rfl
      exact ⟨n + 1, hn⟩

end InputConfig

/-! ## Runs -/

namespace InputConfig

variable {c : InputConfig} {events : List InputEvent} {m : InputMove}

theorem run_concat (c : InputConfig) (moves : List InputMove) (m : InputMove) :
    c.run (moves ++ [m]) = (((c.run moves).1.step m).1,
      (c.run moves).2 ++ ((c.run moves).1.step m).2) := by
  induction moves generalizing c with
  | nil => simp [run]
  | cons m' moves ih => simp [run, ih]

theorem step_accepted {action : InputAction} (h : c.accepts action = true) :
    c.step (.act action) =
      (⟨(c.state.perform action).state, (c.state.perform action).rest ++ c.pending⟩,
        (c.state.perform action).events) :=
  if_pos h

theorem step_refused {action : InputAction} (h : ¬ c.accepts action = true) :
    c.step (.act action) = (c, []) :=
  if_neg h

/-- The events of both kinds are delivered in the order of arrival, none is lost
or delivered twice, and none is left over on a device that is not frozen. -/
structure ReplayedInTurn (c : InputConfig) (events : List InputEvent) : Prop where
  keys : keyStream.InTurn c events
  devices : ∀ dev ∈ inputDevices, (deviceStream dev).InTurn c events
  keysDone : c.pending = [] → c.state.frozen DEVICEID_SLAVE_KEYBOARD = false →
    events.filterMap keyStream.delivered = events.filterMap keyStream.arrived
  devicesDone : ∀ dev ∈ inputDevices, c.pending = [] → c.state.frozen dev = false →
    events.filterMap (deviceStream dev).delivered = events.filterMap (deviceStream dev).arrived

/-- What a run keeps while no event is overtaken. -/
structure TurnsKept (c : InputConfig) (events : List InputEvent) : Prop where
  keys : keyStream.InTurn c events
  devices : ∀ dev, (deviceStream dev).InTurn c events

theorem Orderly.step (h : Orderly c.state c.pending) (m : InputMove) :
    Orderly (c.step m).1.state (c.step m).1.pending := by
  cases m with
  | act action =>
    by_cases haccepts : c.accepts action = true
    · rw [step_accepted haccepts]
      exact h.perform action
    · rwa [step_refused haccepts]
  | resume =>
    obtain ⟨s, pending⟩ := c
    cases pending with
    | nil => exact h
    | cons p rest => exact h.resume

theorem Orderly.start (server : ServerState) :
    Orderly (start server).state (start server).pending where
  keyboard := fun _ _ => rfl
  own := fun _ _ hq => absurd hq List.not_mem_nil
  drained := fun _ _ _ => .inr ⟨rfl, rfl⟩
  devices := fun _ hp => absurd hp List.not_mem_nil

theorem Orderly.run (server : ServerState) (moves : List InputMove) :
    Orderly ((InputConfig.start server).run moves).1.state
      ((InputConfig.start server).run moves).1.pending := by
  induction moves using List.reverseRecOn with
  | nil => exact Orderly.start server
  | append_singleton moves m ih =>
    rw [run_concat]
    exact Orderly.step ih m

/-- An action keeps the turns; a key comes only when nothing is left to do. -/
theorem TurnsKept.act {action : InputAction} (h : TurnsKept c events)
    (horderly : Orderly c.state c.pending) (hkeeps : c.keepsTurns (.act action) = true)
    (haccepts : c.accepts action = true) :
    TurnsKept ⟨(c.state.perform action).state, (c.state.perform action).rest ++ c.pending⟩
      (events ++ (c.state.perform action).events) := by
  rcases perform_syncs c.state action with ⟨event, rfl⟩ | ⟨q, rfl⟩ | hsyncs
  · obtain ⟨s, pending⟩ := c
    cases pending with
    | nil =>
      exact ⟨keyEvent_keys horderly h.keys event,
        fun dev => (keyEvent_device s event dev).inTurn (h.devices dev)⟩
    | cons p rest =>
      cases p with
      | playPointer => exact (nomatch haccepts)
      | _ => exact (nomatch haccepts)
  · have hroutes : c.state.routesInTurn q.deviceid c.pending = true := by
      have hor := (Bool.or_eq_true _ _).mp hkeeps
      rw [haccepts, Bool.not_true] at hor
      exact hor.resolve_left Bool.false_ne_true
    exact ⟨(arriveDevice_keys c.state q).inTurn h.keys,
      fun dev => arriveDevice_inTurn (h.devices dev) hroutes⟩
  · exact ⟨(Ignores.of_syncs keyStream_lawful hsyncs).inTurn h.keys,
      fun dev => (Ignores.of_syncs (deviceStream_lawful dev) hsyncs).inTurn (h.devices dev)⟩

theorem TurnsKept.step (h : TurnsKept c events) (horderly : Orderly c.state c.pending)
    (hkeeps : c.keepsTurns m = true) :
    TurnsKept (c.step m).1 (events ++ (c.step m).2) := by
  cases m with
  | act action =>
    by_cases haccepts : c.accepts action = true
    · rw [step_accepted haccepts]
      exact h.act horderly hkeeps haccepts
    · rwa [step_refused haccepts, List.append_nil]
  | resume =>
    obtain ⟨s, pending⟩ := c
    cases pending with
    | nil =>
      show TurnsKept ⟨s, []⟩ (events ++ [])
      rwa [List.append_nil]
    | cons p rest =>
      exact ⟨resume_keys horderly h.keys hkeeps,
        fun dev => resume_device dev horderly (h.devices dev) hkeeps⟩

theorem TurnsKept.run {server : ServerState} {moves : List InputMove}
    (hmoves : Runs.AtEach
      (fun before m => ((InputConfig.start server).run before).1.keepsTurns m = true) moves) :
    TurnsKept ((InputConfig.start server).run moves).1
      ((InputConfig.start server).run moves).2 := by
  refine Runs.run_induction (motive := fun moves =>
    TurnsKept ((InputConfig.start server).run moves).1 ((InputConfig.start server).run moves).2)
    ?_ (fun before m h hkeeps => ?_) hmoves
  · exact ⟨.nil, fun _ => .nil⟩
  · rw [run_concat]
    exact h.step (Orderly.run server before) hkeeps

/-- Once nothing is left to do, a device that is not frozen withholds nothing. -/
theorem TurnsKept.replayed (h : TurnsKept c events) (horderly : Orderly c.state c.pending) :
    ReplayedInTurn c events where
  keys := h.keys
  devices := fun dev _ => h.devices dev
  keysDone := by
    intro hpending hthawed
    have hkeys := h.keys
    have hnone := (horderly.drained _ (by decide) hthawed).resolve_left
      (hpending ▸ List.not_mem_nil)
    unfold InputStream.InTurn at hkeys
    rw [hpending, show keyStream.withheld c.state = [] from hnone.2] at hkeys
    exact hkeys.delivered_eq
  devicesDone := by
    intro dev hdev hpending hthawed
    have hdevice := h.devices dev
    have hnone := (horderly.drained dev hdev hthawed).resolve_left (hpending ▸ List.not_mem_nil)
    unfold InputStream.InTurn at hdevice
    rw [hpending, show (deviceStream dev).withheld c.state = [] from hnone.1] at hdevice
    exact hdevice.delivered_eq

/-- As long as no queue is drained past an event that is under way and no event
is routed past a queue, frozen input is replayed in order, exactly once. -/
theorem replayed_in_turn (server : ServerState) (moves : List InputMove)
    (hmoves : Runs.AtEach
      (fun before m => ((InputConfig.start server).run before).1.keepsTurns m = true) moves) :
    ReplayedInTurn ((InputConfig.start server).run moves).1
        ((InputConfig.start server).run moves).2 ∧
      ∃ n, (((InputConfig.start server).run moves).1.run
        (List.replicate n .resume)).1.pending = [] :=
  ⟨(TurnsKept.run hmoves).replayed (Orderly.run server moves),
    resume_ends _ (Orderly.run server moves)⟩

/-- A key without modifiers. -/
def plainKey (pressed : Bool) (keycode : UInt8) : HostKeyEvent where
  pressed := pressed
  keycode := keycode
  time := 0
  rootX := 0
  rootY := 0
  eventX := 0
  eventY := 0
  state := 0

/-- The focus is on the root window, whose keys one client has selected. -/
def rootFocusServer (keyGrabs : List KeyGrab) : ServerState :=
  { ServerState.new with
    keyGrabs := keyGrabs
    coreFocus := ⟨ROOT_WINDOW, 0, 0⟩
    clients := (∅ : Std.ExtTreeMap ClientId ClientState).insert 2
      { ClientState.connected 0x200000 PER_CLIENT_MASK with
        eventMasks := (∅ : ResourceMap UInt32).insert ROOT_WINDOW
          (KEY_PRESS_MASK ||| KEY_RELEASE_MASK) } }

/-- A client freezes the keyboard, two keys are pressed, and it thaws the keyboard. -/
def frozenTyping : List InputMove :=
  [.act (.grabKeyboard 1 ROOT_WINDOW false 1 0), .resume, .resume,
    .act (.keyEvent (plainKey true 38)), .act (.keyEvent (plainKey true 40)),
    .act (.allowEvents 1 3 false false)] ++ List.replicate 8 .resume

theorem replayed_in_turn_typing :
    ReplayedInTurn ((start (rootFocusServer [])).run frozenTyping).1
        ((start (rootFocusServer [])).run frozenTyping).2 ∧
      ∃ n, (((start (rootFocusServer [])).run frozenTyping).1.run
        (List.replicate n .resume)).1.pending = [] :=
  replayed_in_turn (rootFocusServer []) frozenTyping (by decide)

/-- A synchronous grab of one key. -/
def syncKeyGrab : KeyGrab where
  owner := 1
  grabWindow := ROOT_WINDOW
  keycode := 38
  modifiers := 0
  ownerEvents := false
  pointerMode := 1
  keyboardMode := 0
  viaXi2 := false

/-- The grabbed key is pressed and released and another one is pressed before the
owner of the grab thaws the keyboard. -/
def rolledKeys : List InputMove :=
  [.act (.keyEvent (plainKey true 38)), .resume, .resume, .resume,
    .act (.keyEvent (plainKey false 38)), .act (.keyEvent (plainKey true 40)),
    .act (.allowEvents 1 3 false false)] ++ List.replicate 12 .resume

/-- The release ends the grab, and the replay that this starts delivers the next
key before the release. -/
theorem key_overtaken :
    ((start (rootFocusServer [syncKeyGrab])).run rolledKeys).1.pending = [] ∧
      ((start (rootFocusServer [syncKeyGrab])).run rolledKeys).1.state.frozen
        DEVICEID_SLAVE_KEYBOARD = false ∧
      ((start (rootFocusServer [syncKeyGrab])).run rolledKeys).2.filterMap keyStream.arrived =
        [plainKey true 38, plainKey false 38, plainKey true 40] ∧
      ((start (rootFocusServer [syncKeyGrab])).run rolledKeys).2.filterMap keyStream.delivered =
        [plainKey true 38, plainKey true 40, plainKey false 38] ∧
      ¬ ReplayedInTurn ((start (rootFocusServer [syncKeyGrab])).run rolledKeys).1
        ((start (rootFocusServer [syncKeyGrab])).run rolledKeys).2 := by
  have hpending : ((start (rootFocusServer [syncKeyGrab])).run rolledKeys).1.pending = [] := by
    decide
  have hthawed : ((start (rootFocusServer [syncKeyGrab])).run rolledKeys).1.state.frozen
      DEVICEID_SLAVE_KEYBOARD = false := by decide
  refine ⟨hpending, hthawed, by decide, by decide, fun h => ?_⟩
  exact absurd (h.keysDone hpending hthawed) (by decide)

end InputConfig

end X12

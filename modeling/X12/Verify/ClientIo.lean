import X12.Core.ClientIo
import X12.Lib.Fifo

/-! # Writing to a client

However little the socket accepts at a time, it gets the bytes of all calls in
order: what it has not accepted yet is queued behind what it has. -/

namespace X12

open Fifo

inductive ClientCall where
  | writeOrBuffer (bytes : List UInt8)
  | drainOutbound
  deriving DecidableEq, Repr

namespace ClientCall

def result (socket : Nat → SocketTurn) (client : ClientOutbound) :
    ClientCall → EStateM.Result ErrorKind ClientOutbound WriteOutcome
  | .writeOrBuffer bytes => client.writeOrBuffer socket bytes
  | .drainOutbound => client.drainOutbound socket

/-- The buffer that is passed to a call. -/
def buffer : ClientCall → List UInt8
  | .writeOrBuffer bytes => bytes
  | .drainOutbound => []

end ClientCall

namespace ClientOutbound

/-- The state after calls none of which reports Disconnect or an error. -/
inductive Served (socket : Nat → SocketTurn) : List ClientCall → ClientOutbound → Prop
  | new : Served socket [] new
  | call {calls : List ClientCall} {client client' : ClientOutbound} {call : ClientCall}
    {outcome : WriteOutcome} : Served socket calls client →
    call.result socket client = .ok outcome client' → outcome ≠ .Disconnect →
    Served socket (calls ++ [call]) client'

/-- The socket has accepted the first bytes and the rest of them is queued. -/
def Streams (entered : List UInt8) (client : ClientOutbound) : Prop :=
  Conserves entered client.accepted client.outbound

/-- A call that reports no Disconnect keeps the stream together, and is done only
with an empty queue. -/
def Delivers (entered : List UInt8) :
    EStateM.Result ErrorKind ClientOutbound WriteOutcome → Prop
  | .ok outcome client => outcome ≠ .Disconnect →
    client.Streams entered ∧ (outcome = .Done → client.outbound = [])
  | .error _ _ => True

variable {socket : Nat → SocketTurn} {client client' : ClientOutbound} {call : ClientCall}
  {calls : List ClientCall} {outcome : WriteOutcome} {entered bytes : List UInt8} {n : Nat}

theorem Streams.wrote_nil (h : client.Streams entered) : (client.wrote []).Streams entered := by
  rw [Streams, wrote, List.append_nil]
  exact h

theorem write_le {turn : SocketTurn} (h : turn.write bytes = .ok n) : n ≤ bytes.length := by
  unfold SocketTurn.write at h
  cases hanswer : turn.answer with
  | error kind =>
    rw [hanswer] at h
    cases h
  | ok accepted =>
    rw [hanswer] at h
    cases h
    exact Nat.min_le_right ..

/-! ## Draining -/

/-- The accepted part of a chunk is the front of the queue. -/
theorem Streams.drained (h : client.Streams entered) {k : Nat}
    (hn : n ≤ (client.outbound.take k).length) :
    Streams entered { client.wrote ((client.outbound.take k).take n) with
      outbound := client.outbound.drop n } := by
  rw [List.length_take] at hn
  refine Conserves.leave ?_
  rw [List.take_take, Nat.min_eq_left (by omega), List.take_append_drop]
  exact h

theorem Streams.drainOutbound (h : client.Streams entered) :
    Delivers entered (client.drainOutbound socket) := by
  fun_induction ClientOutbound.drainOutbound socket client with
  | case1 client hempty => exact fun _ => ⟨h, fun _ => hempty⟩
  | case2 client hne turn chunk hwrite => exact fun hne => absurd rfl hne
  | case3 client hne turn chunk n hwrite ih =>
    have hn : n + 1 ≤ ((client.outbound.take turn.front).take (8 * 1024)).length :=
      write_le hwrite
    rw [List.take_take] at hn
    refine ih ?_
    have := h.drained hn
    rwa [← List.take_take] at this
  | case4 client hne turn chunk hwrite => exact fun _ => ⟨h.wrote_nil, nofun⟩
  | case5 client hne turn chunk kind hwrite => exact fun hne => absurd rfl hne
  | case6 client hne turn chunk kind hwrite => trivial

/-! ## Writing -/

theorem Streams.bufferOrDisconnect (h : client.Streams entered) (bytes : List UInt8) :
    let (outcome, client') := client.bufferOrDisconnect bytes
    Delivers (entered ++ bytes) (.ok outcome client') := by
  unfold ClientOutbound.bufferOrDisconnect
  by_cases hfull : client.outbound ≠ [] ∧ client.outbound.length + bytes.length > OUTBOUND_CAP
  · rw [if_pos hfull]
    exact fun hne => absurd rfl hne
  · rw [if_neg hfull]
    exact fun _ => ⟨h.enter bytes, nofun⟩

/-- The accepted part of new bytes goes out at once. -/
theorem Streams.passed (h : client.Streams entered) (hempty : client.outbound = []) :
    (client.wrote bytes).Streams (entered ++ bytes) := by
  unfold Streams at h ⊢
  rw [hempty] at h
  rw [wrote, hempty]
  exact h.pass bytes

theorem Streams.writeDirect (h : client.Streams entered) (hempty : client.outbound = []) :
    Delivers (entered ++ bytes) (client.writeDirect socket bytes) := by
  unfold ClientOutbound.writeDirect
  split
  next n hwrite =>
    split
    next => exact fun _ => ⟨h.passed hempty, fun _ => hempty⟩
    next =>
      split
      next => exact fun hne => absurd rfl hne
      next =>
        have hpassed : (client.wrote (bytes.take n)).Streams (entered ++ bytes.take n) :=
          h.passed hempty
        have hbuffered := hpassed.bufferOrDisconnect (bytes.drop n)
        rw [List.append_assoc, List.take_append_drop] at hbuffered
        exact hbuffered
  next kind hwrite =>
    split
    next => exact h.wrote_nil.bufferOrDisconnect bytes
    next =>
      split
      next => exact fun hne => absurd rfl hne
      next => trivial

theorem Streams.writeOrBuffer (h : client.Streams entered) :
    Delivers (entered ++ bytes) (client.writeOrBuffer socket bytes) := by
  have hdrained : Delivers entered (client.drainOutbound socket) := h.drainOutbound
  unfold ClientOutbound.writeOrBuffer
  split
  next =>
    cases hresult : client.drainOutbound socket with
    | error kind client' => trivial
    | ok outcome client' =>
      rw [hresult] at hdrained
      cases outcome with
      | Done =>
        obtain ⟨hstreams, hempty⟩ := hdrained (by decide)
        exact hstreams.writeDirect (hempty rfl)
      | WouldBlock => exact (hdrained (by decide)).1.bufferOrDisconnect bytes
      | Disconnect => exact fun hne => absurd rfl hne
  next hempty => exact h.writeDirect (not_not.mp hempty)

theorem Streams.result (h : client.Streams entered) (socket : Nat → SocketTurn)
    (call : ClientCall) :
    Delivers (entered ++ call.buffer) (call.result socket client) := by
  cases call with
  | writeOrBuffer bytes => exact h.writeOrBuffer
  | drainOutbound =>
    rw [ClientCall.buffer, List.append_nil]
    exact h.drainOutbound

/-! ## Runs -/

theorem Served.streams (h : Served socket calls client) :
    client.Streams (calls.flatMap ClientCall.buffer) := by
  induction h with
  | new => exact Conserves.nil
  | @call calls client client' call outcome _ hresult hne ih =>
    have hdelivers := ih.result socket call
    rw [hresult] at hdelivers
    rw [List.flatMap_append, List.flatMap_singleton]
    exact (hdelivers hne).1

/-- What the socket has accepted and the queue after it are the buffers of all calls in
order, and a call is done only with an empty queue. -/
theorem served_streams (h : Served socket calls client) :
    client.accepted ++ client.outbound = calls.flatMap ClientCall.buffer ∧
      ∀ (call : ClientCall) (client' : ClientOutbound),
        call.result socket client = .ok .Done client' → client'.outbound = [] := by
  refine ⟨h.streams.split, fun call client' hresult => ?_⟩
  have hdelivers := h.streams.result socket call
  rw [hresult] at hdelivers
  exact (hdelivers (by decide)).2 rfl

/-- The socket takes two bytes and is full, and then takes what is offered. -/
def fullAfterTwo (writes : Nat) : SocketTurn :=
  ⟨3, match writes with
    | 0 => .ok 2
    | 1 => .error .WouldBlock
    | _ => .ok 4096⟩

theorem served_fullAfterTwo : Served fullAfterTwo
    [.writeOrBuffer [1, 2, 3], .writeOrBuffer [4, 5]] ⟨[3, 4, 5], 2, [1, 2]⟩ := by
  have hfirst : (ClientCall.writeOrBuffer [1, 2, 3]).result fullAfterTwo new =
      .ok .WouldBlock ⟨[3], 1, [1, 2]⟩ := rfl
  have hsecond : (ClientCall.writeOrBuffer [4, 5]).result fullAfterTwo ⟨[3], 1, [1, 2]⟩ =
      .ok .WouldBlock ⟨[3, 4, 5], 2, [1, 2]⟩ := by
    rw [ClientCall.result, writeOrBuffer, if_pos (by decide), drainOutbound,
      if_neg (by decide)]
    rfl
  exact .call (.call .new hfirst (by decide)) hsecond (by decide)

/-- The rest of the first buffer waits, and the second one behind it. -/
theorem served_streams_fullAfterTwo :
    [1, 2] ++ [3, 4, 5] = [ClientCall.writeOrBuffer [1, 2, 3], .writeOrBuffer [4, 5]].flatMap
        ClientCall.buffer ∧
      ∀ (call : ClientCall) (client' : ClientOutbound),
        call.result fullAfterTwo ⟨[3, 4, 5], 2, [1, 2]⟩ = .ok .Done client' →
        client'.outbound = [] :=
  served_streams served_fullAfterTwo

end ClientOutbound

end X12

import Mathlib.Data.List.Basic

/-! # The seat

The seat takes the devices from the server and gives them back, when another terminal is
shown and when the server's own is. To follow takes the server time, and the seat may have
changed its mind before that is over. -/

namespace X12

inductive SeatState where
  | Active
  | Suspending
  | Suspended
  | Resuming
  deriving DecidableEq, Repr

/-- The events that have arrived while the server was following another. -/
structure SeatPending where
  pendingEnable : Bool
  pendingDisable : Bool
  deriving DecidableEq, Repr

inductive SeatEventKind where
  | Enable
  | Disable
  deriving DecidableEq, Repr

inductive SeatAction where
  | BeginSuspend
  | BeginResume
  | Nothing
  deriving DecidableEq, Repr

namespace SeatState

def allowsScanout (s : SeatState) : Bool :=
  s = .Active

def onEvent (s : SeatState) (pending : SeatPending) (ev : SeatEventKind) :
    SeatState × SeatPending × SeatAction :=
  match s, ev with
  | .Active, .Disable => (.Suspending, pending, .BeginSuspend)
  | .Suspended, .Enable => (.Resuming, pending, .BeginResume)
  | .Suspending, .Enable | .Resuming, .Enable =>
    (s, { pending with pendingEnable := true }, .Nothing)
  | .Resuming, .Disable => (s, { pending with pendingDisable := true }, .Nothing)
  | _, _ => (s, pending, .Nothing)

/-- Asserts that the state is `Suspending`. -/
def suspendComplete (_ : SeatState) (_ : SeatPending) : SeatState :=
  .Suspended

/-- Asserts that the state is `Resuming`. -/
def resumeComplete (_ : SeatState) (pending : SeatPending) :
    SeatState × SeatPending × SeatAction :=
  if pending.pendingDisable then
    (.Suspending, { pending with pendingDisable := false }, .BeginSuspend)
  else (.Active, pending, .Nothing)

end SeatState

/-! ## The driver -/

/-- The server's seat. -/
structure Seat where
  seatState : SeatState
  seatPending : SeatPending
  deriving DecidableEq, Repr

/-- What the server does to follow the seat. -/
inductive SeatCall where
  | runSuspend
  | runResume
  | wakeForDamage
  deriving DecidableEq, Repr

def SeatPending.count (pending : SeatPending) : Nat :=
  pending.pendingEnable.toNat + pending.pendingDisable.toNat

namespace Seat

/-- From an action on, until no event is left that can be followed. -/
def drive (seat : Seat) (action : SeatAction) : Seat × List SeatCall :=
  match action with
  | .BeginSuspend =>
    let s := seat.seatState.suspendComplete seat.seatPending
    if seat.seatPending.pendingEnable then
      match _ : s.onEvent { seat.seatPending with pendingEnable := false } .Enable with
      | (s, pending, action) =>
        let (seat, calls) := drive ⟨s, pending⟩ action
        (seat, .runSuspend :: calls)
    else (⟨s, seat.seatPending⟩, [.runSuspend])
  | .BeginResume =>
    match _ : seat.seatState.resumeComplete seat.seatPending with
    | (s, pending, action) =>
      if action = .BeginSuspend then
        let (seat, calls) := drive ⟨s, pending⟩ action
        (seat, .runResume :: calls)
      else (⟨s, pending⟩, [.runResume, .wakeForDamage])
  | .Nothing => (seat, [])
termination_by seat.seatPending.count
decreasing_by
  · next henable hnext =>
    cases hnext
    rw [SeatPending.count, SeatPending.count, henable]
    exact Nat.add_lt_add_right Nat.one_pos _
  · next hnext hsuspend =>
    rw [SeatState.resumeComplete] at hnext
    split at hnext
    · next hdisable =>
      cases hnext
      rw [SeatPending.count, SeatPending.count, hdisable]
      exact Nat.add_lt_add_left Nat.one_pos _
    · cases hnext
      cases hsuspend

def driveSeatEvent (seat : Seat) (ev : SeatEventKind) : Seat × List SeatCall :=
  let (s, pending, action) := seat.seatState.onEvent seat.seatPending ev
  drive ⟨s, pending⟩ action

end Seat

end X12

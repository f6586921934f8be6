import X12.Core.Seat
import Mathlib.Data.List.Chain

/-! # The server follows the seat

The last event says where the server has to end up, once the work that it has begun is
complete. An event to enable that arrives too early for that is left to the driver. -/

namespace X12

inductive SeatWork where
  | suspend
  | resume
  deriving DecidableEq, Repr

/-- The work that an action begins. -/
def SeatAction.work : SeatAction → Option SeatWork
  | .BeginSuspend => some .suspend
  | .BeginResume => some .resume
  | .Nothing => none

namespace SeatState

/-- The work that is not complete. -/
def outstanding : SeatState → List SeatWork
  | .Suspending => [.suspend]
  | .Resuming => [.resume]
  | .Active | .Suspended => []

/-- The work that was begun last. The server starts as after a resume. -/
def newest : SeatState → SeatWork
  | .Active | .Resuming => .resume
  | .Suspending | .Suspended => .suspend

end SeatState

/-- When the work is complete the server is suspended. -/
def Seat.away (seat : Seat) : Bool :=
  match seat.seatState with
  | .Active => false
  | .Suspending | .Suspended => true
  | .Resuming => seat.seatPending.pendingDisable

/-! ## What the calls do -/

namespace SeatState

variable {s : SeatState} {pending : SeatPending} {ev : SeatEventKind} {w : SeatWork}

theorem onEvent_outstanding : (s.onEvent pending ev).1.outstanding =
    (s.onEvent pending ev).2.2.work.toList ++ s.outstanding := by
  cases s <;> cases ev <;> rfl

theorem onEvent_newest :
    (s.onEvent pending ev).1.newest = (s.onEvent pending ev).2.2.work.getD s.newest := by
  cases s <;> cases ev <;> rfl

/-- What is begun is not what was begun last. -/
theorem onEvent_work (hw : w ∈ (s.onEvent pending ev).2.2.work) : w ≠ s.newest := by
  cases s <;> cases ev <;> cases hw <;> exact SeatWork.noConfusion

theorem onEvent_pendingDisable : (s.onEvent pending ev).2.1.pendingDisable = true ↔
    pending.pendingDisable = true ∨ ev = .Disable ∧ .resume ∈ s.outstanding := by
  cases s <;> cases ev <;> simp [onEvent, outstanding]

/-- A resume goes on, whatever happens. -/
theorem onEvent_resuming (hs : s = .Resuming) : (s.onEvent pending ev).1 = .Resuming := by
  subst hs
  cases ev <;> rfl

theorem onEvent_away (hresuming : pending.pendingDisable = true → s = .Resuming) :
    Seat.away ⟨(s.onEvent pending ev).1, (s.onEvent pending ev).2.1⟩ = true ↔
      ev = .Disable ∨ .suspend ∈ s.outstanding ∨
        .resume ∈ s.outstanding ∧ pending.pendingDisable = true := by
  cases s <;> cases ev <;> simp_all [onEvent, outstanding, Seat.away]

theorem onEvent_pendingEnable (hs : .suspend ∈ s.outstanding ∨ .resume ∈ s.outstanding) :
    (s.onEvent pending .Enable).2.1.pendingEnable = true := by
  cases s <;> simp_all [onEvent, outstanding]

theorem resumeComplete_outstanding : (s.resumeComplete pending).1.outstanding =
    (s.resumeComplete pending).2.2.work.toList := by
  rw [resumeComplete]
  split <;> rfl

theorem resumeComplete_newest :
    (s.resumeComplete pending).1.newest = (s.resumeComplete pending).2.2.work.getD .resume := by
  rw [resumeComplete]
  split <;> rfl

theorem resumeComplete_work (hw : w ∈ (s.resumeComplete pending).2.2.work) : w ≠ .resume := by
  rw [resumeComplete] at hw
  split at hw <;> cases hw
  exact SeatWork.noConfusion

theorem resumeComplete_pendingDisable :
    (s.resumeComplete pending).2.1.pendingDisable = false := by
  rw [resumeComplete]
  split
  · rfl
  · next hdisable => exact Bool.eq_false_iff.mpr hdisable

theorem resumeComplete_pendingEnable :
    (s.resumeComplete pending).2.1.pendingEnable = pending.pendingEnable := by
  rw [resumeComplete]
  split <;> rfl

theorem resumeComplete_away :
    Seat.away ⟨(s.resumeComplete pending).1, (s.resumeComplete pending).2.1⟩ =
      pending.pendingDisable := by
  rw [resumeComplete]
  split
  · next hdisable => exact hdisable.symm
  · next hdisable => exact (Bool.eq_false_iff.mpr hdisable).symm

theorem eq_of_suspend (hs : .suspend ∈ s.outstanding) : s = .Suspending := by
  cases s <;> simp_all [outstanding]

theorem eq_of_resume (hs : .resume ∈ s.outstanding) : s = .Resuming := by
  cases s <;> simp_all [outstanding]

end SeatState

/-! ## When the work is complete -/

namespace Seat

variable {seat : Seat}

theorem eq_of_done (hdone : seat.seatState.outstanding = []) :
    seat.seatState = if seat.away then .Suspended else .Active := by
  rw [away]
  cases hstate : seat.seatState with
  | Active | Suspended => rfl
  | Suspending | Resuming =>
    rw [hstate] at hdone
    cases hdone

theorem active_iff (hdone : seat.seatState.outstanding = []) :
    seat.seatState = .Active ↔ seat.away = false := by
  rw [eq_of_done hdone]
  cases seat.away <;> decide

theorem suspended_iff (hdone : seat.seatState.outstanding = []) :
    seat.seatState = .Suspended ↔ seat.away = true := by
  rw [eq_of_done hdone]
  cases seat.away <;> decide

end Seat

/-! ## Runs -/

inductive SeatStep where
  | event (ev : SeatEventKind)
  | suspendComplete
  | resumeComplete
  deriving DecidableEq, Repr

/-- The seat, with the work that is not complete, all the work that has been begun, the newest
first, and the last event. -/
structure SeatHistory where
  seat : Seat
  outstanding : List SeatWork
  begun : List SeatWork
  last : Option SeatEventKind
  /-- The server has been told to suspend since it began the resume that is not complete. -/
  disabled : Bool
  /-- The last event is to enable, and came during a suspend, or during a resume after the
  server had been told to suspend. -/
  deferred : Bool
  deriving DecidableEq, Repr

namespace SeatHistory

def start : SeatHistory where
  seat := ⟨.Active, ⟨false, false⟩⟩
  outstanding := []
  begun := []
  last := none
  disabled := false
  deferred := false

/-- The seat is as it was left, and the action is followed. -/
def follow (h : SeatHistory) (left : SeatState × SeatPending × SeatAction) : SeatHistory :=
  { h with
    seat := ⟨left.1, left.2.1⟩
    outstanding := left.2.2.work.toList ++ h.outstanding
    begun := left.2.2.work.toList ++ h.begun }

/-- Only work that has been begun is completed. -/
def next (h : SeatHistory) : SeatStep → Option SeatHistory
  | .event ev => some
    { h.follow (h.seat.seatState.onEvent h.seat.seatPending ev) with
      last := some ev
      disabled := h.disabled ∨ ev = .Disable ∧ .resume ∈ h.outstanding
      deferred := ev = .Enable ∧
        (.suspend ∈ h.outstanding ∨ .resume ∈ h.outstanding ∧ h.disabled) }
  | .suspendComplete =>
    if .suspend ∈ h.outstanding then some
      { h with
        seat := ⟨h.seat.seatState.suspendComplete h.seat.seatPending, h.seat.seatPending⟩
        outstanding := h.outstanding.erase .suspend }
    else none
  | .resumeComplete =>
    if .resume ∈ h.outstanding then
      let completed := { h with outstanding := h.outstanding.erase .resume, disabled := false }
      some (completed.follow (h.seat.seatState.resumeComplete h.seat.seatPending))
    else none

def run (steps : List SeatStep) : Option SeatHistory :=
  steps.foldlM next start

/-- What every step finds and leaves. -/
structure Sound (h : SeatHistory) : Prop where
  outstanding : h.outstanding = h.seat.seatState.outstanding
  disabled : h.disabled = h.seat.seatPending.pendingDisable
  resuming : h.disabled = true → h.seat.seatState = .Resuming
  away : h.last = some .Disable ∨ h.deferred = true ↔ h.seat.away = true
  deferred : h.deferred = true → h.last = some .Enable ∧ h.seat.seatPending.pendingEnable = true
  chain : (h.begun ++ [SeatWork.resume]).IsChain (· ≠ ·)
  newest : (h.begun ++ [SeatWork.resume]).head? = some h.seat.seatState.newest

variable {h : SeatHistory}

theorem Sound.start : start.Sound where
  outstanding := rfl
  disabled := rfl
  resuming hd := by cases hd
  away := by decide
  deferred hd := by cases hd
  chain := .singleton _
  newest := rfl

/-- What is begun is begun in turn. -/
theorem Sound.follow_turns (hs : h.Sound) (left : SeatState × SeatPending × SeatAction)
    (hwork : ∀ w ∈ left.2.2.work, w ≠ h.seat.seatState.newest)
    (hnewest : left.1.newest = left.2.2.work.getD h.seat.seatState.newest) :
    ((h.follow left).begun ++ [SeatWork.resume]).IsChain (· ≠ ·) ∧
      ((h.follow left).begun ++ [SeatWork.resume]).head? = some left.1.newest := by
  rw [hnewest, follow]
  cases hbegun : left.2.2.work with
  | none => exact ⟨hs.chain, hs.newest⟩
  | some w =>
    refine ⟨List.isChain_cons.mpr ⟨fun newest hmem => ?_, hs.chain⟩, rfl⟩
    obtain rfl := Option.some.inj (hs.newest.symm.trans hmem)
    exact hwork w hbegun

variable {h' : SeatHistory}

theorem Sound.event (hs : h.Sound) {ev : SeatEventKind} (hnext : h.next (.event ev) = some h') :
    h'.Sound := by
  cases hnext
  obtain ⟨hchain, hnewest⟩ := hs.follow_turns (h.seat.seatState.onEvent h.seat.seatPending ev)
    (fun w => SeatState.onEvent_work) SeatState.onEvent_newest
  refine ⟨?_, ?_, fun hd => ?_, ?_, fun hd => ?_, hchain, hnewest⟩
  · exact (congrArg _ hs.outstanding).trans SeatState.onEvent_outstanding.symm
  · rw [Bool.eq_iff_iff, decide_eq_true_iff, hs.outstanding, hs.disabled]
    exact SeatState.onEvent_pendingDisable.symm
  · refine SeatState.onEvent_resuming ?_
    rcases of_decide_eq_true hd with hd | ⟨-, hd⟩
    · exact hs.resuming hd
    · exact SeatState.eq_of_resume (hs.outstanding ▸ hd)
  · rw [decide_eq_true_iff, hs.outstanding, hs.disabled]
    refine Iff.trans ?_ (SeatState.onEvent_away (hs.disabled ▸ hs.resuming)).symm
    cases ev <;> simp
  · obtain ⟨rfl, hbusy⟩ := of_decide_eq_true hd
    refine ⟨rfl, SeatState.onEvent_pendingEnable ?_⟩
    rw [← hs.outstanding]
    exact hbusy.imp_right And.left

theorem Sound.suspendComplete (hs : h.Sound) (hnext : h.next .suspendComplete = some h') :
    h'.Sound := by
  rw [SeatHistory.next] at hnext
  split at hnext
  · next hwork =>
    cases hnext
    have hstate := SeatState.eq_of_suspend (hs.outstanding ▸ hwork)
    refine ⟨?_, hs.disabled, fun hd => ?_, ?_, hs.deferred, hs.chain, ?_⟩
    · rw [hs.outstanding, hstate]
      rfl
    · cases hstate.symm.trans (hs.resuming hd)
    · rw [hs.away, Seat.away, hstate]
      rfl
    · rw [hs.newest, hstate]
      rfl
  · cases hnext

theorem Sound.resumeComplete (hs : h.Sound) (hnext : h.next .resumeComplete = some h') :
    h'.Sound := by
  rw [SeatHistory.next] at hnext
  split at hnext
  · next hwork =>
    cases hnext
    have hstate := SeatState.eq_of_resume (hs.outstanding ▸ hwork)
    obtain ⟨hchain, hnewest⟩ :=
      hs.follow_turns (h.seat.seatState.resumeComplete h.seat.seatPending)
        (fun w hw => hstate ▸ SeatState.resumeComplete_work hw)
        (hstate ▸ SeatState.resumeComplete_newest)
    refine ⟨?_, ?_, fun hd => ?_, ?_, fun hd => ⟨(hs.deferred hd).1, ?_⟩, hchain, hnewest⟩
    · refine Eq.trans ?_ SeatState.resumeComplete_outstanding.symm
      change _ ++ h.outstanding.erase .resume = _
      rw [hs.outstanding, hstate]
      exact List.append_nil _
    · exact SeatState.resumeComplete_pendingDisable.symm
    · cases hd
    · refine Iff.trans hs.away ?_
      change _ ↔ Seat.away ⟨_, _⟩ = true
      rw [SeatState.resumeComplete_away, Seat.away, hstate]
    · exact SeatState.resumeComplete_pendingEnable.trans (hs.deferred hd).2
  · cases hnext

theorem Sound.next (hs : h.Sound) {step : SeatStep} (hnext : h.next step = some h') :
    h'.Sound := by
  cases step with
  | event ev => exact hs.event hnext
  | suspendComplete => exact hs.suspendComplete hnext
  | resumeComplete => exact hs.resumeComplete hnext

theorem run_sound {steps : List SeatStep} (hrun : run steps = some h) : h.Sound := by
  suffices hall : ∀ h₀ : SeatHistory, h₀.Sound →
      steps.foldlM SeatHistory.next h₀ = some h → h.Sound from
    hall start .start hrun
  clear hrun
  induction steps with
  | nil =>
    intro h₀ hs hrun
    cases hrun
    exact hs
  | cons step steps ih =>
    intro h₀ hs hrun
    obtain ⟨mid, hmid, hrest⟩ := Option.bind_eq_some_iff.mp (List.foldlM_cons.symm.trans hrun)
    exact ih mid (hs.next hmid) hrest

/-- Output is allowed only to a server that follows nothing and has not been told to suspend. -/
theorem run_scanout {steps : List SeatStep} (hrun : run steps = some h)
    (hscanout : h.seat.seatState.allowsScanout = true) :
    h.outstanding = [] ∧ h.last ≠ some .Disable := by
  have hs := run_sound hrun
  have hstate : h.seat.seatState = .Active := of_decide_eq_true hscanout
  refine ⟨?_, fun hlast => ?_⟩
  · rw [hs.outstanding, hstate]
    rfl
  · have haway := hs.away.mp (.inl hlast)
    rw [Seat.away, hstate] at haway
    cases haway

/-- What a server keeps that follows the seat. -/
structure Safe (h : SeatHistory) : Prop where
  active : h.outstanding = [] →
    (h.seat.seatState = .Active ↔ h.last ≠ some .Disable ∧ h.deferred = false)
  suspended : h.outstanding = [] →
    (h.seat.seatState = .Suspended ↔ h.last = some .Disable ∨ h.deferred = true)
  /-- An event that has been put off is not forgotten. -/
  deferred : h.deferred = true → h.last = some .Enable ∧ h.seat.seatPending.pendingEnable = true
  /-- What the calls assert. -/
  suspending : .suspend ∈ h.outstanding → h.seat.seatState = .Suspending
  resuming : .resume ∈ h.outstanding → h.seat.seatState = .Resuming
  /-- Suspends and resumes are begun in turn, the first a suspend. -/
  turns : h.begun.IsChain (· ≠ ·)
  first : h.begun.getLast? ≠ some .resume

/-- In every run of events, where only work that has begun is completed. -/
theorem run_agrees {steps : List SeatStep} (hrun : run steps = some h) : h.Safe := by
  have hs := run_sound hrun
  obtain ⟨hturns, -, hfirst⟩ := List.isChain_append.mp hs.chain
  refine ⟨fun hdone => ?_, fun hdone => ?_, hs.deferred,
    fun hwork => SeatState.eq_of_suspend (hs.outstanding ▸ hwork),
    fun hwork => SeatState.eq_of_resume (hs.outstanding ▸ hwork), hturns,
    fun hresume => hfirst _ hresume _ rfl rfl⟩
  · rw [Seat.active_iff (hs.outstanding.symm.trans hdone), ← Bool.not_eq_true, ← hs.away, not_or,
      Bool.not_eq_true]
  · rw [Seat.suspended_iff (hs.outstanding.symm.trans hdone), hs.away]

/-- The server is told to resume, and to suspend before it has. -/
theorem run_agrees_turnedBack :
    ((run [.event .Disable, .suspendComplete, .event .Enable, .event .Disable, .resumeComplete,
      .suspendComplete]).get rfl).Safe :=
  run_agrees (Option.some_get _).symm

/-- An event to enable that comes during a suspend is the last, and is not followed. -/
theorem enabledWhileSuspending_suspended :
    ∃ h, run [.event .Disable, .event .Enable, .suspendComplete] = some h ∧
      h.outstanding = [] ∧ h.last = some .Enable ∧ h.seat.seatState = .Suspended :=
  ⟨_, rfl, rfl, rfl, rfl⟩

end SeatHistory

/-! ## The driver -/

namespace Seat

/-- Nothing is left to follow, and where the server is active it has been told to repaint. -/
def Settled (result : Seat × List SeatCall) : Prop :=
  result.1.seatState = .Suspended ∧ result.1.seatPending.pendingEnable = false ∨
    result.1.seatState = .Active ∧ result.1.seatPending.pendingDisable = false ∧
      result.2.getLast? = some .wakeForDamage

theorem Settled.cons {seat : Seat} {calls : List SeatCall} (h : Settled (seat, calls))
    (call : SeatCall) : Settled (seat, call :: calls) :=
  h.imp_right fun ⟨hstate, hpending, hlast⟩ =>
    ⟨hstate, hpending, by rw [List.getLast?_cons, hlast]; rfl⟩

/-- Work that is begun ends, with what came during it followed. -/
theorem drive_settled {seat : Seat} {action : SeatAction} (haction : action ≠ .Nothing) :
    Settled (drive seat action) := by
  fun_induction drive seat action with
  | case1 _ _ _ _ _ _ hnext _ _ hcalls ih =>
    cases hnext
    rw [hcalls] at ih
    exact (ih SeatAction.noConfusion).cons _
  | case2 _ _ henable => exact .inl ⟨rfl, Bool.eq_false_iff.mpr henable⟩
  | case3 _ _ _ _ _ _ hcalls ih =>
    rw [hcalls] at ih
    exact (ih SeatAction.noConfusion).cons _
  | case4 _ _ _ _ hnext hsuspend =>
    rw [SeatState.resumeComplete] at hnext
    split at hnext
    · cases hnext
      exact absurd rfl hsuspend
    · next hdisable =>
      cases hnext
      exact .inr ⟨rfl, Bool.eq_false_iff.mpr hdisable, rfl⟩
  | case5 => exact absurd rfl haction

/-- Where the server is after an event during which no other came. -/
def after : SeatEventKind → Seat
  | .Enable => ⟨.Active, ⟨false, false⟩⟩
  | .Disable => ⟨.Suspended, ⟨false, false⟩⟩

theorem driveSeatEvent_after (ev next : SeatEventKind) :
    ((after ev).driveSeatEvent next).1 = after next := by
  cases ev <;> cases next <;>
    simp [after, driveSeatEvent, SeatState.onEvent, drive, SeatState.suspendComplete,
      SeatState.resumeComplete]

/-- Of events that are followed one after the other the last one counts. -/
theorem foldl_driveSeatEvent (events : List SeatEventKind) (ev : SeatEventKind) :
    events.foldl (fun seat ev => (seat.driveSeatEvent ev).1) (after ev) =
      after (events.getLast?.getD ev) := by
  induction events generalizing ev with
  | nil => rfl
  | cons next events ih =>
    rw [List.foldl_cons, driveSeatEvent_after, ih, List.getLast?_cons, Option.getD_some]

end Seat

end X12

import X12.Core.Resources

/-! # DPMS

The panel goes through its power levels as the idle time passes their timeouts.
The core loop sleeps until the next of them and then sets the level. -/

namespace X12

/-- A monotonic clock, in nanoseconds. -/
abbrev Instant := Nat

abbrev Duration := Nat

def Duration.fromMillis (ms : UInt32) : Duration :=
  ms.toNat * 1000000

def Duration.asMillis (d : Duration) : Nat :=
  d / 1000000

structure DpmsState where
  kmsCapable : Bool
  enabled : Bool
  /-- 0 is on, 1 standby, 2 suspend and 3 off. -/
  powerLevel : UInt8
  /-- A timeout of 0 disables its level. -/
  standbyMs : UInt32
  suspendMs : UInt32
  offMs : UInt32
  lastActivity : Instant
  deriving DecidableEq, Repr

def DpmsState.new (kmsCapable : Bool) (now : Instant) : DpmsState where
  kmsCapable := kmsCapable
  enabled := kmsCapable
  powerLevel := 0
  standbyMs := 600000
  suspendMs := 600000
  offMs := 600000
  lastActivity := now

/-- The part of the server state that the DPMS timer reads. -/
structure DpmsTimer where
  dpms : DpmsState
  /-- The `suspend_counts` of the screen saver. -/
  suspendCounts : List (ClientId × UInt32)
  deriving DecidableEq, Repr

/-- `push` of `dpms_transition_deadline` -/
def pushTimeout (next : Option UInt32) (ms : UInt32) : Option UInt32 :=
  if ms > 0 then some (next.elim ms fun n => min n ms) else next

/-- The smallest timeout of a level above the current one. -/
def DpmsState.nextTimeout (dpms : DpmsState) : Option UInt32 :=
  let next := none
  let next := if dpms.powerLevel < 1 then pushTimeout next dpms.standbyMs else next
  let next := if dpms.powerLevel < 2 then pushTimeout next dpms.suspendMs else next
  if dpms.powerLevel < 3 then pushTimeout next dpms.offMs else next

def DpmsTimer.dpmsTransitionDeadline (s : DpmsTimer) : Option Instant :=
  if !s.dpms.enabled || !s.dpms.kmsCapable then none
  else if !s.suspendCounts.isEmpty then none
  else s.dpms.nextTimeout.map fun next => s.dpms.lastActivity + Duration.fromMillis next

def nextDpmsLevel (current : UInt8) (idleMs : UInt32) (dpms : DpmsState) : UInt8 :=
  if current < 3 ∧ dpms.offMs > 0 ∧ idleMs ≥ dpms.offMs then 3
  else if current < 2 ∧ dpms.suspendMs > 0 ∧ idleMs ≥ dpms.suspendMs then 2
  else if current < 1 ∧ dpms.standbyMs > 0 ∧ idleMs ≥ dpms.standbyMs then 1
  else current

/-! ## The core loop -/

/-- The idle time in milliseconds, which saturates. -/
def DpmsState.idleMs (dpms : DpmsState) (now : Instant) : UInt32 :=
  let ms := Duration.asMillis (now - dpms.lastActivity)
  if ms < UInt32.size then UInt32.ofNat ms else 0xffffffff

/-- `apply_dpms_transition` less the screen saver, the backend and the events. -/
def DpmsTimer.applyDpmsTransition (s : DpmsTimer) (newLevel : UInt8) : DpmsTimer :=
  { s with dpms.powerLevel := newLevel }

/-- What `run` does after a poll: the clock is read twice. -/
def DpmsTimer.evaluateIdle (s : DpmsTimer) (now later : Instant) : DpmsTimer :=
  match s.dpmsTransitionDeadline with
  | none => s
  | some deadline =>
    if now ≥ deadline then
      let target := nextDpmsLevel s.dpms.powerLevel (s.dpms.idleMs later) s.dpms
      if target ≠ s.dpms.powerLevel then s.applyDpmsTransition target else s
    else s

end X12

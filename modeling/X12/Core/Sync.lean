import X12.Core.Server

/-! # SYNC alarms

An alarm tests a counter. When the test is met it fires, and is either armed
anew with its delta or becomes inactive. Notifications are collected in the
order of the ids. -/

namespace X12

def SERVERTIME_COUNTER : UInt32 := 0x106
def IDLETIME_COUNTER : UInt32 := 0x107
def IDLETIME_DEVICE_VCP : UInt32 := 0x108
def IDLETIME_DEVICE_VCK : UInt32 := 0x109

def VALUE_TYPE_RELATIVE : UInt32 := 1

def TEST_POSITIVE_TRANSITION : UInt32 := 0
def TEST_NEGATIVE_TRANSITION : UInt32 := 1
def TEST_POSITIVE_COMPARISON : UInt32 := 2
def TEST_NEGATIVE_COMPARISON : UInt32 := 3

def ALARM_STATE_ACTIVE : UInt8 := 0
def ALARM_STATE_INACTIVE : UInt8 := 1

/-- How often an alarm can be armed anew before the loop gives up. -/
def REARM_GUARD : Nat := 1000000

/-- Those attributes that the value mask names. -/
structure AlarmAttributes where
  counter : Option UInt32
  valueType : Option UInt32
  value : Option Int64
  testType : Option UInt32
  delta : Option Int64
  events : Option Bool
  deriving DecidableEq, Repr

structure AlarmNotify where
  owner : ClientId
  alarm : ResourceId
  value : Int64
  waitValue : Int64
  state : UInt8
  deriving DecidableEq, Repr

def triggerFires (testType : UInt32) (old new waitValue : Int64) : Bool :=
  if testType = TEST_POSITIVE_TRANSITION then old < waitValue && new ≥ waitValue
  else if testType = TEST_NEGATIVE_TRANSITION then old > waitValue && new ≤ waitValue
  else if testType = TEST_POSITIVE_COMPARISON then new ≥ waitValue
  else if testType = TEST_NEGATIVE_COMPARISON then new ≤ waitValue
  else false

def comparisonSatisfied (testType : UInt32) (value waitValue : Int64) : Bool :=
  if testType = TEST_POSITIVE_TRANSITION ∨ testType = TEST_POSITIVE_COMPARISON then
    value ≥ waitValue
  else if testType = TEST_NEGATIVE_TRANSITION ∨ testType = TEST_NEGATIVE_COMPARISON then
    value ≤ waitValue
  else false

def checkedAddI64 (a b : Int64) : Option Int64 :=
  let sum := a.toInt + b.toInt
  if -2 ^ 63 ≤ sum ∧ sum < 2 ^ 63 then some (Int64.ofInt sum) else none

def saturatingAddI64 (a b : Int64) : Int64 :=
  Int64.ofInt (max (-2 ^ 63) (min (2 ^ 63 - 1) (a.toInt + b.toInt)))

namespace SyncAlarm

/-- Add the delta until the test is no longer met, with the rounds that are
left; `none` on overflow. -/
def rearm (testType : UInt32) (new delta : Int64) : Nat → Int64 → Option Int64
  | 0, w => some w
  | guard + 1, w =>
    if comparisonSatisfied testType new w then
      match checkedAddI64 w delta with
      | some next => if next ≠ w then rearm testType new delta guard next else some w
      | none => none
    else some w

/-- The alarm after it has fired. -/
def fired (a : SyncAlarm) (new : Int64) : SyncAlarm :=
  let testType := a.testType.toUInt32
  if a.delta = 0 then
    if testType = TEST_POSITIVE_COMPARISON ∨ testType = TEST_NEGATIVE_COMPARISON then
      { a with state := ALARM_STATE_INACTIVE }
    else { a with state := ALARM_STATE_ACTIVE }
  else
    match rearm testType new a.delta REARM_GUARD a.waitValue with
    | some w => { a with waitValue := w, state := ALARM_STATE_ACTIVE }
    | none => { a with state := ALARM_STATE_INACTIVE }

/-- An active alarm on the counter whose trigger is met. -/
def fires (a : SyncAlarm) (counter : UInt32) (old new : Int64) : Bool :=
  a.counter = counter && a.state = ALARM_STATE_ACTIVE &&
    triggerFires a.testType.toUInt32 old new a.waitValue

end SyncAlarm

namespace ServerState

/-- The counters that count idle time have no entry of their own. -/
def counterValue (s : ServerState) (idle : Int64) (counter : UInt32) : Int64 :=
  if counter = IDLETIME_COUNTER ∨ counter = IDLETIME_DEVICE_VCP ∨ counter = IDLETIME_DEVICE_VCK then
    idle
  else s.syncCounters[counter]?.elim 0 (·.value)

/-- `idle` is the idle time now. -/
def applyAlarmAttributes (s : ServerState) (idle : Int64) (alarm : SyncAlarm)
    (attrs : AlarmAttributes) : SyncAlarm :=
  let counter := attrs.counter.getD alarm.counter
  { alarm with
    counter := counter
    testType :=
      attrs.testType.elim alarm.testType fun t => if t ≤ 255 then t.toUInt8 else 0
    delta := attrs.delta.getD alarm.delta
    events := attrs.events.getD alarm.events
    waitValue :=
      if attrs.value.isSome || attrs.valueType.isSome then
        let value := attrs.value.getD 0
        if attrs.valueType = some VALUE_TYPE_RELATIVE then
          saturatingAddI64 (s.counterValue idle counter) value
        else value
      else alarm.waitValue }

def evaluateAlarmsForCounter (s : ServerState) (counter : UInt32) (old new : Int64) :
    ServerState × List AlarmNotify :=
  let notifies := s.syncAlarms.keys.filterMap fun id =>
    s.syncAlarms[id]?.bind fun a =>
      if a.fires counter old new && a.events then
        some ⟨a.owner, id, new, a.waitValue, (a.fired new).state⟩
      else none
  ({ s with
    syncAlarms := s.syncAlarms.map fun _ a =>
      if a.fires counter old new then a.fired new else a }, notifies)

/-- SYNC CreateAlarm. The trigger is tested at once; the idle time may have
gone on meanwhile. -/
def syncCreateAlarm (s : ServerState) (client : ClientId) (alarm : ResourceId)
    (attrs : AlarmAttributes) (idle idleAfter : Int64) : ServerState × List AlarmNotify :=
  let a := s.applyAlarmAttributes idle
    { owner := client
      counter := 0
      waitValue := 0
      delta := 0
      testType := 0
      events := true
      state := ALARM_STATE_ACTIVE } attrs
  let s := { s with syncAlarms := s.syncAlarms.insert alarm a }
  let now := s.counterValue idleAfter a.counter
  s.evaluateAlarmsForCounter a.counter now now

end ServerState

end X12

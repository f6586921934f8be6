import X12.Core.Sync
import X12.Protocol.Replies
import X12.Lib.Scans

/-! # Requests for SYNC alarms

A value mask says which attributes of an alarm are listed in a request, in the order of
the bits. The first half of a 64-bit value is the high one. -/

namespace X12

def CA_COUNTER : UInt32 := 0x1
def CA_VALUE_TYPE : UInt32 := 0x2
def CA_VALUE : UInt32 := 0x4
def CA_TEST_TYPE : UInt32 := 0x8
def CA_DELTA : UInt32 := 0x10
def CA_EVENTS : UInt32 := 0x20

def inMask (mask bit : UInt32) : Bool :=
  mask &&& bit ≠ 0

/-! ## Reading -/

def readI64 (hi lo : UInt32) : Int64 :=
  hi.toInt32.toInt64 <<< 32 ||| lo.toUInt64.toInt64

def takeU32 : Scan UInt8 UInt32 :=
  .field 4 fun bytes => u32Le bytes 0

def takeI64 : Scan UInt8 Int64 :=
  .field 8 fun bytes => readI64 (u32Le bytes 0) (u32Le bytes 4)

def takeBool : Scan UInt8 Bool :=
  .field 4 fun bytes => bytes.getD 0 0 ≠ 0

open Scan in
/-- The attributes that the mask names. -/
def takeAlarmAttributes (mask : UInt32) : Scan UInt8 AlarmAttributes := do
  let counter ← optionally (inMask mask CA_COUNTER) takeU32
  let valueType ← optionally (inMask mask CA_VALUE_TYPE) takeU32
  let value ← optionally (inMask mask CA_VALUE) takeI64
  let testType ← optionally (inMask mask CA_TEST_TYPE) takeU32
  let delta ← optionally (inMask mask CA_DELTA) takeI64
  let events ← optionally (inMask mask CA_EVENTS) takeBool
  return {
    counter := counter
    valueType := valueType
    value := value
    testType := testType
    delta := delta
    events := events }

/-- The alarm and its attributes, unless the body is too short. -/
def parseAlarmAttributes (body : List UInt8) : Option (UInt32 × AlarmAttributes) :=
  if body.length < 8 then none
  else
    let alarm := u32Le body 0
    let mask := u32Le body 4
    (takeAlarmAttributes mask (body.drop 8) 0).map fun (attrs, _) => (alarm, attrs)

def parseResource (body : List UInt8) : Option UInt32 :=
  if body.length < 4 then none else some (u32Le body 0)

/-! ## Replies -/

def writeI64 (byteOrder : ClientByteOrder) (value : Int64) : List UInt8 :=
  writeU32 byteOrder (value >>> 32).toUInt64.toUInt32 ++
    writeU32 byteOrder value.toUInt64.toUInt32

def encodeQueryAlarmReply (byteOrder : ClientByteOrder) (sequence : UInt16) (counter : UInt32)
    (waitValue delta : Int64) (events : Bool) (state : UInt8) : List UInt8 :=
  fixedReply byteOrder sequence 0 2 ++
    writeU32 byteOrder counter ++
    -- absolute value
    writeU32 byteOrder 0 ++
    writeI64 byteOrder waitValue ++
    -- positive transition
    writeU32 byteOrder 0 ++
    writeI64 byteOrder delta ++
    [events.toUInt8, state] ++
    [0, 0]

/-! ## Requests -/

namespace ServerState

def handleCreateAlarm (s : ServerState) (client : ClientId) (body : List UInt8)
    (idle idleAfter : Int64) : ServerState × List AlarmNotify :=
  match parseAlarmAttributes body with
  | some (alarm, attrs) => s.syncCreateAlarm client alarm attrs idle idleAfter
  | none => (s, [])

/-- A changed alarm is active again, and its trigger is tested at once. -/
def syncChangeAlarm (s : ServerState) (alarm : ResourceId) (attrs : AlarmAttributes)
    (idle idleAfter : Int64) : ServerState × List AlarmNotify :=
  match s.syncAlarms[alarm]? with
  | none => (s, [])
  | some a =>
    let a := { s.applyAlarmAttributes idle a attrs with state := ALARM_STATE_ACTIVE }
    let s := { s with syncAlarms := s.syncAlarms.insert alarm a }
    let now := s.counterValue idleAfter a.counter
    s.evaluateAlarmsForCounter a.counter now now

def handleChangeAlarm (s : ServerState) (body : List UInt8) (idle idleAfter : Int64) :
    ServerState × List AlarmNotify :=
  match parseAlarmAttributes body with
  | some (alarm, attrs) => s.syncChangeAlarm alarm attrs idle idleAfter
  | none => (s, [])

def handleDestroyAlarm (s : ServerState) (body : List UInt8) : ServerState :=
  match parseResource body with
  | some alarm => { s with syncAlarms := s.syncAlarms.erase alarm }
  | none => s

/-- The reply to QueryAlarm. An alarm that does not exist has only zeros. -/
def handleQueryAlarm (s : ServerState) (byteOrder : ClientByteOrder) (sequence : UInt16)
    (body : List UInt8) : List UInt8 :=
  let alarm := s.syncAlarms[(parseResource body).getD 0]?.getD
    { owner := 0
      counter := 0
      waitValue := 0
      delta := 0
      testType := 0
      events := false
      state := ALARM_STATE_ACTIVE }
  encodeQueryAlarmReply byteOrder sequence alarm.counter alarm.waitValue alarm.delta alarm.events
    alarm.state

end ServerState

end X12

import X12.Core.AlarmRequests
import X12.Verify.ClientReader

/-! # SYNC alarms on the wire

What a client lists for an alarm is what is parsed, and nothing less is. The reply to
QueryAlarm does not have the test type, and tells the other attributes. -/

namespace X12

open Scan (Takes)

/-! ## Numbers -/

/-- The high half is shifted out of its sign, and the low one fills it up. -/
theorem halves_join (v : BitVec 64) :
    ((v.sshiftRight 32).setWidth 32).signExtend 64 <<< 32 ||| (v.setWidth 32).setWidth 64 = v := by
  ext i hi
  by_cases h : i < 32
  · simp [h, BitVec.getLsbD_eq_getElem hi]
  · have hlow : i - 32 < 32 := by omega
    have hsum : 32 + (i - 32) = i := by omega
    have hfar : ¬ 64 ≤ i - 32 := by omega
    simp [h, hi, hlow, hsum, hfar, BitVec.getElem_signExtend, BitVec.getLsbD_sshiftRight]

theorem readI64_halves (v : Int64) :
    readI64 (v >>> 32).toUInt64.toUInt32 v.toUInt64.toUInt32 = v := by
  rw [readI64, ← Int64.toBitVec_inj]
  exact halves_join v.toBitVec

theorem takes_u32 (v : UInt32) : Takes takeU32 (u32LeBytes v) v :=
  .field rfl (u32Le_u32LeBytes v [])

theorem takes_i64 (v : Int64) : Takes takeI64 (writeI64 .littleEndian v) v := by
  refine .field rfl ?_
  have hlow : u32Le (writeI64 .littleEndian v) 4 = v.toUInt64.toUInt32 :=
    u32Le_u32LeBytes v.toUInt64.toUInt32 []
  rw [hlow, writeI64]
  exact (congrArg (readI64 · _) (u32Le_u32LeBytes _ _)).trans (readI64_halves v)

theorem takes_bool (b : Bool) : Takes takeBool (u32LeBytes b.toUInt32) b :=
  .field rfl (by cases b <;> rfl)

/-! ## Attributes -/

/-- A value for each attribute. -/
structure AlarmValues where
  counter : UInt32
  valueType : UInt32
  value : Int64
  testType : UInt32
  delta : Int64
  events : Bool
  deriving DecidableEq

namespace AlarmValues

variable (v : AlarmValues) (mask : UInt32)

/-- The values of the attributes in the mask, in the order of the bits. -/
def valueList : List UInt8 :=
  (if inMask mask CA_COUNTER then u32LeBytes v.counter else []) ++
    (if inMask mask CA_VALUE_TYPE then u32LeBytes v.valueType else []) ++
    (if inMask mask CA_VALUE then writeI64 .littleEndian v.value else []) ++
    (if inMask mask CA_TEST_TYPE then u32LeBytes v.testType else []) ++
    (if inMask mask CA_DELTA then writeI64 .littleEndian v.delta else []) ++
    (if inMask mask CA_EVENTS then u32LeBytes v.events.toUInt32 else [])

def attributes : AlarmAttributes where
  counter := if inMask mask CA_COUNTER then some v.counter else none
  valueType := if inMask mask CA_VALUE_TYPE then some v.valueType else none
  value := if inMask mask CA_VALUE then some v.value else none
  testType := if inMask mask CA_TEST_TYPE then some v.testType else none
  delta := if inMask mask CA_DELTA then some v.delta else none
  events := if inMask mask CA_EVENTS then some v.events else none

theorem takes : Takes (takeAlarmAttributes mask) (v.valueList mask) (v.attributes mask) := by
  have hlist : Takes (takeAlarmAttributes mask) _ (v.attributes mask) :=
    ((takes_u32 v.counter).optionally _).andThen <|
    ((takes_u32 v.valueType).optionally _).andThen <|
    ((takes_i64 v.value).optionally _).andThen <|
    ((takes_u32 v.testType).optionally _).andThen <|
    ((takes_i64 v.delta).optionally _).andThen <|
    ((takes_bool v.events).optionally _).andThen (.nothing _)
  rw [List.append_nil] at hlist
  simpa only [valueList, List.append_assoc] using hlist

end AlarmValues

theorem parseAlarmAttributes_head (alarm mask : UInt32) (list : List UInt8) :
    parseAlarmAttributes (u32LeBytes alarm ++ (u32LeBytes mask ++ list)) =
      (takeAlarmAttributes mask list 0).map fun (attrs, _) => (alarm, attrs) := by
  have hmask : u32Le (u32LeBytes alarm ++ (u32LeBytes mask ++ list)) 4 = mask :=
    u32Le_u32LeBytes mask list
  have hlong : ¬ (u32LeBytes alarm ++ (u32LeBytes mask ++ list)).length < 8 :=
    Nat.not_lt.mpr (Nat.le_add_left 8 list.length)
  rw [parseAlarmAttributes, if_neg hlong, hmask, u32Le_u32LeBytes]
  rfl

/-! ## Replies -/

/-- What a client reads in the reply to QueryAlarm. -/
structure QueryAlarmReply where
  counter : UInt32
  valueType : UInt32
  waitValue : Int64
  testType : UInt32
  delta : Int64
  events : Bool
  state : UInt8
  deriving DecidableEq

def takeWord (order : ClientByteOrder) : Scan UInt8 UInt32 :=
  .field 4 fun bytes => UInt32.ofNat (readU32 order bytes 0)

def takeLong (order : ClientByteOrder) : Scan UInt8 Int64 :=
  .field 8 fun bytes =>
    readI64 (UInt32.ofNat (readU32 order bytes 0)) (UInt32.ofNat (readU32 order (bytes.drop 4) 0))

def takeByte : Scan UInt8 UInt8 :=
  .field 1 fun bytes => bytes.getD 0 0

def takeQueryAlarmReply (order : ClientByteOrder) : Scan UInt8 QueryAlarmReply := do
  Scan.field 8 fun _ => ()
  let counter ← takeWord order
  let valueType ← takeWord order
  let waitValue ← takeLong order
  let testType ← takeWord order
  let delta ← takeLong order
  let events ← takeByte
  let state ← takeByte
  return {
    counter := counter
    valueType := valueType
    waitValue := waitValue
    testType := testType
    delta := delta
    events := events ≠ 0
    state := state }

def decodeQueryAlarmReply (order : ClientByteOrder) (reply : List UInt8) : Option QueryAlarmReply :=
  (takeQueryAlarmReply order reply 0).map Prod.fst

variable {order : ClientByteOrder}

theorem takes_word (v : UInt32) : Takes (takeWord order) (writeU32 order v) v := by
  refine .field (length_writeU32 order v) ?_
  have hread := readU32_writeU32 order v []
  rw [List.append_nil] at hread
  rw [hread, UInt32.ofNat_toNat]

theorem takes_long (v : Int64) : Takes (takeLong order) (writeI64 order v) v := by
  refine .field (by rw [writeI64, List.length_append, length_writeU32, length_writeU32]) ?_
  have hlow := readU32_writeU32 order v.toUInt64.toUInt32 []
  rw [List.append_nil] at hlow
  have hdrop (high low : UInt32) : (writeU32 order high ++ writeU32 order low).drop 4 =
      writeU32 order low := by
    rw [← length_writeU32 order high, List.drop_left]
  rw [writeI64, readU32_writeU32, hdrop, hlow, UInt32.ofNat_toNat, UInt32.ofNat_toNat,
    readI64_halves]

theorem takes_byte (b : UInt8) : Takes takeByte [b] b :=
  .field rfl rfl

theorem decode_encodeQueryAlarmReply (sequence : UInt16) (counter : UInt32)
    (waitValue delta : Int64) (events : Bool) (state : UInt8) :
    decodeQueryAlarmReply order
        (encodeQueryAlarmReply order sequence counter waitValue delta events state) =
      some ⟨counter, 0, waitValue, 0, delta, events, state⟩ := by
  have hhead : Takes (Scan.field 8 fun _ => ()) (fixedReply order sequence 0 2) () :=
    .field (by cases order <;> rfl) rfl
  have hevents : decide (events.toUInt8 ≠ 0) = events := by
    cases events <;> rfl
  have hreply : Takes (takeQueryAlarmReply order) _
      ⟨counter, 0, waitValue, 0, delta, decide (events.toUInt8 ≠ 0), state⟩ :=
    hhead.andThen <|
    (takes_word counter).andThen <|
    (takes_word 0).andThen <|
    (takes_long waitValue).andThen <|
    (takes_word 0).andThen <|
    (takes_long delta).andThen <|
    (takes_byte events.toUInt8).andThen <|
    (takes_byte state).andThen (.nothing _)
  have hall := hreply.fromStart [0, 0]
  rw [hevents] at hall
  simp only [List.append_assoc, List.cons_append, List.nil_append] at hall
  rw [decodeQueryAlarmReply, encodeQueryAlarmReply]
  simp only [List.append_assoc, List.cons_append, List.nil_append]
  rw [hall]
  rfl

/-! ## Test types -/

theorem SyncAlarm.fired_testType (a : SyncAlarm) (new : Int64) :
    (a.fired new).testType = a.testType := by
  unfold SyncAlarm.fired
  dsimp only
  split
  · split <;> rfl
  · split <;> rfl

/-- Test types that a byte does not hold count as 0. -/
def storedTestType (testType : UInt32) : UInt8 :=
  if testType ≤ 255 then testType.toUInt8 else 0

/-- What can happen to alarms. The last case is any step that makes no alarm and leaves
the test types alone. -/
inductive AlarmStep where
  | create (client : ClientId) (body : List UInt8) (idle idleAfter : Int64)
  | change (body : List UInt8) (idle idleAfter : Int64)
  | destroy (body : List UInt8)
  | other (next : ServerState)

namespace AlarmStep

def apply (s : ServerState) : AlarmStep → ServerState
  | create client body idle idleAfter => (s.handleCreateAlarm client body idle idleAfter).1
  | change body idle idleAfter => (s.handleChangeAlarm body idle idleAfter).1
  | destroy body => s.handleDestroyAlarm body
  | other next => next

/-- Every alarm has been there before, with its test type. -/
def KeepsTests (s next : ServerState) : Prop :=
  ∀ (id : ResourceId) (a : SyncAlarm), next.syncAlarms[id]? = some a →
    ∃ a', s.syncAlarms[id]? = some a' ∧ a'.testType = a.testType

def Admitted (s : ServerState) : AlarmStep → Prop
  | other next => KeepsTests s next
  | _ => True

/-- The test type that a request gives to an alarm. CreateAlarm gives 0 where it names
none, ChangeAlarm leaves the last one. -/
def named (id : ResourceId) (last : UInt8) : AlarmStep → UInt8
  | create _ body _ _ =>
    match parseAlarmAttributes body with
    | some (alarm, attrs) => if alarm = id then attrs.testType.elim 0 storedTestType else last
    | none => last
  | change body _ _ =>
    match parseAlarmAttributes body with
    | some (alarm, attrs) => if alarm = id then attrs.testType.elim last storedTestType else last
    | none => last
  | _ => last

end AlarmStep

def namedTestType (id : ResourceId) (steps : List AlarmStep) : UInt8 :=
  steps.foldl (AlarmStep.named id) 0

/-- Runs from a state without alarms. -/
inductive AlarmRun : List AlarmStep → ServerState → Prop
  | start {s : ServerState} (h : ∀ id : ResourceId, s.syncAlarms[id]? = none) : AlarmRun [] s
  | step {steps : List AlarmStep} {s : ServerState} {step : AlarmStep} (before : AlarmRun steps s)
      (admitted : step.Admitted s) : AlarmRun (steps ++ [step]) (step.apply s)

namespace ServerState

variable {s : ServerState} {id alarm : ResourceId} {a : SyncAlarm} {counter : UInt32}
  {old new idle : Int64}

theorem evaluateAlarms_testType :
    (s.evaluateAlarmsForCounter counter old new).1.syncAlarms[id]?.map SyncAlarm.testType =
      s.syncAlarms[id]?.map SyncAlarm.testType := by
  rw [evaluateAlarmsForCounter, Std.ExtTreeMap.getElem?_map, Option.map_map]
  congr 1
  funext a
  rw [Function.comp_apply]
  split
  · exact a.fired_testType new
  · rfl

/-- An alarm that is there after others have been replaced by one. -/
theorem insertAlarm_testType
    (h : ({ s with syncAlarms := s.syncAlarms.insert alarm a }.evaluateAlarmsForCounter
      counter old new).1.syncAlarms[id]?.map SyncAlarm.testType = some t) :
    alarm = id ∧ a.testType = t ∨
      alarm ≠ id ∧ s.syncAlarms[id]?.map SyncAlarm.testType = some t := by
  rw [evaluateAlarms_testType] at h
  dsimp only at h
  rw [ResourceMap.get_insert] at h
  split at h
  · next heq => exact .inl ⟨heq.symm, Option.some.inj h⟩
  · next hne => exact .inr ⟨Ne.symm hne, h⟩

variable {last t : UInt8} {attrs : AlarmAttributes} {body : List UInt8} {idleAfter : Int64}

theorem syncCreateAlarm_testType {client : ClientId}
    (hlast : ∀ t, s.syncAlarms[id]?.map SyncAlarm.testType = some t → t = last)
    (h : (s.syncCreateAlarm client alarm attrs idle idleAfter).1.syncAlarms[id]?.map
      SyncAlarm.testType = some t) :
    t = if alarm = id then attrs.testType.elim 0 storedTestType else last := by
  rcases insertAlarm_testType h with ⟨heq, ht⟩ | ⟨hne, ht⟩
  · rw [if_pos heq, ← ht]
    rfl
  · rw [if_neg hne]
    exact hlast t ht

theorem syncChangeAlarm_testType
    (hlast : ∀ t, s.syncAlarms[id]?.map SyncAlarm.testType = some t → t = last)
    (h : (s.syncChangeAlarm alarm attrs idle idleAfter).1.syncAlarms[id]?.map
      SyncAlarm.testType = some t) :
    t = if alarm = id then attrs.testType.elim last storedTestType else last := by
  rw [syncChangeAlarm] at h
  cases ha : s.syncAlarms[(alarm : ResourceId)]? with
  | none =>
    rw [ha] at h
    split
    · next heq =>
      rw [← heq, ha] at h
      cases h
    · exact hlast t h
  | some a =>
    rw [ha] at h
    rcases insertAlarm_testType h with ⟨heq, ht⟩ | ⟨hne, ht⟩
    · subst heq
      rw [if_pos rfl, ← ht, ← hlast a.testType (congrArg (Option.map SyncAlarm.testType) ha)]
      rfl
    · rw [if_neg hne]
      exact hlast t ht

theorem handleDestroyAlarm_testType
    (hlast : ∀ t, s.syncAlarms[id]?.map SyncAlarm.testType = some t → t = last)
    (h : (s.handleDestroyAlarm body).syncAlarms[id]?.map SyncAlarm.testType = some t) :
    t = last := by
  rw [handleDestroyAlarm] at h
  split at h
  · dsimp only at h
    rw [ResourceMap.get_erase] at h
    split at h
    · cases h
    · exact hlast t h
  · exact hlast t h

end ServerState

variable {steps : List AlarmStep} {s : ServerState} {id : ResourceId} {a : SyncAlarm}

theorem AlarmStep.apply_testType {step : AlarmStep} {last : UInt8} (hadmitted : step.Admitted s)
    (hlast : ∀ t, s.syncAlarms[id]?.map SyncAlarm.testType = some t → t = last) {t : UInt8}
    (h : (step.apply s).syncAlarms[id]?.map SyncAlarm.testType = some t) :
    t = step.named id last := by
  cases step with
  | create client body idle idleAfter =>
    rw [apply, ServerState.handleCreateAlarm] at h
    rw [named]
    cases hbody : parseAlarmAttributes body with
    | none =>
      rw [hbody] at h
      exact hlast t h
    | some found =>
      rw [hbody] at h
      exact ServerState.syncCreateAlarm_testType hlast h
  | change body idle idleAfter =>
    rw [apply, ServerState.handleChangeAlarm] at h
    rw [named]
    cases hbody : parseAlarmAttributes body with
    | none =>
      rw [hbody] at h
      exact hlast t h
    | some found =>
      rw [hbody] at h
      exact ServerState.syncChangeAlarm_testType hlast h
  | destroy body => exact ServerState.handleDestroyAlarm_testType hlast h
  | other next =>
    obtain ⟨a, ha, rfl⟩ := Option.map_eq_some_iff.mp h
    obtain ⟨a', ha', htest⟩ := hadmitted id a ha
    exact htest ▸ hlast a'.testType (congrArg (Option.map SyncAlarm.testType) ha')

theorem AlarmRun.testType (h : AlarmRun steps s) :
    ∀ t, s.syncAlarms[id]?.map SyncAlarm.testType = some t → t = namedTestType id steps := by
  induction h with
  | start hnone =>
    intro t ht
    rw [hnone] at ht
    cases ht
  | step _ hadmitted ih =>
    intro t ht
    rw [namedTestType, List.foldl_append]
    exact AlarmStep.apply_testType hadmitted ih ht

/-! ## The attributes of an alarm -/

/-- The reply has the attributes of the alarm. -/
structure QueryAlarmReply.Tells (r : QueryAlarmReply) (a : SyncAlarm) : Prop where
  counter : r.counter = a.counter
  waitValue : r.waitValue = a.waitValue
  testType : r.testType = a.testType.toUInt32
  delta : r.delta = a.delta
  events : r.events = a.events
  state : r.state = a.state

/-- The reply has 0 for every test type. -/
theorem queryAlarm_tells_iff (ha : s.syncAlarms[id]? = some a) {sequence : UInt16} :
    (∃ r, decodeQueryAlarmReply order (s.handleQueryAlarm order sequence (u32LeBytes id)) = some r ∧
      r.Tells a) ↔ a.testType = 0 := by
  have hid : parseResource (u32LeBytes id) = some id := congrArg some (u32Le_u32LeBytes id [])
  rw [ServerState.handleQueryAlarm, hid, Option.getD_some, ha]
  dsimp only [Option.getD_some]
  rw [decode_encodeQueryAlarmReply]
  constructor
  · rintro ⟨r, hr, htells⟩
    cases hr
    have htest : (0 : UInt32).toNat = a.testType.toUInt32.toNat :=
      congrArg UInt32.toNat htells.testType
    exact UInt8.toNat_inj.mp (htest.symm.trans rfl)
  · intro htest
    exact ⟨_, rfl, rfl, rfl, by rw [htest]; rfl, rfl, rfl, rfl⟩

/-- What is listed for an alarm is parsed as such, and no proper part of it is parsed. In
every run the reply to QueryAlarm tells what an alarm is exactly if its test type is a
positive transition. -/
theorem alarm_told_iff (hrun : AlarmRun steps s) (ha : s.syncAlarms[id]? = some a)
    (order : ClientByteOrder) (sequence : UInt16) :
    (∀ alarm mask (v : AlarmValues),
      parseAlarmAttributes (u32LeBytes alarm ++ (u32LeBytes mask ++ v.valueList mask)) =
        some (alarm, v.attributes mask)) ∧
    (∀ alarm mask (v : AlarmValues) part, part <+: v.valueList mask → part ≠ v.valueList mask →
      parseAlarmAttributes (u32LeBytes alarm ++ (u32LeBytes mask ++ part)) = none) ∧
    ((∃ r, decodeQueryAlarmReply order (s.handleQueryAlarm order sequence (u32LeBytes id)) =
      some r ∧ r.Tells a) ↔ namedTestType id steps = 0) := by
  refine ⟨fun alarm mask v => ?_, fun alarm mask v part hpart hne => ?_, ?_⟩
  · have hall := (v.takes mask).fromStart []
    rw [List.append_nil] at hall
    rw [parseAlarmAttributes_head, hall]
    rfl
  · have hnone := (v.takes mask).part [] part hpart hne
    rw [parseAlarmAttributes_head, ← List.nil_append part, ← List.length_nil, hnone]
    rfl
  · rw [queryAlarm_tells_iff ha, hrun.testType a.testType (congrArg _ ha)]

/-- A client makes alarm 0x100001 on the counter 0x100000, with the given test type. -/
def createdAlarm (testType : UInt32) : AlarmStep :=
  .create 1 (u32LeBytes 0x100001 ++ (u32LeBytes (CA_COUNTER ||| CA_TEST_TYPE) ++
    (u32LeBytes 0x100000 ++ u32LeBytes testType))) 0 0

theorem run_createdAlarm (testType : UInt32) :
    AlarmRun [createdAlarm testType] ((createdAlarm testType).apply .new) :=
  .step (.start fun _ => Std.ExtTreeMap.getElem?_empty) trivial

/-- A negative transition is told as a positive one. -/
theorem negativeTransition_untold :
    ∃ a, ((createdAlarm TEST_NEGATIVE_TRANSITION).apply .new).syncAlarms[(0x100001 : ResourceId)]? =
        some a ∧
      ¬ ∃ r, decodeQueryAlarmReply .littleEndian
        (((createdAlarm TEST_NEGATIVE_TRANSITION).apply .new).handleQueryAlarm .littleEndian 2
          (u32LeBytes 0x100001)) = some r ∧ r.Tells a := by
  have ha : ((createdAlarm TEST_NEGATIVE_TRANSITION).apply
      .new).syncAlarms[(0x100001 : ResourceId)]? =
        some ⟨1, 0x100000, 0, 0, 1, true, ALARM_STATE_ACTIVE⟩ := by
    decide +kernel
  refine ⟨_, ha, fun htold => ?_⟩
  exact absurd ((queryAlarm_tells_iff ha).mp htold) (by decide)

theorem alarm_told_positiveTransition :
    ∃ r, decodeQueryAlarmReply .bigEndian
      (((createdAlarm TEST_POSITIVE_TRANSITION).apply .new).handleQueryAlarm .bigEndian 2
        (u32LeBytes 0x100001)) = some r ∧
      r.Tells ⟨1, 0x100000, 0, 0, 0, true, ALARM_STATE_ACTIVE⟩ := by
  have ha : ((createdAlarm TEST_POSITIVE_TRANSITION).apply
      .new).syncAlarms[(0x100001 : ResourceId)]? =
        some ⟨1, 0x100000, 0, 0, 0, true, ALARM_STATE_ACTIVE⟩ := by
    decide +kernel
  have hnamed : namedTestType 0x100001 [createdAlarm TEST_POSITIVE_TRANSITION] = 0 := by
    decide +kernel
  exact (alarm_told_iff (run_createdAlarm _) ha .bigEndian 2).2.2.mpr hnamed

end X12

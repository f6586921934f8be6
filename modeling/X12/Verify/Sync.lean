import X12.Core.Sync

/-! # SYNC alarms after a counter has changed

The alarms that fire are found by their trigger alone. An alarm with a delta is armed
anew at the first wait value that the counter does not meet, unless an addition
overflows or a million of them are not enough. -/

namespace X12

/-! ## Wait values -/

def FitsI64 (n : Int) : Prop :=
  -2 ^ 63 ≤ n ∧ n < 2 ^ 63

instance (n : Int) : Decidable (FitsI64 n) :=
  inferInstanceAs (Decidable (_ ∧ _))

theorem fitsI64_toInt (n : Int64) : FitsI64 n.toInt :=
  ⟨n.le_toInt, n.toInt_lt⟩

theorem toInt_ofInt_of_fitsI64 {n : Int} (h : FitsI64 n) : (Int64.ofInt n).toInt = n :=
  Int64.toInt_ofInt_of_le h.1 h.2

theorem checkedAddI64_of_fits {a b : Int64} (h : FitsI64 (a.toInt + b.toInt)) :
    checkedAddI64 a b = some (Int64.ofInt (a.toInt + b.toInt)) :=
  if_pos h

theorem checkedAddI64_of_not_fits {a b : Int64} (h : ¬ FitsI64 (a.toInt + b.toInt)) :
    checkedAddI64 a b = none :=
  if_neg h

/-- The counter value meets the comparison of the test at a wait value. -/
def Meets (testType : UInt32) (value wait : Int) : Prop :=
  (testType = TEST_POSITIVE_TRANSITION ∨ testType = TEST_POSITIVE_COMPARISON) ∧ wait ≤ value ∨
  (testType = TEST_NEGATIVE_TRANSITION ∨ testType = TEST_NEGATIVE_COMPARISON) ∧ value ≤ wait

instance (testType : UInt32) (value wait : Int) : Decidable (Meets testType value wait) :=
  inferInstanceAs (Decidable (_ ∨ _))

theorem comparisonSatisfied_iff {testType : UInt32} {value wait : Int64} :
    comparisonSatisfied testType value wait = true ↔ Meets testType value.toInt wait.toInt := by
  unfold comparisonSatisfied Meets
  split
  · next hpos =>
    have hneg : ¬ (testType = TEST_NEGATIVE_TRANSITION ∨ testType = TEST_NEGATIVE_COMPARISON) := by
      rcases hpos with rfl | rfl <;> decide
    simp [hpos, hneg, Int64.le_iff_toInt_le]
  split
  · next hpos hneg => simp [hpos, hneg, Int64.le_iff_toInt_le]
  · next hpos hneg => simp [hpos, hneg]

theorem Meets.of_triggerFires {testType : UInt32} {old new wait : Int64}
    (h : triggerFires testType old new wait = true) : Meets testType new.toInt wait.toInt := by
  unfold triggerFires at h
  unfold Meets
  split at h
  · next htest => simp_all [Int64.le_iff_toInt_le]
  split at h
  · next htest => simp_all [Int64.le_iff_toInt_le]
  split at h
  · next htest => simp_all [Int64.le_iff_toInt_le]
  split at h
  · next htest => simp_all [Int64.le_iff_toInt_le]
  · cases h

/-- The first of a number of rounds that does not go through, if there is one. -/
theorem exists_first_stop (p : Nat → Prop) [DecidablePred p] (rounds : Nat) :
    ∃ k ≤ rounds, (∀ j < k, p j) ∧ (k = rounds ∨ ¬ p k) := by
  induction rounds with
  | zero => exact ⟨0, Nat.le_refl 0, fun j hj => absurd hj (Nat.not_lt_zero j), .inl rfl⟩
  | succ rounds ih =>
    obtain ⟨k, hk, hbefore, rfl | hstop⟩ := ih
    · by_cases hp : p k
      · exact ⟨k + 1, Nat.le_refl _, Nat.forall_lt_succ_right.mpr ⟨hbefore, hp⟩, .inl rfl⟩
      · exact ⟨k, hk.trans (Nat.le_succ k), hbefore, .inr hp⟩
    · exact ⟨k, hk.trans (Nat.le_succ rounds), hbefore, .inr hstop⟩

namespace SyncAlarm

variable {a a' : SyncAlarm} {testType : UInt32} {new delta wait : Int64} {guard k : Nat}

/-! ## Arming anew -/

theorem rearm_stop (h : guard = 0 ∨ ¬ Meets testType new.toInt wait.toInt) :
    rearm testType new delta guard wait = some wait := by
  cases guard with
  | zero => rfl
  | succ guard =>
    rw [rearm, if_neg]
    exact fun hmet => h.resolve_left (Nat.succ_ne_zero guard) (comparisonSatisfied_iff.mp hmet)

theorem rearm_add (hdelta : delta ≠ 0) (hmet : Meets testType new.toInt wait.toInt)
    (hfits : FitsI64 (wait.toInt + delta.toInt)) :
    rearm testType new delta (guard + 1) wait =
      rearm testType new delta guard (Int64.ofInt (wait.toInt + delta.toInt)) := by
  have hne : Int64.ofInt (wait.toInt + delta.toInt) ≠ wait := by
    intro heq
    have hsum := congrArg Int64.toInt heq
    rw [toInt_ofInt_of_fitsI64 hfits] at hsum
    exact hdelta (Int64.toInt_inj.mp (by rw [Int64.toInt_zero]; omega))
  rw [rearm, if_pos (comparisonSatisfied_iff.mpr hmet), checkedAddI64_of_fits hfits]
  dsimp only
  rw [if_pos hne]

theorem rearm_overflow (hmet : Meets testType new.toInt wait.toInt)
    (hfits : ¬ FitsI64 (wait.toInt + delta.toInt)) :
    rearm testType new delta (guard + 1) wait = none := by
  rw [rearm, if_pos (comparisonSatisfied_iff.mpr hmet), checkedAddI64_of_not_fits hfits]

/-- The rounds in which the test is met and the sum fits add the delta. -/
theorem rearm_rounds (hdelta : delta ≠ 0)
    (h : ∀ j < k, Meets testType new.toInt (wait.toInt + j * delta.toInt) ∧
      FitsI64 (wait.toInt + (j + 1 : Nat) * delta.toInt)) :
    rearm testType new delta (k + guard) wait =
      rearm testType new delta guard (Int64.ofInt (wait.toInt + k * delta.toInt)) := by
  induction k generalizing wait with
  | zero => simp
  | succ k ih =>
    obtain ⟨hmet, hfits⟩ := h 0 (Nat.succ_pos k)
    rw [Int.natCast_zero, Int.zero_mul, Int.add_zero] at hmet
    rw [Nat.zero_add, Int.natCast_one, Int.one_mul] at hfits
    have hshift (j : Nat) : (Int64.ofInt (wait.toInt + delta.toInt)).toInt + j * delta.toInt =
        wait.toInt + (j + 1 : Nat) * delta.toInt := by
      rw [toInt_ofInt_of_fitsI64 hfits, Int.natCast_add, Int.add_mul]
      omega
    rw [Nat.succ_add, rearm_add hdelta hmet hfits, ih fun j hj => ?_, hshift]
    rw [hshift, hshift]
    exact h (j + 1) (Nat.succ_lt_succ hj)

/-- The wait value after a number of additions, however large. -/
def advanced (a : SyncAlarm) (k : Nat) : Int :=
  a.waitValue.toInt + k * a.delta.toInt

/-- The counter value meets the test after a number of additions. -/
def MeetsAfter (a : SyncAlarm) (new : Int64) (k : Nat) : Prop :=
  Meets a.testType.toUInt32 new.toInt (a.advanced k)

/-- An alarm that has fired and its delta: it waits for the first value that is not met,
it is inactive since an addition does not fit, or the additions have been given up. -/
inductive Rearmed (a : SyncAlarm) (new : Int64) : SyncAlarm → Prop
  | unmet {k : Nat} (pos : 0 < k) (bound : k ≤ REARM_GUARD) (met : ∀ j < k, a.MeetsAfter new j)
      (fits : ∀ j ≤ k, FitsI64 (a.advanced j)) (unmet : ¬ a.MeetsAfter new k) :
      Rearmed a new
        { a with waitValue := Int64.ofInt (a.advanced k), state := ALARM_STATE_ACTIVE }
  | overflow {k : Nat} (bound : k ≤ REARM_GUARD) (met : ∀ j < k, a.MeetsAfter new j)
      (fits : ∀ j < k, FitsI64 (a.advanced j)) (unfit : ¬ FitsI64 (a.advanced k)) :
      Rearmed a new { a with state := ALARM_STATE_INACTIVE }
  | givenUp (met : ∀ j ≤ REARM_GUARD, a.MeetsAfter new j)
      (fits : ∀ j ≤ REARM_GUARD, FitsI64 (a.advanced j)) :
      Rearmed a new
        { a with
          waitValue := Int64.ofInt (a.advanced REARM_GUARD)
          state := ALARM_STATE_ACTIVE }

instance (a : SyncAlarm) (new : Int64) (k : Nat) : Decidable (a.MeetsAfter new k) :=
  inferInstanceAs (Decidable (Meets _ _ _))

theorem advanced_zero (a : SyncAlarm) : a.advanced 0 = a.waitValue.toInt := by
  rw [advanced, Int.natCast_zero, Int.zero_mul, Int.add_zero]

theorem advanced_succ (a : SyncAlarm) (k : Nat) :
    a.advanced (k + 1) = a.advanced k + a.delta.toInt := by
  rw [advanced, advanced, Int.natCast_add, Int.add_mul]
  omega

theorem rearm_advanced (hdelta : a.delta ≠ 0) (h : ∀ j < k, a.MeetsAfter new j)
    (hfits : ∀ j ≤ k, FitsI64 (a.advanced j)) (guard : Nat) :
    rearm a.testType.toUInt32 new a.delta (k + guard) a.waitValue =
      rearm a.testType.toUInt32 new a.delta guard (Int64.ofInt (a.advanced k)) :=
  rearm_rounds hdelta fun j hj => ⟨h j hj, hfits (j + 1) hj⟩

theorem fired_of_rearm (hdelta : a.delta ≠ 0)
    (h : rearm a.testType.toUInt32 new a.delta REARM_GUARD a.waitValue = some wait) :
    a.fired new = { a with waitValue := wait, state := ALARM_STATE_ACTIVE } := by
  rw [fired, if_neg hdelta, h]

theorem fired_of_rearm_none (hdelta : a.delta ≠ 0)
    (h : rearm a.testType.toUInt32 new a.delta REARM_GUARD a.waitValue = none) :
    a.fired new = { a with state := ALARM_STATE_INACTIVE } := by
  rw [fired, if_neg hdelta, h]

/-- Where the additions stop, the alarm is left. -/
theorem rearm_stopped (hdelta : a.delta ≠ 0) (hk : k ≤ REARM_GUARD)
    (h : ∀ j < k, a.MeetsAfter new j) (hfits : ∀ j ≤ k, FitsI64 (a.advanced j))
    (hstop : k = REARM_GUARD ∨ ¬ a.MeetsAfter new k) :
    rearm a.testType.toUInt32 new a.delta REARM_GUARD a.waitValue =
      some (Int64.ofInt (a.advanced k)) := by
  obtain ⟨guard, hguard⟩ := Nat.exists_eq_add_of_le hk
  rw [hguard, rearm_advanced hdelta h hfits]
  refine rearm_stop (hstop.imp (fun hlast => by omega) fun hunmet => ?_)
  rwa [toInt_ofInt_of_fitsI64 (hfits k (Nat.le_refl k))]

/-- An addition that does not fit leaves nothing to wait for. -/
theorem rearm_unfit (hdelta : a.delta ≠ 0) (hk : k < REARM_GUARD)
    (h : ∀ j < k, a.MeetsAfter new j) (hfits : ∀ j ≤ k, FitsI64 (a.advanced j))
    (hmet : a.MeetsAfter new k) (hunfit : ¬ FitsI64 (a.advanced (k + 1))) :
    rearm a.testType.toUInt32 new a.delta REARM_GUARD a.waitValue = none := by
  obtain ⟨guard, hguard⟩ := Nat.exists_eq_add_of_lt hk
  have hwait := toInt_ofInt_of_fitsI64 (hfits k (Nat.le_refl k))
  rw [hguard, Nat.add_assoc, rearm_advanced hdelta h hfits]
  refine rearm_overflow ?_ ?_
  · rwa [hwait]
  · rwa [hwait, ← advanced_succ]

theorem fired_rearmed (hmet : a.MeetsAfter new 0) (hdelta : a.delta ≠ 0) :
    a.Rearmed new (a.fired new) := by
  obtain ⟨k, hk, hrounds, hstop⟩ := exists_first_stop
    (fun j => a.MeetsAfter new j ∧ FitsI64 (a.advanced (j + 1))) REARM_GUARD
  have hfits : ∀ j ≤ k, FitsI64 (a.advanced j) := by
    intro j hj
    cases j with
    | zero => exact a.advanced_zero ▸ fitsI64_toInt _
    | succ j => exact (hrounds j hj).2
  have hmets : ∀ j < k, a.MeetsAfter new j := fun j hj => (hrounds j hj).1
  by_cases hunmet : ¬ a.MeetsAfter new k
  · -- the first wait value that is not met
    rw [fired_of_rearm hdelta (rearm_stopped hdelta hk hmets hfits (.inr hunmet))]
    refine .unmet (Nat.pos_of_ne_zero ?_) hk hmets hfits hunmet
    rintro rfl
    exact hunmet hmet
  rw [not_not] at hunmet
  rcases Nat.lt_or_eq_of_le hk with hlt | rfl
  · have hunfit : ¬ FitsI64 (a.advanced (k + 1)) :=
      fun hfit => hstop.resolve_left (Nat.ne_of_lt hlt) ⟨hunmet, hfit⟩
    rw [fired_of_rearm_none hdelta (rearm_unfit hdelta hlt hmets hfits hunmet hunfit)]
    refine .overflow hlt (fun j hj => ?_) (fun j hj => hfits j (Nat.le_of_lt_succ hj)) hunfit
    exact (Nat.lt_or_eq_of_le (Nat.le_of_lt_succ hj)).elim (hmets j) (· ▸ hunmet)
  · rw [fired_of_rearm hdelta (rearm_stopped hdelta hk hmets hfits (.inl rfl))]
    exact .givenUp (fun j hj => (Nat.lt_or_eq_of_le hj).elim (hmets j) (· ▸ hunmet)) hfits

/-! ## The alarms of a counter -/

/-- What becomes of an alarm that fires. -/
structure FiredAs (a : SyncAlarm) (new : Int64) (a' : SyncAlarm) : Prop where
  comparison : a.delta = 0 →
    (a.testType.toUInt32 = TEST_POSITIVE_COMPARISON ∨
      a.testType.toUInt32 = TEST_NEGATIVE_COMPARISON) →
    a' = { a with state := ALARM_STATE_INACTIVE }
  transition : a.delta = 0 →
    (a.testType.toUInt32 = TEST_POSITIVE_TRANSITION ∨
      a.testType.toUInt32 = TEST_NEGATIVE_TRANSITION) → a' = a
  rearmed : a.delta ≠ 0 → a.Rearmed new a'

theorem fires_iff {counter : UInt32} {old : Int64} : a.fires counter old new = true ↔
    a.counter = counter ∧ a.state = ALARM_STATE_ACTIVE ∧
      triggerFires a.testType.toUInt32 old new a.waitValue = true := by
  rw [fires, Bool.and_eq_true, Bool.and_eq_true, decide_eq_true_eq, decide_eq_true_eq, and_assoc]

theorem fired_firedAs {counter : UInt32} {old : Int64} (h : a.fires counter old new = true) :
    a.FiredAs new (a.fired new) := by
  obtain ⟨-, hactive, htrigger⟩ := fires_iff.mp h
  constructor
  · intro hdelta htest
    rw [fired, if_pos hdelta, if_pos htest]
  · intro hdelta htest
    rw [fired, if_pos hdelta, if_neg, ← hactive]
    rcases htest with htest | htest <;> rw [htest] <;> decide
  · refine fired_rearmed ?_
    rw [MeetsAfter, advanced_zero]
    exact .of_triggerFires htrigger

end SyncAlarm

namespace ServerState

variable {s : ServerState} {counter : UInt32} {old new : Int64} {id : ResourceId} {a : SyncAlarm}

theorem evaluateAlarms_get (h : s.syncAlarms[id]? = some a) :
    (s.evaluateAlarmsForCounter counter old new).1.syncAlarms[id]? =
      some (if a.fires counter old new then a.fired new else a) := by
  rw [evaluateAlarmsForCounter, Std.ExtTreeMap.getElem?_map, h]
  rfl

theorem mem_evaluateAlarms_notifies {notify : AlarmNotify} :
    notify ∈ (s.evaluateAlarmsForCounter counter old new).2 ↔
      ∃ (id : ResourceId) (a : SyncAlarm), s.syncAlarms[id]? = some a ∧
        a.fires counter old new = true ∧ a.events = true ∧
        notify = ⟨a.owner, id, new, a.waitValue, (a.fired new).state⟩ := by
  rw [evaluateAlarmsForCounter, List.mem_filterMap]
  constructor
  · rintro ⟨id, -, hid⟩
    obtain ⟨a, ha, hnotify⟩ := Option.bind_eq_some_iff.mp hid
    split at hnotify
    · next hfires =>
      rw [Bool.and_eq_true] at hfires
      exact ⟨id, a, ha, hfires.1, hfires.2, (Option.some.inj hnotify).symm⟩
    · cases hnotify
  · rintro ⟨id, a, ha, hfires, hevents, rfl⟩
    refine ⟨id, ?_, ?_⟩
    · rw [Std.ExtTreeMap.mem_keys, Std.ExtTreeMap.mem_iff_isSome_getElem?, ha]
      rfl
    · rw [ha, Option.bind_some, if_pos]
      rw [hfires, hevents]
      rfl

theorem nodup_evaluateAlarms_notifies :
    ((s.evaluateAlarmsForCounter counter old new).2.map AlarmNotify.alarm).Nodup := by
  have hkeys : s.syncAlarms.keys.Nodup := Std.ExtTreeMap.nodup_keys
  rw [evaluateAlarmsForCounter, List.Nodup, List.pairwise_map, List.pairwise_filterMap]
  refine hkeys.imp fun hne notify hnotify notify' hnotify' => ?_
  obtain ⟨a, -, ha⟩ := Option.bind_eq_some_iff.mp hnotify
  obtain ⟨a', -, ha'⟩ := Option.bind_eq_some_iff.mp hnotify'
  split at ha
  · split at ha'
    · cases ha
      cases ha'
      exact hne
    · cases ha'
  · cases ha

/-- Exactly the active alarms on the counter whose trigger is met fire, each tells its
owner if it has the events flag, and what becomes of it is determined by its delta. -/
theorem evaluateAlarms_fire (s : ServerState) (counter : UInt32) (old new : Int64) :
    let after := s.evaluateAlarmsForCounter counter old new
    let Fires (a : SyncAlarm) : Prop := a.counter = counter ∧ a.state = ALARM_STATE_ACTIVE ∧
      triggerFires a.testType.toUInt32 old new a.waitValue = true
    (∀ id : ResourceId, s.syncAlarms[id]? = none → after.1.syncAlarms[id]? = none) ∧
    (∀ (id : ResourceId) (a : SyncAlarm), s.syncAlarms[id]? = some a → ∃ a', after.1.syncAlarms[id]? = some a' ∧
      (Fires a → a.FiredAs new a') ∧ (¬ Fires a → a' = a)) ∧
    (∀ notify, notify ∈ after.2 ↔ ∃ (id : ResourceId) (a a' : SyncAlarm),
      s.syncAlarms[id]? = some a ∧ Fires a ∧ a.events = true ∧ after.1.syncAlarms[id]? = some a' ∧
      notify = ⟨a.owner, id, new, a.waitValue, a'.state⟩) ∧
    (after.2.map AlarmNotify.alarm).Nodup := by
  dsimp only
  simp only [← SyncAlarm.fires_iff]
  refine ⟨fun id hnone => ?_, fun id a ha => ?_, fun notify => ?_, ?_⟩
  · rw [evaluateAlarmsForCounter, Std.ExtTreeMap.getElem?_map, hnone]
    rfl
  · refine ⟨_, evaluateAlarms_get ha, fun hfires => ?_, fun hquiet => if_neg hquiet⟩
    rw [if_pos hfires]
    exact SyncAlarm.fired_firedAs hfires
  · rw [mem_evaluateAlarms_notifies]
    constructor
    · rintro ⟨id, a, ha, hfires, hevents, rfl⟩
      refine ⟨id, a, a.fired new, ha, hfires, hevents, ?_, rfl⟩
      rw [evaluateAlarms_get ha, if_pos hfires]
    · rintro ⟨id, a, a', ha, hfires, hevents, ha', rfl⟩
      rw [evaluateAlarms_get ha, if_pos hfires] at ha'
      cases ha'
      exact ⟨id, a, ha, hfires, hevents, rfl⟩
  · exact nodup_evaluateAlarms_notifies

/-! ## A delta that is too small -/

/-- It fires at 0 and then at each 1 of the counter. -/
def slowAlarm : SyncAlarm where
  owner := 1
  counter := 0x100000
  waitValue := 0
  delta := 1
  testType := 2
  events := true
  state := ALARM_STATE_ACTIVE

theorem slowAlarm_advanced (k : Nat) : slowAlarm.advanced k = k := by
  show (0 : Int) + k * 1 = k
  omega

theorem slowAlarm_meetsAfter (k : Nat) : slowAlarm.MeetsAfter 1000000 k ↔ k ≤ 1000000 := by
  have htest : Meets 2 1000000 (slowAlarm.advanced k) ↔ slowAlarm.advanced k ≤ 1000000 := by
    simp [Meets, TEST_POSITIVE_TRANSITION, TEST_NEGATIVE_TRANSITION, TEST_POSITIVE_COMPARISON,
      TEST_NEGATIVE_COMPARISON]
  refine htest.trans ?_
  rw [slowAlarm_advanced]
  omega

theorem slowAlarm_fired : slowAlarm.fired 1000000 =
    { slowAlarm with waitValue := 1000000, state := ALARM_STATE_ACTIVE } := by
  refine SyncAlarm.fired_of_rearm (by decide) ((SyncAlarm.rearm_stopped (by decide)
    (Nat.le_refl _) (fun j hj => ?_) (fun j hj => ?_) (.inl rfl)).trans ?_)
  · exact (slowAlarm_meetsAfter j).mpr (Nat.le_of_lt hj)
  · rw [REARM_GUARD] at hj
    rw [slowAlarm_advanced, FitsI64]
    omega
  · rw [slowAlarm_advanced]
    rfl

/-- A million additions of 1 do not get beyond the counter value of a million: the alarm
stays active at a wait value that is met. -/
theorem slowAlarm_gives_up :
    let s := { ServerState.new with
      syncAlarms := (∅ : ResourceMap SyncAlarm).insert 0x100001 slowAlarm }
    slowAlarm.fires 0x100000 0 1000000 = true ∧
    ¬ ∃ a', (s.evaluateAlarmsForCounter 0x100000 0 1000000).1.syncAlarms[(0x100001 : ResourceId)]? =
        some a' ∧
      ((∃ k, 0 < k ∧ ¬ slowAlarm.MeetsAfter 1000000 k ∧
          (∀ j, 0 < j → j < k → slowAlarm.MeetsAfter 1000000 j) ∧
          a'.waitValue.toInt = slowAlarm.advanced k ∧ a'.state = ALARM_STATE_ACTIVE) ∨
        a'.waitValue = slowAlarm.waitValue ∧ a'.state = ALARM_STATE_INACTIVE) := by
  have hfires : slowAlarm.fires 0x100000 0 1000000 = true := by decide
  refine ⟨hfires, ?_⟩
  rintro ⟨a', ha', hlaw⟩
  rw [evaluateAlarms_get (ResourceMap.get_insert.trans (if_pos rfl)), if_pos hfires,
    slowAlarm_fired] at ha'
  cases ha'
  rcases hlaw with ⟨k, -, hunmet, -, hwait, -⟩ | ⟨-, hstate⟩
  · rw [slowAlarm_meetsAfter] at hunmet
    rw [slowAlarm_advanced] at hwait
    have hwait : (1000000 : Int) = k := hwait
    omega
  · cases hstate

end ServerState

end X12

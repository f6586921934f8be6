import X12.Core.Dpms
import X12.Lib.Deadline

/-! # The DPMS timer

The timer and the level are two cascades over the same timeouts. A level is ahead
when it is above the current one and enabled; the timer takes the earliest of the
levels ahead and the new level is the highest of those whose timeout has passed. -/

namespace X12

open Deadline

namespace DpmsState

def timeouts (dpms : DpmsState) : List (UInt8 × UInt32) :=
  [(1, dpms.standbyMs), (2, dpms.suspendMs), (3, dpms.offMs)]

/-- A level that the panel can still go to, with its timeout. -/
def Ahead (dpms : DpmsState) (level : UInt8) (ms : UInt32) : Prop :=
  (level, ms) ∈ dpms.timeouts ∧ dpms.powerLevel < level ∧ 0 < ms

variable {dpms : DpmsState} {next : Option UInt32} {times : Set Nat} {idleMs ms : UInt32}
  {level : UInt8}

theorem exists_ahead_iff {p : UInt32 → Prop} :
    (∃ level ms, dpms.Ahead level ms ∧ p ms) ↔
      dpms.powerLevel < 3 ∧ 0 < dpms.offMs ∧ p dpms.offMs ∨
        dpms.powerLevel < 2 ∧ 0 < dpms.suspendMs ∧ p dpms.suspendMs ∨
          dpms.powerLevel < 1 ∧ 0 < dpms.standbyMs ∧ p dpms.standbyMs := by
  simp only [Ahead, timeouts, List.mem_cons, Prod.mk.injEq, List.not_mem_nil, or_false]
  constructor
  · rintro ⟨_, _, ⟨⟨rfl, rfl⟩ | ⟨rfl, rfl⟩ | ⟨rfl, rfl⟩, hlevel, hpos⟩, hp⟩
    · exact .inr (.inr ⟨hlevel, hpos, hp⟩)
    · exact .inr (.inl ⟨hlevel, hpos, hp⟩)
    · exact .inl ⟨hlevel, hpos, hp⟩
  · rintro (⟨hlevel, hpos, hp⟩ | ⟨hlevel, hpos, hp⟩ | ⟨hlevel, hpos, hp⟩)
    · exact ⟨3, _, ⟨.inr (.inr ⟨rfl, rfl⟩), hlevel, hpos⟩, hp⟩
    · exact ⟨2, _, ⟨.inr (.inl ⟨rfl, rfl⟩), hlevel, hpos⟩, hp⟩
    · exact ⟨1, _, ⟨.inl ⟨rfl, rfl⟩, hlevel, hpos⟩, hp⟩

/-! ## The timer -/

theorem earliest_pushTimeout (h : Earliest (next.map UInt32.toNat) times) (p : Prop)
    [Decidable p] (ms : UInt32) :
    Earliest ((if p then pushTimeout next ms else next).map UInt32.toNat)
      ({t | p ∧ 0 < ms ∧ t = ms.toNat} ∪ times) := by
  by_cases hp : p ∧ 0 < ms
  · have hset : {t | p ∧ 0 < ms ∧ t = ms.toNat} ∪ times = insert ms.toNat times := by
      ext t
      simp [hp.1, hp.2]
    have hnext : (pushTimeout next ms).map UInt32.toNat =
        some ((next.map UInt32.toNat).elim ms.toNat fun n => min n ms.toNat) := by
      rw [pushTimeout, if_pos hp.2]
      cases next with
      | none => rfl
      | some n => exact congrArg some (UInt32.toNat_min n ms)
    rw [if_pos hp.1, hset, hnext]
    exact h.push ms.toNat
  · have hset : {t | p ∧ 0 < ms ∧ t = ms.toNat} ∪ times = times := by
      ext t
      simp only [Set.mem_union, Set.mem_ofPred_eq, or_iff_right_iff_imp]
      exact fun ht => absurd ⟨ht.1, ht.2.1⟩ hp
    have hnext : (if p then pushTimeout next ms else next) = next := by
      unfold pushTimeout
      grind
    rwa [hset, hnext]

theorem earliest_nextTimeout (dpms : DpmsState) :
    Earliest (dpms.nextTimeout.map UInt32.toNat)
      {t | ∃ level ms, dpms.Ahead level ms ∧ t = ms.toNat} := by
  have hnil : Earliest ((none : Option UInt32).map UInt32.toNat) ∅ := .nil
  have hstandby := earliest_pushTimeout hnil (dpms.powerLevel < 1) dpms.standbyMs
  have hsuspend := earliest_pushTimeout hstandby (dpms.powerLevel < 2) dpms.suspendMs
  have hoff := earliest_pushTimeout hsuspend (dpms.powerLevel < 3) dpms.offMs
  have hset : {t | ∃ level ms, dpms.Ahead level ms ∧ t = ms.toNat} =
      {t | dpms.powerLevel < 3 ∧ 0 < dpms.offMs ∧ t = dpms.offMs.toNat} ∪
        ({t | dpms.powerLevel < 2 ∧ 0 < dpms.suspendMs ∧ t = dpms.suspendMs.toNat} ∪
          ({t | dpms.powerLevel < 1 ∧ 0 < dpms.standbyMs ∧ t = dpms.standbyMs.toNat} ∪ ∅)) := by
    ext t
    simp only [exists_ahead_iff, Set.mem_union, Set.mem_ofPred_eq, Set.mem_empty_iff_false,
      or_false]
  rw [hset]
  exact hoff

/-! ## The level -/

/-- The new level is a level ahead whose timeout has passed, or the current one. -/
theorem ahead_of_nextDpmsLevel (dpms : DpmsState) (idleMs : UInt32) :
    nextDpmsLevel dpms.powerLevel idleMs dpms = dpms.powerLevel ∨
      ∃ ms, dpms.Ahead (nextDpmsLevel dpms.powerLevel idleMs dpms) ms ∧ ms ≤ idleMs := by
  unfold nextDpmsLevel Ahead timeouts
  grind

/-- No level ahead whose timeout has passed is above the new level. -/
theorem le_nextDpmsLevel (h : dpms.Ahead level ms) (hms : ms ≤ idleMs) :
    level ≤ nextDpmsLevel dpms.powerLevel idleMs dpms := by
  obtain ⟨hmem, hlevel, hpos⟩ := h
  simp only [timeouts, List.mem_cons, Prod.mk.injEq, List.not_mem_nil, or_false] at hmem
  unfold nextDpmsLevel
  grind

theorem powerLevel_le_nextDpmsLevel (dpms : DpmsState) (idleMs : UInt32) :
    dpms.powerLevel ≤ nextDpmsLevel dpms.powerLevel idleMs dpms := by
  rcases dpms.ahead_of_nextDpmsLevel idleMs with h | ⟨ms, h, -⟩
  · exact h.symm ▸ UInt8.le_refl _
  · exact UInt8.le_of_lt h.2.1

theorem powerLevel_lt_nextDpmsLevel_iff (dpms : DpmsState) (idleMs : UInt32) :
    dpms.powerLevel < nextDpmsLevel dpms.powerLevel idleMs dpms ↔
      ∃ level ms, dpms.Ahead level ms ∧ ms ≤ idleMs := by
  constructor
  · intro hlt
    rcases dpms.ahead_of_nextDpmsLevel idleMs with h | ⟨ms, h, hms⟩
    · exact absurd (h ▸ hlt) (UInt8.lt_irrefl _)
    · exact ⟨_, ms, h, hms⟩
  · rintro ⟨level, ms, h, hms⟩
    exact UInt8.lt_of_lt_of_le h.2.1 (le_nextDpmsLevel h hms)

end DpmsState

/-! ## The core loop -/

namespace DpmsTimer

variable {s : DpmsTimer} {now later : Instant}

/-- DPMS is on and no client suspends it. -/
structure Armed (s : DpmsTimer) : Prop where
  enabled : s.dpms.enabled = true
  kmsCapable : s.dpms.kmsCapable = true
  notSuspended : s.suspendCounts = []

theorem Armed.dpmsTransitionDeadline_eq (h : s.Armed) :
    s.dpmsTransitionDeadline = (s.dpms.nextTimeout.map UInt32.toNat).map
      fun t => s.dpms.lastActivity + t * 1000000 := by
  unfold dpmsTransitionDeadline
  simp only [h.enabled, h.kmsCapable, h.notSuspended, List.isEmpty_nil, Bool.not_true,
    Bool.or_self, Bool.false_eq_true, if_false, Option.map_map]
  rfl

/-- The timer has gone off when a level ahead has its timeout behind it. -/
theorem Armed.reached_iff (h : s.Armed) (now : Instant) :
    (∃ d, s.dpmsTransitionDeadline = some d ∧ d ≤ now) ↔
      ∃ level ms, s.dpms.Ahead level ms ∧ s.dpms.lastActivity + ms.toNat * 1000000 ≤ now := by
  have hmono : Monotone fun t => s.dpms.lastActivity + t * 1000000 := fun _ _ htu =>
    Nat.add_le_add_left (Nat.mul_le_mul_right 1000000 htu) _
  rw [h.dpmsTransitionDeadline_eq, (s.dpms.earliest_nextTimeout.map hmono).reached_iff]
  constructor
  · rintro ⟨_, ⟨_, ⟨level, ms, hahead, rfl⟩, rfl⟩, hle⟩
    exact ⟨level, ms, hahead, hle⟩
  · rintro ⟨level, ms, hahead, hle⟩
    exact ⟨_, ⟨_, ⟨level, ms, hahead, rfl⟩, rfl⟩, hle⟩

theorem le_asMillis_iff {start now ms : Nat} (hpos : 0 < ms) :
    ms ≤ Duration.asMillis (now - start) ↔ start + ms * 1000000 ≤ now := by
  rw [Duration.asMillis, Nat.le_div_iff_mul_le (by decide)]
  omega

/-- The idle time is rounded down and saturates, which no timeout notices. -/
theorem le_idleMs_iff (dpms : DpmsState) (hpos : 0 < ms) (now : Instant) :
    ms ≤ dpms.idleMs now ↔ dpms.lastActivity + ms.toNat * 1000000 ≤ now := by
  have hpos : 0 < ms.toNat := UInt32.lt_iff_toNat_lt.mp hpos
  rw [← le_asMillis_iff hpos, UInt32.le_iff_toNat_le, DpmsState.idleMs]
  by_cases hsize : Duration.asMillis (now - dpms.lastActivity) < UInt32.size
  · rw [if_pos hsize, UInt32.toNat_ofNat', Nat.mod_eq_of_lt hsize]
  · have hlt : ms.toNat < UInt32.size := ms.toNat_lt
    rw [if_neg hsize]
    exact ⟨fun _ => by omega, fun _ => Nat.le_of_lt_succ hlt⟩

/-- The timer and the level agree at every idle time. -/
theorem Armed.powerLevel_lt_iff (h : s.Armed) (idleMs : UInt32) :
    s.dpms.powerLevel < nextDpmsLevel s.dpms.powerLevel idleMs s.dpms ↔
      ∃ d, s.dpmsTransitionDeadline = some d ∧
        d ≤ s.dpms.lastActivity + Duration.fromMillis idleMs := by
  rw [h.reached_iff, DpmsState.powerLevel_lt_nextDpmsLevel_iff]
  refine exists_congr fun level => exists_congr fun ms => and_congr_right fun _ => ?_
  rw [UInt32.le_iff_toNat_le, Duration.fromMillis, Nat.add_le_add_iff_left,
    Nat.mul_le_mul_right_iff (by decide)]

/-- The same with the clock of the core loop. -/
theorem Armed.powerLevel_lt_idle_iff (h : s.Armed) (now : Instant) :
    s.dpms.powerLevel < nextDpmsLevel s.dpms.powerLevel (s.dpms.idleMs now) s.dpms ↔
      ∃ d, s.dpmsTransitionDeadline = some d ∧ d ≤ now := by
  rw [h.reached_iff, DpmsState.powerLevel_lt_nextDpmsLevel_iff]
  refine exists_congr fun level => exists_congr fun ms => and_congr_right fun hahead => ?_
  exact le_idleMs_iff s.dpms hahead.2.2 now

theorem Armed.applyDpmsTransition (h : s.Armed) (newLevel : UInt8) :
    (s.applyDpmsTransition newLevel).Armed :=
  ⟨h.enabled, h.kmsCapable, h.notSuspended⟩

/-- A level that is ahead of a later one was ahead of the current one. -/
theorem ahead_applyDpmsTransition {newLevel : UInt8} (hle : s.dpms.powerLevel ≤ newLevel)
    (h : (s.applyDpmsTransition newLevel).dpms.Ahead level ms) :
    s.dpms.Ahead level ms ∧ newLevel < level :=
  ⟨⟨h.1, UInt8.lt_of_le_of_lt hle h.2.1, h.2.2⟩, h.2.1⟩

/-- Once the timer has gone off the level goes up, to one from which the timer is
set for later. -/
theorem Armed.evaluateIdle_of_le (h : s.Armed) (hnow : now ≤ later) {d : Instant}
    (hd : s.dpmsTransitionDeadline = some d) (hle : d ≤ now) :
    s.dpms.powerLevel < (s.evaluateIdle now later).dpms.powerLevel ∧
      ∀ d', (s.evaluateIdle now later).dpmsTransitionDeadline = some d' → later < d' := by
  have hlt := (h.powerLevel_lt_idle_iff later).mpr ⟨d, hd, hle.trans hnow⟩
  have heq : s.evaluateIdle now later = s.applyDpmsTransition
      (nextDpmsLevel s.dpms.powerLevel (s.dpms.idleMs later) s.dpms) := by
    simp only [evaluateIdle, hd]
    rw [if_pos hle, if_pos (UInt8.ne_of_lt hlt).symm]
  rw [heq]
  refine ⟨hlt, fun d' hd' => Nat.lt_of_not_le fun hle' => ?_⟩
  obtain ⟨level, ms, hahead, hms⟩ :=
    ((h.applyDpmsTransition _).reached_iff later).mp ⟨d', hd', hle'⟩
  obtain ⟨hahead, hlevel⟩ := ahead_applyDpmsTransition (UInt8.le_of_lt hlt) hahead
  have hidle : ms ≤ s.dpms.idleMs later := (le_idleMs_iff s.dpms hahead.2.2 later).mpr hms
  exact UInt8.lt_irrefl _
    (UInt8.lt_of_lt_of_le hlevel (DpmsState.le_nextDpmsLevel hahead hidle))

/-- The level rises exactly at the idle times at which the timer has gone off, and
never falls. So a wakeup at the timer raises the level and sets the timer for later,
and before it nothing is due. -/
theorem Armed.timer_agrees (h : s.Armed) :
    (∀ idleMs, s.dpms.powerLevel ≤ nextDpmsLevel s.dpms.powerLevel idleMs s.dpms ∧
      (s.dpms.powerLevel < nextDpmsLevel s.dpms.powerLevel idleMs s.dpms ↔
        ∃ d, s.dpmsTransitionDeadline = some d ∧
          d ≤ s.dpms.lastActivity + Duration.fromMillis idleMs)) ∧
    (∀ now later d, now ≤ later → s.dpmsTransitionDeadline = some d → d ≤ now →
      s.dpms.powerLevel < (s.evaluateIdle now later).dpms.powerLevel ∧
        ∀ d', (s.evaluateIdle now later).dpmsTransitionDeadline = some d' → later < d') ∧
    ∀ now, (∀ d, s.dpmsTransitionDeadline = some d → now < d) →
      nextDpmsLevel s.dpms.powerLevel (s.dpms.idleMs now) s.dpms = s.dpms.powerLevel := by
  refine ⟨fun idleMs => ⟨s.dpms.powerLevel_le_nextDpmsLevel idleMs, h.powerLevel_lt_iff idleMs⟩,
    fun _ _ _ hnow hd hle => h.evaluateIdle_of_le hnow hd hle, fun now hbefore => ?_⟩
  rcases UInt8.lt_or_eq_of_le (s.dpms.powerLevel_le_nextDpmsLevel (s.dpms.idleMs now))
    with hlt | heq
  · obtain ⟨d, hd, hle⟩ := (h.powerLevel_lt_idle_iff now).mp hlt
    exact absurd (hbefore d hd) (Nat.not_lt_of_le hle)
  · exact heq.symm

/-- The timeouts are out of order and the panel leaps over a level. -/
def outOfOrder : DpmsTimer where
  dpms := { DpmsState.new true 5000000 with standbyMs := 30, suspendMs := 20, offMs := 0 }
  suspendCounts := []

theorem Armed.timer_agrees_outOfOrder :
    outOfOrder.dpmsTransitionDeadline = some 25000000 ∧
      (outOfOrder.evaluateIdle 25000000 26000000).dpms.powerLevel = 2 ∧
      outOfOrder.dpms.powerLevel <
        (outOfOrder.evaluateIdle 25000000 26000000).dpms.powerLevel :=
  ⟨by decide, by decide,
    ((Armed.timer_agrees ⟨rfl, rfl, rfl⟩).2.1 25000000 26000000 25000000 (by decide)
      (by decide) (by decide)).1⟩

end DpmsTimer

end X12

import Mathlib.Order.Bounds.Image

/-! # The next deadline

The earliest of the times at which something is due, built up one time after the
other. It has passed when one of the times has. -/

namespace Deadline

variable {α β : Type*} [LinearOrder α] [LinearOrder β] {next : Option α} {times : Set α}

structure Earliest (next : Option α) (times : Set α) : Prop where
  isLeast : ∀ t, next = some t → IsLeast times t
  empty : next = none → times = ∅

namespace Earliest

theorem nil : Earliest (none : Option α) ∅ := ⟨fun _ h => (nomatch h), fun _ => rfl⟩

theorem push (h : Earliest next times) (t : α) :
    Earliest (some (next.elim t fun n => min n t)) (insert t times) := by
  refine ⟨fun s hs => ?_, fun hnone => (nomatch hnone)⟩
  cases hs
  cases hnext : next with
  | none =>
    rw [h.empty hnext]
    exact ⟨Set.mem_insert t ∅, fun s hs => hs.elim (fun h => h.ge) fun h => h.elim⟩
  | some n =>
    have hleast := (h.isLeast n hnext).insert t
    rwa [min_comm] at hleast

theorem map (h : Earliest next times) {f : α → β} (hf : Monotone f) :
    Earliest (next.map f) (f '' times) := by
  constructor
  · intro t ht
    obtain ⟨n, hn, rfl⟩ := Option.map_eq_some_iff.mp ht
    exact hf.map_isLeast (h.isLeast n hn)
  · intro hnone
    rw [h.empty (Option.map_eq_none_iff.mp hnone), Set.image_empty]

theorem reached_iff (h : Earliest next times) (now : α) :
    (∃ d, next = some d ∧ d ≤ now) ↔ ∃ t ∈ times, t ≤ now := by
  constructor
  · rintro ⟨d, hd, hle⟩
    exact ⟨d, (h.isLeast d hd).1, hle⟩
  · rintro ⟨t, ht, hle⟩
    cases hnext : next with
    | none =>
      rw [h.empty hnext] at ht
      exact ht.elim
    | some d => exact ⟨d, rfl, ((h.isLeast d hnext).2 ht).trans hle⟩

end Earliest

end Deadline

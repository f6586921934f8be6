import Mathlib.Data.List.Basic

/-! # Maximal runs

The integers of an interval that have a property are cut into runs, from the left: a run is
open as long as it goes on, and closed by the first integer without the property. -/

namespace MaximalRuns

variable {p : Int → Bool} {a x s : Int} {opened : Option Int} {runs : List (Int × Int)}

/-- A run starts here: the property holds, and not one place to the left. -/
def Starts (p : Int → Bool) (a s : Int) : Prop :=
  a ≤ s ∧ p s = true ∧ (s = a ∨ p (s - 1) = false)

/-- The runs from `a` up to `x`. -/
structure IsRuns (p : Int → Bool) (a x : Int) (runs : List (Int × Int)) : Prop where
  start_le : a ≤ x
  mem_iff : ∀ c, a ≤ c → c < x → (p c = true ↔ ∃ r ∈ runs, r.1 ≤ c ∧ c < r.2)
  starts : ∀ r ∈ runs, Starts p a r.1
  bounds : ∀ r ∈ runs, r.1 < r.2 ∧ r.2 ≤ x
  apart : runs.Pairwise fun r r' => r.2 ≤ r'.1

/-- The runs from `a` up to `x`, where the last one may be open. -/
def Scanned (p : Int → Bool) (a x : Int) : Option Int → List (Int × Int) → Prop
  | none, runs => IsRuns p a x runs ∧ (x = a ∨ p (x - 1) = false)
  | some s, runs => IsRuns p a s runs ∧ Starts p a s ∧ s < x ∧ ∀ c, s ≤ c → c < x → p c = true

namespace IsRuns

theorem nil : IsRuns p a a [] where
  start_le := Int.le_refl a
  mem_iff c hle hlt := by omega
  starts r hr := by cases hr
  bounds r hr := by cases hr
  apart := .nil

theorem skip (h : IsRuns p a x runs) (hx : p x = false) : IsRuns p a (x + 1) runs where
  start_le := by have := h.start_le; omega
  mem_iff c hle hlt := by
    rcases Int.lt_or_eq_of_le (Int.lt_add_one_iff.mp hlt) with hlt | rfl
    · exact h.mem_iff c hle hlt
    · refine iff_of_false (by rw [hx]; exact Bool.false_ne_true) ?_
      rintro ⟨r, hr, -, hlt⟩
      have := (h.bounds r hr).2
      omega
  starts := h.starts
  bounds r hr := by
    obtain ⟨hproper, hle⟩ := h.bounds r hr
    exact ⟨hproper, by omega⟩
  apart := h.apart

/-- An open run is closed. -/
theorem close (h : IsRuns p a s runs) (hstarts : Starts p a s) (hlt : s < x)
    (hall : ∀ c, s ≤ c → c < x → p c = true) : IsRuns p a x (runs ++ [(s, x)]) where
  start_le := by have := hstarts.1; omega
  mem_iff c hle hc := by
    simp only [List.mem_append, or_and_right, exists_or, List.mem_singleton, exists_eq_left]
    by_cases hs : s ≤ c
    · exact iff_of_true (hall c hs hc) (.inr ⟨hs, hc⟩)
    · rw [h.mem_iff c hle (by omega)]
      exact (or_iff_left fun h => hs h.1).symm
  starts r hr := by
    rcases List.mem_append.mp hr with hr | hr
    · exact h.starts r hr
    · rwa [List.mem_singleton.mp hr]
  bounds r hr := by
    rcases List.mem_append.mp hr with hr | hr
    · obtain ⟨hproper, hle⟩ := h.bounds r hr
      exact ⟨hproper, by omega⟩
    · rw [List.mem_singleton.mp hr]
      exact ⟨hlt, Int.le_refl x⟩
  apart := by
    refine List.pairwise_append.mpr ⟨h.apart, List.pairwise_singleton _ _, ?_⟩
    intro r hr r' hr'
    rw [List.mem_singleton.mp hr']
    exact (h.bounds r hr).2

/-- Every start is the start of a run. -/
theorem exists_of_starts (h : IsRuns p a x runs) (hs : Starts p a s) (hlt : s < x) :
    ∃ r ∈ runs, r.1 = s := by
  obtain ⟨hle, hset, hleft⟩ := hs
  obtain ⟨r, hr, hrs, hsr⟩ := (h.mem_iff s hle hlt).mp hset
  refine ⟨r, hr, ?_⟩
  by_contra hne
  have hfirst := (h.starts r hr).1
  have hbefore : p (s - 1) = true :=
    (h.mem_iff (s - 1) (by omega) (by omega)).mpr ⟨r, hr, by omega, by omega⟩
  rcases hleft with rfl | hunset
  · omega
  · rw [hunset] at hbefore
    cases hbefore

end IsRuns

namespace Scanned

theorem start : Scanned p a a none [] :=
  ⟨.nil, .inl rfl⟩

theorem opens (h : Scanned p a x none runs) (hx : p x = true) :
    Scanned p a (x + 1) (some x) runs := by
  obtain ⟨hruns, hidle⟩ := h
  refine ⟨hruns, ⟨hruns.start_le, hx, hidle⟩, by omega, fun c hle hlt => ?_⟩
  rwa [show c = x by omega]

theorem goes_on (h : Scanned p a x (some s) runs) (hx : p x = true) :
    Scanned p a (x + 1) (some s) runs := by
  obtain ⟨hruns, hstarts, hlt, hall⟩ := h
  refine ⟨hruns, hstarts, by omega, fun c hle hc => ?_⟩
  rcases Int.lt_or_eq_of_le (Int.lt_add_one_iff.mp hc) with hc | rfl
  · exact hall c hle hc
  · exact hx

theorem stays_idle (h : Scanned p a x none runs) (hx : p x = false) :
    Scanned p a (x + 1) none runs :=
  ⟨h.1.skip hx, .inr (by rwa [Int.add_sub_cancel])⟩

theorem ends (h : Scanned p a x (some s) runs) (hx : p x = false) :
    Scanned p a (x + 1) none (runs ++ [(s, x)]) := by
  obtain ⟨hruns, hstarts, hlt, hall⟩ := h
  exact ⟨(hruns.close hstarts hlt hall).skip hx, .inr (by rwa [Int.add_sub_cancel])⟩

/-- The runs after the last integer: an open one is closed. -/
theorem finish (h : Scanned p a x opened runs) :
    IsRuns p a x (opened.elim runs fun s => runs ++ [(s, x)]) := by
  cases opened with
  | none => exact h.1
  | some s =>
    obtain ⟨hruns, hstarts, hlt, hall⟩ := h
    exact hruns.close hstarts hlt hall

end Scanned

end MaximalRuns

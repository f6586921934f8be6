import Mathlib.Data.List.Iterate
import Mathlib.Tactic.Linarith

/-! # Lines on a grid

A line from the origin to `(a, b)` is walked one pixel at a time, next to the ideal one. Of
the two coordinates the longer one moves in every step, so the walk ends. -/

namespace Lines

variable {a b : Int} {p q : Int × Int} {n : Nat}

/-- How far the point is off the ideal line along the shorter axis, times the longer side. -/
def offset (a b : Int) (p : Int × Int) : Int :=
  a * p.2 - b * p.1

/-- The next point: each axis moves unless the midpoint after a step on both is too far on
its other side. -/
def next (a b : Int) (p : Int × Int) : Int × Int :=
  let error := 2 * (offset a b p + a - b)
  (if -b ≤ error then p.1 + 1 else p.1, if error ≤ a then p.2 + 1 else p.2)

theorem offset_next (a b : Int) (p : Int × Int) :
    offset a b (next a b p) = offset a b p -
      (if -b ≤ 2 * (offset a b p + a - b) then b else 0) +
      (if 2 * (offset a b p + a - b) ≤ a then a else 0) := by
  rw [next]
  split <;> split <;> simp only [offset, mul_add, mul_one] <;> omega

/-- The points from `p` on, up to the one that `n` steps reach. -/
def walk (a b : Int) (p : Int × Int) (n : Nat) : List (Int × Int) :=
  List.iterate (next a b) p (n + 1)

/-- The coordinate along the longer axis. -/
def along (a b : Int) (p : Int × Int) : Int :=
  if b ≤ a then p.1 else p.2

/-- A point between the origin and the goal, at most half a pixel off the ideal line. -/
structure OnLine (a b : Int) (p : Int × Int) : Prop where
  nonneg₁ : 0 ≤ p.1
  nonneg₂ : 0 ≤ p.2
  le₁ : p.1 ≤ a
  le₂ : p.2 ≤ b
  above : -max a b ≤ 2 * offset a b p
  below : 2 * offset a b p ≤ max a b

theorem offset_swap : offset b a p.swap = -offset a b p := by
  simp only [offset, Prod.fst_swap, Prod.snd_swap]
  omega

/-- Neither axis is treated differently. -/
theorem next_swap : next b a p.swap = (next a b p).swap := by
  refine Prod.ext (if_congr ?_ rfl rfl) (if_congr ?_ rfl rfl)
  · rw [offset_swap]
    omega
  · rw [offset_swap]
    omega

namespace OnLine

theorem start (ha : 0 ≤ a) (hb : 0 ≤ b) : OnLine a b (0, 0) where
  nonneg₁ := le_rfl
  nonneg₂ := le_rfl
  le₁ := ha
  le₂ := hb
  above := by simp [offset, ha]
  below := by simp [offset, ha]

theorem swap (h : OnLine a b p) : OnLine b a p.swap where
  nonneg₁ := h.nonneg₂
  nonneg₂ := h.nonneg₁
  le₁ := h.le₂
  le₂ := h.le₁
  above := by
    have := h.below
    rw [offset_swap]
    omega
  below := by
    have := h.above
    rw [offset_swap]
    omega

/-- At the far end of a flat line the goal is reached. -/
theorem eq_goal (h : OnLine a b p) (hflat : b ≤ a) (hend : p.1 = a) : p = (a, b) := by
  have hle := h.le₂
  have hnonneg := h.nonneg₂
  have habove := h.above
  rw [max_eq_left hflat, offset, hend] at habove
  refine Prod.ext hend (le_antisymm hle ?_)
  by_contra hlt
  have hstep : a * (p.2 + 1) ≤ a * b := mul_le_mul_of_nonneg_left (by omega) (by omega)
  rw [mul_add, mul_one] at hstep
  have hcomm : b * a = a * b := mul_comm b a
  omega

/-- A flat line moves along its longer axis, and stays next to the ideal line. -/
theorem next_flat (h : OnLine a b p) (hflat : b ≤ a) (hlt : p.1 < a) :
    OnLine a b (next a b p) ∧ (next a b p).1 = p.1 + 1 := by
  obtain ⟨nonneg₁, nonneg₂, le₁, le₂, above, below⟩ := h
  rw [max_eq_left hflat] at above below
  have hmoves : (next a b p).1 = p.1 + 1 := if_pos (by omega)
  have hoffset : offset a b (p.1 + 1, p.2) = offset a b p - b := by
    simp only [offset, mul_add, mul_one]
    omega
  have hdiagonal : offset a b (p.1 + 1, p.2 + 1) = offset a b p + a - b := by
    simp only [offset, mul_add, mul_one]
    omega
  refine ⟨?_, hmoves⟩
  by_cases hrises : 2 * (offset a b p + a - b) ≤ a
  · have hnext : next a b p = (p.1 + 1, p.2 + 1) := Prod.ext hmoves (if_pos hrises)
    have hle : p.2 + 1 ≤ b := by
      by_contra htop
      have htop : p.2 = b := by omega
      have hbelow : b * (p.1 + 1) ≤ b * a := mul_le_mul_of_nonneg_left (by omega) (by omega)
      have hcomm : b * a = a * b := mul_comm b a
      rw [offset, htop] at hrises
      rw [mul_add, mul_one] at hbelow
      omega
    rw [hnext]
    exact ⟨by omega, by omega, by omega, hle, by rw [max_eq_left hflat, hdiagonal]; omega,
      by rw [max_eq_left hflat, hdiagonal]; omega⟩
  · have hnext : next a b p = (p.1 + 1, p.2) := Prod.ext hmoves (if_neg hrises)
    rw [hnext]
    exact ⟨by omega, nonneg₂, by omega, le₂, by rw [max_eq_left hflat, hoffset]; omega,
      by rw [max_eq_left hflat, hoffset]; omega⟩

theorem eq_goal_of_along (h : OnLine a b p) (hend : along a b p = max a b) : p = (a, b) := by
  rw [along] at hend
  split at hend
  · next hflat => exact h.eq_goal hflat (hend.trans (max_eq_left hflat))
  · next hsteep =>
    have hsteep : a ≤ b := by omega
    have hswap := h.swap.eq_goal hsteep (hend.trans (max_eq_right hsteep))
    rw [← p.swap_swap, hswap]
    rfl

/-- A step short of the goal is one along the longer axis. -/
theorem next (h : OnLine a b p) (hlt : along a b p < max a b) :
    OnLine a b (next a b p) ∧ along a b (Lines.next a b p) = along a b p + 1 := by
  simp only [along] at hlt ⊢
  split
  · next hflat =>
    rw [if_pos hflat, max_eq_left hflat] at hlt
    exact h.next_flat hflat hlt
  · next hsteep =>
    rw [if_neg hsteep, max_eq_right (by omega)] at hlt
    have hnext := h.swap.next_flat (by omega) hlt
    rw [next_swap] at hnext
    exact ⟨hnext.1.swap, hnext.2⟩

/-- A walk along the whole line ends at the goal, next to the ideal line all the way, and every
step of it is along the longer axis. -/
theorem walk (h : OnLine a b p) (hlength : along a b p + n = max a b) :
    (∀ q ∈ walk a b p n, OnLine a b q) ∧ (walk a b p n).getLast? = some (a, b) ∧
      (walk a b p n).IsChain fun p q => q = Lines.next a b p ∧ p ≠ q := by
  induction n generalizing p with
  | zero =>
    have hgoal := h.eq_goal_of_along (by omega)
    exact ⟨fun q hq => List.mem_singleton.mp hq ▸ h, congrArg some hgoal, .singleton p⟩
  | succ n ih =>
    obtain ⟨hnext, hmoves⟩ := h.next (by omega)
    obtain ⟨hall, hlast, hchain⟩ := ih hnext (by omega)
    refine ⟨?_, ?_, ?_⟩
    · intro q hq
      rcases List.mem_cons.mp hq with rfl | hq
      · exact h
      · exact hall q hq
    · rw [Lines.walk, List.iterate, List.iterate, List.getLast?_cons_cons]
      exact hlast
    · refine .cons_cons ⟨rfl, fun heq => ?_⟩ hchain
      rw [← heq] at hmoves
      omega

end OnLine

/-- The next point is one of the neighbours towards the goal. -/
theorem next_neighbour (a b : Int) (p : Int × Int) :
    ((next a b p).1 = p.1 ∨ (next a b p).1 = p.1 + 1) ∧
      ((next a b p).2 = p.2 ∨ (next a b p).2 = p.2 + 1) :=
  ⟨(ite_eq_or_eq ..).symm, (ite_eq_or_eq ..).symm⟩

end Lines

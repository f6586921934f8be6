import Mathlib.Tactic.Common

/-! # The longest gap

Numbers are marked, and a scan along the marks in their order keeps the longest run without
a mark that it has passed. -/

namespace Gaps

/-- The numbers from `s` on, `n` of them, are not marked. -/
def Free (mark : Nat → Prop) (s n : Nat) : Prop :=
  ∀ x, s ≤ x → x < s + n → ¬ mark x

/-- Of the runs without a mark between `lo` and `hi`, without `hi`, this is a longest one. -/
structure Longest (mark : Nat → Prop) (lo hi s n : Nat) : Prop where
  inside : 0 < n → lo ≤ s ∧ s + n ≤ hi
  free : Free mark s n
  longest : ∀ s' n', lo ≤ s' → s' + n' ≤ hi → Free mark s' n' → n' ≤ n

variable {mark : Nat → Prop} {lo c u s n : Nat}

theorem Longest.nil (mark : Nat → Prop) (lo : Nat) : Longest mark lo lo 0 0 where
  inside h := absurd h (Nat.lt_irrefl 0)
  free x _ hx := absurd hx (by omega)
  longest s' n' hs hn _ := by omega

/-- No run goes across a place whose predecessor is marked. -/
theorem Free.split {s' n' : Nat} (hfree : Free mark s' n') (hedge : c ≤ lo ∨ mark (c - 1))
    (hs : lo ≤ s') : c ≤ s' ∨ s' + n' ≤ c := by
  rcases hedge with hedge | hedge
  · exact .inl (Nat.le_trans hedge hs)
  · by_contra hcross
    exact hfree (c - 1) (by omega) (by omega) hedge

/-- A run that reaches from one edge on is the longest of those that follow. -/
theorem Longest.extend (h : Longest mark lo c s n) (hedge : c ≤ lo ∨ mark (c - 1)) (hlo : lo ≤ c)
    (hcu : c ≤ u) (hfree : Free mark c (u - c)) :
    Longest mark lo u (if n < u - c then c else s) (max n (u - c)) := by
  have hlongest (s' n' : Nat) (hs : lo ≤ s') (hn : s' + n' ≤ u) (hfree' : Free mark s' n') :
      n' ≤ max n (u - c) := by
    rcases hfree'.split hedge hs with hright | hleft
    · omega
    · exact Nat.le_trans (h.longest s' n' hs hleft hfree') (Nat.le_max_left _ _)
  by_cases hlonger : n < u - c
  · rw [if_pos hlonger, Nat.max_eq_right (Nat.le_of_lt hlonger)] at *
    exact ⟨fun _ => ⟨hlo, by omega⟩, hfree, hlongest⟩
  · have hkept := Nat.le_of_not_lt hlonger
    rw [if_neg hlonger, Nat.max_eq_left hkept] at *
    refine ⟨fun hn => ?_, h.free, hlongest⟩
    obtain ⟨hs, hc⟩ := h.inside hn
    exact ⟨hs, Nat.le_trans hc hcu⟩

/-- A mark ends all runs. -/
theorem Longest.marked (h : Longest mark lo u s n) (hmark : mark u) :
    Longest mark lo (u + 1) s n where
  inside hn := ⟨(h.inside hn).1, Nat.le_succ_of_le (h.inside hn).2⟩
  free := h.free
  longest s' n' hs hn hfree := by
    by_cases hbefore : s' + n' ≤ u
    · exact h.longest s' n' hs hbefore hfree
    · by_cases hempty : n' = 0
      · rw [hempty]
        exact Nat.zero_le n
      · exact absurd hmark (hfree u (by omega) (by omega))

/-- Without a run everything is marked. -/
theorem Longest.eq_zero_iff {hi : Nat} (h : Longest mark lo hi s n) :
    n = 0 ↔ ∀ x, lo ≤ x → x < hi → mark x := by
  constructor
  · rintro rfl x hx hlt
    by_contra hfree
    have := h.longest x 1 hx hlt fun y hy hlt => by
      obtain rfl : y = x := by omega
      exact hfree
    omega
  · intro hall
    by_contra hn
    obtain ⟨hs, hhi⟩ := h.inside (Nat.pos_of_ne_zero hn)
    exact h.free s (Nat.le_refl s) (by omega) (hall s hs (by omega))

end Gaps

import Mathlib.Algebra.Group.Nat.Even
import Mathlib.Algebra.Ring.Parity
import Mathlib.Data.List.Rotate
import Mathlib.Data.List.Sort
import Mathlib.Order.MinMax

/-! # The even-odd rule

A point is inside if an odd number of the boundaries come before it. On a line this is
membership in the spans between the boundaries, paired up in order. Along a closed path the
changes from one side to the other are even in number, so that the pairs come out. -/

namespace EvenOdd

/-! ## Spans between sorted boundaries -/

section

variable {α : Type*} [LinearOrder α] {a x : α} {l : List α} {s : α × α}

/-- The boundaries in pairs, the start of a span with its end. -/
def spans : List α → List (α × α)
  | [] => []
  | [_] => []
  | a :: b :: rest => (a, b) :: spans rest

theorem le_of_mem_spans (hsorted : ∀ b ∈ l, a ≤ b) (hs : s ∈ spans l) : a ≤ s.1 := by
  induction l using spans.induct with
  | case1 | case2 => cases hs
  | case3 b c rest ih =>
    rcases List.mem_cons.mp hs with rfl | hs
    · exact hsorted b List.mem_cons_self
    · exact ih (fun d hd => hsorted d (List.mem_cons_of_mem _ (List.mem_cons_of_mem _ hd))) hs

omit [LinearOrder α] in
theorem mem_of_mem_spans (hs : s ∈ spans l) : s.1 ∈ l ∧ s.2 ∈ l := by
  induction l using spans.induct with
  | case1 | case2 => cases hs
  | case3 b c rest ih =>
    rcases List.mem_cons.mp hs with rfl | hs
    · exact ⟨List.mem_cons_self, List.mem_cons_of_mem _ List.mem_cons_self⟩
    · obtain ⟨hfirst, hsecond⟩ := ih hs
      exact ⟨List.mem_cons_of_mem _ (List.mem_cons_of_mem _ hfirst),
        List.mem_cons_of_mem _ (List.mem_cons_of_mem _ hsecond)⟩

/-- No span starts before the one before it has ended. -/
theorem spans_pairwise (hsorted : l.Pairwise (· ≤ ·)) :
    (spans l).Pairwise fun s t => s.2 ≤ t.1 := by
  induction l using spans.induct with
  | case1 | case2 => exact .nil
  | case3 b c rest ih =>
    have hrest := List.pairwise_cons.mp (List.pairwise_cons.mp hsorted).2
    exact .cons (fun t ht => le_of_mem_spans hrest.1 ht) (ih hrest.2)

theorem countP_le_eq_zero (h : ∀ a ∈ l, x < a) : l.countP (· ≤ x) = 0 :=
  List.countP_eq_zero.mpr fun a ha hle =>
    absurd (of_decide_eq_true hle) (not_le_of_gt (h a ha))

/-- Within a span is after an odd number of boundaries. -/
theorem exists_mem_spans_iff (hsorted : l.Pairwise (· ≤ ·)) (heven : Even l.length) :
    (∃ s ∈ spans l, s.1 ≤ x ∧ x < s.2) ↔ Odd (l.countP (· ≤ x)) := by
  induction l using spans.induct with
  | case1 => simp [spans]
  | case2 a => exact absurd heven Nat.not_even_one
  | case3 b c rest ih =>
    obtain ⟨hb, htail⟩ := List.pairwise_cons.mp hsorted
    obtain ⟨hc, hrest⟩ := List.pairwise_cons.mp htail
    have hbc : b ≤ c := hb c List.mem_cons_self
    have ih := ih hrest (by simpa [Nat.even_add_one] using heven)
    rw [spans, List.exists_mem_cons_iff, ih, List.countP_cons, List.countP_cons]
    rcases lt_or_ge x c with hx | hx
    · rw [countP_le_eq_zero fun d hd => hx.trans_le (hc d hd)]
      by_cases hbx : b ≤ x
      · simp [hbx, hx, hx.not_ge]
      · simp [hbx, hx.not_ge]
    · have hbx : b ≤ x := hbc.trans hx
      simp [hbx, hx, hx.not_gt, Nat.odd_add_one]

end

/-! ## Closed paths -/

section

variable {β : Type*} (p : β → Bool)

/-- The changes along a path are odd in number if its ends are on different sides. -/
theorem odd_changes_iff (a c : β) (l : List β) :
    Odd (((a :: l).zip (l ++ [c])).countP fun e => p e.1 != p e.2) ↔ p a ≠ p c := by
  induction l generalizing a with
  | nil => cases ha : p a <;> cases hc : p c <;> simp [ha, hc]
  | cons b l ih =>
    rw [List.cons_append, List.zip_cons_cons, List.countP_cons]
    specialize ih b
    by_cases hab : p a = p b
    · rw [if_neg (by simp [hab]), add_zero, ih, hab]
    · rw [if_pos (by simp [hab]), Nat.odd_add_one, ih]
      cases ha : p a <;> cases hb : p b <;> simp_all

theorem even_changes (l : List β) :
    Even ((l.zip (l.rotate 1)).countP fun e => p e.1 != p e.2) := by
  cases l with
  | nil => exact Even.zero
  | cons a l =>
    rw [List.rotate_cons_succ, List.rotate_zero, ← Nat.not_odd_iff_even, odd_changes_iff]
    exact not_not_intro rfl

end

/-! ## Parities of two counts -/

theorem odd_iff_odd_iff_even {β : Type*} {p q r : β → Bool} {l : List β}
    (h : ∀ b ∈ l, r b = (p b != q b)) :
    (Odd (l.countP p) ↔ Odd (l.countP q)) ↔ Even (l.countP r) := by
  induction l with
  | nil => simp
  | cons b l ih =>
    have ih := ih fun c hc => h c (List.mem_cons_of_mem _ hc)
    rw [List.countP_cons, List.countP_cons, List.countP_cons, h b List.mem_cons_self]
    simp only [Nat.odd_iff, Nat.even_iff] at ih ⊢
    cases p b <;> cases q b <;> simp <;> omega

end EvenOdd

import Mathlib.Data.List.Basic

/-! # Stretches of a list

A list is cut from the left: an element that is kept starts a stretch, which
goes on as long as the elements after it match the first one; the others are
skipped. Run-length encoding and the merging of equal neighbours are cuts of
this kind. -/

namespace Stretches

variable {α : Type*}

structure Stretch (α : Type*) where
  start : Nat
  size : Nat
  /-- The element at the start. -/
  value : α
  deriving DecidableEq, Repr

namespace Stretch

def Covers (s : Stretch α) (k : Nat) : Prop :=
  s.start ≤ k ∧ k < s.start + s.size

instance (s : Stretch α) (k : Nat) : Decidable (s.Covers k) :=
  inferInstanceAs (Decidable (_ ∧ _))

end Stretch

variable (keep : α → Bool) (same : α → α → Bool) (l : List α)

/-- The stretches of a list from a position on. -/
def stretchesFrom (i : Nat) : List (Stretch α) :=
  if h : i < l.length then
    if keep l[i] then
      let size := ((l.drop (i + 1)).takeWhile (same l[i])).length + 1
      ⟨i, size, l[i]⟩ :: stretchesFrom (i + size)
    else stretchesFrom (i + 1)
  else []
termination_by l.length - i

/-- A kept element and as many elements after it as match it. -/
structure Maximal (s : Stretch α) : Prop where
  value : l[s.start]? = some s.value
  keep : keep s.value = true
  pos : 0 < s.size
  matched : ∀ {k}, s.start < k → k < s.start + s.size → ∃ b, l[k]? = some b ∧ same s.value b = true
  stop : ∀ {b}, l[s.start + s.size]? = some b → same s.value b = false

/-- A cut of a list from a position on. -/
inductive Cut : Nat → List (Stretch α) → Prop
  | done {i : Nat} : l.length ≤ i → Cut i []
  | skip {i : Nat} {a : α} {stretches : List (Stretch α)} :
    l[i]? = some a → keep a = false → Cut (i + 1) stretches → Cut i stretches
  | take {s : Stretch α} {stretches : List (Stretch α)} :
    Maximal keep same l s → Cut (s.start + s.size) stretches → Cut s.start (s :: stretches)

variable {keep same l} {i k : Nat} {a b : α} {s t : Stretch α} {stretches : List (Stretch α)}

theorem getElem?_of_lt_takeWhile {p : α → Bool} (hk : k < (l.takeWhile p).length) :
    ∃ b, l[k]? = some b ∧ p b = true := by
  induction l generalizing k with
  | nil => exact absurd hk (Nat.not_lt_zero k)
  | cons a l ih =>
    by_cases ha : p a = true
    · rw [List.takeWhile_cons_of_pos ha] at hk
      cases k with
      | zero => exact ⟨a, rfl, ha⟩
      | succ k => exact ih (Nat.lt_of_succ_lt_succ hk)
    · rw [List.takeWhile_cons_of_neg ha] at hk
      exact absurd hk (Nat.not_lt_zero k)

theorem getElem?_length_takeWhile {p : α → Bool} (hb : l[(l.takeWhile p).length]? = some b) :
    p b = false := by
  induction l with
  | nil => exact nomatch hb
  | cons a l ih =>
    by_cases ha : p a = true
    · rw [List.takeWhile_cons_of_pos ha] at hb
      exact ih hb
    · rw [List.takeWhile_cons_of_neg ha] at hb
      cases hb
      exact Bool.eq_false_iff.mpr ha

theorem maximal_takeWhile (h : i < l.length) (hkeep : keep l[i] = true) :
    Maximal keep same l ⟨i, ((l.drop (i + 1)).takeWhile (same l[i])).length + 1, l[i]⟩ where
  value := List.getElem?_eq_getElem h
  keep := hkeep
  pos := Nat.succ_pos _
  matched {k} hlt hsize := by
    obtain ⟨n, rfl⟩ := Nat.exists_eq_add_of_lt hlt
    have hn : n < ((l.drop (i + 1)).takeWhile (same l[i])).length := by
      dsimp only at hsize
      omega
    obtain ⟨b, hb, hsame⟩ := getElem?_of_lt_takeWhile hn
    rw [List.getElem?_drop] at hb
    exact ⟨b, by rw [← hb]; congr 1; dsimp only; omega, hsame⟩
  stop {b} hb := by
    have hdrop : (l.drop (i + 1))[((l.drop (i + 1)).takeWhile (same l[i])).length]? = some b := by
      rw [List.getElem?_drop, ← hb]
      congr 1
      dsimp only
      omega
    exact getElem?_length_takeWhile hdrop

theorem stretchesFrom_cut (keep : α → Bool) (same : α → α → Bool) (l : List α) (i : Nat) :
    Cut keep same l i (stretchesFrom keep same l i) := by
  induction i using stretchesFrom.induct keep same l with
  | case1 i h hkeep size ih =>
    rw [stretchesFrom, dif_pos h, if_pos hkeep]
    exact .take (maximal_takeWhile h hkeep) ih
  | case2 i h hkeep ih =>
    rw [stretchesFrom, dif_pos h, if_neg hkeep]
    exact .skip (List.getElem?_eq_getElem h) (Bool.eq_false_iff.mpr hkeep) ih
  | case3 i h =>
    rw [stretchesFrom, dif_neg h]
    exact .done (Nat.le_of_not_lt h)

namespace Cut

theorem start_le (h : Cut keep same l i stretches) (hs : s ∈ stretches) : i ≤ s.start := by
  induction h with
  | done => exact nomatch hs
  | skip _ _ _ ih => exact Nat.le_of_succ_le (ih hs)
  | take _ _ ih =>
    rcases List.mem_cons.mp hs with rfl | hs
    · exact Nat.le_refl _
    · exact Nat.le_trans (Nat.le_add_right _ _) (ih hs)

theorem maximal (h : Cut keep same l i stretches) (hs : s ∈ stretches) :
    Maximal keep same l s := by
  induction h with
  | done => exact nomatch hs
  | skip _ _ _ ih => exact ih hs
  | take hmax _ ih =>
    rcases List.mem_cons.mp hs with rfl | hs
    · exact hmax
    · exact ih hs

/-- The stretches follow one another. -/
theorem pairwise (h : Cut keep same l i stretches) :
    stretches.Pairwise fun s t => s.start + s.size ≤ t.start := by
  induction h with
  | done => exact .nil
  | skip _ _ _ ih => exact ih
  | take _ hrest ih => exact List.pairwise_cons.mpr ⟨fun _ ht => hrest.start_le ht, ih⟩

end Cut

namespace Maximal

theorem covered (h : Maximal keep same l s) (hk : s.Covers k) :
    ∃ b, l[k]? = some b ∧ (b = s.value ∨ same s.value b = true) := by
  obtain ⟨hstart, hsize⟩ := hk
  rcases Nat.lt_or_eq_of_le hstart with hlt | rfl
  · obtain ⟨b, hb, hsame⟩ := h.matched hlt hsize
    exact ⟨b, hb, .inr hsame⟩
  · exact ⟨s.value, h.value, .inl rfl⟩

theorem end_le (h : Maximal keep same l s) : s.start + s.size ≤ l.length := by
  have hpos := h.pos
  obtain ⟨b, hb, -⟩ := h.covered (k := s.start + s.size - 1) ⟨by omega, by omega⟩
  have := (List.getElem?_eq_some_iff.mp hb).1
  omega

/-- Two stretches that touch start with elements that do not match. -/
theorem same_eq_false (hs : Maximal keep same l s) (ht : Maximal keep same l t)
    (htouch : s.start + s.size = t.start) : same s.value t.value = false :=
  hs.stop (htouch ▸ ht.value)

end Maximal

/-- Where everything that matches a kept element is kept, a position is in one stretch
if its element is kept, and else in none. -/
theorem Cut.countP_covers (h : Cut keep same l i stretches)
    (hsame : ∀ a b, keep a = true → same a b = true → keep b = true) (hik : i ≤ k) :
    stretches.countP (fun s => s.Covers k) = if l[k]?.any keep then 1 else 0 := by
  have hlate : ∀ {j} {rest : List (Stretch α)}, Cut keep same l j rest → k < j →
      rest.countP (fun s => s.Covers k) = 0 := fun {j rest} hrest hlt => by
    refine List.countP_eq_zero.mpr fun s hs hcovers => ?_
    have hstart := hrest.start_le hs
    have := (of_decide_eq_true hcovers).1
    omega
  induction h with
  | done hlen => simp [List.getElem?_eq_none (Nat.le_trans hlen hik)]
  | @skip i a stretches ha hkeep hrest ih =>
    rcases Nat.lt_or_eq_of_le hik with hlt | rfl
    · exact ih hlt
    · simp [hlate hrest (Nat.lt_succ_self _), ha, hkeep]
  | @take s stretches hmax hrest ih =>
    by_cases hk : k < s.start + s.size
    · obtain ⟨b, hb, hor⟩ := hmax.covered ⟨hik, hk⟩
      have hkeep : keep b = true := by
        rcases hor with rfl | hmatch
        · exact hmax.keep
        · exact hsame _ _ hmax.keep hmatch
      have hcovers : s.Covers k := ⟨hik, hk⟩
      simp [hlate hrest hk, hb, hkeep, hcovers]
    · have hcovers : ¬ s.Covers k := fun h => hk h.2
      simpa [List.countP_cons, hcovers] using ih (Nat.le_of_not_lt hk)

end Stretches

import Mathlib.Tactic.Common

/-! # Tenure over a run

Something is taken in one step of a run and should be held for as long as the states are
busy, by the same holder, and be free from the first state on that is not. -/

structure Tenure (σ ι β : Type*) where
  step : σ → ι → σ
  held : σ → β → Prop
  busy : σ → Prop
  free : σ → Prop

namespace Tenure

variable {σ ι β : Type*} (T : Tenure σ ι β)

/-- The state after the first `n` inputs. -/
def after (s : σ) (inputs : List ι) (n : Nat) : σ :=
  (inputs.take n).foldl T.step s

/-- Between two positions of a run every state is busy. -/
def BusyFrom (s : σ) (inputs : List ι) (n m : Nat) : Prop :=
  ∀ k, n ≤ k → k ≤ m → T.busy (T.after s inputs k)

structure Kept (s : σ) (inputs : List ι) : Prop where
  stays : ∀ n m b, n ≤ m → m ≤ inputs.length → T.held (T.after s inputs n) b →
    T.BusyFrom s inputs n m → T.held (T.after s inputs m) b
  ends : ∀ n m b, n ≤ m → m < inputs.length → T.held (T.after s inputs n) b →
    T.BusyFrom s inputs n m → ¬ T.busy (T.after s inputs (m + 1)) →
    T.free (T.after s inputs (m + 1))

/-- What one step may do while something is held. -/
structure StepKeeps (s : σ) (i : ι) : Prop where
  stays : ∀ b, T.held s b → T.busy (T.step s i) → T.held (T.step s i) b
  ends : ∀ b, T.held s b → ¬ T.busy (T.step s i) → T.free (T.step s i)

/-- Nothing is held by anyone while it is free, and it is taken in busy states only. -/
structure Lawful : Prop where
  free : ∀ {s b}, T.free s → ¬ T.held s b
  takes : ∀ {s i b}, T.held (T.step s i) b → (∀ c, ¬ T.held s c) → T.busy (T.step s i)

variable {T} {s : σ} {inputs : List ι}

theorem after_succ {n : Nat} {i : ι} (h : inputs[n]? = some i) :
    T.after s inputs (n + 1) = T.step (T.after s inputs n) i := by
  rw [after, List.take_add_one, h, List.foldl_append]
  rfl

theorem Lawful.busy_of_held (hT : T.Lawful) {i : ι} (h : T.StepKeeps s i) {b : β}
    (hb : T.held (T.step s i) b) : T.busy (T.step s i) := by
  by_contra hidle
  by_cases hheld : ∃ c, T.held s c
  · obtain ⟨c, hc⟩ := hheld
    exact hT.free (h.ends c hc hidle) hb
  · exact hidle (hT.takes hb (not_exists.mp hheld))

/-- Whatever is held is held in a busy state, as long as the steps from such states keep it. -/
theorem Lawful.busy_after (hT : T.Lawful) (hstart : ∀ b, ¬ T.held s b)
    (h : ∀ n i, inputs[n]? = some i →
      (∀ b, T.held (T.after s inputs n) b → T.busy (T.after s inputs n)) →
      T.StepKeeps (T.after s inputs n) i) :
    ∀ n ≤ inputs.length, ∀ b, T.held (T.after s inputs n) b → T.busy (T.after s inputs n) := by
  intro n
  induction n with
  | zero =>
    intro _ b hb
    exact absurd hb (hstart b)
  | succ n ih =>
    intro hn b hb
    have hi : inputs[n]? = some inputs[n] := List.getElem?_eq_getElem hn
    rw [after_succ hi] at hb ⊢
    exact hT.busy_of_held (h n _ hi (ih (Nat.le_of_succ_le hn))) hb

theorem Kept.stepKeeps (h : T.Kept s inputs) {n : Nat} {i : ι} (hi : inputs[n]? = some i)
    (hbusy : ∀ b, T.held (T.after s inputs n) b → T.busy (T.after s inputs n)) :
    T.StepKeeps (T.after s inputs n) i := by
  have hn : n < inputs.length := (List.getElem?_eq_some_iff.mp hi).1
  refine ⟨fun b hb hnext => ?_, fun b hb hnext => ?_⟩ <;> rw [← after_succ hi] at hnext ⊢
  · refine h.stays n (n + 1) b (Nat.le_succ n) hn hb fun k hlow hhigh => ?_
    rcases Nat.le_succ_iff.mp hhigh with hhigh | rfl
    · cases Nat.le_antisymm hhigh hlow
      exact hbusy b hb
    · exact hnext
  · refine h.ends n n b (Nat.le_refl n) hn hb (fun k hlow hhigh => ?_) hnext
    cases Nat.le_antisymm hhigh hlow
    exact hbusy b hb

theorem stays_of_stepKeeps
    (h : ∀ n i, inputs[n]? = some i → T.StepKeeps (T.after s inputs n) i) {n m : Nat} {b : β}
    (hnm : n ≤ m) (hm : m ≤ inputs.length) (hb : T.held (T.after s inputs n) b)
    (hbusy : T.BusyFrom s inputs n m) : T.held (T.after s inputs m) b := by
  induction hnm with
  | refl => exact hb
  | @step m hnm ih =>
    have hi : inputs[m]? = some inputs[m] := List.getElem?_eq_getElem hm
    have hheld : T.held (T.after s inputs m) b :=
      ih (Nat.le_of_succ_le hm) fun k hlow hhigh => hbusy k hlow (Nat.le_succ_of_le hhigh)
    have hnext := hbusy (m + 1) (Nat.le_succ_of_le hnm) (Nat.le_refl _)
    rw [after_succ hi] at hnext ⊢
    exact (h m _ hi).stays b hheld hnext

/-- A run keeps what is taken exactly if its steps do. -/
theorem Lawful.kept_iff (hT : T.Lawful) (hstart : ∀ b, ¬ T.held s b) :
    T.Kept s inputs ↔ ∀ n i, inputs[n]? = some i → T.StepKeeps (T.after s inputs n) i := by
  constructor
  · intro h n i hi
    have hn : n ≤ inputs.length := Nat.le_of_lt (List.getElem?_eq_some_iff.mp hi).1
    exact h.stepKeeps hi (hT.busy_after hstart (fun _ _ => h.stepKeeps) n hn)
  · intro h
    refine ⟨fun n m b => stays_of_stepKeeps h, fun n m b hnm hm hb hbusy hidle => ?_⟩
    have hi : inputs[m]? = some inputs[m] := List.getElem?_eq_getElem hm
    have hheld := stays_of_stepKeeps h hnm (Nat.le_of_lt hm) hb hbusy
    rw [after_succ hi] at hidle ⊢
    exact (h m _ hi).ends b hheld hidle

end Tenure

import Mathlib.Tactic.Common

/-! # Numberings

Names stand for numbers and numbers for names, and each finds what the other has. A
numbering may be made of several that have no name and no number in common, and
grows by a name and a number that are both new. -/

namespace Numbering

variable {α β : Type*} {number number' : α → Option β} {name name' : β → Option α}
  {a a' : α} {b : β}

def Mutual (number : α → Option β) (name : β → Option α) : Prop :=
  ∀ a b, number a = some b ↔ name b = some a

namespace Mutual

theorem injective (h : Mutual number name) (ha : number a = some b) (ha' : number a' = some b) :
    a = a' :=
  Option.some.inj (((h a b).mp ha).symm.trans ((h a' b).mp ha'))

/-- Two numberings side by side. -/
theorem or (h : Mutual number name) (h' : Mutual number' name')
    (names : ∀ a b, number' a = some b → number a = none)
    (numbers : ∀ a b, name' b = some a → name b = none) :
    Mutual (fun a => (number a).or (number' a)) fun b => (name b).or (name' b) := by
  intro a b
  simp only [Option.or_eq_some_iff]
  constructor
  · rintro (ha | ⟨-, ha⟩)
    · exact .inl ((h a b).mp ha)
    · have hb := (h' a b).mp ha
      exact .inr ⟨numbers a b hb, hb⟩
  · rintro (hb | ⟨-, hb⟩)
    · exact .inl ((h a b).mpr hb)
    · have ha := (h' a b).mpr hb
      exact .inr ⟨names a b ha, ha⟩

/-- A new name gets a new number. -/
theorem insert [DecidableEq α] [DecidableEq β] (h : Mutual number name) (ha : number a = none)
    (hb : name b = none) (hnumber : ∀ x, number' x = if x = a then some b else number x)
    (hname : ∀ y, name' y = if y = b then some a else name y) : Mutual number' name' := by
  intro x y
  rw [hnumber, hname]
  by_cases hx : x = a
  · subst hx
    by_cases hy : y = b
    · simp [hy]
    · have hne : name y ≠ some x := fun hsome => by
        rw [(h x y).mpr hsome] at ha
        cases ha
      simp [hy, hne, Ne.symm hy]
  · by_cases hy : y = b
    · subst hy
      have hne : number x ≠ some y := fun hsome => by
        rw [(h x y).mp hsome] at hb
        cases hb
      simp [hx, hne, Ne.symm hx]
    · rw [if_neg hx, if_neg hy]
      exact h x y

end Mutual

end Numbering

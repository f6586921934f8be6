import Mathlib.Tactic.Common

/-! # Leases

A holder has at most one lease, and a lease that is given back waits for the next
holder. What is given back is not checked: that no two holders share a lease depends
on who gives back what. -/

namespace Leases

variable {κ α : Type*} {issued issued' : α → Prop} {held held' : κ → Option α} {free free' : List α}
  {j : κ} {a : α}

/-- No lease has two holders, and none that is held is free. All have been issued. -/
structure Exclusive (issued : α → Prop) (held : κ → Option α) (free : List α) : Prop where
  once : ∀ {k k' a}, held k = some a → held k' = some a → k = k'
  unfree : ∀ {k a}, held k = some a → a ∉ free
  nodup : free.Nodup
  held_issued : ∀ {k a}, held k = some a → issued a
  free_issued : ∀ {a}, a ∈ free → issued a

namespace Exclusive

theorem none : Exclusive issued (fun _ : κ => none) [] where
  once h := by cases h
  unfree h := by cases h
  nodup := .nil
  held_issued h := by cases h
  free_issued h := absurd h List.not_mem_nil

/-- Leases may be lost. -/
theorem lose (h : Exclusive issued held free)
    (hheld : ∀ {k a}, held' k = some a → held k = some a) : Exclusive issued held' free where
  once hk hk' := h.once (hheld hk) (hheld hk')
  unfree hk := h.unfree (hheld hk)
  nodup := h.nodup
  held_issued hk := h.held_issued (hheld hk)
  free_issued := h.free_issued

/-- The lease of `j` goes to another holder. -/
theorem hand (h : Exclusive issued held free) (j k₀ : κ)
    (hheld : ∀ {k a}, held' k = some a → (k ≠ j ∧ held k = some a) ∨ (k = k₀ ∧ held j = some a)) :
    Exclusive issued held' free where
  once hk hk' := by
    rcases hheld hk with ⟨hne, hk⟩ | ⟨rfl, hj⟩ <;> rcases hheld hk' with ⟨hne', hk'⟩ | ⟨rfl, hj'⟩
    · exact h.once hk hk'
    · exact absurd (h.once hk hj') hne
    · exact absurd (h.once hk' hj) hne'
    · rfl
  unfree hk := by
    rcases hheld hk with ⟨-, hk⟩ | ⟨-, hj⟩
    · exact h.unfree hk
    · exact h.unfree hj
  nodup := h.nodup
  held_issued hk := by
    rcases hheld hk with ⟨-, hk⟩ | ⟨-, hj⟩
    · exact h.held_issued hk
    · exact h.held_issued hj
  free_issued := h.free_issued

theorem giveBack (h : Exclusive issued held free) (hj : held j = some a)
    (hheld : ∀ {k b}, held' k = some b → k ≠ j ∧ held k = some b) :
    Exclusive issued held' (a :: free) where
  once hk hk' := h.once (hheld hk).2 (hheld hk').2
  unfree hk hmem := by
    obtain ⟨hne, hk⟩ := hheld hk
    rcases List.mem_cons.mp hmem with rfl | hfree
    · exact hne (h.once hk hj)
    · exact h.unfree hk hfree
  nodup := List.nodup_cons.mpr ⟨h.unfree hj, h.nodup⟩
  held_issued hk := h.held_issued (hheld hk).2
  free_issued hmem := by
    rcases List.mem_cons.mp hmem with rfl | hfree
    · exact h.held_issued hj
    · exact h.free_issued hfree

/-- Nobody has the lease that a holder takes. -/
theorem take (h : Exclusive issued held free) (k₀ : κ) (hunheld : ∀ k, held k ≠ some a) (hissued : issued a)
    (hunfree : a ∉ free)
    (hheld : ∀ {k b}, held' k = some b → held k = some b ∨ (k = k₀ ∧ b = a)) :
    Exclusive issued held' free where
  once hk hk' := by
    rcases hheld hk with hk | ⟨rfl, hb⟩ <;> rcases hheld hk' with hk' | ⟨rfl, hb'⟩
    · exact h.once hk hk'
    · exact absurd (hb' ▸ hk) (hunheld _)
    · exact absurd (hb ▸ hk') (hunheld _)
    · rfl
  unfree hk := by
    rcases hheld hk with hk | ⟨-, rfl⟩
    · exact h.unfree hk
    · exact hunfree
  nodup := h.nodup
  held_issued hk := by
    rcases hheld hk with hk | ⟨-, rfl⟩
    · exact h.held_issued hk
    · exact hissued
  free_issued := h.free_issued

theorem takeFree (h : Exclusive issued held (a :: free)) (k₀ : κ)
    (hheld : ∀ {k b}, held' k = some b → held k = some b ∨ (k = k₀ ∧ b = a)) :
    Exclusive issued held' free := by
  obtain ⟨hunfree, hnodup⟩ := List.nodup_cons.mp h.nodup
  have hrest : Exclusive issued held free :=
    { once := h.once
      unfree := fun hk hmem => h.unfree hk (List.mem_cons_of_mem _ hmem)
      nodup := hnodup
      held_issued := h.held_issued
      free_issued := fun hmem => h.free_issued (List.mem_cons_of_mem _ hmem) }
  exact hrest.take k₀ (fun k hk => h.unfree hk List.mem_cons_self) (h.free_issued List.mem_cons_self)
    hunfree hheld

theorem takeNew (h : Exclusive issued held free) (k₀ : κ) (hnew : ¬ issued a) (hissued : issued' a)
    (hmore : ∀ {b}, issued b → issued' b)
    (hheld : ∀ {k b}, held' k = some b → held k = some b ∨ (k = k₀ ∧ b = a)) :
    Exclusive issued' held' free := by
  have hmore : Exclusive issued' held free :=
    { once := h.once
      unfree := h.unfree
      nodup := h.nodup
      held_issued := fun hk => hmore (h.held_issued hk)
      free_issued := fun hmem => hmore (h.free_issued hmem) }
  exact hmore.take k₀ (fun k hk => hnew (h.held_issued hk)) hissued
    (fun hmem => hnew (h.free_issued hmem)) hheld

end Exclusive

end Leases

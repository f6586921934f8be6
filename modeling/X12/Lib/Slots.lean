import Mathlib.Data.List.Perm.Subperm

/-! # Slots that are taken and given back

A table of flags says which slots are taken. The holders of the slots are not in the
table: it is up to them that each slot has one holder, and that it is given back once. -/

namespace Slots

variable {flags : List Bool} {held held' : List Nat} {i : Nat}

/-- The slots that are held are those that are taken, each held once. -/
structure Taken (flags : List Bool) (held : List Nat) : Prop where
  nodup : held.Nodup
  mem_iff : ∀ i, i ∈ held ↔ flags[i]? = some true

namespace Taken

theorem perm (h : Taken flags held) (hperm : held.Perm held') : Taken flags held' where
  nodup := hperm.nodup_iff.mp h.nodup
  mem_iff i := hperm.mem_iff.symm.trans (h.mem_iff i)

theorem none (n : Nat) : Taken (List.replicate n false) [] where
  nodup := .nil
  mem_iff i := by
    refine iff_of_false List.not_mem_nil fun htaken => ?_
    have hmem := List.mem_of_getElem? htaken
    exact Bool.noConfusion (List.eq_of_mem_replicate hmem)

theorem lt_length (h : Taken flags held) (hi : i ∈ held) : i < flags.length :=
  (List.getElem?_eq_some_iff.mp ((h.mem_iff i).mp hi)).1

theorem not_mem (h : Taken flags held) (hi : flags[i]? = some false) : i ∉ held := by
  intro hmem
  rw [(h.mem_iff i).mp hmem] at hi
  cases hi

theorem take (h : Taken flags held) (hi : flags[i]? = some false) :
    Taken (flags.set i true) (i :: held) where
  nodup := List.nodup_cons.mpr ⟨h.not_mem hi, h.nodup⟩
  mem_iff j := by
    have hlt : i < flags.length := (List.getElem?_eq_some_iff.mp hi).1
    rw [List.mem_cons, h.mem_iff, List.getElem?_set]
    by_cases hij : i = j
    · rw [if_pos hij, if_pos hlt]
      exact iff_of_true (.inl hij.symm) rfl
    · rw [if_neg hij]
      exact or_iff_right (Ne.symm hij)

theorem giveBack (h : Taken flags (i :: held)) : Taken (flags.set i false) held where
  nodup := (List.nodup_cons.mp h.nodup).2
  mem_iff j := by
    have hother := h.mem_iff j
    rw [List.mem_cons] at hother
    rw [List.getElem?_set]
    by_cases hij : i = j
    · subst hij
      rw [if_pos rfl, if_pos (h.lt_length List.mem_cons_self)]
      exact iff_of_false (List.nodup_cons.mp h.nodup).1 fun heq => by cases heq
    · rw [if_neg hij, ← hother]
      exact (or_iff_right (Ne.symm hij)).symm

/-- There are no more holders than slots. -/
theorem length_le (h : Taken flags held) : held.length ≤ flags.length := by
  have hsub : held ⊆ List.range flags.length :=
    fun i hi => List.mem_range.mpr (h.lt_length hi)
  have hle := (List.subperm_of_subset h.nodup hsub).length_le
  rwa [List.length_range] at hle

/-- As long as there are fewer holders than slots a slot is free. -/
theorem exists_free (h : Taken flags held) (hlt : held.length < flags.length) :
    ∃ i : Nat, flags[i]? = some false := by
  by_contra hnone
  have hall : ∀ i ∈ List.range flags.length, i ∈ held := by
    intro i hi
    have hlt := List.mem_range.mp hi
    rw [h.mem_iff]
    cases hflag : flags[i] with
    | true => rw [List.getElem?_eq_getElem hlt, hflag]
    | false => exact absurd ⟨i, by rw [List.getElem?_eq_getElem hlt, hflag]⟩ hnone
  have hle := (List.subperm_of_subset List.nodup_range hall).length_le
  rw [List.length_range] at hle
  omega

end Taken

end Slots

import Mathlib.Data.List.Basic

/-! # Queues

Items enter at the back of a queue and leave at the front, some at a time. What
has left and what is still queued is, in order, what has entered: no item leaves
twice, is lost or overtakes another. -/

namespace Fifo

variable {α : Type*} {entered left queued xs : List α}

structure Conserves (entered left queued : List α) : Prop where
  split : left ++ queued = entered

namespace Conserves

theorem nil : Conserves ([] : List α) [] [] := ⟨rfl⟩

theorem enter (h : Conserves entered left queued) (xs : List α) :
    Conserves (entered ++ xs) left (queued ++ xs) :=
  ⟨by rw [← List.append_assoc, h.split]⟩

theorem leave (h : Conserves entered left (xs ++ queued)) : Conserves entered (left ++ xs) queued :=
  ⟨by rw [List.append_assoc, h.split]⟩

/-- With an empty queue items go through at once. -/
theorem pass (h : Conserves entered left []) (xs : List α) :
    Conserves (entered ++ xs) (left ++ xs) [] := by
  have := h.enter xs
  rw [List.nil_append] at this
  exact leave (by rwa [List.append_nil])

end Conserves

end Fifo

import Mathlib.Data.List.Basic

/-! # Items that pass a gate in turn

Items arrive at a gate that is open or closed. A closed gate withholds them, an
open one lets them through; an item that was let through is under way until it
is delivered. -/

namespace Turns

variable {α : Type*} {arrived delivered underWay withheld : List α} {a : α}

/-- Everything that arrived has been delivered, is under way or is withheld, in
the order of arrival. -/
structure InTurn (arrived delivered underWay withheld : List α) : Prop where
  split : delivered ++ underWay ++ withheld = arrived

namespace InTurn

theorem nil : InTurn ([] : List α) [] [] [] := ⟨rfl⟩

theorem withhold (h : InTurn arrived delivered underWay withheld) (a : α) :
    InTurn (arrived ++ [a]) delivered underWay (withheld ++ [a]) :=
  ⟨by rw [← List.append_assoc, h.split]⟩

/-- An item is let through when nothing else waits. -/
theorem letIn (h : InTurn arrived delivered [] []) (a : α) :
    InTurn (arrived ++ [a]) delivered [a] [] := by
  constructor
  rw [List.append_nil, ← h.split, List.append_nil, List.append_nil]

/-- The item that was withheld first is let through when nothing is under way. -/
theorem takeUp (h : InTurn arrived delivered [] (a :: withheld)) :
    InTurn arrived delivered [a] withheld := by
  constructor
  rw [List.append_assoc, List.singleton_append, ← h.split, List.append_nil]

theorem deliver (h : InTurn arrived delivered (a :: underWay) withheld) :
    InTurn arrived (delivered ++ [a]) underWay withheld := by
  constructor
  rw [← h.split, List.append_assoc delivered [a], List.singleton_append]

/-- Once nothing waits, exactly what arrived is delivered. -/
theorem delivered_eq (h : InTurn arrived delivered [] []) : delivered = arrived := by
  rw [← h.split, List.append_nil, List.append_nil]

end InTurn

end Turns

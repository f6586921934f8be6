import X12.Lib.Runs

/-! # Tables kept along a run

An event of a run strikes entries out of a table and may write one at its end.
Entries then stand in the order in which they were written, so that a search
from the start of the table finds the oldest one. -/

namespace Ledger

variable {ε α : Type*} {written : List ε → ε → Option α} {struck : List ε → ε → α → Bool}
  {table : List ε → List α} {events : List ε} {e : ε} {n : Nat} {a : α}

/-- Each event writes and strikes in view of the events before it. -/
structure Kept (written : List ε → ε → Option α) (struck : List ε → ε → α → Bool)
    (table : List ε → List α) : Prop where
  nil : table [] = []
  concat : ∀ events e, table (events ++ [e]) =
    (table events).filter (fun a => !struck events e a) ++ (written events e).toList

/-- The entry was written by the event after `n` others and not struck since. -/
def Stands (written : List ε → ε → Option α) (struck : List ε → ε → α → Bool)
    (events : List ε) (n : Nat) (a : α) : Prop :=
  ∃ before e after, events = before ++ e :: after ∧ before.length = n ∧
    written before e = some a ∧
    Runs.AtEach (fun mid f => ¬ struck (before ++ e :: mid) f a) after

namespace Stands

theorem lt_length (h : Stands written struck events n a) : n < events.length := by
  obtain ⟨before, e, after, rfl, rfl, -⟩ := h
  rw [List.length_append, List.length_cons]
  omega

theorem not_nil : ¬ Stands written struck [] n a :=
  fun h => Nat.not_lt_zero _ h.lt_length

theorem concat_iff : Stands written struck (events ++ [e]) n a ↔
    n = events.length ∧ written events e = some a ∨
      Stands written struck events n a ∧ ¬ struck events e a := by
  constructor
  · rintro ⟨before, f, after, hsplit, rfl, hwritten, hafter⟩
    rcases List.eq_nil_or_concat after with rfl | ⟨mid, g, rfl⟩
    · obtain ⟨rfl, hlast⟩ := List.append_inj' hsplit rfl
      obtain rfl := List.head_eq_of_cons_eq hlast
      exact .inl ⟨rfl, hwritten⟩
    · rw [List.concat_eq_append] at hsplit hafter
      rw [← List.cons_append, ← List.append_assoc] at hsplit
      obtain ⟨rfl, hlast⟩ := List.append_inj' hsplit rfl
      obtain rfl := List.head_eq_of_cons_eq hlast
      obtain ⟨hmid, hlast⟩ := Runs.AtEach.concat_iff.mp hafter
      exact .inr ⟨⟨before, f, mid, rfl, rfl, hwritten, hmid⟩, hlast⟩
  · rintro (⟨rfl, hwritten⟩ | ⟨⟨before, f, after, rfl, rfl, hwritten, hafter⟩, hstruck⟩)
    · exact ⟨events, e, [], rfl, rfl, hwritten, .nil⟩
    · refine ⟨before, f, after ++ [e], ?_, rfl, hwritten,
        Runs.AtEach.concat_iff.mpr ⟨hafter, hstruck⟩⟩
      rw [List.append_assoc, List.cons_append]

end Stands

/-- The entries of the table with the places of the events that wrote them. -/
structure Dated (written : List ε → ε → Option α) (struck : List ε → ε → α → Bool)
    (events : List ε) (entries : List (Nat × α)) : Prop where
  inOrder : entries.Pairwise fun first second => first.1 < second.1
  mem_iff : ∀ n a, (n, a) ∈ entries ↔ Stands written struck events n a

namespace Dated

variable {entries : List (Nat × α)}

theorem concat (h : Dated written struck events entries) (e : ε) :
    Dated written struck (events ++ [e])
      (entries.filter (fun entry => !struck events e entry.2) ++
        (written events e).toList.map fun a => (events.length, a)) where
  inOrder := by
    refine List.pairwise_append.mpr ⟨h.inOrder.filter _, ?_, ?_⟩
    · cases written events e with
      | none => exact .nil
      | some a => exact List.pairwise_singleton _ _
    · rintro ⟨n, a⟩ hold ⟨m, b⟩ hnew
      obtain ⟨_, _, heq⟩ := List.mem_map.mp hnew
      obtain ⟨rfl, rfl⟩ := heq
      exact ((h.mem_iff n a).mp (List.mem_filter.mp hold).1).lt_length
  mem_iff := by
    intro n a
    rw [List.mem_append, List.mem_filter, h.mem_iff, Stands.concat_iff, or_comm]
    refine or_congr ?_ (and_congr_right fun _ => by simp)
    simp [eq_comm, and_comm]

end Dated

namespace Kept

theorem dated (h : Kept written struck table) (events : List ε) :
    ∃ entries, Dated written struck events entries ∧ entries.map Prod.snd = table events := by
  induction events using List.reverseRecOn with
  | nil =>
    exact ⟨[], ⟨.nil, fun n a => iff_of_false List.not_mem_nil Stands.not_nil⟩, h.nil.symm⟩
  | append_singleton events e ih =>
    obtain ⟨entries, hdated, htable⟩ := ih
    refine ⟨_, hdated.concat e, ?_⟩
    rw [h.concat, ← htable, List.map_append, List.filter_map, List.map_map]
    simp [Function.comp_def]

theorem mem_iff (h : Kept written struck table) :
    a ∈ table events ↔ ∃ n, Stands written struck events n a := by
  obtain ⟨entries, hdated, htable⟩ := h.dated events
  rw [← htable, List.mem_map]
  constructor
  · rintro ⟨⟨n, b⟩, hmem, rfl⟩
    exact ⟨n, (hdated.mem_iff n b).mp hmem⟩
  · rintro ⟨n, hstands⟩
    exact ⟨(n, a), (hdated.mem_iff n a).mpr hstands, rfl⟩

/-- A search from the start finds the oldest entry that stands. -/
theorem find?_eq_some_iff (h : Kept written struck table) (p : α → Bool) :
    (table events).find? p = some a ↔
      ∃ n, Stands written struck events n a ∧ p a ∧
        ∀ m b, Stands written struck events m b → p b → n ≤ m := by
  obtain ⟨entries, hdated, htable⟩ := h.dated events
  rw [← htable, List.find?_map, Option.map_eq_some_iff]
  constructor
  · rintro ⟨⟨n, b⟩, hfind, rfl⟩
    obtain ⟨hp, older, newer, rfl, holder⟩ := List.find?_eq_some_iff_append.mp hfind
    refine ⟨n, (hdated.mem_iff n b).mp (List.mem_append_right _ List.mem_cons_self), hp, ?_⟩
    intro m c hstands hpc
    rcases List.mem_append.mp ((hdated.mem_iff m c).mpr hstands) with hmem | hmem
    · exact absurd hpc (by simpa using holder _ hmem)
    · rcases List.mem_cons.mp hmem with heq | hmem
      · exact Nat.le_of_eq (Prod.ext_iff.mp heq).1.symm
      · have hnewer := (List.pairwise_append.mp hdated.inOrder).2.1
        exact Nat.le_of_lt ((List.pairwise_cons.mp hnewer).1 _ hmem)
  · rintro ⟨n, hstands, hp, holdest⟩
    obtain ⟨older, newer, rfl⟩ := List.append_of_mem ((hdated.mem_iff n a).mpr hstands)
    refine ⟨(n, a), List.find?_eq_some_iff_append.mpr ⟨hp, older, newer, rfl, ?_⟩, rfl⟩
    rintro ⟨m, b⟩ hmem
    have hlt := (List.pairwise_append.mp hdated.inOrder).2.2 _ hmem _ List.mem_cons_self
    have hb := (hdated.mem_iff m b).mp (List.mem_append_left _ hmem)
    have hnot : p b ≠ true := fun hpb => absurd hlt (Nat.not_lt.mpr (holdest m b hb hpb))
    simpa using hnot

theorem find?_eq_none_iff (h : Kept written struck table) (p : α → Bool) :
    (table events).find? p = none ↔ ∀ n b, Stands written struck events n b → ¬ p b := by
  rw [List.find?_eq_none]
  constructor
  · exact fun hnone n b hstands => hnone b (h.mem_iff.mpr ⟨n, hstands⟩)
  · intro hnone b hmem
    obtain ⟨n, hstands⟩ := h.mem_iff.mp hmem
    exact hnone n b hstands

end Kept

end Ledger

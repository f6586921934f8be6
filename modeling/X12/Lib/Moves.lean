import Mathlib.Algebra.Group.Basic
import Mathlib.Data.Prod.Basic
import Mathlib.Logic.Nontrivial.Basic
import Mathlib.Order.MinMax

/-! # Sequences of copies

A move overwrites a region of a store with what the store holds elsewhere. One
move reads the whole of its source before it writes. A sequence of moves agrees
with their simultaneous execution when no move reads what an earlier one has
changed. -/

namespace Moves

variable {β γ α : Type*}

structure Move (β : Type*) where
  region : β → Bool
  source : β → β

namespace Move

/-- The store after one move. -/
def exec (m : Move β) (c : β → α) (p : β) : α :=
  if m.region p then c (m.source p) else c p

/-- The move changes nothing at a point. -/
def Keeps (m : Move β) (p : β) : Prop :=
  m.region p = true → m.source p = p

/-- What the move changes comes from a point of lower rank. -/
def Lowers [LT γ] (m : Move β) (rank : β → γ) : Prop :=
  ∀ p, m.region p = true → m.source p ≠ p → rank (m.source p) < rank p

end Move

/-- The store after the moves, one after the other. -/
def run (ms : List (Move β)) (c : β → α) : β → α :=
  ms.foldl (fun c m => m.exec c) c

/-- The last move onto a point. -/
def last : List (Move β) → β → Option (Move β)
  | [], _ => none
  | m :: ms, p => (last ms p).or (if m.region p then some m else none)

/-- The store after all moves at once: a point that several of them write gets
the value of the last. -/
def simultaneous (ms : List (Move β)) (c : β → α) (p : β) : α :=
  (last ms p).elim (c p) fun m => c (m.source p)

/-- The point whose first value ends up at a point. -/
def trace : List (Move β) → β → β
  | [], p => p
  | m :: ms, p => if m.region (trace ms p) then m.source (trace ms p) else trace ms p

/-- A point that a move is the last to write does not get its value from where
an earlier move has changed it. -/
def Safe (ms : List (Move β)) : Prop :=
  ∀ before m after, ms = before ++ m :: after → ∀ p, m.region p = true →
    (∀ m' ∈ after, m'.region p = false) → ∀ m' ∈ before, m'.Keeps (m.source p)

variable {ms before after : List (Move β)} {m : Move β} {p : β}

theorem run_eq_trace (c : β → α) : run ms c p = c (trace ms p) := by
  induction ms generalizing c with
  | nil => rfl
  | cons m ms ih =>
    have hstep : run (m :: ms) c = run ms (m.exec c) := rfl
    rw [hstep, ih, Move.exec, trace]
    split <;> rfl

theorem trace_append : trace (before ++ after) p = trace before (trace after p) := by
  induction before with
  | nil => rfl
  | cons m before ih => simp only [List.cons_append, trace, ih]

/-- Moves that keep a point do not trace it to another. -/
theorem trace_eq_self (h : ∀ m ∈ ms, m.Keeps p) : trace ms p = p := by
  induction ms with
  | nil => rfl
  | cons m ms ih =>
    obtain ⟨hm, hms⟩ := List.forall_mem_cons.mp h
    rw [trace, ih hms]
    split
    · next hregion => exact hm hregion
    · rfl

theorem last_eq_none (h : ∀ m ∈ ms, m.region p = false) : last ms p = none := by
  induction ms with
  | nil => rfl
  | cons m ms ih =>
    obtain ⟨hm, hms⟩ := List.forall_mem_cons.mp h
    rw [last, ih hms, Option.none_or, hm]
    rfl

/-- The last move onto a point, with the moves around it. -/
theorem last_append_cons (hm : m.region p = true) (hafter : ∀ m' ∈ after, m'.region p = false) :
    last (before ++ m :: after) p = some m := by
  induction before with
  | nil => rw [List.nil_append, last, last_eq_none hafter, Option.none_or, if_pos hm]
  | cons head before ih => rw [List.cons_append, last, ih, Option.some_or]

/-- Either no move writes a point, or one of them is the last to do so. -/
theorem untouched_or_last (ms : List (Move β)) (p : β) :
    (∀ m ∈ ms, m.region p = false) ∨
      ∃ before m after, ms = before ++ m :: after ∧ m.region p = true ∧
        ∀ m' ∈ after, m'.region p = false := by
  induction ms with
  | nil => exact .inl fun _ hm => nomatch hm
  | cons m ms ih =>
    rcases ih with hms | ⟨before, last, after, rfl, hlast, hafter⟩
    · cases hm : m.region p with
      | false => exact .inl (List.forall_mem_cons.mpr ⟨hm, hms⟩)
      | true => exact .inr ⟨[], m, ms, rfl, hm, hms⟩
    · exact .inr ⟨m :: before, last, after, rfl, hlast, hafter⟩

theorem safe_map_iff {f : γ → Move β} {l : List γ} :
    Safe (l.map f) ↔ ∀ before b after, l = before ++ b :: after → ∀ p, (f b).region p = true →
      (∀ c ∈ after, (f c).region p = false) → ∀ c ∈ before, (f c).Keeps ((f b).source p) := by
  constructor
  · rintro hsafe before b after rfl p hp hafter c hc
    refine hsafe _ _ _ (by rw [List.map_append, List.map_cons]) p hp ?_ _ (List.mem_map_of_mem hc)
    exact List.forall_mem_map.mpr hafter
  · rintro hsafe before m after hsplit p hp hafter m' hm'
    obtain ⟨before, rest, rfl, rfl, hrest⟩ := List.map_eq_append_iff.mp hsplit
    obtain ⟨b, after, rfl, rfl, rfl⟩ := List.map_eq_cons_iff.mp hrest
    obtain ⟨c, hc, rfl⟩ := List.mem_map.mp hm'
    exact hsafe before b after rfl p hp (List.forall_mem_map.mp hafter) c hc

section

variable [LinearOrder γ] {rank : β → γ}

/-- A point is traced to itself or to a point of lower rank. -/
theorem trace_eq_or_lt (h : ∀ m ∈ ms, m.Lowers rank) :
    trace ms p = p ∨ rank (trace ms p) < rank p := by
  induction ms with
  | nil => exact .inl rfl
  | cons m ms ih =>
    obtain ⟨hm, hms⟩ := List.forall_mem_cons.mp h
    rw [trace]
    split
    · next hregion =>
      by_cases hkept : m.source (trace ms p) = trace ms p
      · rw [hkept]
        exact ih hms
      · have hlower := hm _ hregion hkept
        rcases ih hms with hself | hlt
        · exact .inr (by rwa [hself] at hlower ⊢)
        · exact .inr (lt_trans hlower hlt)
    · exact ih hms

/-- Moves that lower ranks trace a point to itself only if each keeps it. -/
theorem trace_eq_self_iff (h : ∀ m ∈ ms, m.Lowers rank) :
    trace ms p = p ↔ ∀ m ∈ ms, m.Keeps p := by
  refine ⟨fun htrace => ?_, trace_eq_self⟩
  induction ms with
  | nil => exact fun _ hm => nomatch hm
  | cons m ms ih =>
    obtain ⟨hm, hms⟩ := List.forall_mem_cons.mp h
    have hrest : trace ms p = p := by
      refine (trace_eq_or_lt (p := p) hms).resolve_right fun hlt => ?_
      -- the first move could only take the point further down
      have hfirst : trace [m] (trace ms p) = trace ms p ∨
          rank (trace [m] (trace ms p)) < rank (trace ms p) :=
        trace_eq_or_lt (List.forall_mem_singleton.mpr hm)
      have hboth : trace [m] (trace ms p) = p := htrace
      rw [hboth] at hfirst
      rcases hfirst with hself | hlower
      · rw [← hself] at hlt
        exact lt_irrefl _ hlt
      · exact absurd hlt (not_lt_of_gt hlower)
    rw [trace, hrest] at htrace
    refine List.forall_mem_cons.mpr ⟨fun hregion => ?_, ih hms hrest⟩
    rwa [if_pos hregion] at htrace

/-- The sequence leaves what the simultaneous moves leave, whatever the store
holds, just when no move reads what an earlier one has changed. -/
theorem run_eq_simultaneous_iff [Nontrivial α] (h : ∀ m ∈ ms, m.Lowers rank) :
    (∀ c : β → α, run ms c = simultaneous ms c) ↔ Safe ms := by
  classical
  constructor
  · rintro hrun before m after rfl p hm hafter
    have hbefore : ∀ m' ∈ before, m'.Lowers rank := fun m' hm' => h m' (List.mem_append_left _ hm')
    refine (trace_eq_self_iff hbefore).mp ?_
    have hkeep : ∀ m' ∈ after, m'.Keeps p := fun m' hm' hregion =>
      absurd (hafter m' hm') (by rw [hregion]; decide)
    have htrace : trace (before ++ m :: after) p = trace before (m.source p) := by
      rw [trace_append, trace, trace_eq_self hkeep, if_pos hm]
    by_contra hmoved
    -- a store that tells the two sources apart
    obtain ⟨a, b, hab⟩ := exists_pair_ne α
    have happ := congrFun (hrun fun q => if q = m.source p then a else b) p
    rw [run_eq_trace, htrace, if_neg hmoved, simultaneous, last_append_cons hm hafter,
      Option.elim_some, if_pos rfl] at happ
    exact hab happ.symm
  · intro hsafe c
    funext p
    rw [run_eq_trace, simultaneous]
    rcases untouched_or_last ms p with hnone | ⟨before, m, after, rfl, hm, hafter⟩
    · have hkeep : ∀ m' ∈ ms, m'.Keeps p := fun m' hm' hregion =>
        absurd (hnone m' hm') (by rw [hregion]; decide)
      rw [last_eq_none hnone, trace_eq_self hkeep]
      rfl
    · have hkeep : ∀ m' ∈ after, m'.Keeps p := fun m' hm' hregion =>
        absurd (hafter m' hm') (by rw [hregion]; decide)
      rw [last_append_cons hm hafter, trace_append, trace, trace_eq_self hkeep, if_pos hm,
        trace_eq_self (hsafe before m after rfl p hm hafter)]
      rfl

end

end Moves

import X12.Lib.Runs

/-! # Lifetimes of objects that are named

Objects are created and freed by calls; while they live they are named by other
objects. An object is to be freed once, when its last name goes. -/

namespace Lifetimes

variable {η : Type*} {h : η} {named named' : η → Prop}

inductive Call (η : Type*) where
  | create (h : η)
  | free (h : η)
  deriving DecidableEq, Repr

variable {calls : List (Call η)}

/-- The object has been created, and not freed since. -/
def Live (calls : List (Call η)) (h : η) : Prop :=
  Runs.Since (fun _ call => call = .create h) (fun _ call => call = .free h) calls

instance [DecidableEq η] (calls : List (Call η)) (h : η) : Decidable (Live calls h) :=
  Runs.Since.decidable _ _ calls

/-- An object lives as long as it is named, and only what lives is freed. -/
structure Exact (named : η → Prop) (calls : List (Call η)) : Prop where
  live : ∀ h, Live calls h ↔ named h
  once : Runs.AtEach (fun before call => ∀ h, call = .free h → Live before h) calls

theorem live_create {g : η} : Live (calls ++ [.create g]) h ↔ h = g ∨ Live calls h := by
  refine Runs.Since.concat_iff.trans (or_congr ?_ (and_iff_left nofun))
  exact ⟨fun heq => (Call.create.inj heq).symm, fun heq => heq ▸ rfl⟩

theorem live_free {g : η} : Live (calls ++ [.free g]) h ↔ Live calls h ∧ h ≠ g := by
  refine Runs.Since.concat_iff.trans ((or_iff_right nofun).trans (and_congr_right fun _ => ?_))
  exact not_congr ⟨fun heq => (Call.free.inj heq).symm, fun heq => heq ▸ rfl⟩

namespace Exact

theorem nil (hnone : ∀ h, ¬ named h) : Exact named ([] : List (Call η)) where
  live h := iff_of_false Runs.Since.not_nil (hnone h)
  once := .nil

theorem congr (he : Exact named calls) (hsame : ∀ h, named' h ↔ named h) : Exact named' calls where
  live h := (he.live h).trans (hsame h).symm
  once := he.once

theorem create (he : Exact named calls) (hnamed : ∀ g, named' g ↔ g = h ∨ named g) :
    Exact named' (calls ++ [.create h]) where
  live g := by rw [live_create, he.live, hnamed]
  once := Runs.AtEach.concat_iff.mpr ⟨he.once, nofun⟩

/-- The objects whose last name goes are freed, each once. -/
theorem freeAll {freed : List η} (he : Exact named calls) (hnodup : freed.Nodup)
    (hfreed : ∀ h ∈ freed, named h) (hnamed : ∀ h, named' h ↔ named h ∧ h ∉ freed) :
    Exact named' (calls ++ freed.map .free) := by
  induction freed generalizing named calls with
  | nil =>
    rw [List.map_nil, List.append_nil]
    exact he.congr fun h => (hnamed h).trans (and_iff_left List.not_mem_nil)
  | cons g freed ih =>
    obtain ⟨hg, hnodup⟩ := List.nodup_cons.mp hnodup
    have hfirst : Exact (fun h => named h ∧ h ≠ g) (calls ++ [.free g]) := by
      refine ⟨fun h => ?_, Runs.AtEach.concat_iff.mpr ⟨he.once, fun h heq => ?_⟩⟩
      · rw [live_free, he.live]
      · obtain rfl := Call.free.inj heq
        exact (he.live g).mpr (hfreed g List.mem_cons_self)
    rw [List.map_cons, ← List.singleton_append, ← List.append_assoc]
    refine ih hfirst hnodup (fun h hh => ⟨hfreed h (List.mem_cons_of_mem _ hh), ?_⟩) fun h => ?_
    · rintro rfl
      exact hg hh
    · rw [hnamed, List.mem_cons, not_or, and_assoc]

end Exact

end Lifetimes

import Mathlib.Data.List.Induction

/-! # Runs as lists of events

What holds of every event of a run, given the events before it, is built up
event by event, from either end. -/

namespace Runs

variable {ε : Type*} {p q : List ε → ε → Prop} {events before after : List ε} {e : ε}

/-- A property of every event of a run and the events before it. -/
def AtEach (p : List ε → ε → Prop) (events : List ε) : Prop :=
  ∀ before e after, events = before ++ e :: after → p before e

namespace AtEach

theorem nil : AtEach p [] := fun _ _ _ hsplit =>
  absurd hsplit.symm (List.append_ne_nil_of_right_ne_nil _ (List.cons_ne_nil _ _))

theorem append_iff :
    AtEach p (before ++ after) ↔ AtEach p before ∧ AtEach (fun mid => p (before ++ mid)) after := by
  constructor
  · intro h
    constructor
    · rintro first e rest rfl
      exact h first e (rest ++ after) (by rw [List.append_assoc, List.cons_append])
    · rintro mid e rest rfl
      exact h (before ++ mid) e rest (List.append_assoc _ _ _).symm
  · rintro ⟨hbefore, hafter⟩ first e rest hsplit
    rcases List.append_eq_append_iff.mp hsplit with ⟨mid, rfl, hmid⟩ | ⟨mid, hmid, hrest⟩
    · exact hafter mid e rest hmid
    · cases mid with
      | nil =>
        rw [List.append_nil] at hmid
        rw [← hmid]
        have hstart : p (before ++ []) e := hafter [] e rest hrest.symm
        rwa [List.append_nil] at hstart
      | cons f mid =>
        rw [List.cons_append] at hrest
        obtain ⟨rfl, -⟩ := List.cons.inj hrest
        exact hbefore first e mid hmid

theorem cons_iff : AtEach p (e :: after) ↔ p [] e ∧ AtEach (fun mid => p (e :: mid)) after := by
  constructor
  · intro h
    refine ⟨h [] e after rfl, ?_⟩
    rintro mid f rest rfl
    exact h (e :: mid) f rest rfl
  · rintro ⟨hfirst, hafter⟩ before f rest hsplit
    cases before with
    | nil =>
      obtain ⟨rfl, -⟩ := List.cons.inj hsplit
      exact hfirst
    | cons g mid =>
      obtain ⟨rfl, hmid⟩ := List.cons.inj hsplit
      exact hafter mid f rest hmid

theorem concat_iff : AtEach p (before ++ [e]) ↔ AtEach p before ∧ p before e := by
  rw [append_iff, cons_iff, List.append_nil, and_iff_left nil]

instance decidable : (p : List ε → ε → Prop) → [∀ before e, Decidable (p before e)] →
    (events : List ε) → Decidable (AtEach p events)
  | _, _, [] => .isTrue nil
  | p, _, e :: events =>
    have := decidable (fun mid => p (e :: mid)) events
    decidable_of_iff _ cons_iff.symm

/-- Events at the end of which the property holds whatever was before them. -/
theorem append (h : AtEach p events) (hafter : ∀ e ∈ after, ∀ before, p before e) :
    AtEach p (events ++ after) := by
  refine append_iff.mpr ⟨h, ?_⟩
  rintro mid e rest rfl
  exact hafter e (List.mem_append_right _ List.mem_cons_self) _

theorem imp (h : AtEach p events) (hpq : ∀ before e, p before e → q before e) : AtEach q events :=
  fun before e after hsplit => hpq before e (h before e after hsplit)

end AtEach

/-- An event of the first sort has happened, and none of the second sort since. -/
def Since (p q : List ε → ε → Prop) (events : List ε) : Prop :=
  ∃ before e after, events = before ++ e :: after ∧ p before e ∧
    AtEach (fun mid f => ¬ q (before ++ e :: mid) f) after

namespace Since

theorem not_nil : ¬ Since p q [] := by
  rintro ⟨before, e, after, hsplit, -⟩
  exact List.append_ne_nil_of_right_ne_nil _ (List.cons_ne_nil _ _) hsplit.symm

theorem concat_iff : Since p q (events ++ [e]) ↔ p events e ∨ Since p q events ∧ ¬ q events e := by
  constructor
  · rintro ⟨before, f, after, hsplit, hp, hq⟩
    rcases List.eq_nil_or_concat after with rfl | ⟨mid, g, rfl⟩
    · obtain ⟨rfl, hlast⟩ := List.append_inj' hsplit rfl
      obtain rfl := List.head_eq_of_cons_eq hlast
      exact .inl hp
    · rw [List.concat_eq_append] at hsplit hq
      rw [← List.cons_append, ← List.append_assoc] at hsplit
      obtain ⟨rfl, hlast⟩ := List.append_inj' hsplit rfl
      obtain rfl := List.head_eq_of_cons_eq hlast
      obtain ⟨hmid, hlast⟩ := AtEach.concat_iff.mp hq
      exact .inr ⟨⟨before, f, mid, rfl, hp, hmid⟩, hlast⟩
  · rintro (hp | ⟨⟨before, f, after, rfl, hp, hafter⟩, hq⟩)
    · exact ⟨events, e, [], rfl, hp, .nil⟩
    · refine ⟨before, f, after ++ [e], ?_, hp, AtEach.concat_iff.mpr ⟨hafter, hq⟩⟩
      rw [List.append_assoc, List.cons_append]

theorem cons_iff : Since p q (e :: events) ↔
    p [] e ∧ AtEach (fun mid f => ¬ q (e :: mid) f) events ∨
      Since (fun mid => p (e :: mid)) (fun mid => q (e :: mid)) events := by
  constructor
  · rintro ⟨before, f, after, hsplit, hp, hafter⟩
    cases before with
    | nil =>
      obtain ⟨rfl, rfl⟩ := List.cons.inj hsplit
      exact .inl ⟨hp, hafter⟩
    | cons g mid =>
      obtain ⟨rfl, rfl⟩ := List.cons.inj hsplit
      exact .inr ⟨mid, f, after, rfl, hp, hafter⟩
  · rintro (⟨hp, hafter⟩ | ⟨mid, f, after, rfl, hp, hafter⟩)
    · exact ⟨[], e, events, rfl, hp, hafter⟩
    · exact ⟨e :: mid, f, after, rfl, hp, hafter⟩

instance decidable : (p q : List ε → ε → Prop) → [∀ before e, Decidable (p before e)] →
    [∀ before e, Decidable (q before e)] → (events : List ε) → Decidable (Since p q events)
  | _, _, _, _, [] => .isFalse not_nil
  | p, q, _, _, e :: events =>
    have := decidable (fun mid => p (e :: mid)) (fun mid => q (e :: mid)) events
    decidable_of_iff _ cons_iff.symm

theorem singleton_iff : Since p q [e] ↔ p [] e :=
  concat_iff.trans (or_iff_left fun h => not_nil h.1)

/-- Where no event of the first sort is among the last ones, none of the second sort is. -/
theorem of_append {p q : ε → Prop} (h : Since (fun _ => p) (fun _ => q) (events ++ after))
    (hp : ∀ e ∈ after, ¬ p e) :
    Since (fun _ => p) (fun _ => q) events ∧ ∀ e ∈ after, ¬ q e := by
  induction after using List.reverseRecOn with
  | nil => exact ⟨List.append_nil events ▸ h, fun e he => absurd he List.not_mem_nil⟩
  | append_singleton after e ih =>
    rw [← List.append_assoc, concat_iff] at h
    have hlast := hp e (List.mem_append_right _ List.mem_cons_self)
    obtain ⟨hsince, hq⟩ := h.resolve_left hlast
    obtain ⟨hbefore, hafter⟩ := ih hsince fun f hf => hp f (List.mem_append_left _ hf)
    refine ⟨hbefore, fun f hf => ?_⟩
    rcases List.mem_append.mp hf with hf | hf
    · exact hafter f hf
    · exact List.mem_singleton.mp hf ▸ hq

/-- Events of neither sort at the end do not matter. -/
theorem append_iff {p q : ε → Prop} (hp : ∀ e ∈ after, ¬ p e) (hq : ∀ e ∈ after, ¬ q e) :
    Since (fun _ => p) (fun _ => q) (events ++ after) ↔
      Since (fun _ => p) (fun _ => q) events := by
  refine ⟨fun h => (h.of_append hp).1, ?_⟩
  rintro ⟨before, e, mid, rfl, he, hmid⟩
  refine ⟨before, e, mid ++ after, by rw [List.append_assoc, List.cons_append], he, ?_⟩
  exact hmid.append fun f hf _ => hq f hf

theorem imp {p' q' : List ε → ε → Prop} (h : Since p q events)
    (hp : ∀ before e, p before e → p' before e) (hq : ∀ before e, q' before e → q before e) :
    Since p' q' events := by
  obtain ⟨before, e, after, rfl, he, hafter⟩ := h
  exact ⟨before, e, after, rfl, hp _ _ he, hafter.imp fun mid f => mt (hq _ f)⟩

end Since

/-- A property of runs that starts with the empty run and is kept by every event
holds of every run whose events are of the right sort. -/
theorem run_induction {motive : List ε → Prop} (start : motive [])
    (step : ∀ before e, motive before → p before e → motive (before ++ [e]))
    (h : AtEach p events) : motive events := by
  induction events using List.reverseRecOn with
  | nil => exact start
  | append_singleton before e ih =>
    obtain ⟨hbefore, he⟩ := AtEach.concat_iff.mp h
    exact step before e (ih hbefore) he

end Runs

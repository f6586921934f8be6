import X12.Core.Scanout
import X12.Lib.Slots

/-! # The buffers of an output

What the operations on the buffers of an output do to their states, where no two buffers
are pending and no two are on screen. -/

namespace X12

namespace ScanoutPool

variable {p : ScanoutPool} {i j : Nat} {s st : BoState} {token : ScanoutBoToken}

def stateAt (p : ScanoutPool) (i : Nat) : Option BoState := p.bos[i]?.map (·.state)

def phaseAt (p : ScanoutPool) (i : Nat) : Option BoPhase := (p.stateAt i).map (·.phase)

theorem phaseAt_eq (h : p.stateAt i = some s) : p.phaseAt i = some s.phase := by
  rw [phaseAt, h, Option.map_some]

theorem exists_of_phaseAt {phase : BoPhase} (h : p.phaseAt i = some phase) :
    ∃ s, p.stateAt i = some s ∧ s.phase = phase :=
  Option.map_eq_some_iff.mp h

theorem getElem?_of_stateAt (h : p.stateAt i = some s) : ∃ bo, p.bos[i]? = some bo ∧ bo.state = s :=
  Option.map_eq_some_iff.mp h

@[simp] theorem stateAt_invalidateBo : (p.invalidateBo j).stateAt i = p.stateAt i := rfl

@[simp] theorem stateAt_commitBoPresent (generation : Nat) :
    (p.commitBoPresent j generation).stateAt i = p.stateAt i := rfl

@[simp] theorem bos_length_setState : (p.setState i s).bos.length = p.bos.length :=
  List.length_modify ..

theorem stateAt_setState_self (h : p.stateAt i = some st) :
    (p.setState i s).stateAt i = some s := by
  obtain ⟨bo, hbo, -⟩ := getElem?_of_stateAt h
  rw [stateAt, setState, List.getElem?_modify_eq, hbo]
  rfl

theorem stateAt_setState_ne (h : i ≠ j) : (p.setState i s).stateAt j = p.stateAt j := by
  rw [stateAt, setState]
  dsimp only
  rw [List.getElem?_modify_ne _ _ h, stateAt]

theorem stateAt_setState (h : p.stateAt i = some st) :
    (p.setState i s).stateAt j = if j = i then some s else p.stateAt j := by
  split
  · next heq => rw [heq, stateAt_setState_self h]
  · next hne => exact stateAt_setState_ne (Ne.symm hne)

theorem phaseAt_setState (h : p.stateAt i = some st) :
    (p.setState i s).phaseAt j = if j = i then some s.phase else p.phaseAt j := by
  rw [phaseAt, stateAt_setState h]
  split <;> rfl

theorem setState_set {bo : ScanoutBo} (hbo : p.bos[i]? = some bo) :
    { p with bos := p.bos.set i { bo with state := s } } = p.setState i s := by
  obtain ⟨hlt, rfl⟩ := List.getElem?_eq_some_iff.mp hbo
  rw [setState, List.modify_eq_set_getElem?, hbo]
  rfl

theorem setState_setState : (p.setState i s).setState i st = p.setState i st := by
  rw [setState, setState, List.modify_modify_eq]
  rfl

def fbHandles (p : ScanoutPool) : List (Option UInt32) := p.bos.map (·.fbHandle)

theorem mem_fbHandles {bo : ScanoutBo} (hbo : p.bos[i]? = some bo) : bo.fbHandle ∈ p.fbHandles :=
  List.mem_map_of_mem (List.mem_of_getElem? hbo)

@[simp] theorem fbHandles_setState : (p.setState i s).fbHandles = p.fbHandles := by
  refine List.ext_getElem? fun j => ?_
  rw [fbHandles, fbHandles, setState, List.getElem?_map, List.getElem?_map, List.getElem?_modify]
  cases p.bos[j]? with
  | none => rfl
  | some bo =>
    dsimp only [Option.map_some]
    split <;> rfl

@[simp] theorem fbHandles_resetForSuspend : p.resetForSuspend.1.fbHandles = p.fbHandles :=
  List.map_map ..

@[simp] theorem fbHandles_invalidateBo : (p.invalidateBo i).fbHandles = p.fbHandles := rfl

@[simp] theorem fbHandles_commitBoPresent (generation : Nat) :
    (p.commitBoPresent i generation).fbHandles = p.fbHandles := rfl

/-! ## Acquiring -/

theorem phaseAt_of_acquire (h : p.acquireScanoutBo = some token) :
    p.phaseAt token.boIdx = some .Free := by
  obtain ⟨i, hfind, heq⟩ := Option.bind_eq_some_iff.mp h
  cases heq
  obtain ⟨hlt, hfree, -⟩ := List.findIdx?_eq_some_iff_getElem.mp hfind
  have hphase : p.bos[i].state.phase = .Free := of_decide_eq_true hfree
  rw [phaseAt, stateAt, List.getElem?_eq_getElem hlt, Option.map_some, Option.map_some, hphase]

theorem not_free_of_acquire_none (h : p.acquireScanoutBo = none) (i : Nat) :
    p.phaseAt i ≠ some .Free := by
  intro hfree
  obtain ⟨s, hs, hphase⟩ := exists_of_phaseAt hfree
  obtain ⟨bo, hbo, rfl⟩ := getElem?_of_stateAt hs
  obtain ⟨hlt, rfl⟩ := List.getElem?_eq_some_iff.mp hbo
  rw [acquireScanoutBo, Option.bind_eq_bind, Option.bind_eq_none_iff] at h
  cases hfind : p.bos.findIdx? fun bo => bo.state.phase = .Free with
  | none =>
    exact absurd hphase (of_decide_eq_false (List.findIdx?_eq_none_iff.mp hfind _
      (List.getElem_mem hlt)))
  | some k => exact absurd (h k hfind) fun heq => by cases heq

/-! ## Flips -/

/-- What a search through the buffers finds. -/
structure Found (p : ScanoutPool) (phase : BoPhase) (found : Option Nat) : Prop where
  some : ∀ i, found = .some i → p.phaseAt i = .some phase
  none : found = .none → ∀ i, p.phaseAt i ≠ .some phase

private theorem Found.concat {bos : List ScanoutBo} {generations : List BoGenerationEntry}
    {phase : BoPhase} {found found' : Option Nat} {bo : ScanoutBo}
    (h : Found ⟨bos, generations⟩ phase found)
    (hnew : bo.state.phase = phase → ∃ i, found' = .some i ∧ (found = .some i ∨ i = bos.length))
    (hold : bo.state.phase ≠ phase → found' = found) :
    Found ⟨bos ++ [bo], generations⟩ phase found' := by
  have hlast : phaseAt ⟨bos ++ [bo], generations⟩ bos.length = .some bo.state.phase := by
    rw [phaseAt, stateAt, List.getElem?_concat_length]
    rfl
  have hsame : ∀ i < bos.length,
      phaseAt ⟨bos ++ [bo], generations⟩ i = phaseAt ⟨bos, generations⟩ i := by
    intro i hi
    rw [phaseAt, stateAt, List.getElem?_append_left hi, phaseAt, stateAt]
  have hlt : ∀ {i phase}, phaseAt ⟨bos, generations⟩ i = .some phase → i < bos.length := by
    intro i phase hi
    obtain ⟨s, hs, -⟩ := exists_of_phaseAt hi
    obtain ⟨_, hbo, -⟩ := getElem?_of_stateAt hs
    exact (List.getElem?_eq_some_iff.mp hbo).1
  constructor
  · intro i hi
    by_cases hphase : bo.state.phase = phase
    · obtain ⟨k, hk, hor⟩ := hnew hphase
      cases hi.symm.trans hk
      rcases hor with hfound | rfl
      · have hphaseAt := h.some i hfound
        rw [hsame i (hlt hphaseAt), hphaseAt]
      · rw [hlast, hphase]
    · have hphaseAt := h.some i (hold hphase ▸ hi)
      rw [hsame i (hlt hphaseAt), hphaseAt]
  · intro hnone i hi
    by_cases hphase : bo.state.phase = phase
    · obtain ⟨k, hk, -⟩ := hnew hphase
      cases hnone.symm.trans hk
    · obtain ⟨s, hs, -⟩ := exists_of_phaseAt hi
      obtain ⟨_, hbo, -⟩ := getElem?_of_stateAt hs
      have hle : i < (bos ++ [bo]).length := (List.getElem?_eq_some_iff.mp hbo).1
      rw [List.length_append, List.length_singleton] at hle
      rcases Nat.lt_succ_iff_lt_or_eq.mp hle with hi' | rfl
      · exact h.none (hold hphase ▸ hnone) i (hsame i hi' ▸ hi)
      · exact hphase (Option.some.inj (hlast.symm.trans hi))

theorem findFlip_found (p : ScanoutPool) :
    Found p .Pending p.findFlip.1 ∧ Found p .OnScreen p.findFlip.2 := by
  obtain ⟨bos, generations⟩ := p
  induction bos using List.reverseRecOn with
  | nil =>
    have hnil (phase : BoPhase) : Found ⟨[], generations⟩ phase none := by
      refine ⟨fun i hi => ?_, fun _ i hi => ?_⟩
      · cases hi
      · cases hi
    exact ⟨hnil _, hnil _⟩
  | append_singleton bos bo ih =>
    obtain ⟨hpending, honScreen⟩ := ih
    have hstep : findFlip ⟨bos ++ [bo], generations⟩ =
        findFlipStep (findFlip ⟨bos, generations⟩) (bo, bos.length) := by
      rw [findFlip, List.zipIdx_append, List.foldl_append, List.zipIdx_singleton, Nat.zero_add]
      rfl
    rw [hstep, findFlipStep]
    constructor
    · refine hpending.concat (fun heq => ?_) fun hne => ?_
      · rw [heq]
        cases hfound : (findFlip ⟨bos, generations⟩).1 with
        | none => exact ⟨bos.length, rfl, .inr rfl⟩
        | some i => exact ⟨i, rfl, .inl rfl⟩
      · cases hphase : bo.state.phase with
        | Pending => exact absurd hphase hne
        | _ => rfl
    · refine honScreen.concat (fun heq => ?_) fun hne => ?_
      · rw [heq]
        exact ⟨bos.length, rfl, .inr rfl⟩
      · cases hphase : bo.state.phase with
        | OnScreen => exact absurd hphase hne
        | _ => rfl

/-- No buffer is pending. -/
theorem onPageFlipComplete_none (h : ∀ i, p.phaseAt i ≠ some .Pending) :
    p.onPageFlipComplete = some (p, none, []) := by
  have hfound := (findFlip_found p).1
  cases hpair : p.findFlip with
  | mk pending onScreen =>
    rw [hpair] at hfound
    cases pending with
    | some i => exact absurd (hfound.some i rfl) (h i)
    | none => rw [onPageFlipComplete, hpair]

theorem present_eq (h : p.stateAt i = some s) (hs : s.phase = .Pending) :
    p.present i = some (p.setState i { s with phase := .OnScreen }) := by
  obtain ⟨bo, hbo, rfl⟩ := getElem?_of_stateAt h
  rw [present, hbo, Option.bind_eq_bind, Option.bind_some, BoState.transitionToOnScreen, if_pos hs]
  rfl

theorem retire_eq (h : p.stateAt i = some s) (hs : s.phase = .OnScreen) :
    p.retire i = some (p.setState i { s with phase := .Free, releaseFenceFd := none },
      s.releaseFenceFd) := by
  obtain ⟨bo, hbo, rfl⟩ := getElem?_of_stateAt h
  rw [retire, hbo, Option.bind_eq_bind, Option.bind_some, BoState.transitionToRetiring, if_pos hs]
  rfl

/-- The pool when a flip has completed to buffer `i`, from another one if there was one. -/
def flipped (p : ScanoutPool) (i : Nat) (s : BoState) (prev : Option (Nat × BoState)) :
    ScanoutPool :=
  let retired := prev.elim p fun (j, st) =>
    p.setState j { st with phase := .Free, releaseFenceFd := none }
  retired.setState i { s with phase := .OnScreen }

theorem stateAt_flipped {prev : Option (Nat × BoState)} (h : p.stateAt i = some s)
    (hprev : ∀ j st, prev = some (j, st) → p.stateAt j = some st) (k : Nat) :
    (p.flipped i s prev).stateAt k =
      if k = i then some { s with phase := .OnScreen }
      else match prev with
        | none => p.stateAt k
        | some (j, st) =>
          if k = j then some { st with phase := .Free, releaseFenceFd := none }
          else p.stateAt k := by
  cases prev with
  | none => exact stateAt_setState h
  | some prev =>
    obtain ⟨j, st⟩ := prev
    have hj := hprev j st rfl
    by_cases hij : i = j
    · subst hij
      refine (stateAt_setState (stateAt_setState_self hj)).trans (if_congr Iff.rfl rfl ?_)
      exact stateAt_setState hj
    · refine (stateAt_setState ((stateAt_setState_ne (Ne.symm hij)).trans h)).trans
        (if_congr Iff.rfl rfl ?_)
      exact stateAt_setState hj

@[simp] theorem fbHandles_flipped {prev : Option (Nat × BoState)} :
    (p.flipped i s prev).fbHandles = p.fbHandles := by
  cases prev with
  | none => exact fbHandles_setState
  | some prev => exact fbHandles_setState.trans fbHandles_setState

theorem onPageFlipComplete_some (h : p.stateAt i = some s) (hs : s.phase = .Pending)
    (hpending : ∀ j, p.phaseAt j = some .Pending → j = i) :
    ∃ prev, (∀ j st, prev = some (j, st) → p.stateAt j = some st ∧ st.phase = .OnScreen) ∧
      (prev = none → ∀ j, p.phaseAt j ≠ some .OnScreen) ∧
      p.onPageFlipComplete = some (p.flipped i s prev, some ⟨prev.map (·.1), i⟩,
        (prev.bind (·.2.releaseFenceFd)).toList) := by
  obtain ⟨hfirst, hsecond⟩ := findFlip_found p
  have hi := (phaseAt_eq h).trans (congrArg _ hs)
  cases hpair : p.findFlip with
  | mk pending onScreen =>
    rw [hpair] at hfirst hsecond
    cases pending with
    | none => exact absurd hi (hfirst.none rfl i)
    | some k =>
      obtain rfl := hpending k (hfirst.some k rfl)
      cases onScreen with
      | none =>
        refine ⟨none, nofun, fun _ => hsecond.none rfl, ?_⟩
        rw [onPageFlipComplete, hpair]
        dsimp only
        rw [present_eq h hs]
        rfl
      | some j =>
        obtain ⟨st, hst, hphase⟩ := exists_of_phaseAt (hsecond.some j rfl)
        have hne : j ≠ k := by
          intro heq
          rw [heq, h] at hst
          cases hst
          rw [hs] at hphase
          cases hphase
        refine ⟨some (j, st), fun _ _ heq => ?_, nofun, ?_⟩
        · cases heq
          exact ⟨hst, hphase⟩
        · rw [onPageFlipComplete, hpair]
          dsimp only
          rw [retire_eq hst hphase, Option.bind_eq_bind, Option.bind_some,
            present_eq ((stateAt_setState_ne hne).trans h) hs]
          rfl

/-! ## Suspending -/

theorem stateAt_resetForSuspend (p : ScanoutPool) (i : Nat) :
    p.resetForSuspend.1.stateAt i = (p.stateAt i).map fun _ => .default := by
  rw [stateAt, stateAt, resetForSuspend, List.getElem?_map, Option.map_map, Option.map_map]
  rfl

end ScanoutPool

/-! ## Descriptor pools -/

namespace SlotTracker

open Slots

variable {t : SlotTracker} {held : List Nat} {slot : Nat}

theorem acquire_eq_some {t' : SlotTracker} (h : t.acquire = some (t', slot)) :
    t.inUse[slot]? = some false ∧ t' = ⟨t.inUse.set slot true⟩ := by
  obtain ⟨i, hfind, heq⟩ := Option.bind_eq_some_iff.mp h
  cases heq
  obtain ⟨hlt, hfree, -⟩ := List.findIdx?_eq_some_iff_getElem.mp hfind
  rw [Bool.not_eq_true'] at hfree
  exact ⟨by rw [List.getElem?_eq_getElem hlt, hfree], rfl⟩

theorem acquire_eq_none (h : t.acquire = none) (i : Nat) : t.inUse[i]? ≠ some false := by
  intro hfree
  obtain ⟨hlt, heq⟩ := List.getElem?_eq_some_iff.mp hfree
  rw [acquire, Option.bind_eq_bind, Option.bind_eq_none_iff] at h
  cases hfind : t.inUse.findIdx? (!·) with
  | none =>
    have hnone := List.findIdx?_eq_none_iff.mp hfind _ (List.getElem_mem hlt)
    rw [heq] at hnone
    cases hnone
  | some k => exact absurd (h k hfind) fun heq => by cases heq

theorem release_eq (h : Taken t.inUse held) (hslot : slot ∈ held) :
    t.release slot = some ⟨t.inUse.set slot false⟩ :=
  if_pos ((h.mem_iff slot).mp hslot)

end SlotTracker

end X12

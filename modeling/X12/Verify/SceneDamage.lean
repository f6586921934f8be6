import X12.Verify.PresentationDamage
import X12.Verify.SceneTrace

/-! # Damage of the scene until it is presented

What is damaged is repainted by every frame until one that has been composed after the
damage is on screen. Taking out what that frame has presented also takes out what equals
it and has been damaged while the frame was under way. -/

namespace X12

namespace RegionSet

variable {s other : RegionSet} {r : Rect2D}

def HasPixels (r : Rect2D) : Prop := r.width ≠ 0 ∧ r.height ≠ 0

theorem mem_add_of_mem {rect : Rect2D} (h : r ∈ s) : r ∈ s.add rect := by
  unfold add
  split
  · exact h
  · exact List.mem_append_left _ h

theorem mem_add_self (h : HasPixels r) : r ∈ s.add r := by
  rw [add, if_neg (not_or.mpr h)]
  exact List.mem_concat_self

theorem mem_unionWith_left (h : r ∈ s) : r ∈ s.unionWith other := by
  rw [unionWith]
  induction other generalizing s with
  | nil => exact h
  | cons rect other ih => exact ih (mem_add_of_mem h)

theorem mem_unionWith_right (h : r ∈ other) (hpixels : HasPixels r) : r ∈ s.unionWith other := by
  rw [unionWith]
  induction other generalizing s with
  | nil => exact absurd h List.not_mem_nil
  | cons rect other ih =>
    rw [List.foldl_cons]
    rcases List.mem_cons.mp h with rfl | h
    · exact mem_unionWith_left (mem_add_self hpixels)
    · exact ih h

end RegionSet

namespace Scanout

open RegionSet Runs

variable {o o' : Scanout} {flight : Option Flight} {lost : List Nat} {r : Rect2D}

/-- A frame was under way that repaints an equal rectangle, and its flip has completed since. -/
def Overtaken (before after : List SceneEvent) (r : Rect2D) : Prop :=
  ∃ i g, Since (fun _ e => ∃ a d, e = .accepted i g a d ∧ r ∈ d)
      (fun _ e => (∃ i g, e = .flipComplete i g) ∨ e = .suspend) before ∧
    .flipComplete i g ∈ after

/-- A frame that repaints the rectangle has been accepted, and its flip has completed. -/
def Presented (after : List SceneEvent) (r : Rect2D) : Prop :=
  ∃ mid i g a d rest, after = mid ++ .accepted i g a d :: rest ∧ r ∈ d ∧ .flipComplete i g ∈ rest

/-- What has been damaged is still to be repainted, or has been presented since: by a frame that
KMS has accepted after it, or by one with an equal rectangle that was under way. -/
def Repainted (o : Scanout) : Prop :=
  ∀ before r after, o.trace = before ++ .sceneStructureDamage r :: after → HasPixels r →
    r ∈ o.scene.sceneStructureDamage ∨ Presented after r ∨ Overtaken before after r

/-- The frame under way, where it stands in the trace. -/
def Flies (o : Scanout) (f : Flight) : Prop :=
  ∃ before a d after, o.trace = before ++ .accepted f.ack.boIdx f.ack.generation a d :: after ∧
    (∀ r ∈ f.ack.submittedSceneStructureDamage, HasPixels r → r ∈ d) ∧
    ∀ e ∈ after, ¬ ((∃ i g, e = .flipComplete i g) ∨ e = .suspend)

structure Owed (o : Scanout) (flight : Option Flight) : Prop where
  flies : ∀ f, flight = some f → Flies o f
  repainted : Repainted o

theorem Presented.append {after : List SceneEvent} (h : Presented after r)
    (events : List SceneEvent) : Presented (after ++ events) r := by
  obtain ⟨mid, i, g, a, d, rest, rfl, hr, hflip⟩ := h
  refine ⟨mid, i, g, a, d, rest ++ events, ?_, hr, List.mem_append_left _ hflip⟩
  rw [List.append_assoc, List.cons_append]

theorem Overtaken.append {before after : List SceneEvent} (h : Overtaken before after r)
    (events : List SceneEvent) : Overtaken before (after ++ events) r := by
  obtain ⟨i, g, hovertaken, hflip⟩ := h
  exact ⟨i, g, hovertaken, List.mem_append_left _ hflip⟩

/-- Where the last events are not damage, the damage is among the others. -/
theorem split_damage {trace events before after : List SceneEvent}
    (hevents : ∀ e ∈ events, ∀ r, e ≠ .sceneStructureDamage r)
    (h : trace ++ events = before ++ .sceneStructureDamage r :: after) :
    ∃ mid, trace = before ++ .sceneStructureDamage r :: mid ∧ after = mid ++ events := by
  rcases List.append_eq_append_iff.mp h with ⟨mid, -, hmid⟩ | ⟨mid, htrace, hmid⟩
  · exact absurd rfl (hevents _ (hmid ▸ List.mem_append_right _ List.mem_cons_self) r)
  · cases mid with
    | nil =>
      have hmem : .sceneStructureDamage r ∈ [] ++ events := hmid ▸ List.mem_cons_self
      exact absurd rfl (hevents _ hmem r)
    | cons e mid =>
      obtain ⟨rfl, rfl⟩ := List.cons.inj hmid
      exact ⟨mid, htrace, rfl⟩

/-- The damage was either before the frame, which then presents it, or after it. -/
theorem Flies.presented_or_overtaken {f : Flight} {before mid events : List SceneEvent}
    (h : Flies o f) (hsplit : o.trace = before ++ .sceneStructureDamage r :: mid)
    (hsubmitted : r ∈ f.ack.submittedSceneStructureDamage) (hpixels : HasPixels r)
    (hflip : .flipComplete f.ack.boIdx f.ack.generation ∈ events) :
    Presented (mid ++ events) r ∨ Overtaken before (mid ++ events) r := by
  obtain ⟨first, a, d, last, hframe, hcovers, hlast⟩ := h
  have hr := hcovers r hsubmitted hpixels
  rw [hframe] at hsplit
  rcases List.append_eq_append_iff.mp hsplit with ⟨rest, rfl, hrest⟩ | ⟨rest, rfl, hrest⟩
  · cases rest with
    | nil => cases hrest
    | cons e rest =>
      obtain ⟨rfl, rfl⟩ := List.cons.inj hrest
      refine .inr ⟨_, _, ⟨first, _, rest, rfl, ⟨_, _, rfl, hr⟩, ?_⟩,
        List.mem_append_right _ hflip⟩
      rintro mid' e after rfl
      exact hlast e (List.mem_append_left _ (List.mem_append_right _ List.mem_cons_self))
  · cases rest with
    | nil => cases hrest
    | cons e rest =>
      obtain ⟨rfl, rfl⟩ := List.cons.inj hrest
      exact .inl ⟨rest, _, _, a, d, last ++ events, List.append_assoc rest _ events, hr,
        List.mem_append_right _ hflip⟩

namespace Owed

/-- Nothing is damaged and nothing is presented. -/
theorem repainted_append (h : Owed o flight) {events : List SceneEvent}
    (hevents : ∀ e ∈ events, ∀ r, e ≠ .sceneStructureDamage r)
    (htrace : o'.trace = o.trace ++ events)
    (hdamage : o'.scene.sceneStructureDamage = o.scene.sceneStructureDamage) : Repainted o' := by
  intro before r after hsplit hpixels
  rw [htrace] at hsplit
  obtain ⟨mid, hold, rfl⟩ := split_damage hevents hsplit
  rcases h.repainted before r mid hold hpixels with hlive | hpresented | hovertaken
  · exact .inl (hdamage ▸ hlive)
  · exact .inr (.inl (hpresented.append events))
  · exact .inr (.inr (hovertaken.append _))

theorem flies_append (h : Owed o flight) {events : List SceneEvent}
    (hevents : ∀ e ∈ events, ¬ ((∃ i g, e = .flipComplete i g) ∨ e = .suspend))
    (htrace : o'.trace = o.trace ++ events) : ∀ f, flight = some f → Flies o' f := by
  intro f hf
  obtain ⟨before, a, d, after, hsplit, hcovers, hafter⟩ := h.flies f hf
  refine ⟨before, a, d, after ++ events, ?_, hcovers, fun e he => ?_⟩
  · rw [htrace, hsplit, List.append_assoc, List.cons_append]
  · rcases List.mem_append.mp he with he | he
    · exact hafter e he
    · exact hevents e he

end Owed

/-- The event is about damage or a flip. -/
def repaints : SceneEvent → Bool
  | .sceneStructureDamage _ | .flipComplete .. | .suspend => true
  | _ => false

theorem not_damage_of_quiet {e : SceneEvent} (h : repaints e = false) (r : Rect2D) :
    e ≠ .sceneStructureDamage r := by
  rintro rfl
  cases h

theorem not_stop_of_quiet {e : SceneEvent} (h : repaints e = false) :
    ¬ ((∃ i g, e = .flipComplete i g) ∨ e = .suspend) := by
  rintro (⟨_, _, rfl⟩ | rfl) <;> cases h

theorem Passes.no_repaints {events : List SceneEvent} {fds : List Int} (h : Passes events fds) :
    ∀ e ∈ events, repaints e = false := by
  intro e he
  rcases h.quiet e he with ⟨_, rfl⟩ | ⟨_, rfl⟩ | ⟨_, rfl⟩ | ⟨_, _, rfl⟩ <;> rfl

namespace Owed

theorem quiet (h : Owed o flight) {events : List SceneEvent}
    (hevents : ∀ e ∈ events, repaints e = false) (htrace : o'.trace = o.trace ++ events)
    (hdamage : o'.scene.sceneStructureDamage = o.scene.sceneStructureDamage) : Owed o' flight where
  flies := h.flies_append (fun e he => not_stop_of_quiet (hevents e he)) htrace
  repainted := h.repainted_append (fun e he => not_damage_of_quiet (hevents e he)) htrace hdamage

theorem damage (h : Owed o flight) (rect : Rect2D) :
    Owed (o.markSceneStructureDamageRect rect) flight where
  flies := h.flies_append (List.forall_mem_singleton.mpr (by simp)) rfl
  repainted := by
    intro before r after hsplit hpixels
    rcases List.eq_nil_or_concat after with rfl | ⟨mid, e, rfl⟩
    · obtain ⟨-, heq⟩ := List.append_inj' hsplit rfl
      cases heq
      exact .inl (mem_add_self hpixels)
    · rw [List.concat_eq_append, ← List.cons_append, ← List.append_assoc] at hsplit
      obtain ⟨hold, -⟩ := List.append_inj' hsplit rfl
      rw [List.concat_eq_append]
      rcases h.repainted before r mid hold hpixels with hlive | hpresented | hovertaken
      · exact .inl (mem_add_of_mem hlive)
      · exact .inr (.inl (hpresented.append [e]))
      · exact .inr (.inr (hovertaken.append _))

/-- A frame repaints all that is damaged. -/
theorem commit (h : Owed o none) {i slot : Nat} {others : List SceneEvent} {fd : Option Int}
    (hothers : Passes others fd.toList) (built : BuiltScene) :
    Owed (o.committed i slot others fd built)
      (some ⟨pendingAck o.scene built i o.nextTicket, slot, o.nextTicket⟩) := by
  let ack := pendingAck o.scene built i o.nextTicket
  let accepted : SceneEvent := .accepted i ack.generation built.cursorAssignment
    ack.submittedOutputDamage
  have htrace : (o.committed i slot others fd built).trace =
      (o.trace ++ .queueSubmit2 i slot o.nextTicket :: others) ++
        [accepted, .touchRenderFence built.sampledIds o.nextTicket] := rfl
  constructor
  · intro f hf
    cases hf
    refine ⟨_, _, _, _, htrace, fun r hr hpixels => ?_, List.forall_mem_singleton.mpr (by simp)⟩
    exact mem_unionWith_left (mem_unionWith_right hr hpixels)
  · rw [List.append_assoc] at htrace
    refine h.repainted_append (fun e he => ?_) htrace rfl
    refine not_damage_of_quiet ?_
    rcases List.mem_append.mp he with he | he
    · rcases List.mem_cons.mp he with rfl | he
      · rfl
      · exact hothers.no_repaints e he
    · rcases List.mem_pair.mp he with rfl | rfl <;> rfl

/-- The flip of a frame has completed. What it has presented is taken out. -/
theorem complete {f : Flight} (h : Owed o (some f)) {first last : List SceneEvent}
    (hfirst : ∀ e ∈ first, repaints e = false) (hlast : ∀ e ∈ last, repaints e = false)
    (htrace : o'.trace =
      ((o.trace ++ first) ++ [.flipComplete f.ack.boIdx f.ack.generation]) ++ last)
    (hdamage : o'.scene.sceneStructureDamage =
      o.scene.sceneStructureDamage.subtract f.ack.submittedSceneStructureDamage) :
    Owed o' none where
  flies := nofun
  repainted := by
    intro before r after hsplit hpixels
    rw [htrace, List.append_assoc, List.append_assoc] at hsplit
    have hquiet : ∀ e ∈ first ++ ([.flipComplete f.ack.boIdx f.ack.generation] ++ last),
        ∀ r, e ≠ .sceneStructureDamage r := by
      intro e he
      rcases List.mem_append.mp he with he | he
      · exact not_damage_of_quiet (hfirst e he)
      · rcases List.mem_cons.mp he with rfl | he
        · exact nofun
        · exact not_damage_of_quiet (hlast e he)
    obtain ⟨mid, hold, rfl⟩ := split_damage hquiet hsplit
    rcases h.repainted before r mid hold hpixels with hlive | hpresented | hovertaken
    · by_cases hsubmitted : r ∈ f.ack.submittedSceneStructureDamage
      · exact .inr ((h.flies f rfl).presented_or_overtaken hold hsubmitted hpixels
          (List.mem_append_right _ List.mem_cons_self))
      · exact .inl (hdamage ▸ mem_subtract.mpr ⟨hlive, hsubmitted⟩)
    · exact .inr (.inl (hpresented.append _))
    · exact .inr (.inr (hovertaken.append _))

end Owed

/-! ## Runs -/

theorem repaints_afterFlip {e : SceneEvent} (h : AfterFlip e) : repaints e = false := by
  rcases h with ⟨_, rfl⟩ | ⟨_, rfl⟩ | ⟨_, rfl⟩ | ⟨_, rfl⟩ <;> rfl

theorem repaints_closed (closed : List Int) :
    ∀ e ∈ closed.map SceneEvent.closed, repaints e = false := by
  intro e he
  obtain ⟨_, -, rfl⟩ := List.mem_map.mp he
  rfl

theorem Owed.move (h : Owed o flight) (hinv : Inv o flight lost) (hmove : Move o o') :
    ∃ flight' lost', Inv o' flight' lost' ∧ Owed o' flight' := by
  cases hmove with
  | signal t =>
    refine ⟨_, _, hinv.signal t, ?_⟩
    unfold Scanout.signal
    split
    · exact h.quiet (List.forall_mem_singleton.mpr rfl) rfl rfl
    · exact h
  | damage r => exact ⟨_, _, hinv.damage r, h.damage r⟩
  | recycle hqueue hticket =>
    exact ⟨_, _, hinv.recycle hqueue, h.quiet (List.forall_mem_singleton.mpr rfl) rfl rfl⟩
  | release hqueue hticket =>
    exact ⟨_, _, hinv.release hqueue, h.quiet (List.forall_mem_singleton.mpr rfl) rfl rfl⟩
  | strand hready =>
    exact ⟨_, _, hinv.strand hready,
      h.quiet (fun e he => absurd he List.not_mem_nil) (List.append_nil _).symm rfl⟩
  | abort hready invalid damage failedAt =>
    exact ⟨_, _, hinv.abort hready invalid damage failedAt,
      h.quiet (List.forall_mem_singleton.mpr rfl) rfl rfl⟩
  | reject hready invalid damage failedAt hothers =>
    refine ⟨_, _, hinv.reject hready invalid _ damage failedAt, h.quiet ?_ rfl rfl⟩
    exact List.forall_mem_cons.mpr ⟨rfl, hothers.no_repaints⟩
  | commit hready built hothers =>
    cases hinv.flight_eq_none hready.noAcks
    exact ⟨_, _, hinv.commit hready _ _ built, h.commit hothers built⟩
  | @flip ack slot ticket s prev cursor hacks hslots hticket hbo hphase hprev hlast =>
    cases hinv.eq_flight hacks hslots hticket
    refine ⟨_, _, hinv.flip hbo hphase hprev hlast _ cursor, ?_⟩
    obtain ⟨resets, hresets, htrace⟩ := flipped_trace o slot ack ticket
      (o.pool.flipped ack.boIdx s prev) (prev.bind (·.2.releaseFenceFd)).toList cursor
    refine h.complete (repaints_closed _) (fun e he => ?_) htrace ?_
    · exact repaints_afterFlip (afterFlip_of_mem ack cursor hresets e he)
    · unfold flipped landed
      dsimp only
      split <;> rfl
  | light ok active =>
    refine ⟨_, _, hinv.light ok active, h.quiet (fun e he => ?_) rfl rfl⟩
    obtain ⟨_, -, rfl⟩ := List.mem_map.mp he
    rfl
  | rebind => exact ⟨_, _, hinv.emit _, h.quiet (List.forall_mem_singleton.mpr rfl) rfl rfl⟩
  | suspend cursor active =>
    refine ⟨_, _, hinv.suspend cursor active, nofun, ?_⟩
    refine h.repainted_append (fun e he r => ?_) rfl rfl
    rcases List.mem_cons.mp he with rfl | he
    · exact nofun
    · rcases List.mem_append.mp he with he | he
      · obtain ⟨_, -, rfl⟩ := List.mem_map.mp he
        exact nofun
      · rcases List.mem_cons.mp he with rfl | he
        · exact nofun
        · exact not_damage_of_quiet (repaints_closed _ e he) r

/-- In every run what has been damaged is to be repainted until the flip to a frame with it has
completed: a frame composed since, or one that was under way with an equal rectangle. -/
theorem damage_repainted (n : Nat) (extent : UInt32 × UInt32) (fbHandle : Nat → UInt32)
    (actions : List Action) :
    ∃ o, (new n extent fbHandle).run actions = some o ∧ Repainted o := by
  obtain ⟨o, ho, hmoves, -⟩ := run_spec n extent fbHandle actions
  refine ⟨o, ho, ?_⟩
  have hend : ∃ flight lost, Inv o flight lost ∧ Owed o flight := by
    clear ho
    induction hmoves with
    | refl =>
      refine ⟨none, [], new_inv n extent fbHandle, nofun, fun before r after hsplit => ?_⟩
      exact absurd hsplit.symm (List.append_ne_nil_of_right_ne_nil _ (List.cons_ne_nil _ _))
    | tail _ hmove ih =>
      obtain ⟨_, _, hinv, howed⟩ := ih
      exact howed.move hinv hmove
  obtain ⟨_, _, -, howed⟩ := hend
  exact howed.repainted

end Scanout

end X12

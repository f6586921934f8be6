import X12.Verify.DrawableStore

/-! # Presentation damage between a peek and its acknowledgement

What is damaged after a snapshot was taken is to be presented, what was damaged
before is not. Acknowledging the snapshot takes out the rectangles that equal
one of its own, also those damaged again since. -/

namespace X12

namespace RegionSet

def Covers (s : RegionSet) (p : Point) : Prop := ∃ r ∈ s, p ∈ r

variable {s other : RegionSet} {r rect : Rect2D} {p : Point}

theorem mem_subtract : r ∈ s.subtract other ↔ r ∈ s ∧ r ∉ other := by
  unfold subtract
  split
  · next hempty =>
    rw [List.isEmpty_iff.mp hempty]
    exact (and_iff_left List.not_mem_nil).symm
  · rw [List.mem_filter, Bool.not_eq_true', List.any_eq_false]
    refine and_congr_right fun _ => ⟨fun hnone hr => hnone r hr (beq_self_eq_true r), ?_⟩
    intro hr a ha heq
    exact hr (beq_iff_eq.mp heq ▸ ha)

/-- A rectangle without pixels is not damage. -/
theorem mem_add (hp : p ∈ r) : r ∈ s.add rect ↔ rect = r ∨ r ∈ s := by
  unfold add
  split
  · next hempty =>
    refine (or_iff_right ?_).symm
    rintro rfl
    have hbox : p ∈ rect.toBox := hp
    obtain ⟨⟨hx, hx'⟩, hy, hy'⟩ := hbox
    dsimp only [Rect2D.toBox] at hx hx' hy hy'
    rcases hempty with hwidth | hheight
    · rw [hwidth, UInt32.toNat_zero] at hx'
      omega
    · rw [hheight, UInt32.toNat_zero] at hy'
      omega
  · rw [List.mem_append, List.mem_singleton, or_comm, eq_comm]

end RegionSet

/-! ## What an operation does to the damage of a drawable -/

namespace Drawable

/-- A drawable outside of the scene has nothing to present. -/
def IdleClean (d : Drawable) : Prop := d.sceneParticipating = false → d.presentationDamage = []

/-- The parts of a drawable that are about its presentation. -/
def presentation (d : Drawable) : Bool × RegionSet × UInt64 :=
  (d.sceneParticipating, d.presentationDamage, d.presentationDamageEpoch)

variable {d : Drawable} {r rect : Rect2D} {p : Point} {v : Bool} {snap : DamageSnapshot}

theorem mem_setSceneParticipating (h : d.IdleClean) :
    r ∈ (d.setSceneParticipating v).presentationDamage ↔ r ∈ d.presentationDamage ∧ v = true := by
  unfold setSceneParticipating
  cases v with
  | true =>
    rw [Bool.not_true, Bool.and_false, if_neg Bool.false_ne_true]
    exact (and_iff_left rfl).symm
  | false =>
    rw [Bool.not_false, Bool.and_true]
    split
    · exact iff_of_false List.not_mem_nil fun hr => Bool.false_ne_true hr.2
    · next hidle =>
      refine iff_of_false (fun hr => ?_) fun hr => Bool.false_ne_true hr.2
      exact List.not_mem_nil (h (Bool.not_eq_true _ ▸ hidle) ▸ hr)

theorem mem_damage (hp : p ∈ r) : r ∈ (d.damage rect).presentationDamage ↔
    rect = r ∧ d.sceneParticipating = true ∨ r ∈ d.presentationDamage := by
  unfold damage
  split
  · next hscene =>
    rw [RegionSet.mem_add hp, and_iff_left hscene]
  · next hidle => exact (or_iff_right fun hr => hidle hr.2).symm

theorem mem_ackPresentationDamage : r ∈ (d.ackPresentationDamage snap).presentationDamage ↔
    r ∈ d.presentationDamage ∧ ¬ (r ∈ snap.region ∨ snap.epoch = d.presentationDamageEpoch) := by
  unfold ackPresentationDamage
  split
  · next hepoch => exact iff_of_false List.not_mem_nil fun hr => hr.2 (.inr hepoch)
  · next hepoch => rw [or_iff_left hepoch, RegionSet.mem_subtract]

theorem IdleClean.setSceneParticipating (h : d.IdleClean) :
    (d.setSceneParticipating v).IdleClean := by
  have hv : (d.setSceneParticipating v).sceneParticipating = v := by
    unfold Drawable.setSceneParticipating
    split
    · rfl
    · rfl
  intro hidle
  rw [List.eq_nil_iff_forall_not_mem]
  intro r hr
  rw [mem_setSceneParticipating h, ← hv, hidle] at hr
  exact Bool.false_ne_true hr.2

theorem IdleClean.damage (h : d.IdleClean) : (d.damage rect).IdleClean := by
  unfold Drawable.damage
  split
  · next hscene => exact fun hidle => absurd (hidle.symm.trans hscene) Bool.false_ne_true
  · exact h

theorem IdleClean.ackPresentationDamage (h : d.IdleClean) :
    (d.ackPresentationDamage snap).IdleClean := by
  have hscene : (d.ackPresentationDamage snap).sceneParticipating = d.sceneParticipating := by
    unfold Drawable.ackPresentationDamage
    split
    · rfl
    · rfl
  intro hidle
  rw [List.eq_nil_iff_forall_not_mem]
  intro r hr
  rw [mem_ackPresentationDamage, h (hscene.symm.trans hidle)] at hr
  exact List.not_mem_nil hr.1

end Drawable

namespace StoreEvent

/-- Damage of a drawable that is in the scene. -/
def Damages (id : DrawableId) (r : Rect2D) (s : DrawableStore) (e : StoreEvent) : Prop :=
  e = damage id r ∧ ∃ d ∈ s.entries[id]?, d.sceneParticipating = true

def Leaves (id : DrawableId) (e : StoreEvent) : Prop := e = setSceneParticipating id false

/-- An acknowledgement of a snapshot that has the rectangle, or of the damage as
it is now. -/
def TakesOut (id : DrawableId) (r : Rect2D) (s : DrawableStore) (e : StoreEvent) : Prop :=
  ∃ snap, e = ackPresentationDamage snap ∧ snap.id = id ∧
    (r ∈ snap.region ∨ ∃ d ∈ s.entries[id]?, snap.epoch = d.presentationDamageEpoch)

/-- The operation as far as it is about the presentation of one drawable. -/
def present (id : DrawableId) (d : Drawable) : StoreEvent → Drawable
  | setSceneParticipating other v => if id = other then d.setSceneParticipating v else d
  | damage other rect => if id = other then d.damage rect else d
  | ackPresentationDamage snap => if id = snap.id then d.ackPresentationDamage snap else d
  | _ => d

open DrawableStore

variable {s : DrawableStore} {e : StoreEvent} {id : DrawableId} {d d' : Drawable} {r : Rect2D}
  {p : Point}

/-- An entry is one from before, or that of a new drawable. -/
theorem entry_step (hd' : (e.step s).1.entries[id]? = some d') :
    (∃ d, s.entries[id]? = some d ∧ d'.presentation = (e.present id d).presentation) ∨
      id = s.nextId ∧ s.nextId < (e.step s).1.nextId ∧ d'.presentationDamage = [] := by
  cases e with
  | allocate xid kind depth scene =>
    cases hok : s.allocate xid kind depth scene with
    | ok allocated =>
      rw [step, hok] at hd' ⊢
      obtain ⟨-, rfl⟩ := allocate_eq_ok hok
      have hentry : (s.entries.insert s.nextId _)[id]? = some d' := hd'
      rw [ResourceMap.get_insert] at hentry
      split at hentry
      · next hid =>
        obtain rfl := Option.some.inj hentry
        exact .inr ⟨hid, Nat.lt_succ_self _, rfl⟩
      · exact .inl ⟨d', hentry, rfl⟩
    | error _ =>
      rw [step, hok] at hd'
      exact .inl ⟨d', hd', rfl⟩
  | incref other => exact .inl (field_of_modify _ hd' fun _ => rfl)
  | decref signalled other =>
    rcases decref_cases s signalled other with
      ⟨-, heq⟩ | ⟨_, -, ⟨-, heq⟩ | ⟨-, -, heq⟩ | ⟨-, -, heq⟩⟩
    · rw [step, heq] at hd'
      exact .inl ⟨d', hd', rfl⟩
    · rw [step, heq] at hd'
      exact .inl (field_of_modify _ hd' fun _ => rfl)
    · rw [step, heq, entries_destroyNow, ite_eq_iff] at hd'
      rcases hd' with ⟨-, hnone⟩ | ⟨-, hd'⟩
      · cases hnone
      · exact .inl ⟨d', hd', rfl⟩
    · rw [step, heq] at hd'
      exact .inl (field_of_modify (f := fun d => { d with refcount := 0 }) _ hd' fun _ => rfl)
  | detachXid xid => exact .inl ⟨d', hd', rfl⟩
  | pollPendingRetire signalled =>
    rw [step, entries_pollPendingRetire, ite_eq_iff] at hd'
    rcases hd' with ⟨-, hnone⟩ | ⟨-, hentry⟩
    · cases hnone
    · exact .inl ⟨d', hentry, rfl⟩
  | touchRenderFence other ticket => exact .inl (field_of_modify _ hd' fun _ => rfl)
  | setSceneParticipating other v =>
    obtain ⟨d, hd, rfl⟩ := entry_of_modify hd'
    exact .inl ⟨d, hd, rfl⟩
  | damage other rect =>
    obtain ⟨d, hd, rfl⟩ := entry_of_modify hd'
    exact .inl ⟨d, hd, rfl⟩
  | ackPresentationDamage snap =>
    obtain ⟨d, hd, rfl⟩ := entry_of_modify hd'
    exact .inl ⟨d, hd, rfl⟩

theorem idleClean_present (h : d.IdleClean) : (e.present id d).IdleClean := by
  have hite {c : Prop} [Decidable c] {d' : Drawable} (hd' : d'.IdleClean) :
      (if c then d' else d).IdleClean := by
    split
    · exact hd'
    · exact h
  cases e with
  | setSceneParticipating other v => exact hite h.setSceneParticipating
  | damage other rect => exact hite h.damage
  | ackPresentationDamage snap => exact hite h.ackPresentationDamage
  | _ => exact h

/-- The damage is what has just been damaged, and what the operation does not
take out. -/
theorem mem_present (hd : s.entries[id]? = some d) (h : d.IdleClean) (hp : p ∈ r) :
    r ∈ (e.present id d).presentationDamage ↔
      e.Damages id r s ∨ r ∈ d.presentationDamage ∧ ¬ (e.Leaves id ∨ e.TakesOut id r s) := by
  have hentry {q : Drawable → Prop} : (∃ d ∈ s.entries[id]?, q d) ↔ q d := by
    rw [hd]
    exact ⟨fun ⟨d', hd', hq⟩ => Option.some.inj hd' ▸ hq, fun hq => ⟨d, rfl, hq⟩⟩
  have hite {c : Prop} [Decidable c] {d' : Drawable} :
      r ∈ (if c then d' else d).presentationDamage ↔
        if c then r ∈ d'.presentationDamage else r ∈ d.presentationDamage := by
    split
    · rfl
    · rfl
  unfold Damages Leaves TakesOut
  simp only [hentry]
  cases e with
  | setSceneParticipating other v =>
    simp only [present, hite, Drawable.mem_setSceneParticipating h]
    grind
  | damage other rect =>
    simp only [present, hite, Drawable.mem_damage hp]
    grind
  | ackPresentationDamage snap =>
    simp only [present, hite, Drawable.mem_ackPresentationDamage]
    grind
  | _ => simp only [present, reduceCtorEq, false_and, exists_false, or_self, not_false_eq_true, and_true, false_or]

end StoreEvent

/-! ## Runs -/

section

variable {before middle after events : List StoreEvent} {id : DrawableId} {d : Drawable}
  {r : Rect2D} {p : Point} {snap : DamageSnapshot}

/-- Ids are given out in order, and a drawable outside of the scene is clean, in
every run. -/
theorem entry_runStore (hd : (runStore events).1.entries[id]? = some d) :
    id < (runStore events).1.nextId ∧ d.IdleClean := by
  induction events using List.reverseRecOn generalizing id d with
  | nil => cases hd
  | append_singleton events e ih =>
    rw [runStore_concat] at hd ⊢
    rcases StoreEvent.entry_step hd with ⟨old, hold, hpresent⟩ | ⟨rfl, hnext, hclean⟩
    · obtain ⟨hid, hidle⟩ := ih hold
      refine ⟨hid.trans_le StoreEvent.nextId_le_step, fun hscene => ?_⟩
      obtain ⟨hsame, hdamage⟩ := Prod.mk.inj hpresent
      obtain ⟨hdamage, -⟩ := Prod.mk.inj hdamage
      rw [hdamage]
      exact StoreEvent.idleClean_present hidle (hsame.symm.trans hscene)
    · exact ⟨hnext, fun _ => hclean⟩

theorem nextId_le_append : (runStore before).1.nextId ≤ (runStore (before ++ after)).1.nextId := by
  induction after using List.reverseRecOn with
  | nil => rw [List.append_nil]
  | append_singleton after e ih =>
    rw [← List.append_assoc, runStore_concat]
    exact ih.trans StoreEvent.nextId_le_step

/-- A drawable that is there at the end has been there all the time. -/
theorem entry_of_append (hid : id < (runStore before).1.nextId)
    (hd : (runStore (before ++ after)).1.entries[id]? = some d) :
    ∃ old, (runStore before).1.entries[id]? = some old := by
  induction after using List.reverseRecOn generalizing d with
  | nil => exact ⟨d, by rw [List.append_nil] at hd; exact hd⟩
  | append_singleton after e ih =>
    rw [← List.append_assoc, runStore_concat] at hd
    cases hmid : (runStore (before ++ after)).1.entries[id]? with
    | none =>
      have hgone := StoreEvent.absent_step (e := e) (hid.trans_le nextId_le_append) hmid
      exact nomatch hgone.symm.trans hd
    | some mid => exact ih hmid

/-- The pixel has been damaged since, and the drawable has not left the scene
after that. -/
def DamagedSince (before : List StoreEvent) (id : DrawableId) (p : Point)
    (events : List StoreEvent) : Prop :=
  Runs.Since (fun mid e => ∃ r, p ∈ r ∧ e.Damages id r (runStore (before ++ mid)).1)
    (fun _ e => e.Leaves id) events

/-- The rectangle has been damaged since, and after that the drawable has not
left the scene, and no acknowledgement has taken the rectangle out. -/
def KeptSince (before : List StoreEvent) (id : DrawableId) (r : Rect2D)
    (events : List StoreEvent) : Prop :=
  Runs.Since (fun mid e => e.Damages id r (runStore (before ++ mid)).1)
    (fun mid e => e.Leaves id ∨ e.TakesOut id r (runStore (before ++ mid)).1) events

theorem mem_concat {e : StoreEvent} {old : Drawable} (hp : p ∈ r)
    (hold : (runStore before).1.entries[id]? = some old)
    (hd : (runStore (before ++ [e])).1.entries[id]? = some d) :
    r ∈ d.presentationDamage ↔ e.Damages id r (runStore before).1 ∨
      r ∈ old.presentationDamage ∧
        ¬ (e.Leaves id ∨ e.TakesOut id r (runStore before).1) := by
  obtain ⟨hid, hidle⟩ := entry_runStore hold
  rw [runStore_concat] at hd
  rcases StoreEvent.entry_step hd with ⟨old', hold', hpresent⟩ | ⟨hnew, -⟩
  · obtain rfl := Option.some.inj (hold.symm.trans hold')
    obtain ⟨hdamage, -⟩ := Prod.mk.inj (Prod.mk.inj hpresent).2
    rw [hdamage]
    exact StoreEvent.mem_present hold hidle hp
  · exact absurd hnew hid.ne

/-- The damage of a drawable is what has come since, and what it was, less what
has been taken out. -/
theorem mem_presentationDamage {old : Drawable} (hp : p ∈ r)
    (hold : (runStore before).1.entries[id]? = some old)
    (hd : (runStore (before ++ events)).1.entries[id]? = some d) :
    r ∈ d.presentationDamage ↔ KeptSince before id r events ∨
      r ∈ old.presentationDamage ∧ Runs.AtEach (fun mid e =>
        ¬ (e.Leaves id ∨ e.TakesOut id r (runStore (before ++ mid)).1)) events := by
  induction events using List.reverseRecOn generalizing d with
  | nil =>
    rw [List.append_nil] at hd
    obtain rfl := Option.some.inj (hold.symm.trans hd)
    exact ⟨fun hr => .inr ⟨hr, .nil⟩, fun hr => hr.elim (absurd · Runs.Since.not_nil) (·.1)⟩
  | append_singleton events e ih =>
    rw [← List.append_assoc] at hd
    have hid := (entry_runStore hold).1
    obtain ⟨mid, hmid⟩ := entry_of_append (hid.trans_le nextId_le_append) hd
    have hkept : KeptSince before id r (events ++ [e]) ↔ _ := Runs.Since.concat_iff
    rw [mem_concat hp hmid hd, ih hmid, hkept, Runs.AtEach.concat_iff, ← KeptSince]
    tauto

/-- What the acknowledgement of a snapshot is to leave: the pixels damaged since
the snapshot was taken. -/
structure AckExact (before : List StoreEvent) (id : DrawableId) (middle : List StoreEvent)
    (damage : RegionSet) : Prop where
  kept : ∀ p, DamagedSince before id p middle → damage.Covers p
  presented : ∀ p, ¬ DamagedSince before id p middle → ¬ damage.Covers p

theorem KeptSince.damagedSince (hp : p ∈ r) (h : KeptSince before id r events) :
    DamagedSince before id p events :=
  h.imp (fun _ _ hdamages => ⟨r, hp, hdamages⟩) (fun _ _ hleaves => .inl hleaves)

theorem damagedSince_ack : DamagedSince before id p (middle ++ [.ackPresentationDamage snap]) ↔
    DamagedSince before id p middle := by
  refine Runs.Since.concat_iff.trans ((or_iff_right ?_).trans (and_iff_left nofun))
  rintro ⟨r, -, hdamage, -⟩
  cases hdamage

/-- The pixels that are left after an acknowledgement are those of rectangles
that have been damaged since the peek and not taken out after that. -/
theorem covers_ack (hpeek : (runStore before).1.peekPresentationDamage id = some snap)
    (hd : (runStore (before ++ (middle ++ [.ackPresentationDamage snap]))).1.entries[id]? =
      some d) :
    d.presentationDamage.Covers p ↔
      ∃ r, p ∈ r ∧ KeptSince before id r (middle ++ [.ackPresentationDamage snap]) := by
  obtain ⟨old, hold, hsnap⟩ := Option.bind_eq_some_iff.mp hpeek
  unfold Drawable.peekPresentationDamage at hsnap
  rw [Option.ite_none_right_eq_some] at hsnap
  obtain rfl := Option.some.inj hsnap.2
  refine exists_congr fun r => and_comm.trans (and_congr_right fun hp => ?_)
  refine (mem_presentationDamage hp hold hd).trans (or_iff_left ?_)
  rintro ⟨hr, hstays⟩
  -- The snapshot has every rectangle that was there when it was taken.
  exact hstays middle _ [] rfl (.inr ⟨_, rfl, rfl, .inl hr⟩)

/-- An acknowledgement leaves just what has been damaged since the peek, unless
a pixel has been damaged only in rectangles that were taken out again. -/
theorem ackExact_iff (hpeek : (runStore before).1.peekPresentationDamage id = some snap)
    (hd : (runStore (before ++ (middle ++ [.ackPresentationDamage snap]))).1.entries[id]? =
      some d) :
    AckExact before id middle d.presentationDamage ↔
      ∀ p, DamagedSince before id p middle →
        ∃ r, p ∈ r ∧ KeptSince before id r (middle ++ [.ackPresentationDamage snap]) := by
  constructor
  · intro h p hp
    exact (covers_ack hpeek hd).mp (h.kept p hp)
  · intro h
    refine ⟨fun p hp => (covers_ack hpeek hd).mpr (h p hp), fun p hold hcovers => ?_⟩
    obtain ⟨r, hp, hkept⟩ := (covers_ack hpeek hd).mp hcovers
    exact hold (damagedSince_ack.mp (hkept.damagedSince hp))

/-- A window with one pixel to present. -/
def damagedWindow : List StoreEvent :=
  [.allocate 0x42 .Window 24 true, .damage 1 ⟨0, 0, 1, 1⟩]

theorem ackExact_beside : AckExact damagedWindow 1 [.damage 1 ⟨1, 0, 1, 1⟩] [⟨1, 0, 1, 1⟩] := by
  have hpeek : (runStore damagedWindow).1.peekPresentationDamage 1 =
    some ⟨1, 1, [⟨0, 0, 1, 1⟩]⟩ := rfl
  have hd : (runStore (damagedWindow ++ ([.damage 1 ⟨1, 0, 1, 1⟩] ++
    [.ackPresentationDamage ⟨1, 1, [⟨0, 0, 1, 1⟩]⟩]))).1.entries[1]? =
      some ⟨1, 0x42, .Window, 24, 1, true, none, [⟨1, 0, 1, 1⟩], 2⟩ := rfl
  refine (ackExact_iff hpeek hd).mpr fun p hp => ⟨⟨1, 0, 1, 1⟩, ?_, ?_⟩
  · obtain ⟨r, hp, hdamage, -⟩ := Runs.Since.singleton_iff.mp hp
    cases hdamage
    exact hp
  · refine Runs.Since.concat_iff.mpr (.inr ⟨?_, ?_⟩)
    · exact Runs.Since.singleton_iff.mpr ⟨rfl, _, rfl, rfl⟩
    · rintro (hleaves | ⟨snap, hsnap, -, hmem | ⟨d, hd, hepoch⟩⟩)
      · cases hleaves
      · cases hsnap
        exact absurd hmem (by decide)
      · cases hsnap
        cases hd
        exact absurd hepoch (by decide)

/-- A pixel that is damaged again, in the same rectangle, is not presented. -/
theorem ack_loses_again :
    (runStore damagedWindow).1.peekPresentationDamage 1 = some ⟨1, 1, [⟨0, 0, 1, 1⟩]⟩ ∧
    ((runStore (damagedWindow ++ ([.damage 1 ⟨0, 0, 1, 1⟩] ++
      [.ackPresentationDamage ⟨1, 1, [⟨0, 0, 1, 1⟩]⟩]))).1.entries[1]?.map
        (·.presentationDamage)) = some [] ∧
    ¬ AckExact damagedWindow 1 [.damage 1 ⟨0, 0, 1, 1⟩] [] := by
  refine ⟨by decide, by decide, fun h => ?_⟩
  obtain ⟨r, hr, -⟩ := h.kept (0, 0)
    (Runs.Since.singleton_iff.mpr ⟨⟨0, 0, 1, 1⟩, by decide, rfl, _, rfl, rfl⟩)
  exact List.not_mem_nil hr

end

end X12

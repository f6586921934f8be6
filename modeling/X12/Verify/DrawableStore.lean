import X12.Lib.Runs
import X12.Core.DrawableStore

/-! # Lookup and lifetime of the drawable store

Storage that still has its X id is found under it, and storage is destroyed
once, when it has no references left and the GPU is done with it. -/

namespace X12

/-! ## Steps and runs -/

/-- The operations of the store. What the GPU has signalled is up to it. -/
inductive StoreEvent where
  | allocate (xid : UInt32) (kind : DrawableKind) (depth : UInt8) (sceneParticipating : Bool)
  | incref (id : DrawableId)
  | decref (signalled : FenceTicket → Bool) (id : DrawableId)
  | detachXid (xid : UInt32)
  | pollPendingRetire (signalled : FenceTicket → Bool)
  | touchRenderFence (id : DrawableId) (ticket : FenceTicket)
  | setSceneParticipating (id : DrawableId) (v : Bool)
  | damage (id : DrawableId) (rect : Rect2D)
  | ackPresentationDamage (snap : DamageSnapshot)

namespace StoreEvent

/-- The store after the operation and the storage that it destroys. -/
def step (s : DrawableStore) : StoreEvent → DrawableStore × List Drawable
  | allocate xid kind depth sceneParticipating =>
    match s.allocate xid kind depth sceneParticipating with
    | .ok allocated => (allocated.1, [])
    | .error _ => (s, [])
  | incref id => (s.incref id, [])
  | decref signalled id =>
    let dropped := s.decref signalled id
    (dropped.1, dropped.2.2)
  | detachXid xid => (s.detachXid xid, [])
  | pollPendingRetire signalled => s.pollPendingRetire signalled
  | touchRenderFence id ticket => (s.touchRenderFence id ticket, [])
  | setSceneParticipating id v => (s.setSceneParticipating id v, [])
  | damage id rect => (s.damage id rect, [])
  | ackPresentationDamage snap => (s.ackPresentationDamage snap, [])

/-- What the GPU has signalled by the time of the operation. -/
def signalled : StoreEvent → FenceTicket → Bool
  | decref signalled _ | pollPendingRetire signalled => signalled
  | _ => fun _ => false

/-- The operation drops the last reference of a drawable. -/
def Releases (id : DrawableId) (s : DrawableStore) (e : StoreEvent) : Prop :=
  ∃ signalled d, e = decref signalled id ∧ s.entries[id]? = some d ∧ d.refcount ≤ 1

/-- No reference is taken on a drawable that has been released, and storage is
parked only while its X id does not name another drawable. -/
def Sound (s : DrawableStore) : StoreEvent → Prop
  | incref id => ∀ d ∈ s.entries[id]?, d.refcount ≠ 0
  | decref signalled id =>
    ∀ d ∈ s.entries[id]?, d.refcount ≤ 1 → d.ticketReady signalled = false →
      ∀ other ∈ s.lookup d.xid, other = id
  | _ => True

instance (s : DrawableStore) : (e : StoreEvent) → Decidable (e.Sound s)
  | incref id => inferInstanceAs (Decidable (∀ d ∈ s.entries[id]?, d.refcount ≠ 0))
  | decref signalled id => inferInstanceAs (Decidable (∀ d ∈ s.entries[id]?, d.refcount ≤ 1 →
      d.ticketReady signalled = false → ∀ other ∈ s.lookup d.xid, other = id))
  | allocate .. | detachXid .. | pollPendingRetire .. | touchRenderFence ..
  | setSceneParticipating .. | damage .. | ackPresentationDamage .. =>
    inferInstanceAs (Decidable True)

end StoreEvent

/-- The store after a run, and the storage that has been destroyed. -/
def runStore (events : List StoreEvent) : DrawableStore × List Drawable :=
  events.foldl (fun run e => ((e.step run.1).1, run.2 ++ (e.step run.1).2)) (.new, [])

/-- The last reference of a drawable has been dropped in a run. -/
def Released (id : DrawableId) (events : List StoreEvent) : Prop :=
  ∃ before e after, events = before ++ e :: after ∧ e.Releases id (runStore before).1

/-- What the store promises of a run. -/
structure StoreSafe (events : List StoreEvent) : Prop where
  live : ∀ xid id, (runStore events).1.lookup xid = some id →
    (runStore events).1.entries.contains id = true
  found : ∀ before xid kind depth scene allocated after,
    events = before ++ .allocate xid kind depth scene :: after →
    (runStore before).1.allocate xid kind depth scene = .ok allocated →
    (∀ e ∈ after, e ≠ .detachXid xid) →
    Runs.AtEach (fun mid e => ¬ e.Releases allocated.2
      (runStore (before ++ .allocate xid kind depth scene :: mid)).1) after →
    (runStore events).1.lookup xid = some allocated.2
  destroyed : Runs.AtEach (fun before e => ∀ d ∈ (e.step (runStore before).1).2,
    d.refcount = 0 ∧ d.ticketReady e.signalled = true ∧ Released d.id (before ++ [e])) events
  once : ((runStore events).2.map (·.id)).Nodup

/-! ## The invariant -/

namespace DrawableStore

variable {s : DrawableStore} {id a : DrawableId} {d : Drawable} {xid : UInt32}
  {f : Drawable → Drawable} {signalled : FenceTicket → Bool}

structure Inv (s : DrawableStore) : Prop where
  entry : ∀ id d, s.entries[id]? = some d → d.id = id ∧ id < s.nextId
  named : ∀ xid id, s.lookup xid = some id →
    ∃ d, s.entries[id]? = some d ∧ d.xid = xid ∧ d.refcount ≠ 0
  parked : ∀ id ∈ s.pendingRetire, id < s.nextId ∧
    ∀ d, s.entries[id]? = some d → d.refcount = 0

theorem inv_new : Inv .new where
  entry _ _ h := nomatch h
  named _ _ h := nomatch h
  parked _ h := nomatch h

theorem entries_modify :
    (s.modify id f).entries[a]? = if a = id then s.entries[a]?.map f else s.entries[a]? :=
  ResourceMap.get_modify

/-- An entry after a change is one from before, changed if it is the one named. -/
theorem entry_of_modify (hd : (s.modify id f).entries[a]? = some d) :
    ∃ e, s.entries[a]? = some e ∧ d = if a = id then f e else e := by
  rw [entries_modify] at hd
  split at hd
  · next ha =>
    obtain ⟨e, he, rfl⟩ := Option.map_eq_some_iff.mp hd
    exact ⟨e, he, (if_pos ha).symm⟩
  · next ha => exact ⟨d, hd, (if_neg ha).symm⟩

/-- What a change does not touch is as before. -/
theorem field_of_modify (field : Drawable → α) (hd : (s.modify id f).entries[a]? = some d)
    (hfield : ∀ e, field (f e) = field e) :
    ∃ e, s.entries[a]? = some e ∧ field d = field e := by
  obtain ⟨e, he, rfl⟩ := entry_of_modify hd
  refine ⟨e, he, ?_⟩
  split
  · exact hfield e
  · rfl

theorem entries_destroyNow :
    (s.destroyNow id).1.entries[a]? = if a = id then none else s.entries[a]? := by
  unfold destroyNow
  split
  · next h =>
    split
    · next ha => rw [ha, h]
    · rfl
  · exact ResourceMap.get_erase

theorem destroyNow_fields :
    (s.destroyNow id).1.nextId = s.nextId ∧
      (s.destroyNow id).1.pendingRetire = s.pendingRetire := by
  unfold destroyNow
  split
  · exact ⟨rfl, rfl⟩
  · exact ⟨rfl, rfl⟩

/-- An X id that names another drawable stays. -/
theorem lookup_destroyNow (s : DrawableStore) (id : DrawableId) (xid : UInt32) :
    (s.destroyNow id).1.lookup xid = s.lookup xid ∨
      s.lookup xid = some id ∧ (s.destroyNow id).1.lookup xid = none := by
  unfold destroyNow lookup
  split
  · exact .inl rfl
  · next d h =>
    dsimp only
    split
    · next hnames =>
      rw [ResourceMap.get_erase]
      split
      · next hxid => exact .inr ⟨hxid ▸ hnames, rfl⟩
      · exact .inl rfl
    · exact .inl rfl

theorem lookup_destroyNow_ne (h : s.Inv) : (s.destroyNow id).1.lookup xid ≠ some id := by
  intro hnamed
  have hkept : s.lookup xid = some id := by
    rcases lookup_destroyNow s id xid with hsame | ⟨-, hnone⟩
    · rw [← hsame, hnamed]
    · exact nomatch hnone.symm.trans hnamed
  obtain ⟨d, hd, hxid, -⟩ := h.named xid id hkept
  unfold destroyNow lookup at hnamed
  rw [hd] at hnamed
  dsimp only at hnamed
  have hbyXid : s.byXid[xid]? = some id := hkept
  rw [hxid, if_pos hbyXid, ResourceMap.get_erase, if_pos rfl] at hnamed
  cases hnamed

theorem Inv.destroyNow (h : s.Inv) (id : DrawableId) : (s.destroyNow id).1.Inv where
  entry a d hd := by
    rw [entries_destroyNow, ite_eq_iff] at hd
    rcases hd with ⟨-, hnone⟩ | ⟨-, hd⟩
    · cases hnone
    · rw [destroyNow_fields.1]
      exact h.entry a d hd
  named xid a hnamed := by
    have hne : a ≠ id := by
      rintro rfl
      exact lookup_destroyNow_ne h hnamed
    rw [entries_destroyNow, if_neg hne]
    refine h.named xid a ?_
    rcases lookup_destroyNow s id xid with hsame | ⟨-, hnone⟩
    · rwa [hsame] at hnamed
    · exact nomatch hnone.symm.trans hnamed
  parked a ha := by
    rw [destroyNow_fields.2] at ha
    refine ⟨(h.parked a ha).1.trans_eq destroyNow_fields.1.symm, fun d hd => ?_⟩
    rw [entries_destroyNow, ite_eq_iff] at hd
    rcases hd with ⟨-, hnone⟩ | ⟨-, hd⟩
    · cases hnone
    · exact (h.parked a ha).2 d hd

/-- A change of an entry that keeps its names, and does not bring it back to
life or drop its last reference. -/
theorem Inv.modify (h : s.Inv) (hf : ∀ d, s.entries[id]? = some d →
    (f d).id = d.id ∧ (f d).xid = d.xid ∧ ((f d).refcount = 0 ↔ d.refcount = 0)) :
    (s.modify id f).Inv where
  entry a d hd := by
    obtain ⟨e, he, rfl⟩ := entry_of_modify hd
    split
    · next ha =>
      rw [(hf e (ha ▸ he)).1]
      exact h.entry a e he
    · exact h.entry a e he
  named xid a hnamed := by
    obtain ⟨d, hd, hxid, hcount⟩ := h.named xid a hnamed
    rw [entries_modify]
    split
    · next ha =>
      obtain ⟨-, hfxid, hfcount⟩ := hf d (ha ▸ hd)
      exact ⟨f d, by rw [hd, Option.map_some], hfxid.trans hxid, mt hfcount.mp hcount⟩
    · exact ⟨d, hd, hxid, hcount⟩
  parked a ha := by
    refine ⟨(h.parked a ha).1, fun d hd => ?_⟩
    obtain ⟨e, he, rfl⟩ := entry_of_modify hd
    split
    · next hid => exact (hf e (hid ▸ he)).2.2.mpr ((h.parked a ha).2 e he)
    · exact (h.parked a ha).2 e he

/-- Storage that is changed and destroyed at once. -/
theorem destroyNow_modify (hd : s.entries[id]? = some d) (hf : (f d).xid = d.xid) :
    (s.modify id f).destroyNow id = ((s.destroyNow id).1, [f d]) := by
  have hget : (s.modify id f).entries[id]? = some (f d) := by
    rw [entries_modify, if_pos rfl, hd, Option.map_some]
  have hentries : (s.entries.modify id f).erase id = s.entries.erase id := by
    refine Std.ExtTreeMap.ext_getElem? fun a => ?_
    rw [ResourceMap.get_erase, ResourceMap.get_erase, ResourceMap.get_modify]
    split
    · rfl
    · rfl
  unfold destroyNow
  rw [hget, hd]
  simp only [modify, hf, hentries]

theorem refcount_sub_ne_zero {v : UInt32} (h : 1 < v) : v - 1 ≠ 0 ∧ v ≠ 0 := by
  have hv : 1 < v.toNat := UInt32.lt_iff_toNat_lt.mp h
  have hsub : (v - 1).toNat = v.toNat - 1 := UInt32.toNat_sub_of_le _ _ (UInt32.le_of_lt h)
  constructor
  · intro hzero
    rw [hzero, UInt32.toNat_zero] at hsub
    omega
  · rintro rfl
    rw [UInt32.toNat_zero] at hv
    omega

theorem saturatingSuccU32_ne_zero {v : UInt32} : saturatingSuccU32 v ≠ 0 := by
  intro hzero
  unfold saturatingSuccU32 at hzero
  split at hzero
  · next h =>
    have hsum : (v + 1).toNat = (v.toNat + 1) % 2 ^ 32 := UInt32.toNat_add v 1
    rw [hzero, UInt32.toNat_zero, Nat.mod_eq_of_lt h] at hsum
    omega
  · next h => exact h (by rw [hzero]; decide)

/-- What dropping a reference does: it keeps the storage, destroys it or parks
it. -/
theorem decref_cases (s : DrawableStore) (signalled : FenceTicket → Bool) (id : DrawableId) :
    (s.entries[id]? = none ∧ s.decref signalled id = (s, .Destroyed, [])) ∨
    ∃ d, s.entries[id]? = some d ∧
      ((1 < d.refcount ∧ s.decref signalled id =
          (s.modify id fun d => { d with refcount := d.refcount - 1 }, .StillReferenced, [])) ∨
        (d.refcount ≤ 1 ∧ d.ticketReady signalled = true ∧ s.decref signalled id =
          ((s.destroyNow id).1, .Destroyed, [{ d with refcount := 0 }])) ∨
        (d.refcount ≤ 1 ∧ d.ticketReady signalled = false ∧ s.decref signalled id =
          ({ s.modify id fun d => { d with refcount := 0 } with
            byXid := s.byXid.erase d.xid
            pendingRetire := s.pendingRetire ++ [id] }, .PendingFence, []))) := by
  unfold decref
  cases hd : s.entries[id]? with
  | none => exact .inl ⟨rfl, rfl⟩
  | some d =>
    refine .inr ⟨d, rfl, ?_⟩
    dsimp only
    by_cases hcount : 1 < d.refcount
    · exact .inl ⟨hcount, if_pos hcount⟩
    · have hlast : d.refcount ≤ 1 := UInt32.not_lt.mp hcount
      rw [if_neg hcount]
      cases hready : d.ticketReady signalled with
      | true =>
        refine .inr (.inl ⟨hlast, rfl, ?_⟩)
        rw [if_pos rfl, destroyNow_modify hd rfl]
      | false => exact .inr (.inr ⟨hlast, rfl, rfl⟩)

theorem Inv.decref (h : s.Inv) : (s.decref signalled id).1.Inv := by
  rcases decref_cases s signalled id with
    ⟨-, heq⟩ | ⟨d, hd, ⟨hcount, heq⟩ | ⟨-, -, heq⟩ | ⟨-, -, heq⟩⟩
  · rw [heq]
    exact h
  · rw [heq]
    refine h.modify fun e he => ⟨rfl, rfl, ?_⟩
    obtain rfl := Option.some.inj (hd.symm.trans he)
    exact iff_of_false (refcount_sub_ne_zero hcount).1 (refcount_sub_ne_zero hcount).2
  · rw [heq]
    exact h.destroyNow id
  · rw [heq]
    have hparked : ∀ a ∈ s.pendingRetire ++ [id], a < s.nextId := by
      intro a ha
      rcases List.mem_append.mp ha with ha | ha
      · exact (h.parked a ha).1
      · exact List.mem_singleton.mp ha ▸ (h.entry id d hd).2
    refine ⟨fun a e he => ?_, fun xid a hnamed => ?_, fun a ha => ⟨hparked a ha, fun e he => ?_⟩⟩
    · have hentry : (s.modify id fun d => { d with refcount := 0 }).entries[a]? = some e := he
      obtain ⟨e', he', hid⟩ := field_of_modify (·.id) hentry fun _ => rfl
      exact hid ▸ h.entry a e' he'
    · have hnamed : (s.byXid.erase d.xid)[xid]? = some a := hnamed
      rw [ResourceMap.get_erase, ite_eq_iff] at hnamed
      rcases hnamed with ⟨-, hnone⟩ | ⟨hxid, hnamed⟩
      · cases hnone
      · obtain ⟨e, he, hexid, hcount⟩ := h.named xid a hnamed
        have hne : a ≠ id := by
          rintro rfl
          obtain rfl := Option.some.inj (hd.symm.trans he)
          exact hxid hexid.symm
        refine ⟨e, ?_, hexid, hcount⟩
        exact (entries_modify (s := s)).trans ((if_neg hne).trans he)
    · have hentry : (s.modify id fun d => { d with refcount := 0 }).entries[a]? = some e := he
      obtain ⟨e', he', rfl⟩ := entry_of_modify hentry
      split
      · rfl
      · next hne =>
        rcases List.mem_append.mp ha with ha | ha
        · exact (h.parked a ha).2 e' he'
        · exact absurd (List.mem_singleton.mp ha) hne

/-! ## Retiring parked storage -/

theorem destroyNow_destroyed : (s.destroyNow id).2 = s.entries[id]?.toList := by
  unfold destroyNow
  split
  · next h => rw [h, Option.toList_none]
  · next h => rw [h, Option.toList_some]

theorem destroyAll_cons (s : DrawableStore) (id : DrawableId) (ids : List DrawableId) :
    s.destroyAll (id :: ids) =
      (((s.destroyNow id).1.destroyAll ids).1,
        (s.destroyNow id).2 ++ ((s.destroyNow id).1.destroyAll ids).2) := by
  have hacc (ids : List DrawableId) (s : DrawableStore) (destroyed : List Drawable) :
      ids.foldl (fun p id => ((p.1.destroyNow id).1, p.2 ++ (p.1.destroyNow id).2))
          (s, destroyed) =
      ((s.destroyAll ids).1, destroyed ++ (s.destroyAll ids).2) := by
    unfold destroyAll
    dsimp only
    induction ids generalizing s destroyed with
    | nil => rw [List.foldl_nil, List.foldl_nil, List.append_nil]
    | cons id ids ih =>
      simp only [List.foldl_cons]
      rw [ih, ih _ ([] ++ _), List.nil_append, List.append_assoc]
  exact hacc ids _ _

theorem Inv.destroyAll (h : s.Inv) (ids : List DrawableId) : (s.destroyAll ids).1.Inv := by
  induction ids generalizing s with
  | nil => exact h
  | cons id ids ih =>
    rw [destroyAll_cons]
    exact ih (h.destroyNow id)

theorem destroyAll_fields (ids : List DrawableId) :
    (s.destroyAll ids).1.nextId = s.nextId ∧
      ∀ a, (s.destroyAll ids).1.entries[a]? = if a ∈ ids then none else s.entries[a]? := by
  induction ids generalizing s with
  | nil => exact ⟨rfl, fun a => (if_neg List.not_mem_nil).symm⟩
  | cons id ids ih =>
    obtain ⟨hnext, hentries⟩ := ih (s := (s.destroyNow id).1)
    rw [destroyAll_cons]
    refine ⟨hnext.trans destroyNow_fields.1, fun a => ?_⟩
    rw [hentries a, entries_destroyNow]
    by_cases ha : a = id
    · rw [if_pos ha, ite_self, if_pos (ha ▸ List.mem_cons_self)]
    · rw [if_neg ha]
      exact if_congr (List.mem_cons.trans (or_iff_right ha)).symm rfl rfl

/-- What is destroyed was an entry, and is destroyed once. -/
theorem Inv.destroyAll_destroyed (h : s.Inv) (ids : List DrawableId) :
    (∀ d ∈ (s.destroyAll ids).2, d.id ∈ ids ∧ s.entries[d.id]? = some d) ∧
      ((s.destroyAll ids).2.map (·.id)).Nodup := by
  induction ids generalizing s with
  | nil => exact ⟨fun d hd => (nomatch hd), List.nodup_nil⟩
  | cons id ids ih =>
    obtain ⟨hentry, hnodup⟩ := ih (h.destroyNow id)
    have hlater : ∀ d ∈ ((s.destroyNow id).1.destroyAll ids).2,
        d.id ≠ id ∧ s.entries[d.id]? = some d := by
      intro d hd
      have hkept := (hentry d hd).2
      rw [entries_destroyNow, ite_eq_iff] at hkept
      rcases hkept with ⟨-, hnone⟩ | hkept
      · cases hnone
      · exact hkept
    have hfirst : ∀ d ∈ (s.destroyNow id).2, d.id = id ∧ s.entries[d.id]? = some d := by
      intro d hd
      rw [destroyNow_destroyed, Option.mem_toList] at hd
      have hid := (h.entry id d hd).1
      exact ⟨hid, hid.symm ▸ hd⟩
    rw [destroyAll_cons]
    constructor
    · intro d hd
      rcases List.mem_append.mp hd with hd | hd
      · exact ⟨(hfirst d hd).1 ▸ List.mem_cons_self, (hfirst d hd).2⟩
      · exact ⟨List.mem_cons_of_mem _ (hentry d hd).1, (hlater d hd).2⟩
    · rw [List.map_append, List.nodup_append]
      refine ⟨?_, hnodup, ?_⟩
      · rw [destroyNow_destroyed]
        cases s.entries[id]? with
        | none => exact List.nodup_nil
        | some d => exact List.nodup_singleton _
      · rintro _ hd _ he rfl
        obtain ⟨d, hd, hdid⟩ := List.mem_map.mp hd
        obtain ⟨e, he, heid⟩ := List.mem_map.mp he
        exact (hlater e he).1 (heid.trans (hdid.symm.trans (hfirst d hd).1))

theorem lookup_destroyAll (ids : List DrawableId) (h : s.lookup xid = some a) (ha : a ∉ ids) :
    (s.destroyAll ids).1.lookup xid = some a := by
  induction ids generalizing s with
  | nil => exact h
  | cons id ids ih =>
    obtain ⟨hne, hrest⟩ := List.ne_and_not_mem_of_not_mem_cons ha
    rw [destroyAll_cons]
    refine ih ?_ hrest
    rcases lookup_destroyNow s id xid with hsame | ⟨hid, -⟩
    · rw [hsame, h]
    · exact absurd (Option.some.inj (h.symm.trans hid)) hne

theorem nextId_pollPendingRetire : (s.pollPendingRetire signalled).1.nextId = s.nextId :=
  (destroyAll_fields (s := { s with pendingRetire := [] }) _).1

theorem entries_pollPendingRetire :
    (s.pollPendingRetire signalled).1.entries[a]? =
      if a ∈ s.pendingRetire.filter fun id => s.entries[id]?.all (·.ticketReady signalled)
      then none else s.entries[a]? :=
  (destroyAll_fields (s := { s with pendingRetire := [] }) _).2 a

theorem Inv.pollPendingRetire (h : s.Inv) : (s.pollPendingRetire signalled).1.Inv := by
  have hkept : ({ s with pendingRetire := [] } : DrawableStore).Inv :=
    ⟨h.entry, h.named, fun a ha => (nomatch ha)⟩
  have hswept := hkept.destroyAll
    (s.pendingRetire.filter fun id => s.entries[id]?.all (·.ticketReady signalled))
  refine ⟨hswept.entry, hswept.named, fun a ha => ?_⟩
  have hparked := h.parked a (List.mem_filter.mp ha).1
  refine ⟨nextId_pollPendingRetire.symm ▸ hparked.1, fun d hd => ?_⟩
  rw [entries_pollPendingRetire, ite_eq_iff] at hd
  rcases hd with ⟨-, hnone⟩ | ⟨-, hd⟩
  · cases hnone
  · exact hparked.2 d hd

/-- What is destroyed was parked, and its ticket has signalled. -/
theorem Inv.pollPendingRetire_destroyed (h : s.Inv) :
    (∀ d ∈ (s.pollPendingRetire signalled).2, d.id ∈ s.pendingRetire ∧
      d.ticketReady signalled = true ∧ s.entries[d.id]? = some d ∧
      (s.pollPendingRetire signalled).1.entries[d.id]? = none) ∧
      ((s.pollPendingRetire signalled).2.map (·.id)).Nodup := by
  have hkept : ({ s with pendingRetire := [] } : DrawableStore).Inv :=
    ⟨h.entry, h.named, fun a ha => (nomatch ha)⟩
  obtain ⟨hall, hnodup⟩ := hkept.destroyAll_destroyed
    (s.pendingRetire.filter fun id => s.entries[id]?.all (·.ticketReady signalled))
  refine ⟨fun d hd => ?_, hnodup⟩
  obtain ⟨hmem, hentry⟩ := hall d hd
  have hentry : s.entries[d.id]? = some d := hentry
  obtain ⟨hparked, hready⟩ := List.mem_filter.mp hmem
  rw [hentry, Option.all_some] at hready
  exact ⟨hparked, hready, hentry, entries_pollPendingRetire.trans (if_pos hmem)⟩

/-- A fresh id gets the X id, which names nothing yet. -/
theorem allocate_eq_ok {kind : DrawableKind} {depth : UInt8} {scene : Bool}
    {allocated : DrawableStore × DrawableId}
    (h : s.allocate xid kind depth scene = .ok allocated) :
    s.lookup xid = none ∧
      allocated = ({ s with
        nextId := s.nextId + 1
        entries := s.entries.insert s.nextId ⟨s.nextId, xid, kind, depth, 1, scene, none, [], 0⟩
        byXid := s.byXid.insert xid s.nextId }, s.nextId) := by
  unfold allocate at h
  split at h
  · cases h
  · next hfree =>
    split at h
    · refine ⟨?_, (Except.ok.inj h).symm⟩
      rw [Std.ExtTreeMap.contains_eq_isSome_getElem?, Bool.not_eq_true,
        Option.isSome_eq_false_iff, Option.isNone_iff_eq_none] at hfree
      exact hfree
    · cases h

theorem Inv.allocate {kind : DrawableKind} {depth : UInt8} {scene : Bool}
    {allocated : DrawableStore × DrawableId} (h : s.Inv)
    (hok : s.allocate xid kind depth scene = .ok allocated) : allocated.1.Inv := by
  obtain ⟨hfree, rfl⟩ := allocate_eq_ok hok
  refine ⟨fun a d hd => ?_, fun other a hnamed => ?_, fun a ha => ?_⟩
  · have hd : (s.entries.insert s.nextId _)[a]? = some d := hd
    rw [ResourceMap.get_insert] at hd
    split at hd
    · next ha =>
      obtain rfl := Option.some.inj hd
      exact ⟨ha.symm, ha ▸ Nat.lt_succ_self _⟩
    · exact ⟨(h.entry a d hd).1, Nat.lt_succ_of_lt (h.entry a d hd).2⟩
  · have hnamed : (s.byXid.insert xid s.nextId)[other]? = some a := hnamed
    have hentry : ∃ d, (s.entries.insert s.nextId
        ⟨s.nextId, xid, kind, depth, 1, scene, none, [], 0⟩)[a]? = some d ∧ d.xid = other ∧
        d.refcount ≠ 0 := by
      rw [ResourceMap.get_insert] at hnamed ⊢
      split at hnamed
      · next hxid =>
        obtain rfl := Option.some.inj hnamed
        rw [if_pos rfl]
        exact ⟨_, rfl, hxid.symm, (by decide : (1 : UInt32) ≠ 0)⟩
      · obtain ⟨d, hd, hdxid, hcount⟩ := h.named other a hnamed
        rw [if_neg (Nat.ne_of_lt (h.entry a d hd).2)]
        exact ⟨d, hd, hdxid, hcount⟩
    exact hentry
  · have hold := (h.parked a ha).1
    refine ⟨Nat.lt_succ_of_lt hold, fun d hd => ?_⟩
    have hd : (s.entries.insert s.nextId _)[a]? = some d := hd
    rw [ResourceMap.get_insert, if_neg (Nat.ne_of_lt hold)] at hd
    exact (h.parked a ha).2 d hd

end DrawableStore

/-! ## One operation -/

namespace StoreEvent

open DrawableStore

variable {s : DrawableStore} {e : StoreEvent} {id : DrawableId} {d : Drawable} {xid : UInt32}

theorem inv_step (h : s.Inv) (hsound : e.Sound s) : (e.step s).1.Inv := by
  cases e with
  | allocate xid kind depth scene =>
    cases hok : s.allocate xid kind depth scene with
    | ok allocated =>
      rw [step, hok]
      exact h.allocate hok
    | error _ =>
      rw [step, hok]
      exact h
  | incref id =>
    refine h.modify fun d hd => ⟨rfl, rfl, ?_⟩
    exact iff_of_false saturatingSuccU32_ne_zero (hsound d hd)
  | decref signalled id => exact h.decref
  | detachXid xid =>
    refine ⟨h.entry, fun other id hnamed => ?_, h.parked⟩
    have hnamed : (s.byXid.erase xid)[other]? = some id := hnamed
    rw [ResourceMap.get_erase, ite_eq_iff] at hnamed
    rcases hnamed with ⟨-, hnone⟩ | ⟨-, hnamed⟩
    · cases hnone
    · exact h.named other id hnamed
  | pollPendingRetire signalled => exact h.pollPendingRetire
  | touchRenderFence id ticket => exact h.modify fun d _ => ⟨rfl, rfl, Iff.rfl⟩
  | setSceneParticipating id v =>
    refine h.modify fun d _ => ?_
    unfold Drawable.setSceneParticipating
    split
    · exact ⟨rfl, rfl, Iff.rfl⟩
    · exact ⟨rfl, rfl, Iff.rfl⟩
  | damage id rect =>
    refine h.modify fun d _ => ?_
    unfold Drawable.damage
    split
    · exact ⟨rfl, rfl, Iff.rfl⟩
    · exact ⟨rfl, rfl, Iff.rfl⟩
  | ackPresentationDamage snap =>
    refine h.modify fun d _ => ?_
    unfold Drawable.ackPresentationDamage
    split
    · exact ⟨rfl, rfl, Iff.rfl⟩
    · exact ⟨rfl, rfl, Iff.rfl⟩

/-- What an operation does to the store, and what it destroys. -/
inductive Change (e : StoreEvent) (s : DrawableStore) : DrawableStore × List Drawable → Prop where
  | kept : Change e s (s, [])
  | allocated (xid : UInt32) (d : Drawable) : s.lookup xid = none →
    Change e s ({ s with
      nextId := s.nextId + 1
      entries := s.entries.insert s.nextId d
      byXid := s.byXid.insert xid s.nextId }, [])
  | modified (id : DrawableId) (f : Drawable → Drawable) : Change e s (s.modify id f, [])
  | detached (xid : UInt32) : e = .detachXid xid → Change e s (s.detachXid xid, [])
  | destroyed (signalled : FenceTicket → Bool) (id : DrawableId) (d : Drawable) :
    e = .decref signalled id → s.entries[id]? = some d → d.refcount ≤ 1 →
    d.ticketReady signalled = true →
    Change e s ((s.destroyNow id).1, [{ d with refcount := 0 }])
  | parked (signalled : FenceTicket → Bool) (id : DrawableId) (d : Drawable) :
    e = .decref signalled id → s.entries[id]? = some d → d.refcount ≤ 1 →
    d.ticketReady signalled = false →
    Change e s ({ s.modify id fun d => { d with refcount := 0 } with
      byXid := s.byXid.erase d.xid
      pendingRetire := s.pendingRetire ++ [id] }, [])
  | polled (signalled : FenceTicket → Bool) : e = .pollPendingRetire signalled →
    Change e s (s.pollPendingRetire signalled)

theorem step_change (e : StoreEvent) (s : DrawableStore) : e.Change s (e.step s) := by
  cases e with
  | allocate xid kind depth scene =>
    cases hok : s.allocate xid kind depth scene with
    | ok allocated =>
      rw [step, hok]
      obtain ⟨hfree, rfl⟩ := allocate_eq_ok hok
      exact .allocated xid _ hfree
    | error _ =>
      rw [step, hok]
      exact .kept
  | decref signalled id =>
    rcases decref_cases s signalled id with
      ⟨-, heq⟩ | ⟨d, hd, ⟨-, heq⟩ | ⟨hlast, hready, heq⟩ | ⟨hlast, hready, heq⟩⟩
    · rw [step, heq]
      exact .kept
    · rw [step, heq]
      exact .modified id _
    · rw [step, heq]
      exact .destroyed signalled id d rfl hd hlast hready
    · rw [step, heq]
      exact .parked signalled id d rfl hd hlast hready
  | detachXid xid => exact .detached xid rfl
  | pollPendingRetire signalled => exact .polled signalled rfl
  | incref id => exact .modified id _
  | touchRenderFence id ticket => exact .modified id _
  | setSceneParticipating id v => exact .modified id _
  | damage id rect => exact .modified id _
  | ackPresentationDamage snap => exact .modified snap.id _

/-- What a drawable that still bears its X id goes through: the X id stays with
it until it is detached or the drawable released. -/
theorem lookup_step (h : s.Inv) (hsound : e.Sound s) (hnamed : s.lookup xid = some id)
    (hdetached : e ≠ .detachXid xid) (hreleased : ¬ e.Releases id s) :
    (e.step s).1.lookup xid = some id := by
  obtain ⟨d, hd, hxid, hcount⟩ := h.named xid id hnamed
  have hother {signalled : FenceTicket → Bool} {other : DrawableId} {d' : Drawable}
      (he : e = .decref signalled other) (hd' : s.entries[other]? = some d')
      (hlast : d'.refcount ≤ 1) : other ≠ id := by
    rintro rfl
    exact hreleased ⟨signalled, d', he, hd', hlast⟩
  have hchange := e.step_change s
  generalize e.step s = out at hchange ⊢
  cases hchange with
  | kept => exact hnamed
  | allocated other d' hfree =>
    have hne : xid ≠ other := by
      rintro rfl
      cases hfree.symm.trans hnamed
    exact ResourceMap.get_insert.trans ((if_neg hne).trans hnamed)
  | modified other f => exact hnamed
  | detached other he =>
    have hne : xid ≠ other := fun hsame => hdetached (hsame ▸ he)
    exact ResourceMap.get_erase.trans ((if_neg hne).trans hnamed)
  | destroyed signalled other d' he hd' hlast =>
    rcases lookup_destroyNow s other xid with hsame | ⟨hthis, -⟩
    · exact hsame.trans hnamed
    · exact absurd (Option.some.inj (hthis.symm.trans hnamed)) (hother he hd' hlast)
  | parked signalled other d' he hd' hlast hready =>
    have hne : xid ≠ d'.xid := by
      rintro rfl
      subst he
      exact hother rfl hd' hlast (hsound d' hd' hlast hready id hnamed).symm
    exact ResourceMap.get_erase.trans ((if_neg hne).trans hnamed)
  | polled signalled =>
    refine lookup_destroyAll _ hnamed fun hmem => hcount ?_
    exact (h.parked id (List.mem_filter.mp hmem).1).2 d hd

/-- What is destroyed has no references, and its ticket has signalled. It has
just been released, or was parked. -/
theorem destroys_step (h : s.Inv) (hd : d ∈ (e.step s).2) :
    d.refcount = 0 ∧ d.ticketReady e.signalled = true ∧
      (e.Releases d.id s ∨ d.id ∈ s.pendingRetire) := by
  have hchange := e.step_change s
  generalize e.step s = out at hchange hd
  cases hchange with
  | destroyed signalled id d' he hd' hlast hready =>
    obtain rfl := List.mem_singleton.mp hd
    obtain rfl : d'.id = id := (h.entry id d' hd').1
    subst he
    exact ⟨rfl, hready, .inl ⟨signalled, d', rfl, hd', hlast⟩⟩
  | polled signalled he =>
    obtain ⟨hparked, hready, hentry, -⟩ := h.pollPendingRetire_destroyed.1 d hd
    subst he
    exact ⟨(h.parked d.id hparked).2 d hentry, hready, .inr hparked⟩
  | _ => cases hd

/-- What is destroyed was an entry, and is none any more. -/
theorem destroyed_entry (h : s.Inv) :
    (∀ d ∈ (e.step s).2, d.id < s.nextId ∧ s.entries[d.id]? ≠ none ∧
      (e.step s).1.entries[d.id]? = none) ∧ ((e.step s).2.map (·.id)).Nodup := by
  have hchange := e.step_change s
  generalize e.step s = out at hchange ⊢
  cases hchange with
  | destroyed signalled id d' he hd' =>
    refine ⟨fun d hd => ?_, List.nodup_singleton _⟩
    obtain rfl := List.mem_singleton.mp hd
    obtain ⟨rfl, hold⟩ := h.entry id d' hd'
    refine ⟨hold, ?_, entries_destroyNow.trans (if_pos rfl)⟩
    rw [hd']
    exact Option.some_ne_none _
  | polled signalled =>
    refine ⟨fun d hd => ?_, h.pollPendingRetire_destroyed.2⟩
    obtain ⟨-, -, hentry, hgone⟩ := h.pollPendingRetire_destroyed.1 d hd
    refine ⟨(h.entry d.id d hentry).2, ?_, hgone⟩
    rw [hentry]
    exact Option.some_ne_none _
  | _ => exact ⟨fun d hd => (nomatch hd), List.nodup_nil⟩

theorem nextId_le_step : s.nextId ≤ (e.step s).1.nextId := by
  have hchange := e.step_change s
  generalize e.step s = out at hchange ⊢
  cases hchange with
  | allocated => exact Nat.le_succ _
  | destroyed => exact destroyNow_fields.1.ge
  | polled => exact nextId_pollPendingRetire.ge
  | _ => exact le_rfl

/-- A destroyed drawable does not come back. -/
theorem absent_step (hid : id < s.nextId) (hnone : s.entries[id]? = none) :
    (e.step s).1.entries[id]? = none := by
  have hmodify (other : DrawableId) (f : Drawable → Drawable) :
      (s.modify other f).entries[id]? = none := by
    rw [entries_modify, hnone, Option.map_none, ite_self]
  have hchange := e.step_change s
  generalize e.step s = out at hchange ⊢
  cases hchange with
  | kept => exact hnone
  | allocated => exact ResourceMap.get_insert.trans ((if_neg (Nat.ne_of_lt hid)).trans hnone)
  | modified other f => exact hmodify other f
  | detached => exact hnone
  | destroyed => rw [entries_destroyNow, hnone, ite_self]
  | parked signalled other => exact hmodify other _
  | polled => rw [entries_pollPendingRetire, hnone, ite_self]

/-- Only a release parks storage. -/
theorem parked_step (h : id ∈ (e.step s).1.pendingRetire) :
    id ∈ s.pendingRetire ∨ e.Releases id s := by
  have hchange := e.step_change s
  generalize e.step s = out at hchange h
  cases hchange with
  | destroyed => exact .inl (destroyNow_fields.2 ▸ h)
  | parked signalled other d' he hd' hlast =>
    refine (List.mem_append.mp h).imp_right fun hthis => ?_
    obtain rfl := List.mem_singleton.mp hthis
    exact ⟨signalled, d', he, hd', hlast⟩
  | polled => exact .inl (List.mem_filter.mp h).1
  | _ => exact .inl h

end StoreEvent

/-! ## Runs -/

section

variable {events before after : List StoreEvent} {e : StoreEvent} {id : DrawableId}

theorem runStore_concat :
    runStore (events ++ [e]) =
      ((e.step (runStore events).1).1, (runStore events).2 ++ (e.step (runStore events).1).2) := by
  rw [runStore, List.foldl_append]
  rfl

theorem Released.append (h : Released id before) : Released id (before ++ after) := by
  obtain ⟨first, e, rest, rfl, hreleases⟩ := h
  exact ⟨first, e, rest ++ after, by rw [List.append_assoc, List.cons_append], hreleases⟩

theorem Released.now (h : e.Releases id (runStore before).1) : Released id (before ++ [e]) :=
  ⟨before, e, [], rfl, h⟩

/-- What holds all along a sound run. -/
structure RunInv (events : List StoreEvent) : Prop where
  inv : (runStore events).1.Inv
  parked : ∀ id ∈ (runStore events).1.pendingRetire, Released id events
  gone : ∀ d ∈ (runStore events).2, d.id < (runStore events).1.nextId ∧
    (runStore events).1.entries[d.id]? = none
  once : ((runStore events).2.map (·.id)).Nodup

theorem RunInv.concat (h : RunInv events) (hsound : e.Sound (runStore events).1) :
    RunInv (events ++ [e]) := by
  obtain ⟨hnew, hnodup⟩ := StoreEvent.destroyed_entry (e := e) h.inv
  refine ⟨?_, ?_, ?_, ?_⟩
  · rw [runStore_concat]
    exact StoreEvent.inv_step h.inv hsound
  · intro id hid
    rw [runStore_concat] at hid
    rcases StoreEvent.parked_step hid with hparked | hreleases
    · exact (h.parked id hparked).append
    · exact .now hreleases
  · intro d hd
    rw [runStore_concat] at hd ⊢
    rcases List.mem_append.mp hd with hd | hd
    · obtain ⟨hold, hnone⟩ := h.gone d hd
      exact ⟨hold.trans_le StoreEvent.nextId_le_step, StoreEvent.absent_step hold hnone⟩
    · exact ⟨(hnew d hd).1.trans_le StoreEvent.nextId_le_step, (hnew d hd).2.2⟩
  · rw [runStore_concat, List.map_append, List.nodup_append]
    refine ⟨h.once, hnodup, ?_⟩
    rintro _ hd _ he rfl
    obtain ⟨d, hd, hdid⟩ := List.mem_map.mp hd
    obtain ⟨d', hd', hdid'⟩ := List.mem_map.mp he
    refine (hnew d' hd').2.1 ?_
    rw [hdid', ← hdid]
    exact (h.gone d hd).2

/-- Every operation of a run is sound where it stands. -/
def SoundRun (events : List StoreEvent) : Prop :=
  Runs.AtEach (fun before e => e.Sound (runStore before).1) events

instance : Decidable (SoundRun events) := inferInstanceAs (Decidable (Runs.AtEach _ _))

theorem runInv (hsound : SoundRun events) : RunInv events := by
  refine Runs.run_induction ?_ (fun before e h he => h.concat he) hsound
  exact ⟨DrawableStore.inv_new, fun _ h => (nomatch h), fun _ h => (nomatch h), List.nodup_nil⟩

/-- The X id of an allocation, as long as it is neither detached nor the
drawable released. -/
theorem lookup_allocated {xid : UInt32} {kind : DrawableKind} {depth : UInt8} {scene : Bool}
    {allocated : DrawableStore × DrawableId}
    (hsound : SoundRun (before ++ .allocate xid kind depth scene :: after))
    (hok : (runStore before).1.allocate xid kind depth scene = .ok allocated)
    (hdetached : ∀ e ∈ after, e ≠ .detachXid xid)
    (hreleased : Runs.AtEach (fun mid e => ¬ e.Releases allocated.2
      (runStore (before ++ .allocate xid kind depth scene :: mid)).1) after) :
    (runStore (before ++ .allocate xid kind depth scene :: after)).1.lookup xid =
      some allocated.2 := by
  induction after using List.reverseRecOn with
  | nil =>
    rw [runStore_concat, StoreEvent.step, hok]
    obtain ⟨-, rfl⟩ := DrawableStore.allocate_eq_ok hok
    exact ResourceMap.get_insert.trans (if_pos rfl)
  | append_singleton after e ih =>
    rw [← List.cons_append, ← List.append_assoc] at hsound ⊢
    obtain ⟨hsound, hlast⟩ := Runs.AtEach.concat_iff.mp hsound
    obtain ⟨hreleased, hkeeps⟩ := Runs.AtEach.concat_iff.mp hreleased
    have hnamed := ih hsound (fun f hf => hdetached f (List.mem_append_left _ hf)) hreleased
    rw [runStore_concat]
    exact StoreEvent.lookup_step (runInv hsound).inv hlast hnamed
      (hdetached e (List.mem_append_right _ List.mem_cons_self)) hkeeps

/-- A run that takes no reference on released storage, and parks none whose X id
names another drawable, is safe. -/
theorem store_safe (hsound : SoundRun events) : StoreSafe events := by
  have hrun := runInv hsound
  refine ⟨fun xid id hnamed => ?_, ?_, ?_, hrun.once⟩
  · obtain ⟨d, hd, -⟩ := hrun.inv.named xid id hnamed
    rw [Std.ExtTreeMap.contains_eq_isSome_getElem?, hd]
    rfl
  · rintro before xid kind depth scene allocated after rfl hok hdetached hreleased
    exact lookup_allocated hsound hok hdetached hreleased
  · rintro before e after rfl d hd
    have hbefore := runInv (Runs.AtEach.append_iff.mp hsound).1
    obtain ⟨hcount, hready, horigin⟩ := StoreEvent.destroys_step hbefore.inv hd
    refine ⟨hcount, hready, ?_⟩
    rcases horigin with hreleases | hparked
    · exact .now hreleases
    · exact (hbefore.parked d.id hparked).append

/-- An X id that is used again while its old storage is parked. -/
def recycled : List StoreEvent :=
  [.allocate 0x42 .Window 24 true, .touchRenderFence 1 5, .decref (fun _ => false) 1,
    .allocate 0x42 .Window 24 true, .pollPendingRetire fun _ => true]

theorem store_safe_recycled : StoreSafe recycled := store_safe (by decide)

/-- An X id that is used again while its old storage still has a reference. The
new storage loses its X id when the old one is parked. -/
def overlapped : List StoreEvent :=
  [.allocate 0x42 .Window 24 true, .touchRenderFence 1 5, .incref 1, .detachXid 0x42,
    .decref (fun _ => false) 1, .allocate 0x42 .Window 24 true, .decref (fun _ => false) 1]

/-- Parked storage on which a reference is taken is destroyed all the same. -/
def revived : List StoreEvent :=
  [.allocate 0x42 .Window 24 true, .touchRenderFence 1 5, .decref (fun _ => false) 1, .incref 1,
    .pollPendingRetire fun _ => true]

theorem parking_unsafe : ¬ StoreSafe overlapped ∧ ¬ StoreSafe revived := by
  constructor
  · intro hsafe
    have hfound : (runStore overlapped).1.lookup 0x42 = some 2 := by
      refine hsafe.found (overlapped.take 5) 0x42 .Window 24 true (_, 2)
        [.decref (fun _ => false) 1] rfl rfl ?_ ?_
      · intro e he
        obtain rfl := List.mem_singleton.mp he
        exact nofun
      · refine Runs.AtEach.cons_iff.mpr ⟨?_, .nil⟩
        rintro ⟨_, _, hother, -⟩
        cases hother
    exact absurd hfound (by decide)
  · intro hsafe
    have hdestroyed := hsafe.destroyed (revived.take 4) (.pollPendingRetire fun _ => true) [] rfl
      ⟨1, 0x42, .Window, 24, 1, true, some 5, [], 0⟩ (by decide)
    exact absurd hdestroyed.1 (by decide)

end

end X12

import X12.Core.Backings
import X12.Lib.RefCounts
import X12.Verify.DrawableStore

/-! # The counters of the backend

What the backend counts in three places is one table of holds. A pixmap that is a backing
has its holds counted by the registry, and any other one by the store; an export has a hold
of its own, whatever its GLX pixmaps. Each operation of the backend is an operation on
that table. -/

namespace X12

theorem toNat_saturatingPredU32 (v : UInt32) :
    (AliasRegistry.saturatingPredU32 v).toNat = v.toNat - 1 := by
  unfold AliasRegistry.saturatingPredU32
  split
  · next h =>
    rw [h]
    rfl
  · next h =>
    have hone : (1 : UInt32) ≤ v := by
      rw [UInt32.le_iff_toNat_le]
      exact Nat.pos_of_ne_zero fun hzero => h (UInt32.toNat_inj.mp hzero)
    exact UInt32.toNat_sub_of_le _ _ hone

theorem toNat_saturatingSuccU32 {v : UInt32} (h : v.toNat + 1 < 2 ^ 32) :
    (DrawableStore.saturatingSuccU32 v).toNat = v.toNat + 1 := by
  rw [DrawableStore.saturatingSuccU32, if_pos h]
  exact (UInt32.toNat_add v 1).trans (Nat.mod_eq_of_lt h)

/-! ## The store -/

namespace DrawableStore

variable {s s' : DrawableStore} {xid y : UInt32} {id : DrawableId}

def refs (s : DrawableStore) (xid : UInt32) : Nat :=
  ((s.lookup xid).bind (s.entries[·]?)).elim 0 (·.refcount.toNat)

theorem refs_of_lookup (hid : s.lookup xid = some id) :
    s.refs xid = s.entries[id]?.elim 0 (·.refcount.toNat) := by
  rw [refs, hid, Option.bind_some]

theorem refs_of_lookup_none (h : s.lookup xid = none) : s.refs xid = 0 := by
  rw [refs, h, Option.bind_none, Option.elim_none]

theorem Inv.exists_entry (h : s.Inv) (hid : s.lookup xid = some id) :
    ∃ d, s.entries[id]? = some d ∧ d.xid = xid ∧ s.refs xid = d.refcount.toNat ∧
      s.refs xid ≠ 0 := by
  obtain ⟨d, hd, hxid, hcount⟩ := h.named xid id hid
  have hrefs : s.refs xid = d.refcount.toNat := by rw [refs_of_lookup hid, hd, Option.elim_some]
  refine ⟨d, hd, hxid, hrefs, fun hzero => hcount ?_⟩
  exact UInt32.toNat_inj.mp (hrefs.symm.trans hzero)

theorem Inv.refs_eq_zero_iff (h : s.Inv) : s.refs xid = 0 ↔ s.lookup xid = none := by
  cases hid : s.lookup xid with
  | none => exact iff_of_true (refs_of_lookup_none hid) rfl
  | some id =>
    obtain ⟨_, -, -, -, hne⟩ := h.exists_entry hid
    exact iff_of_false hne nofun

theorem Inv.lookup_inj (h : s.Inv) (hx : s.lookup xid = some id) (hy : s.lookup y = some id) :
    xid = y := by
  obtain ⟨d, hd, rfl, -⟩ := h.named xid id hx
  obtain ⟨d', hd', rfl, -⟩ := h.named y id hy
  rw [Option.some.inj (hd.symm.trans hd')]

/-- What is known of the other X ids stays. -/
def KeepsOthers (s s' : DrawableStore) (xid : UInt32) : Prop :=
  ∀ y, y ≠ xid → s'.lookup y = s.lookup y ∧ s'.refs y = s.refs y

/-- The entries of other drawables stay, and so do their X ids. -/
theorem Inv.keepsOthers (h : s.Inv) (hid : s.lookup xid = some id)
    (hlookup : ∀ y, y ≠ xid → s'.lookup y = s.lookup y)
    (hentries : ∀ a, a ≠ id → s'.entries[a]? = s.entries[a]?) : KeepsOthers s s' xid := by
  intro y hy
  refine ⟨hlookup y hy, ?_⟩
  rw [refs, refs, hlookup y hy]
  cases hother : s.lookup y with
  | none => rfl
  | some a =>
    rw [Option.bind_some, Option.bind_some, hentries a]
    rintro rfl
    exact hy (h.lookup_inj hother hid)

theorem decref_refs (h : s.Inv) (hid : s.lookup xid = some id) (signalled : FenceTicket → Bool) :
    (s.decref signalled id).1.refs xid = s.refs xid - 1 ∧
      ((s.decref signalled id).1.lookup xid = if s.refs xid = 1 then none else some id) ∧
      KeepsOthers s (s.decref signalled id).1 xid := by
  obtain ⟨d, hd, hxid, hrefs, hne⟩ := h.exists_entry hid
  have hlast (hle : d.refcount ≤ 1) : s.refs xid = 1 := by
    have hle : d.refcount.toNat ≤ 1 := UInt32.le_iff_toNat_le.mp hle
    omega
  rcases decref_cases s signalled id with
    ⟨hnone, -⟩ | ⟨d', hd', ⟨hcount, heq⟩ | ⟨hle, -, heq⟩ | ⟨hle, -, heq⟩⟩
  · cases hnone.symm.trans hd
  · obtain rfl := Option.some.inj (hd.symm.trans hd')
    rw [heq]
    have hcount : 1 < d.refcount.toNat := UInt32.lt_iff_toNat_lt.mp hcount
    refine ⟨?_, ?_, h.keepsOthers hid (fun _ _ => rfl) fun a ha => ?_⟩
    · rw [refs_of_lookup (s := s.modify id _) hid, entries_modify, if_pos rfl, hd, hrefs]
      exact UInt32.toNat_sub_of_le _ _ (UInt32.le_of_lt (UInt32.lt_iff_toNat_lt.mpr hcount))
    · rw [if_neg (by omega)]
      exact hid
    · rw [entries_modify, if_neg ha]
  · obtain rfl := Option.some.inj (hd.symm.trans hd')
    rw [heq, hlast hle, if_pos rfl]
    have hgone : (s.destroyNow id).1.lookup xid = none := by
      rcases lookup_destroyNow s id xid with hsame | ⟨-, hnone⟩
      · exact absurd (hsame.trans hid) (lookup_destroyNow_ne h)
      · exact hnone
    refine ⟨refs_of_lookup_none hgone, hgone, h.keepsOthers hid (fun y hy => ?_) fun a ha => ?_⟩
    · rcases lookup_destroyNow s id y with hsame | ⟨hy', -⟩
      · exact hsame
      · exact absurd (h.lookup_inj hy' hid) hy
    · rw [entries_destroyNow, if_neg ha]
  · obtain rfl := Option.some.inj (hd.symm.trans hd')
    rw [heq, hlast hle, if_pos rfl]
    have hgone : (s.byXid.erase d.xid)[xid]? = none := by
      rw [ResourceMap.get_erase, if_pos hxid.symm]
    refine ⟨refs_of_lookup_none hgone, hgone, h.keepsOthers hid (fun y hy => ?_) fun a ha => ?_⟩
    · exact ResourceMap.get_erase.trans (if_neg (hxid ▸ hy))
    · exact (entries_modify (s := s)).trans (if_neg ha)

theorem nextId_decref (signalled : FenceTicket → Bool) :
    (s.decref signalled id).1.nextId = s.nextId := by
  rcases decref_cases s signalled id with
    ⟨-, heq⟩ | ⟨d, -, ⟨-, heq⟩ | ⟨-, -, heq⟩ | ⟨-, -, heq⟩⟩
  · rw [heq]
  · rw [heq]
    rfl
  · rw [heq]
    exact destroyNow_fields.1
  · rw [heq]
    rfl

theorem incref_refs (h : s.Inv) (hid : s.lookup xid = some id) (hlt : s.refs xid + 1 < 2 ^ 32) :
    (s.incref id).Inv ∧ (s.incref id).refs xid = s.refs xid + 1 ∧
      KeepsOthers s (s.incref id) xid := by
  obtain ⟨d, hd, hxid, hrefs, hne⟩ := h.exists_entry hid
  refine ⟨h.modify fun e he => ⟨rfl, rfl, iff_of_false saturatingSuccU32_ne_zero ?_⟩, ?_,
    h.keepsOthers hid (fun _ _ => rfl) fun a ha => ?_⟩
  · obtain rfl := Option.some.inj (hd.symm.trans he)
    rintro hzero
    rw [hzero] at hrefs
    exact hne hrefs
  · rw [incref, refs_of_lookup (s := s.modify id _) hid, entries_modify, if_pos rfl, hd, hrefs]
    exact toNat_saturatingSuccU32 (hrefs ▸ hlt)
  · rw [incref, entries_modify, if_neg ha]

theorem allocate_refs (h : s.Inv) (hfree : s.lookup xid = none) (hnext : s.nextId + 1 < 2 ^ 64)
    (kind : DrawableKind) (depth : UInt8) (scene : Bool) :
    ∃ s', s.allocate xid kind depth scene = .ok (s', s.nextId) ∧ s'.Inv ∧
      s'.lookup xid = some s.nextId ∧ s'.refs xid = 1 ∧ KeepsOthers s s' xid ∧
      s'.nextId = s.nextId + 1 := by
  have hcontains : s.byXid.contains xid = false := by
    rw [Std.ExtTreeMap.contains_eq_isSome_getElem?]
    exact Option.isSome_eq_false_iff.mpr (Option.isNone_iff_eq_none.mpr hfree)
  obtain ⟨allocated, hok⟩ : ∃ allocated, s.allocate xid kind depth scene = .ok allocated := by
    rw [allocate, hcontains, if_neg Bool.false_ne_true, if_pos hnext]
    exact ⟨_, rfl⟩
  obtain ⟨-, heq⟩ := allocate_eq_ok hok
  have hlookup (y : UInt32) :
      allocated.1.lookup y = if y = xid then some s.nextId else s.lookup y := by
    rw [heq]
    exact ResourceMap.get_insert
  have hentries (a : DrawableId) : allocated.1.entries[a]? =
      if a = s.nextId then some ⟨s.nextId, xid, kind, depth, 1, scene, none, [], 0⟩
      else s.entries[a]? := by
    rw [heq]
    exact ResourceMap.get_insert
  have hnamed := (hlookup xid).trans (if_pos rfl)
  have hid : allocated.2 = s.nextId := by rw [heq]
  refine ⟨allocated.1, hid ▸ hok, h.allocate hok, hnamed, ?_, fun y hy => ?_, by rw [heq]⟩
  · rw [refs_of_lookup hnamed, hentries, if_pos rfl]
    rfl
  · have hsame := (hlookup y).trans (if_neg hy)
    refine ⟨hsame, ?_⟩
    rw [refs, refs, hsame]
    cases hother : s.lookup y with
    | none => rfl
    | some a =>
      obtain ⟨d, hd, -⟩ := h.named y a hother
      rw [Option.bind_some, Option.bind_some, hentries, if_neg (Nat.ne_of_lt (h.entry a d hd).2)]

theorem lookup_pollPendingRetire (h : s.Inv) (signalled : FenceTicket → Bool) (xid : UInt32) :
    (s.pollPendingRetire signalled).1.lookup xid = s.lookup xid := by
  have hgone (ids : List DrawableId) (s : DrawableStore) (hnone : s.lookup xid = none) :
      (s.destroyAll ids).1.lookup xid = none := by
    induction ids generalizing s with
    | nil => exact hnone
    | cons id ids ih =>
      rw [destroyAll_cons]
      refine ih _ ?_
      rcases lookup_destroyNow s id xid with hsame | ⟨-, hnone⟩
      · rw [hsame, hnone]
      · exact hnone
  cases hid : s.lookup xid with
  | none => exact hgone _ { s with pendingRetire := [] } hid
  | some id =>
    refine lookup_destroyAll (s := { s with pendingRetire := [] }) _ hid fun hmem => ?_
    obtain ⟨d, hd, -, hcount⟩ := h.named xid id hid
    exact hcount ((h.parked id (List.mem_filter.mp hmem).1).2 d hd)

theorem refs_pollPendingRetire (h : s.Inv) (signalled : FenceTicket → Bool) (xid : UInt32) :
    (s.pollPendingRetire signalled).1.refs xid = s.refs xid := by
  rw [refs, refs, lookup_pollPendingRetire h]
  cases hid : s.lookup xid with
  | none => rfl
  | some id =>
    obtain ⟨d, hd, -, hcount⟩ := h.named xid id hid
    rw [Option.bind_some, Option.bind_some, entries_pollPendingRetire, if_neg]
    exact fun hmem => hcount ((h.parked id (List.mem_filter.mp hmem).1).2 d hd)

theorem refs_touchRenderFence (ticket : FenceTicket) :
    (s.touchRenderFence id ticket).refs xid = s.refs xid := by
  rw [refs, refs, show (s.touchRenderFence id ticket).lookup xid = s.lookup xid from rfl]
  cases s.lookup xid with
  | none => rfl
  | some a =>
    rw [Option.bind_some, Option.bind_some, touchRenderFence, entries_modify]
    split
    · cases s.entries[a]? <;> rfl
    · rfl

end DrawableStore

/-! ## The registry -/

namespace AliasRegistry

variable {r : AliasRegistry} {h g : Handle} {n : Nat}

def count (r : AliasRegistry) (h : Handle) : Option Nat := r[h]?.map (·.refcount.toNat)

theorem contains_iff : r.contains h = true ↔ ∃ n, r.count h = some n := by
  rw [count, Std.ExtTreeMap.contains_eq_isSome_getElem?]
  cases r[h]? <;> simp

theorem count_incref (hlt : n + 1 < 2 ^ 32) (hn : r.count h = some n) :
    (r.incref h).count g = if g = h then some (n + 1) else r.count g := by
  obtain ⟨e, he, hcount⟩ := Option.map_eq_some_iff.mp hn
  rw [count, incref, ResourceMap.get_modify]
  split
  · next hg =>
    rw [hg, he, Option.map_some, Option.map_some, toNat_saturatingSuccU32 (hcount ▸ hlt), hcount]
  · rfl

theorem decref_spec (hn : r.count h = some (n + 1)) :
    (r.decref h).2 = decide (n = 0) ∧
      ∀ g, (r.decref h).1.count g =
        if g = h then (if n = 0 then none else some n) else r.count g := by
  obtain ⟨e, he, hcount⟩ := Option.map_eq_some_iff.mp hn
  have hpred : (saturatingPredU32 e.refcount).toNat = n := by
    rw [toNat_saturatingPredU32, hcount, Nat.add_sub_cancel]
  have hzero : saturatingPredU32 e.refcount = 0 ↔ n = 0 := by
    rw [← hpred, ← UInt32.toNat_inj]
    rfl
  rw [decref, he]
  by_cases hn : n = 0
  · simp only [hzero.mpr hn, if_true, hn, decide_true, true_and]
    intro g
    rw [count, ResourceMap.get_erase]
    split <;> rfl
  · simp only [if_neg (mt hzero.mp hn), if_neg hn, decide_eq_false hn, true_and]
    intro g
    rw [count, ResourceMap.get_modify]
    split
    · next hg => rw [hg, he, Option.map_some, Option.map_some, hpred]
    · rfl

end AliasRegistry

/-! ## The table of holds -/

/-- `glx` is how often an exported pixmap is bound to GLX. -/
structure Holdings where
  held : Handle → Nat
  glx : Handle → Option Nat
  backing : Handle → Bool

namespace Holdings

variable {v : Holdings} {h g : Handle}

def new : Holdings := ⟨fun _ => 0, fun _ => none, fun _ => false⟩

/-- The holds, with that of the export. -/
def count (v : Holdings) (h : Handle) : Nat := v.held h + (v.glx h).elim 0 fun _ => 1

def Stored (v : Holdings) (h : Handle) : Prop := v.count h ≠ 0

def take (v : Holdings) (h : Handle) : Holdings :=
  { v with held := Function.update v.held h (v.held h + 1) }

def drop (v : Holdings) (h : Handle) : Holdings :=
  { v with held := Function.update v.held h (v.held h - 1) }

def setGlx (v : Holdings) (h : Handle) (n : Option Nat) : Holdings :=
  { v with glx := Function.update v.glx h n }

/-- An export that is not bound to GLX is given up. -/
def settle (v : Holdings) (h : Handle) : Holdings :=
  if v.glx h = some 0 then v.setGlx h none else v

def free (v : Holdings) (h : Handle) : Holdings := (v.drop h).settle h

def exportDmabuf (v : Holdings) (h : Handle) : Holdings := v.setGlx h (some ((v.glx h).getD 0))

def bindGlx (v : Holdings) (h : Handle) : Holdings := v.setGlx h (some ((v.glx h).getD 0 + 1))

def unbindGlx (v : Holdings) (h : Handle) : Holdings :=
  (v.setGlx h ((v.glx h).map (· - 1))).settle h

/-- A new pixmap, which may be a backing. -/
def create (v : Holdings) (h : Handle) (backing : Bool) : Holdings :=
  { v with
    held := Function.update v.held h 1
    backing := Function.update v.backing h backing }

def registryCount (v : Holdings) (h : Handle) : Option Nat :=
  if v.backing h = true ∧ v.count h ≠ 0 then some (v.count h) else none

/-- The store has one reference for all the holds on a backing. -/
def storeRefs (v : Holdings) (h : Handle) : Nat :=
  if v.backing h then min 1 (v.count h) else v.count h

@[simp] theorem held_create {backing : Bool} :
    (v.create h backing).held g = if g = h then 1 else v.held g :=
  Function.update_apply ..

@[simp] theorem glx_create {backing : Bool} : (v.create h backing).glx = v.glx := rfl

@[simp] theorem backing_create {backing : Bool} :
    (v.create h backing).backing g = if g = h then backing else v.backing g :=
  Function.update_apply ..

@[simp] theorem held_take : (v.take h).held g = if g = h then v.held h + 1 else v.held g :=
  Function.update_apply ..

@[simp] theorem glx_take : (v.take h).glx = v.glx := rfl

@[simp] theorem backing_take : (v.take h).backing = v.backing := rfl

@[simp] theorem held_drop : (v.drop h).held g = if g = h then v.held h - 1 else v.held g :=
  Function.update_apply ..

@[simp] theorem glx_drop : (v.drop h).glx = v.glx := rfl

@[simp] theorem backing_drop : (v.drop h).backing = v.backing := rfl

@[simp] theorem held_setGlx {n : Option Nat} : (v.setGlx h n).held = v.held := rfl

@[simp] theorem glx_setGlx {n : Option Nat} :
    (v.setGlx h n).glx g = if g = h then n else v.glx g :=
  Function.update_apply ..

@[simp] theorem backing_setGlx {n : Option Nat} : (v.setGlx h n).backing = v.backing := rfl

theorem registryCount_of_backing (hb : v.backing h = true) :
    v.registryCount h = if v.count h = 0 then none else some (v.count h) := by
  rw [registryCount, hb]
  split <;> simp_all

theorem registryCount_of_not_backing (hb : v.backing h = false) : v.registryCount h = none :=
  if_neg fun hyes => Bool.false_ne_true (hb.symm.trans hyes.1)

theorem registryCount_congr {v' : Holdings} (hb : v.backing h = v'.backing h)
    (hcount : v.count h = v'.count h) : v.registryCount h = v'.registryCount h := by
  rw [registryCount, registryCount, hb, hcount]

theorem storeRefs_of_backing (hb : v.backing h = true) : v.storeRefs h = min 1 (v.count h) :=
  if_pos hb

theorem storeRefs_of_not_backing (hb : v.backing h = false) : v.storeRefs h = v.count h :=
  if_neg fun hyes => Bool.false_ne_true (hb.symm.trans hyes)

theorem storeRefs_congr {v' : Holdings} (hb : v.backing h = v'.backing h)
    (hcount : v.count h = v'.count h) : v.storeRefs h = v'.storeRefs h := by
  rw [storeRefs, storeRefs, hb, hcount]

theorem storeRefs_eq_zero_iff : v.storeRefs h = 0 ↔ v.count h = 0 := by
  unfold storeRefs
  split <;> omega

theorem count_take : (v.take h).count g = if g = h then v.count h + 1 else v.count g := by
  rw [count, held_take, glx_take]
  split
  · next hg =>
    rw [hg, count]
    omega
  · rfl

theorem count_drop (hpos : 0 < v.held h) :
    (v.drop h).count g = if g = h then v.count h - 1 else v.count g := by
  rw [count, held_drop, glx_drop]
  split
  · next hg =>
    rw [hg, count]
    omega
  · rfl

theorem count_map_glx {n : Nat → Nat} :
    (v.setGlx h ((v.glx h).map n)).count g = v.count g := by
  rw [count, count, held_setGlx, glx_setGlx]
  split
  · next hg =>
    rw [hg]
    cases v.glx h <;> rfl
  · rfl

/-- The first hold of an export is one of those that there are. -/
theorem count_insertExport {n : Nat} (hglx : v.glx h = none) (hpos : 0 < v.held h) :
    ((v.drop h).setGlx h (some n)).count g = v.count g := by
  rw [count, count, held_setGlx, glx_setGlx, held_drop, glx_drop]
  split
  · next hg =>
    rw [hg, hglx, Option.elim_none, Option.elim_some]
    omega
  · rfl

theorem count_eraseExport {n : Nat} (hglx : v.glx h = some n) :
    ((v.take h).setGlx h none).count g = v.count g := by
  rw [count, count, held_setGlx, glx_setGlx, held_take, glx_take]
  split
  · next hg => rw [hg, hglx, Option.elim_none, Option.elim_some, Nat.add_zero]
  · rfl

theorem count_create {backing : Bool} (hglx : v.glx h = none) :
    (v.create h backing).count g = if g = h then 1 else v.count g := by
  rw [count, held_create, glx_create]
  split
  · next hg =>
    rw [hg, hglx]
    rfl
  · rfl

theorem held_settle : (v.settle h).held = v.held := by
  rw [settle]
  split <;> rfl

theorem backing_settle : (v.settle h).backing = v.backing := by
  rw [settle]
  split <;> rfl

theorem getD_glx_settle : ((v.settle h).glx g).getD 0 = (v.glx g).getD 0 := by
  rw [settle]
  split
  · next hzero =>
    rw [glx_setGlx]
    split
    · next hg =>
      rw [hg, hzero]
      rfl
    · rfl
  · rfl

theorem glx_settle_eq_zero : (v.settle h).glx g = some 0 ↔ g ≠ h ∧ v.glx g = some 0 := by
  rw [settle]
  split
  · next hzero =>
    rw [glx_setGlx]
    split
    · next hg => simp [hg]
    · next hg => simp [hg]
  · next hzero =>
    refine ⟨fun hg => ⟨?_, hg⟩, And.right⟩
    rintro rfl
    exact hzero hg

theorem count_settle_le : (v.settle h).count g ≤ v.count g := by
  rw [count, count, held_settle]
  refine Nat.add_le_add_left ?_ _
  rw [settle]
  split
  · rw [glx_setGlx]
    split
    · exact Nat.zero_le _
    · exact Nat.le_refl _
  · exact Nat.le_refl _

theorem count_drop_le : (v.drop h).count g ≤ v.count g := by
  rw [count, count, held_drop, glx_drop]
  split
  · next hg =>
    rw [hg]
    exact Nat.add_le_add_right (Nat.sub_le _ _) _
  · exact Nat.le_refl _

theorem drop_take : (v.take h).drop h = v := by
  simp [take, drop]

theorem setGlx_setGlx {m n : Option Nat} : (v.setGlx h m).setGlx h n = v.setGlx h n := by
  simp [setGlx]

theorem setGlx_self {n : Option Nat} (hn : v.glx h = n) : v.setGlx h n = v := by
  simp [setGlx, ← hn]

theorem exportDmabuf_of_some {n : Nat} (hn : v.glx h = some n) : v.exportDmabuf h = v := by
  rw [exportDmabuf, hn]
  exact setGlx_self hn

theorem settle_of_none (hnone : v.glx h = none) : v.settle h = v := by
  rw [settle, hnone, if_neg nofun]

end Holdings

namespace KmsBackend

variable {b b' : KmsBackend} {v v' : Holdings} {h g : Handle} {id : DrawableId}
  {e : ExportedBacking}

def exportAt (b : KmsBackend) (h : Handle) : Option ExportedBacking :=
  (b.store.lookup h).bind (b.exportedDmabufs[·]?)

/-- One hold is dropped, on the counter that has it. -/
def dropRef (b : KmsBackend) (h : Handle) : KmsBackend :=
  if b.aliasRegistry.contains h then
    let (registry, last) := b.aliasRegistry.decref h
    let b := { b with aliasRegistry := registry }
    if last then (b.store.lookup h).elim b b.storeDecref else b
  else (b.store.lookup h).elim b b.storeDecref

theorem freePixmap_eq :
    b.freePixmap h = (b.store.lookup h).elim (b.dropRef h) (b.dropRef h).maybeTeardownExport :=
  rfl

/-- What the backend counts is the table. -/
structure Holds (b : KmsBackend) (v : Holdings) : Prop where
  store : b.store.Inv
  registry : ∀ h, b.aliasRegistry.count h = v.registryCount h
  refs : ∀ h, b.store.refs h = v.storeRefs h
  glx : ∀ h, (b.exportAt h).map (·.glxRefs.toNat) = v.glx h
  entry : ∀ id e, b.exportedDmabufs[id]? = some e → b.store.lookup e.backing = some id ∧
    e.backingId = id ∧ e.lifetimeRefHeld = true ∧ e.lifetimeViaAlias = v.backing e.backing

namespace Holds

theorem lookup_eq_none_iff (hold : b.Holds v) : b.store.lookup h = none ↔ v.count h = 0 := by
  rw [← hold.store.refs_eq_zero_iff, hold.refs, Holdings.storeRefs_eq_zero_iff]

theorem exists_id (hold : b.Holds v) (hs : v.Stored h) : ∃ id, b.store.lookup h = some id :=
  Option.ne_none_iff_exists'.mp (mt hold.lookup_eq_none_iff.mp hs)

theorem exportAt_of_entry (hold : b.Holds v) (he : b.exportedDmabufs[id]? = some e) :
    b.exportAt e.backing = some e := by
  rw [exportAt, (hold.entry id e he).1, Option.bind_some, he]

theorem exportAt_eq_none_iff (hold : b.Holds v) : b.exportAt h = none ↔ v.glx h = none := by
  rw [← hold.glx, Option.map_eq_none_iff]

theorem contains_iff (hold : b.Holds v) (hs : v.Stored h) :
    b.aliasRegistry.contains h = v.backing h := by
  rw [Bool.eq_iff_iff, AliasRegistry.contains_iff, hold.registry, Holdings.registryCount]
  cases v.backing h with
  | false => simp
  | true =>
    rw [if_pos ⟨rfl, hs⟩]
    exact iff_of_true ⟨_, rfl⟩ rfl

/-- The exports stay where the pixmaps without one only are gone or new. -/
theorem change (hold : b.Holds v) (hstore : b'.store.Inv)
    (hexports : b'.exportedDmabufs = b.exportedDmabufs) (hglx : v'.glx = v.glx)
    (hbacking : ∀ g, v.glx g ≠ none → v'.backing g = v.backing g)
    (hlookup : ∀ g, b'.store.lookup g = b.store.lookup g ∨
      v.glx g = none ∧ ∀ id ∈ b'.store.lookup g, b.exportedDmabufs[id]? = none)
    (hregistry : ∀ g, b'.aliasRegistry.count g = v'.registryCount g)
    (hrefs : ∀ g, b'.store.refs g = v'.storeRefs g) : b'.Holds v' := by
  refine ⟨hstore, hregistry, hrefs, fun g => ?_, fun id e he => ?_⟩
  · rw [hglx]
    rcases hlookup g with hsame | ⟨hnone, hgone⟩
    · rw [exportAt, hsame, hexports]
      exact hold.glx g
    · rw [hnone, Option.map_eq_none_iff, exportAt, hexports]
      cases hid : b'.store.lookup g with
      | none => rfl
      | some id => exact hgone id hid
  · rw [hexports] at he
    have hglx : v.glx e.backing ≠ none := fun hnone => by
      have hexport := hold.exportAt_of_entry he
      rw [hold.exportAt_eq_none_iff.mpr hnone] at hexport
      cases hexport
    obtain ⟨hid, hfields⟩ := hold.entry id e he
    rw [hbacking _ hglx]
    rcases hlookup e.backing with hsame | ⟨hnone, -⟩
    · exact ⟨hsame.trans hid, hfields⟩
    · exact absurd hnone hglx

/-! ## Taking and dropping a hold -/

theorem take_registry (hold : b.Holds v) (hb : v.backing h = true) (hs : v.Stored h)
    (hlt : v.count h + 1 < 2 ^ 32) :
    Holds { b with aliasRegistry := b.aliasRegistry.incref h } (v.take h) := by
  have hcount : b.aliasRegistry.count h = some (v.count h) := by
    rw [hold.registry, Holdings.registryCount_of_backing hb, if_neg hs]
  have hself : (v.take h).count h = v.count h + 1 := Holdings.count_take.trans (if_pos rfl)
  have hothers {g : Handle} (hg : g ≠ h) : (v.take h).count g = v.count g :=
    Holdings.count_take.trans (if_neg hg)
  refine hold.change hold.store rfl rfl (fun _ _ => rfl) (fun _ => .inl rfl) (fun g => ?_)
    fun g => ?_
  · rw [AliasRegistry.count_incref hlt hcount]
    split
    · next hg =>
      rw [hg, Holdings.registryCount_of_backing (v := v.take h) hb, hself,
        if_neg (Nat.succ_ne_zero _)]
    · next hg =>
      rw [hold.registry]
      exact Holdings.registryCount_congr rfl (hothers hg).symm
  · rw [hold.refs]
    by_cases hg : g = h
    · have hs : v.count h ≠ 0 := hs
      rw [hg, Holdings.storeRefs_of_backing hb, Holdings.storeRefs_of_backing (v := v.take h) hb,
        hself]
      omega
    · exact Holdings.storeRefs_congr rfl (hothers hg).symm

theorem take_store (hold : b.Holds v) (hb : v.backing h = false)
    (hid : b.store.lookup h = some id) (hlt : v.count h + 1 < 2 ^ 32) :
    Holds { b with store := b.store.incref id } (v.take h) := by
  have hrefs : b.store.refs h = v.count h := by
    rw [hold.refs, Holdings.storeRefs_of_not_backing hb]
  have hself : (v.take h).count h = v.count h + 1 := Holdings.count_take.trans (if_pos rfl)
  have hothers {g : Handle} (hg : g ≠ h) : (v.take h).count g = v.count g :=
    Holdings.count_take.trans (if_neg hg)
  obtain ⟨hinv, hnext, hkept⟩ := DrawableStore.incref_refs hold.store hid (hrefs ▸ hlt)
  refine hold.change hinv rfl rfl (fun _ _ => rfl) (fun _ => .inl rfl) (fun g => ?_) fun g => ?_
  · rw [hold.registry]
    by_cases hg : g = h
    · rw [hg, Holdings.registryCount_of_not_backing hb,
        Holdings.registryCount_of_not_backing (v := v.take h) hb]
    · exact Holdings.registryCount_congr rfl (hothers hg).symm
  · by_cases hg : g = h
    · rw [hg, hnext, hrefs, Holdings.storeRefs_of_not_backing (v := v.take h) hb, hself]
    · rw [(hkept g hg).2, hold.refs]
      exact Holdings.storeRefs_congr rfl (hothers hg).symm

/-- A reference of the store is dropped, and what is counted is the table that `v'` is. -/
theorem storeDecref (hold : b.Holds v) (hid : b.store.lookup h = some id)
    (hlast : b.store.refs h = 1 → v.glx h = none) (hglx : v'.glx = v.glx)
    (hbacking : v'.backing = v.backing)
    (hregistry : ∀ g, b'.aliasRegistry.count g = v'.registryCount g)
    (hself : v'.storeRefs h = b.store.refs h - 1)
    (hothers : ∀ g, g ≠ h → v'.storeRefs g = v.storeRefs g)
    (hexports : b'.exportedDmabufs = b.exportedDmabufs)
    (hstore : b'.store = (b.store.decref b.signalled id).1) : b'.Holds v' := by
  obtain ⟨hnext, hlookup, hkept⟩ := DrawableStore.decref_refs hold.store hid b.signalled
  refine hold.change (hstore ▸ hold.store.decref) hexports hglx (fun g _ => by rw [hbacking])
    (fun g => ?_) hregistry fun g => ?_
  · rw [hstore]
    by_cases hg : g = h
    · subst hg
      rw [hlookup]
      split
      · next hone => exact .inr ⟨hlast hone, nofun⟩
      · exact .inl hid.symm
    · exact .inl (hkept g hg).1
  · rw [hstore]
    by_cases hg : g = h
    · rw [hg, hnext, hself]
    · rw [(hkept g hg).2, hold.refs, hothers g hg]

theorem dropRef (hold : b.Holds v) (hpos : 0 < v.held h) : (b.dropRef h).Holds (v.drop h) := by
  have hcount : v.count h = v.held h + (v.glx h).elim 0 fun _ => 1 := rfl
  have hs : v.Stored h := by
    rw [Holdings.Stored, hcount]
    omega
  have hself : (v.drop h).count h = v.count h - 1 := (Holdings.count_drop hpos).trans (if_pos rfl)
  have hothers {g : Handle} (hg : g ≠ h) : v.count g = (v.drop h).count g :=
    ((Holdings.count_drop hpos).trans (if_neg hg)).symm
  have hlast (hone : v.count h = 1) : v.glx h = none := by
    cases hglx : v.glx h with
    | none => rfl
    | some n =>
      rw [hcount, hglx, Option.elim_some] at hone
      omega
  obtain ⟨id, hid⟩ := hold.exists_id hs
  rw [KmsBackend.dropRef, hold.contains_iff hs]
  cases hb : v.backing h with
  | true =>
    have hregistry : b.aliasRegistry.count h = some (v.count h - 1 + 1) := by
      rw [hold.registry, Holdings.registryCount_of_backing hb, if_neg hs,
        Nat.sub_add_cancel (Nat.pos_of_ne_zero hs)]
    obtain ⟨hdead, hrest⟩ := AliasRegistry.decref_spec hregistry
    have hrest (g : Handle) :
        (b.aliasRegistry.decref h).1.count g = (v.drop h).registryCount g := by
      rw [hrest]
      split
      · next hg => rw [hg, Holdings.registryCount_of_backing (v := v.drop h) hb, hself]
      · next hg =>
        rw [hold.registry]
        exact Holdings.registryCount_congr rfl (hothers hg)
    have hrefs : b.store.refs h = 1 := by
      rw [hold.refs, Holdings.storeRefs_of_backing hb]
      exact Nat.min_eq_left (Nat.pos_of_ne_zero hs)
    simp only [if_true, hdead, hid, Option.elim_some]
    by_cases hone : v.count h - 1 = 0
    · rw [if_pos (decide_eq_true hone)]
      refine hold.storeDecref hid (fun _ => hlast (by omega)) rfl rfl hrest ?_ (fun g hg => ?_)
        rfl rfl
      · rw [Holdings.storeRefs_of_backing (v := v.drop h) hb, hself, hrefs, hone]
        rfl
      · exact Holdings.storeRefs_congr rfl (hothers hg).symm
    · rw [if_neg (by simpa using hone)]
      refine hold.change hold.store rfl rfl (fun _ _ => rfl) (fun _ => .inl rfl) hrest fun g => ?_
      rw [hold.refs]
      by_cases hg : g = h
      · rw [hg, Holdings.storeRefs_of_backing hb,
          Holdings.storeRefs_of_backing (v := v.drop h) hb, hself]
        omega
      · exact Holdings.storeRefs_congr rfl (hothers hg)
  | false =>
    have hrefs : b.store.refs h = v.count h := by
      rw [hold.refs, Holdings.storeRefs_of_not_backing hb]
    simp only [Bool.false_eq_true, if_false, hid, Option.elim_some]
    refine hold.storeDecref hid (fun hone => hlast (hrefs ▸ hone)) rfl rfl (fun g => ?_) ?_
      (fun g hg => ?_) rfl rfl
    · by_cases hg : g = h
      · rw [hg, Holdings.registryCount_of_not_backing (v := v.drop h) hb]
        exact (hold.registry h).trans (Holdings.registryCount_of_not_backing hb)
      · exact (hold.registry g).trans (Holdings.registryCount_congr rfl (hothers hg))
    · rw [Holdings.storeRefs_of_not_backing (v := v.drop h) hb, hself, hrefs]
    · exact Holdings.storeRefs_congr rfl (hothers hg).symm

theorem dropRef_cases (b : KmsBackend) (h : Handle) :
    (b.dropRef h).exportedDmabufs = b.exportedDmabufs ∧
      ((b.dropRef h).store = b.store ∨ ∃ id, b.store.lookup h = some id ∧
        (b.dropRef h).store = (b.store.decref b.signalled id).1) := by
  rw [KmsBackend.dropRef]
  cases hid : b.store.lookup h with
  | none =>
    simp only [hid, Option.elim_none]
    split
    · split <;> exact ⟨rfl, .inl rfl⟩
    · exact ⟨rfl, .inl rfl⟩
  | some id =>
    simp only [hid, Option.elim_some]
    split
    · split
      · exact ⟨rfl, .inr ⟨id, rfl, rfl⟩⟩
      · exact ⟨rfl, .inl rfl⟩
    · exact ⟨rfl, .inr ⟨id, rfl, rfl⟩⟩

theorem lookup_dropRef (hold : b.Holds v) (h : Handle) :
    (b.dropRef h).store.lookup h = b.store.lookup h ∨ (b.dropRef h).store.lookup h = none := by
  rcases (dropRef_cases b h).2 with hsame | ⟨id, hid, hdecref⟩
  · exact .inl (by rw [hsame])
  · rw [hdecref, (DrawableStore.decref_refs hold.store hid b.signalled).2.1]
    split
    · exact .inr rfl
    · exact .inl hid.symm

/-! ## Exports -/

/-- The export of one pixmap is changed, and the holds with it count as before. -/
theorem changeExport (hold : b.Holds v) (hid : b.store.lookup h = some id)
    (hstore : b'.store = b.store) (hregistry : b'.aliasRegistry = b.aliasRegistry)
    (hentry : ∀ e, b'.exportedDmabufs[id]? = some e → e.backing = h ∧ e.backingId = id ∧
      e.lifetimeRefHeld = true ∧ e.lifetimeViaAlias = v.backing h)
    (hentries : ∀ a, a ≠ id → b'.exportedDmabufs[a]? = b.exportedDmabufs[a]?)
    (hbacking : v'.backing = v.backing) (hcount : ∀ g, v.count g = v'.count g)
    (hself : (b'.exportedDmabufs[id]?).map (·.glxRefs.toNat) = v'.glx h)
    (hothers : ∀ g, g ≠ h → v'.glx g = v.glx g) : b'.Holds v' := by
  refine ⟨hstore ▸ hold.store, fun g => ?_, fun g => ?_, fun g => ?_, fun a e he => ?_⟩
  · rw [hregistry, hold.registry]
    exact Holdings.registryCount_congr (by rw [hbacking]) (hcount g)
  · rw [hstore, hold.refs]
    exact Holdings.storeRefs_congr (by rw [hbacking]) (hcount g)
  · rw [exportAt, hstore]
    by_cases hg : g = h
    · rw [hg, hid, Option.bind_some, hself]
    · rw [hothers g hg, ← hold.glx g, exportAt]
      cases hother : b.store.lookup g with
      | none => rfl
      | some a =>
        have hne : a ≠ id := by
          rintro rfl
          exact hg (hold.store.lookup_inj hother hid)
        rw [Option.bind_some, Option.bind_some, hentries a hne]
  · rw [hstore, hbacking]
    by_cases ha : a = id
    · subst ha
      obtain ⟨rfl, hfields⟩ := hentry e he
      exact ⟨hid, hfields⟩
    · exact hold.entry a e (hentries a ha ▸ he)

/-- The export of a pixmap that is there. -/
theorem entry_of_lookup (hold : b.Holds v) (hid : b.store.lookup h = some id)
    (he : b.exportedDmabufs[id]? = some e) : e.backing = h ∧ e.backingId = id ∧
      e.lifetimeRefHeld = true ∧ e.lifetimeViaAlias = v.backing h := by
  obtain ⟨hback, hfields⟩ := hold.entry id e he
  obtain rfl := hold.store.lookup_inj hback hid
  exact ⟨rfl, hfields⟩

theorem glx_of_lookup (hold : b.Holds v) (hid : b.store.lookup h = some id) :
    v.glx h = (b.exportedDmabufs[id]?).map (·.glxRefs.toNat) := by
  rw [← hold.glx, exportAt, hid, Option.bind_some]

theorem takeBackingLifetimeRef (hold : b.Holds v) (hid : b.store.lookup h = some id)
    (hlt : v.count h + 1 < 2 ^ 32) :
    (b.takeBackingLifetimeRef id h).1.Holds (v.take h) ∧
      (b.takeBackingLifetimeRef id h).2 = v.backing h ∧
      (b.takeBackingLifetimeRef id h).1.store.lookup h = some id ∧
      (b.takeBackingLifetimeRef id h).1.exportedDmabufs = b.exportedDmabufs := by
  have hs : v.Stored h := fun hzero => by
    rw [hold.lookup_eq_none_iff.mpr hzero] at hid
    cases hid
  rw [KmsBackend.takeBackingLifetimeRef, hold.contains_iff hs]
  cases hb : v.backing h with
  | true => exact ⟨hold.take_registry hb hs hlt, rfl, hid, rfl⟩
  | false => exact ⟨hold.take_store hb hid hlt, rfl, hid, rfl⟩

theorem modifyExport (hold : b.Holds v) (hid : b.store.lookup h = some id)
    {f : ExportedBacking → ExportedBacking} {n : Nat → Nat}
    (hf : ∀ e, (f e).backing = e.backing ∧ (f e).backingId = e.backingId ∧
      (f e).lifetimeRefHeld = e.lifetimeRefHeld ∧ (f e).lifetimeViaAlias = e.lifetimeViaAlias)
    (hn : ∀ e, b.exportedDmabufs[id]? = some e → (f e).glxRefs.toNat = n e.glxRefs.toNat) :
    (b.modifyExport id f).Holds (v.setGlx h ((v.glx h).map n)) := by
  have hentry : (b.modifyExport id f).exportedDmabufs[id]? = (b.exportedDmabufs[id]?).map f :=
    ResourceMap.get_modify.trans (if_pos rfl)
  refine hold.changeExport hid rfl rfl (fun e he => ?_)
    (fun a ha => ResourceMap.get_modify.trans (if_neg ha)) rfl (fun g => ?_) ?_
    fun g hg => Function.update_of_ne hg _ _
  · obtain ⟨d, hd, rfl⟩ := Option.map_eq_some_iff.mp (hentry ▸ he)
    obtain ⟨hback, hbackId, hheld, hvia⟩ := hf d
    rw [hback, hbackId, hheld, hvia]
    exact hold.entry_of_lookup hid hd
  · exact Holdings.count_map_glx.symm
  · rw [hentry, Holdings.glx_setGlx, if_pos rfl, hold.glx_of_lookup hid]
    cases he : b.exportedDmabufs[id]? with
    | none => rfl
    | some e => exact congrArg some (hn e he)

/-- An export that has its hold already. -/
theorem insertExport (hold : b.Holds v) (hid : b.store.lookup h = some id) (hglx : v.glx h = none)
    (hpos : 0 < v.held h) (hfields : e.backing = h ∧ e.backingId = id ∧
      e.lifetimeRefHeld = true ∧ e.lifetimeViaAlias = v.backing h) :
    Holds { b with exportedDmabufs := b.exportedDmabufs.insert id e }
      ((v.drop h).setGlx h (some e.glxRefs.toNat)) := by
  have hentry : (b.exportedDmabufs.insert id e)[id]? = some e :=
    ResourceMap.get_insert.trans (if_pos rfl)
  refine hold.changeExport hid rfl rfl (fun d hd => ?_)
    (fun a ha => ResourceMap.get_insert.trans (if_neg ha)) rfl (fun g => ?_) ?_
    fun g hg => Function.update_of_ne hg _ _
  · obtain rfl := Option.some.inj (hentry.symm.trans hd)
    exact hfields
  · exact (Holdings.count_insertExport hglx hpos).symm
  · rw [Holdings.glx_setGlx, if_pos rfl]
    exact congrArg (Option.map _) hentry

/-- The hold of an export that is forgotten is one like the others. -/
theorem eraseExport (hold : b.Holds v) (hid : b.store.lookup h = some id)
    (he : b.exportedDmabufs[id]? = some e) :
    Holds { b with exportedDmabufs := b.exportedDmabufs.erase id }
      ((v.take h).setGlx h none) := by
  have hglx : v.glx h = some e.glxRefs.toNat := by
    rw [hold.glx_of_lookup hid, he, Option.map_some]
  have hentry : (b.exportedDmabufs.erase id)[id]? = none :=
    ResourceMap.get_erase.trans (if_pos rfl)
  refine hold.changeExport hid rfl rfl (fun d hd => ?_)
    (fun a ha => ResourceMap.get_erase.trans (if_neg ha)) rfl (fun g => ?_) ?_
    fun g hg => Function.update_of_ne hg _ _
  · cases hentry.symm.trans hd
  · exact (Holdings.count_eraseExport hglx).symm
  · rw [Holdings.glx_setGlx, if_pos rfl]
    exact congrArg (Option.map _) hentry

theorem count_pos (hold : b.Holds v) (hid : b.store.lookup h = some id) : v.Stored h :=
  fun hzero => by
    rw [hold.lookup_eq_none_iff.mpr hzero] at hid
    cases hid

theorem ensureExportedEntry (hold : b.Holds v) (hid : b.store.lookup h = some id)
    (hlt : v.count h + 1 < 2 ^ 32) :
    (b.ensureExportedEntry id h).Holds (v.exportDmabuf h) ∧
      (b.ensureExportedEntry id h).store.lookup h = some id := by
  have hglx := hold.glx_of_lookup hid
  rw [KmsBackend.ensureExportedEntry, Std.ExtTreeMap.contains_eq_isSome_getElem?]
  cases he : b.exportedDmabufs[id]? with
  | some e =>
    rw [he, Option.map_some] at hglx
    rw [Option.isSome_some, if_pos rfl, Holdings.exportDmabuf_of_some hglx]
    exact ⟨hold, hid⟩
  | none =>
    rw [he] at hglx
    obtain ⟨htaken, hvia, hlookup, -⟩ := hold.takeBackingLifetimeRef hid hlt
    have hpos : 0 < (v.take h).held h := by
      rw [Holdings.held_take, if_pos rfl]
      exact Nat.succ_pos _
    have hopened := htaken.insertExport (e := ⟨false, 0, true, id, h, v.backing h⟩) hlookup hglx
      hpos ⟨rfl, rfl, rfl, rfl⟩
    rw [Holdings.drop_take, ← hvia] at hopened
    rw [Option.isSome_none, if_neg Bool.false_ne_true, Holdings.exportDmabuf, hglx]
    exact ⟨hopened, hlookup⟩

theorem acquireGlxPixmapExport (hold : b.Holds v) (hs : v.Stored h) (hlt : v.count h + 1 < 2 ^ 32)
    (hglx : (v.glx h).getD 0 + 1 < 2 ^ 32) :
    (b.acquireGlxPixmapExport h).Holds (v.bindGlx h) := by
  obtain ⟨id, hid⟩ := hold.exists_id hs
  rw [KmsBackend.acquireGlxPixmapExport, hid]
  obtain ⟨hopened, hid⟩ := hold.ensureExportedEntry hid hlt
  have hbound := hopened.modifyExport hid (n := (· + 1))
    (f := fun e => { e with glxRefs := e.glxRefs + 1 }) (fun _ => ⟨rfl, rfl, rfl, rfl⟩)
    fun e he => by
      have hrefs := hopened.glx_of_lookup hid
      rw [he, Option.map_some, Holdings.exportDmabuf, Holdings.glx_setGlx, if_pos rfl] at hrefs
      rw [Option.some.inj hrefs] at hglx
      exact (UInt32.toNat_add _ _).trans (Nat.mod_eq_of_lt hglx)
  rw [Holdings.exportDmabuf, Holdings.glx_setGlx, if_pos rfl, Holdings.setGlx_setGlx] at hbound
  exact hbound

theorem dri3BufferFromPixmap (hold : b.Holds v) (hs : v.Stored h)
    (hlt : v.count h + 1 < 2 ^ 32) : (b.dri3BufferFromPixmap h).Holds (v.exportDmabuf h) := by
  obtain ⟨id, hid⟩ := hold.exists_id hs
  rw [KmsBackend.dri3BufferFromPixmap, hid]
  dsimp only
  split
  · obtain ⟨hopened, hid⟩ := hold.ensureExportedEntry hid hlt
    have hmarked := hopened.modifyExport hid (n := fun n => n)
      (f := fun e => { e with fd := true }) (fun _ => ⟨rfl, rfl, rfl, rfl⟩) fun _ _ => rfl
    rw [Option.map_id_fun', id_eq, Holdings.setGlx_self (v := v.exportDmabuf h) rfl] at hmarked
    exact hmarked
  · next hany =>
    have hglx := hold.glx_of_lookup hid
    cases he : b.exportedDmabufs[id]? with
    | none =>
      rw [he] at hany
      exact absurd rfl hany
    | some e =>
      rw [he, Option.map_some] at hglx
      rw [Holdings.exportDmabuf_of_some hglx]
      exact hold

theorem releaseBackingLifetimeRef_eq (hid : b.store.lookup e.backing = some e.backingId)
    (hvia : e.lifetimeViaAlias = b.aliasRegistry.contains e.backing) :
    b.releaseBackingLifetimeRef e = b.dropRef e.backing := by
  simp only [KmsBackend.releaseBackingLifetimeRef, KmsBackend.dropRef, hid, hvia,
    Option.elim_some]

theorem maybeTeardownExport (hold : b.Holds v) (hid : b.store.lookup h = some id) :
    (b.maybeTeardownExport id).Holds (v.settle h) := by
  have hglx := hold.glx_of_lookup hid
  rw [KmsBackend.maybeTeardownExport]
  cases he : b.exportedDmabufs[id]? with
  | none =>
    rw [he] at hglx
    rw [Holdings.settle_of_none hglx]
    exact hold
  | some e =>
    rw [he, Option.map_some] at hglx
    obtain ⟨rfl, rfl, hheld, hvia⟩ := hold.entry_of_lookup hid he
    have hzero : e.glxRefs = 0 ↔ v.glx e.backing = some 0 := by
      rw [hglx, ← UInt32.toNat_inj, Option.some_inj]
      rfl
    dsimp only
    rw [hheld, if_pos rfl, Holdings.settle]
    by_cases hrefs : e.glxRefs = 0
    · rw [if_pos hrefs, if_pos (hzero.mp hrefs)]
      have hs := hold.count_pos hid
      have hforgotten := hold.eraseExport hid he
      have hrelease := releaseBackingLifetimeRef_eq
        (b := { b with exportedDmabufs := b.exportedDmabufs.erase e.backingId }) hid
        (hvia.trans (hold.contains_iff hs).symm)
      have hdropped := hforgotten.dropRef (h := e.backing) (by
        rw [Holdings.held_setGlx, Holdings.held_take, if_pos rfl]
        exact Nat.succ_pos _)
      have heq : ((v.take e.backing).setGlx e.backing none).drop e.backing =
          v.setGlx e.backing none := by
        simp [Holdings.take, Holdings.drop, Holdings.setGlx]
      rw [hrelease, ← heq]
      exact hdropped
    · rw [if_neg hrefs, if_neg (mt hzero.mpr hrefs)]
      exact hold

theorem releaseGlxPixmapExport (hold : b.Holds v) :
    (b.releaseGlxPixmapExport h).Holds (v.unbindGlx h) := by
  rw [KmsBackend.releaseGlxPixmapExport, Holdings.unbindGlx]
  cases hid : b.store.lookup h with
  | none =>
    have hnone : v.glx h = none := by rw [← hold.glx, exportAt, hid]; rfl
    rw [hnone, Option.map_none, Holdings.setGlx_self (v := v) hnone,
      Holdings.settle_of_none hnone]
    exact hold
  | some id =>
    refine Holds.maybeTeardownExport ?_ hid
    exact hold.modifyExport hid (n := (· - 1)) (fun _ => ⟨rfl, rfl, rfl, rfl⟩) fun e _ =>
      toNat_saturatingPredU32 e.glxRefs

/-- The export of a pixmap that is gone with its last hold is gone before. -/
theorem freePixmap (hold : b.Holds v) (hpos : 0 < v.held h) :
    (b.freePixmap h).Holds (v.free h) := by
  have hs : v.Stored h := by
    rw [Holdings.Stored, Holdings.count]
    omega
  obtain ⟨id, hid⟩ := hold.exists_id hs
  have hdropped := hold.dropRef hpos
  rw [freePixmap_eq, hid, Option.elim_some, Holdings.free]
  cases hid' : (b.dropRef h).store.lookup h with
  | some id' =>
    obtain rfl : id' = id := by
      rcases lookup_dropRef hold h with hsame | hnone
      · exact Option.some.inj (hid'.symm.trans (hsame.trans hid))
      · cases hid'.symm.trans hnone
    exact hdropped.maybeTeardownExport hid'
  | none =>
    have hglx : (v.drop h).glx h = none := by rw [← hdropped.glx, exportAt, hid']; rfl
    have hnone : (b.dropRef h).exportedDmabufs[id]? = none := by
      rw [(dropRef_cases b h).1, ← Option.map_eq_none_iff (f := (·.glxRefs.toNat)),
        ← hold.glx_of_lookup hid]
      exact hglx
    rw [Holdings.settle_of_none hglx, KmsBackend.maybeTeardownExport, hnone]
    exact hdropped

theorem retainBackingStorage (hold : b.Holds v) (hb : v.backing h = true) (hs : v.Stored h)
    (hlt : v.count h + 1 < 2 ^ 32) : (b.retainBackingStorage h).Holds (v.take h) := by
  rw [KmsBackend.retainBackingStorage, hold.contains_iff hs, if_pos hb]
  exact hold.take_registry hb hs hlt

/-- The last hold on a backing is not that of an export. -/
theorem dropBackingStorage (hold : b.Holds v) (hb : v.backing h = true) (hpos : 0 < v.held h) :
    (b.dropBackingStorage h).Holds (v.drop h) := by
  have hs : v.Stored h := by
    rw [Holdings.Stored, Holdings.count]
    omega
  obtain ⟨id, hid⟩ := hold.exists_id hs
  have hdropped := hold.dropRef hpos
  have hcontains := (hold.contains_iff hs).trans hb
  rw [KmsBackend.dropRef, hcontains, if_pos rfl] at hdropped
  rw [KmsBackend.dropBackingStorage]
  cases hlast : (b.aliasRegistry.decref h).2 with
  | false =>
    simp only [hlast, Bool.false_eq_true, if_false] at hdropped ⊢
    exact hdropped
  | true =>
    simp only [hlast, if_true, hid, Option.elim_some] at hdropped ⊢
    have hcount : b.aliasRegistry.count h = some (v.count h - 1 + 1) := by
      rw [hold.registry, Holdings.registryCount_of_backing hb, if_neg hs,
        Nat.sub_add_cancel (Nat.pos_of_ne_zero hs)]
    obtain ⟨hdead, hrest⟩ := AliasRegistry.decref_spec hcount
    have hone : v.count h - 1 = 0 := of_decide_eq_true (hdead.symm.trans hlast)
    have hgone : (b.aliasRegistry.decref h).1.contains h = false := by
      rw [← Bool.not_eq_true, AliasRegistry.contains_iff, hrest, if_pos rfl, if_pos hone]
      simp
    have hglx : b.exportedDmabufs[id]? = none := by
      have hcount : v.count h = v.held h + (v.glx h).elim 0 fun _ => 1 := rfl
      rw [← Option.map_eq_none_iff (f := (·.glxRefs.toNat)), ← hold.glx_of_lookup hid]
      cases hglx : v.glx h with
      | none => rfl
      | some n =>
        rw [hglx, Option.elim_some] at hcount
        omega
    rw [KmsBackend.freePixmap]
    simp only [hgone, Bool.false_eq_true, if_false, hid, Option.elim_some,
      KmsBackend.maybeTeardownExport, KmsBackend.storeDecref, hglx]
    exact hdropped

/-! ## New pixmaps -/

/-- Only one pixmap is counted in another way than before. -/
theorem changeOne (hold : b.Holds v) (hstore : b'.store.Inv)
    (hexports : b'.exportedDmabufs = b.exportedDmabufs) (hglx : v'.glx = v.glx)
    (hnone : v.glx h = none) (hlookup : ∀ id ∈ b'.store.lookup h, b.exportedDmabufs[id]? = none)
    (hkept : b.store.KeepsOthers b'.store h)
    (hregistry : ∀ g, g ≠ h → b'.aliasRegistry.count g = b.aliasRegistry.count g)
    (hothers : ∀ g, g ≠ h → v.backing g = v'.backing g ∧ v.count g = v'.count g)
    (hself : b'.aliasRegistry.count h = v'.registryCount h ∧ b'.store.refs h = v'.storeRefs h) :
    b'.Holds v' := by
  refine hold.change hstore hexports hglx (fun g hg => ?_) (fun g => ?_) (fun g => ?_) fun g => ?_
  · exact (hothers g fun heq => hg (heq ▸ hnone)).1.symm
  · by_cases hg : g = h
    · exact .inr ⟨hg ▸ hnone, hg ▸ hlookup⟩
    · exact .inl (hkept g hg).1
  · by_cases hg : g = h
    · exact hg ▸ hself.1
    · rw [hregistry g hg, hold.registry]
      exact Holdings.registryCount_congr (hothers g hg).1 (hothers g hg).2
  · by_cases hg : g = h
    · exact hg ▸ hself.2
    · rw [(hkept g hg).2, hold.refs]
      exact Holdings.storeRefs_congr (hothers g hg).1 (hothers g hg).2

theorem glx_of_count (hzero : v.count h = 0) : v.glx h = none := by
  have hcount : v.held h + (v.glx h).elim 0 (fun _ => 1) = 0 := hzero
  cases hglx : v.glx h with
  | none => rfl
  | some n =>
    rw [hglx, Option.elim_some] at hcount
    omega

theorem createPixmap (hold : b.Holds v)
    (hfresh : ∀ h : Handle, b.nextHostXid.toNat < h.toNat →
      v.count h = 0 ∧ v.backing h = false)
    (hnext : b.store.nextId + 1 < 2 ^ 64) {depth : UInt8} {stored : Bool}
    {created : Option Handle} (hok : b.createPixmap depth stored = some (b', created)) :
    b'.nextHostXid.toNat = b.nextHostXid.toNat + 1 ∧
      b'.hostWindowToBacking = b.hostWindowToBacking ∧
      (created = none ∧ b'.Holds v ∧ b'.store.nextId = b.store.nextId ∨
        created = some b'.nextHostXid ∧ b'.Holds (v.create b'.nextHostXid false) ∧
          b'.store.nextId = b.store.nextId + 1) := by
  rw [KmsBackend.createPixmap, takeHostXid] at hok
  by_cases hlt : b.nextHostXid.toNat + 1 < 2 ^ 32
  · rw [if_pos hlt] at hok
    have hxid : (b.nextHostXid + 1).toNat = b.nextHostXid.toNat + 1 :=
      (UInt32.toNat_add _ _).trans (Nat.mod_eq_of_lt hlt)
    obtain ⟨hzero, hback⟩ := hfresh (b.nextHostXid + 1) (by omega)
    cases stored with
    | false =>
      cases hok
      exact ⟨hxid, rfl, .inl ⟨rfl, ⟨hold.store, hold.registry, hold.refs, hold.glx, hold.entry⟩,
        rfl⟩⟩
    | true =>
      obtain ⟨s', hs', hinv, hlookup, hrefs, hkept, hid⟩ := DrawableStore.allocate_refs hold.store
        (hold.lookup_eq_none_iff.mpr hzero) hnext .Pixmap depth false
      simp only [Option.bind_eq_bind, Option.bind_some, if_true, hs'] at hok
      cases hok
      refine ⟨hxid, rfl, .inr ⟨rfl, ?_, hid⟩⟩
      have hglx := glx_of_count hzero
      have hexport : b.exportedDmabufs[b.store.nextId]? = none := by
        cases he : b.exportedDmabufs[b.store.nextId]? with
        | none => rfl
        | some e =>
          obtain ⟨d, hd, -⟩ := hold.store.named _ _ (hold.entry _ e he).1
          exact absurd (hold.store.entry _ d hd).2 (Nat.lt_irrefl _)
      refine hold.changeOne hinv rfl rfl hglx (fun id hid => ?_) hkept (fun _ _ => rfl)
        (fun g hg => ⟨?_, ?_⟩) ⟨?_, ?_⟩
      · rw [show DrawableStore.lookup _ _ = _ from hlookup] at hid
        exact Option.mem_some_iff.mp hid ▸ hexport
      · exact (Function.update_of_ne hg _ _).symm
      · exact ((Holdings.count_create hglx).trans (if_neg hg)).symm
      · rw [Holdings.registryCount_of_not_backing (v := v.create _ false)
          (Function.update_self ..)]
        exact (hold.registry _).trans (Holdings.registryCount_of_not_backing hback)
      · rw [Holdings.storeRefs_of_not_backing (v := v.create _ false) (Function.update_self ..),
          Holdings.count_create hglx, if_pos rfl]
        exact hrefs
  · rw [if_neg hlt] at hok
    cases hok

/-- A new pixmap is made a backing. -/
theorem track (hold : b.Holds (v.create h false)) (hglx : v.glx h = none) {entry : AliasEntry}
    (hone : entry.refcount = 1) :
    Holds { b with aliasRegistry := b.aliasRegistry.insert h entry } (v.create h true) := by
  have hback : (v.create h false).backing h = false := Function.update_self ..
  have hcount (backing : Bool) : (v.create h backing).count h = 1 :=
    (Holdings.count_create hglx).trans (if_pos rfl)
  refine hold.changeOne hold.store rfl rfl hglx (fun id hid => ?_) (fun _ _ => ⟨rfl, rfl⟩)
    (fun g hg => ?_) (fun g hg => ⟨?_, ?_⟩) ⟨?_, ?_⟩
  · rw [← Option.map_eq_none_iff (f := (·.glxRefs.toNat)),
      ← hold.glx_of_lookup (Option.mem_def.mp hid)]
    exact hglx
  · rw [AliasRegistry.count, AliasRegistry.count, ResourceMap.get_insert, if_neg hg]
  · exact (Function.update_of_ne hg _ _).trans (Function.update_of_ne hg _ _).symm
  · rw [Holdings.count_create hglx, Holdings.count_create hglx]
  · rw [AliasRegistry.count, ResourceMap.get_insert, if_pos rfl, Option.map_some, hone,
      Holdings.registryCount_of_backing (v := v.create h true) (Function.update_self ..), hcount]
    rfl
  · rw [Holdings.storeRefs_of_backing (v := v.create h true) (Function.update_self ..), hcount]
    exact (hold.refs h).trans ((Holdings.storeRefs_of_not_backing hback).trans (hcount false))

/-- Fences say nothing of the holds. -/
theorem touchRenderFence (hold : b.Holds v) (ticket : FenceTicket) :
    Holds { b with store := b.store.touchRenderFence id ticket } v :=
  hold.change (hold.store.modify fun _ _ => ⟨rfl, rfl, Iff.rfl⟩) rfl rfl (fun _ _ => rfl)
    (fun _ => .inl rfl) hold.registry fun g =>
      (DrawableStore.refs_touchRenderFence ticket).trans (hold.refs g)

theorem pollPendingRetire (hold : b.Holds v) (signalled : FenceTicket → Bool) :
    Holds { b with store := (b.store.pollPendingRetire signalled).1, signalled := signalled } v :=
  hold.change hold.store.pollPendingRetire rfl rfl (fun _ _ => rfl)
    (fun g => .inl (DrawableStore.lookup_pollPendingRetire hold.store signalled g))
    hold.registry fun g =>
      (DrawableStore.refs_pollPendingRetire hold.store signalled g).trans (hold.refs g)

end Holds

/-! ## Ids and backings of windows -/

/-- No id is given out, and the windows have the backings that they had. -/
structure Keeps (b b' : KmsBackend) : Prop where
  xid : b'.nextHostXid = b.nextHostXid
  nextId : b'.store.nextId = b.store.nextId
  backings : b'.hostWindowToBacking = b.hostWindowToBacking

namespace Keeps

theorem refl (b : KmsBackend) : Keeps b b := ⟨rfl, rfl, rfl⟩

theorem after {b'' : KmsBackend} (h' : Keeps b' b'') (h : Keeps b b') : Keeps b b'' :=
  ⟨h'.xid.trans h.xid, h'.nextId.trans h.nextId, h'.backings.trans h.backings⟩

theorem trans {b'' : KmsBackend} (h : Keeps b b') (h' : Keeps b' b'') : Keeps b b'' := h'.after h

theorem storeDecref (b : KmsBackend) (id : DrawableId) : Keeps b (b.storeDecref id) :=
  ⟨rfl, DrawableStore.nextId_decref b.signalled, rfl⟩

theorem dropRef (b : KmsBackend) (h : Handle) : Keeps b (b.dropRef h) := by
  rw [KmsBackend.dropRef]
  have hlookup (b : KmsBackend) : Keeps b ((b.store.lookup h).elim b b.storeDecref) := by
    cases b.store.lookup h with
    | none => exact .refl b
    | some id => exact .storeDecref b id
  split
  · dsimp only
    split
    · exact (hlookup { b with aliasRegistry := (b.aliasRegistry.decref h).1 }).after ⟨rfl, rfl, rfl⟩
    · exact ⟨rfl, rfl, rfl⟩
  · exact hlookup b

theorem takeBackingLifetimeRef (b : KmsBackend) (id : DrawableId) (h : Handle) :
    Keeps b (b.takeBackingLifetimeRef id h).1 := by
  rw [KmsBackend.takeBackingLifetimeRef]
  split <;> exact ⟨rfl, rfl, rfl⟩

theorem ensureExportedEntry (b : KmsBackend) (id : DrawableId) (h : Handle) :
    Keeps b (b.ensureExportedEntry id h) := by
  rw [KmsBackend.ensureExportedEntry]
  split
  · exact .refl b
  · exact (takeBackingLifetimeRef b id h).trans ⟨rfl, rfl, rfl⟩

theorem releaseBackingLifetimeRef (b : KmsBackend) (e : ExportedBacking) :
    Keeps b (b.releaseBackingLifetimeRef e) := by
  rw [KmsBackend.releaseBackingLifetimeRef]
  split
  · dsimp only
    split
    · exact Keeps.after (storeDecref _ _) ⟨rfl, rfl, rfl⟩
    · exact ⟨rfl, rfl, rfl⟩
  · exact storeDecref b e.backingId

theorem maybeTeardownExport (b : KmsBackend) (id : DrawableId) :
    Keeps b (b.maybeTeardownExport id) := by
  rw [KmsBackend.maybeTeardownExport]
  cases b.exportedDmabufs[id]? with
  | none => exact .refl b
  | some e =>
    dsimp only
    split
    · split
      · exact Keeps.after (releaseBackingLifetimeRef _ e) ⟨rfl, rfl, rfl⟩
      · exact ⟨rfl, rfl, rfl⟩
    · exact .refl b

theorem acquireGlxPixmapExport (b : KmsBackend) (h : Handle) :
    Keeps b (b.acquireGlxPixmapExport h) := by
  rw [KmsBackend.acquireGlxPixmapExport]
  cases b.store.lookup h with
  | none => exact .refl b
  | some id => exact (ensureExportedEntry b id h).trans ⟨rfl, rfl, rfl⟩

theorem releaseGlxPixmapExport (b : KmsBackend) (h : Handle) :
    Keeps b (b.releaseGlxPixmapExport h) := by
  rw [KmsBackend.releaseGlxPixmapExport]
  cases b.store.lookup h with
  | none => exact .refl b
  | some id => exact Keeps.after (maybeTeardownExport _ id) ⟨rfl, rfl, rfl⟩

theorem dri3BufferFromPixmap (b : KmsBackend) (h : Handle) :
    Keeps b (b.dri3BufferFromPixmap h) := by
  rw [KmsBackend.dri3BufferFromPixmap]
  cases b.store.lookup h with
  | none => exact .refl b
  | some id =>
    dsimp only
    split
    · exact (ensureExportedEntry b id h).trans ⟨rfl, rfl, rfl⟩
    · exact .refl b

theorem freePixmap (b : KmsBackend) (h : Handle) : Keeps b (b.freePixmap h) := by
  rw [freePixmap_eq]
  cases b.store.lookup h with
  | none => exact dropRef b h
  | some id => exact (dropRef b h).trans (maybeTeardownExport _ id)

theorem retainBackingStorage (b : KmsBackend) (h : Handle) :
    Keeps b (b.retainBackingStorage h) := by
  rw [KmsBackend.retainBackingStorage]
  split <;> exact ⟨rfl, rfl, rfl⟩

theorem dropBackingStorage (b : KmsBackend) (h : Handle) : Keeps b (b.dropBackingStorage h) := by
  rw [KmsBackend.dropBackingStorage]
  dsimp only
  split
  · exact Keeps.after (freePixmap _ h) ⟨rfl, rfl, rfl⟩
  · exact ⟨rfl, rfl, rfl⟩

end Keeps

end KmsBackend

end X12

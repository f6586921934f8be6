import Mathlib.Data.Finite.Sum
import X12.Verify.Backings
import X12.Verify.Glyphsets
import X12.Verify.HostPixmaps

/-! # Who holds the pixmaps of the backend

A window has a hold on its backing and a pixmap on its host pixmap; a hold that is not
dropped with its name is stray. The backend has as many holds as there are names and
stray holds, and the bindings of GLX pixmaps are counted likewise. -/

namespace X12

open RefCounts (Tallied namesOf Put Drop without)

namespace RedirectServer

/-- A window that is redirected to a pixmap of the backend, or a pixmap. -/
abbrev Name := ResourceId ⊕ ResourceId

def hostWindowOf (s : RedirectServer) (window : ResourceId) : Option Handle :=
  s.resources.windows[window]?.bind (·.hostXid)

def backgroundOf (s : RedirectServer) (window : ResourceId) : Option Handle :=
  s.resources.windows[window]?.bind (·.backgroundPixmapHostXid)

def hostXidOf (s : RedirectServer) (pixmap : ResourceId) : Option Handle :=
  s.resources.pixmaps[pixmap]?.bind (·.hostXid)

def names (s : RedirectServer) : Name → Option Handle := Sum.elim s.backingOf s.hostXidOf

def glxNames (s : RedirectServer) (xid : UInt32) : Option Handle :=
  s.glxDrawables[xid]?.bind (·.glxExportHostXid)

/-! ## The invariant -/

/-- The backend knows of the redirected windows what their records say, and what ids have
been given out. -/
structure Agrees (s : RedirectServer) (v : Holdings) : Prop where
  tree : s.resources.TreeWellFormed
  backing : ∀ w h, s.backingOf w = some h → v.backing h = true
  hosted : ∀ w, s.backingOf w ≠ none → s.hostWindowOf w ≠ none
  table : ∀ w hw, s.hostWindowOf w = some hw →
    s.backend.hostWindowToBacking[hw]? = s.backingOf w
  distinct : ∀ w w' hw, s.hostWindowOf w = some hw → s.hostWindowOf w' = some hw → w = w'
  injective : ∀ hw hw' h : Handle, s.backend.hostWindowToBacking[hw]? = some h →
    s.backend.hostWindowToBacking[hw']? = some h → hw = hw'
  hostKnown : ∀ w hw, s.hostWindowOf w = some hw → hw.toNat ≤ s.backend.nextHostXid.toNat
  tableKnown : ∀ hw h : Handle, s.backend.hostWindowToBacking[hw]? = some h →
    hw.toNat ≤ s.backend.nextHostXid.toNat ∧ v.backing h = true
  known : ∀ h, v.count h ≠ 0 ∨ v.backing h = true → h.toNat ≤ s.backend.nextHostXid.toNat
  ids : s.backend.store.nextId + 0x00400000 ≤ s.backend.nextHostXid.toNat + 1

/-- The holds are those of the names and the stray ones. An export that is not bound to
GLX is that of a pixmap, or of one in the list `keep`. -/
structure Owned (s : RedirectServer) (v : Holdings) (stray keep glxStray : List Handle) :
    Prop where
  holds : s.backend.Holds v
  agrees : s.Agrees v
  held : Tallied s.names stray v.held
  glx : Tallied s.glxNames glxStray fun h => (v.glx h).getD 0
  kept : ∀ h, v.glx h = some 0 → (∃ p, s.hostXidOf p = some h) ∨ h ∈ keep

/-- No count is larger by more than `n`. -/
def Within (v v' : Holdings) (n : Nat) : Prop :=
  ∀ h, v'.held h ≤ v.held h + n ∧ (v'.glx h).getD 0 ≤ (v.glx h).getD 0 + n

section Within

variable {v v' v'' : Holdings} {h : Handle} {m n : Nat}

theorem Within.refl (v : Holdings) : Within v v n :=
  fun _ => ⟨Nat.le_add_right _ _, Nat.le_add_right _ _⟩

theorem Within.trans (hv : Within v v' m) (hv' : Within v' v'' n) : Within v v'' (m + n) := by
  intro h
  have hfirst := hv h
  have hnext := hv' h
  omega

theorem Within.mono (hv : Within v v' m) (hn : m ≤ n) : Within v v' n := by
  intro h
  have hfirst := hv h
  omega

theorem within_take : Within v (v.take h) 1 := by
  intro g
  rw [Holdings.held_take, Holdings.glx_take]
  split
  · next hg =>
    rw [hg]
    omega
  · omega

theorem within_drop : Within v (v.drop h) 0 := by
  intro g
  rw [Holdings.held_drop, Holdings.glx_drop]
  split
  · next hg =>
    rw [hg]
    omega
  · omega

theorem within_create {backing : Bool} : Within v (v.create h backing) 1 := by
  intro g
  rw [Holdings.held_create, Holdings.glx_create]
  split <;> omega

theorem within_setGlx {k : Option Nat} (hk : k.getD 0 ≤ (v.glx h).getD 0 + n) :
    Within v (v.setGlx h k) n := by
  intro g
  rw [Holdings.held_setGlx, Holdings.glx_setGlx]
  split
  · next hg =>
    rw [hg]
    omega
  · omega

theorem within_settle : Within v (v.settle h) 0 := by
  rw [Holdings.settle]
  split
  · exact within_setGlx (Nat.zero_le _)
  · exact .refl v

theorem within_free : Within v (v.free h) 0 := within_drop.trans within_settle

theorem within_unbindGlx : Within v (v.unbindGlx h) 0 := by
  refine Within.trans (within_setGlx (n := 0) ?_) within_settle
  cases v.glx h with
  | none => exact Nat.le_refl _
  | some k => exact Nat.sub_le k 1

end Within

variable {s s' : RedirectServer} {v v' : Holdings} {h g : Handle} {w p x : ResourceId}
  {stray keep glxStray : List Handle} {b : KmsBackend}

/-! ## What the records say -/

@[simp] theorem backingOf_setBackend : (s.setBackend b).backingOf w = s.backingOf w := rfl

@[simp] theorem glxNames_setBackend : (s.setBackend b).glxNames = s.glxNames := rfl

/-- The windows are as before, but for their backings. -/
structure SameHosts (s s' : RedirectServer) : Prop where
  tree : s.resources.TreeWellFormed → s'.resources.TreeWellFormed
  window : ∀ w, s'.hostWindowOf w = s.hostWindowOf w
  background : ∀ w, s'.backgroundOf w = s.backgroundOf w

/-- So are the pixmaps and the GLX drawables. -/
structure SameClients (s s' : RedirectServer) : Prop extends SameHosts s s' where
  pixmap : ∀ p, s'.hostXidOf p = s.hostXidOf p
  glx : s'.glxNames = s.glxNames

structure SameNames (s s' : RedirectServer) : Prop extends SameClients s s' where
  backing : ∀ w, s'.backingOf w = s.backingOf w

theorem SameClients.refl (s : RedirectServer) : SameClients s s :=
  ⟨⟨fun h => h, fun _ => rfl, fun _ => rfl⟩, fun _ => rfl, rfl⟩

theorem SameClients.trans {s'' : RedirectServer} (h : SameClients s s') (h' : SameClients s' s'') :
    SameClients s s'' where
  tree htree := h'.tree (h.tree htree)
  window w := (h'.window w).trans (h.window w)
  background w := (h'.background w).trans (h.background w)
  pixmap p := (h'.pixmap p).trans (h.pixmap p)
  glx := h'.glx.trans h.glx

theorem SameClients.setBackend (h : SameClients s s') : SameClients s (s'.setBackend b) :=
  ⟨⟨h.tree, h.window, h.background⟩, h.pixmap, h.glx⟩

theorem SameNames.names (h : SameNames s s') : s'.names = s.names := by
  funext n
  cases n with
  | inl w => exact h.backing w
  | inr p => exact h.pixmap p

theorem sameNames_setBackend : SameNames s (s.setBackend b) :=
  ⟨.setBackend (.refl s), fun _ => rfl⟩

/-! ## Steps of the backend -/

/-- The windows stay, and the backend gives out ids. -/
theorem Agrees.grow (ha : s.Agrees v) (hsame : SameHosts s s')
    (hback : ∀ w, s'.backingOf w = s.backingOf w)
    (htable : s'.backend.hostWindowToBacking = s.backend.hostWindowToBacking)
    (hle : s.backend.nextHostXid.toNat ≤ s'.backend.nextHostXid.toNat)
    (hkept : ∀ g : Handle, g.toNat ≤ s.backend.nextHostXid.toNat → v'.backing g = v.backing g)
    (hknown : ∀ g, v'.count g ≠ 0 ∨ v'.backing g = true →
      g.toNat ≤ s'.backend.nextHostXid.toNat)
    (hids : s'.backend.store.nextId + 0x00400000 ≤ s'.backend.nextHostXid.toNat + 1) :
    s'.Agrees v' where
  tree := hsame.tree ha.tree
  backing w h hw := by
    have hbacking := ha.backing w h ((hback w).symm.trans hw)
    rw [hkept h (ha.known h (.inr hbacking))]
    exact hbacking
  hosted w hw := by
    rw [hsame.window]
    exact ha.hosted w (hback w ▸ hw)
  table w hw hhost := by
    rw [htable, hback]
    exact ha.table w hw ((hsame.window w).symm.trans hhost)
  distinct w w' hw hhost hhost' :=
    ha.distinct w w' hw ((hsame.window w).symm.trans hhost) ((hsame.window w').symm.trans hhost')
  injective hw hw' h := by
    rw [htable]
    exact ha.injective hw hw' h
  hostKnown w hw hhost := (ha.hostKnown w hw ((hsame.window w).symm.trans hhost)).trans hle
  tableKnown hw h hg := by
    obtain ⟨hknown, hbacking⟩ := ha.tableKnown hw h (htable ▸ hg)
    refine ⟨hknown.trans hle, ?_⟩
    rw [hkept h (ha.known h (.inr hbacking))]
    exact hbacking
  known := hknown
  ids := hids

/-- The backend gives out no id and holds nothing that was not held. -/
theorem Agrees.keeps (ha : s.Agrees v) (hsame : SameHosts s s')
    (hback : ∀ w, s'.backingOf w = s.backingOf w) (hb : s.backend.Keeps s'.backend)
    (hbacking : v'.backing = v.backing) (hcount : ∀ g, v'.count g ≠ 0 → v.count g ≠ 0) :
    s'.Agrees v' := by
  refine ha.grow hsame hback hb.backings (Nat.le_of_eq (by rw [hb.xid]))
    (fun g _ => by rw [hbacking]) (fun g hg => ?_) ?_
  · rw [hb.xid]
    rw [hbacking] at hg
    exact ha.known g (hg.imp_left (hcount g))
  · rw [hb.xid, hb.nextId]
    exact ha.ids

/-- A state with the same names and the same backend. -/
theorem Owned.congr (ho : Owned s v stray keep glxStray) (hnames : SameNames s s')
    (hb : s'.backend = s.backend) : Owned s' v stray keep glxStray where
  holds := hb ▸ ho.holds
  agrees := ho.agrees.keeps hnames.toSameHosts hnames.backing (hb ▸ .refl _) rfl fun _ hne => hne
  held := hnames.names ▸ ho.held
  glx := hnames.glx ▸ ho.glx
  kept h hglx := (ho.kept h hglx).imp_left fun ⟨p, hp⟩ => ⟨p, (hnames.pixmap p).trans hp⟩

theorem Owned.held_pos (ho : Owned s v stray keep glxStray) {n : Name}
    (hn : s.names n = some h) : 0 < v.held h :=
  ho.held.pos_of_name hn

theorem stored_of_held (hpos : 0 < v.held h) : v.Stored h := by
  rw [Holdings.Stored, Holdings.count]
  omega

/-- A stray hold is dropped as that of a pixmap. -/
theorem Owned.freeStray (ho : Owned s v (h :: stray) (h :: keep) glxStray) :
    Owned (s.setBackend (s.backend.freePixmap h)) (v.free h) stray keep glxStray := by
  refine ⟨ho.holds.freePixmap (ho.held.pos_of_stray (.head _)),
    ho.agrees.keeps sameNames_setBackend.toSameHosts (fun _ => rfl) (.freePixmap _ h)
      Holdings.backing_settle fun g hg hzero =>
        hg (Nat.le_zero.mp (hzero ▸ Holdings.count_settle_le.trans Holdings.count_drop_le)), ?_, ?_,
    fun g hg => ?_⟩
  · rw [Holdings.free, Holdings.held_settle]
    exact ho.held.drop
  · simpa only [Holdings.free, Holdings.getD_glx_settle, Holdings.glx_drop,
      glxNames_setBackend] using ho.glx
  · obtain ⟨hne, hglx⟩ := Holdings.glx_settle_eq_zero.mp hg
    refine (ho.kept g hglx).imp_right fun hmem => ?_
    exact (List.mem_cons.mp hmem).resolve_left hne

/-- A stray hold is dropped as that of a backing. -/
theorem Owned.dropStray (ho : Owned s v (h :: stray) keep glxStray) (hb : v.backing h = true) :
    Owned (s.setBackend (s.backend.dropBackingStorage h)) (v.drop h) stray keep glxStray where
  holds := ho.holds.dropBackingStorage hb (ho.held.pos_of_stray (.head _))
  agrees := ho.agrees.keeps sameNames_setBackend.toSameHosts (fun _ => rfl)
    (.dropBackingStorage _ h) rfl fun _ hg hzero =>
      hg (Nat.le_zero.mp (hzero ▸ Holdings.count_drop_le))
  held := ho.held.drop
  glx := ho.glx
  kept := ho.kept

/-! ## Windows and their backings -/

/-- No two windows have the same backing. -/
theorem Agrees.backing_inj (ha : s.Agrees v) (hw : s.backingOf w = some h)
    (hx : s.backingOf x = some h) : w = x := by
  have hhost {w : ResourceId} (hw : s.backingOf w = some h) : ∃ hw, s.hostWindowOf w = some hw ∧
      s.backend.hostWindowToBacking[hw]? = some h := by
    obtain ⟨host, hhost⟩ := Option.ne_none_iff_exists'.mp
      (ha.hosted w (hw ▸ Option.some_ne_none h))
    exact ⟨host, hhost, (ha.table w host hhost).trans hw⟩
  obtain ⟨host, hhostw, htable⟩ := hhost hw
  obtain ⟨host', hhostx, htable'⟩ := hhost hx
  obtain rfl := ha.injective host host' h htable htable'
  exact ha.distinct w x host hhostw hhostx

/-- A window gives its backing up. -/
theorem Owned.release (ho : Owned s v stray keep glxStray) (hw : s.backingOf w = some h)
    (hsame : SameClients s s')
    (hback : ∀ x, s'.backingOf x = if x = w then none else s.backingOf x)
    (hb : s'.backend = s.backend.releaseRedirectedBacking h) :
    Owned s' (v.drop h) stray keep glxStray := by
  have ha := ho.agrees
  have hwin := hsame.window
  have hbacking := ha.backing w h hw
  have hkeeps := KmsBackend.Keeps.dropBackingStorage { s.backend with
    hostWindowToBacking := s.backend.hostWindowToBacking.filter fun _ h' => h' ≠ h } h
  have hold : KmsBackend.Holds { s.backend with
      hostWindowToBacking := s.backend.hostWindowToBacking.filter fun _ h' => h' ≠ h } v :=
    ⟨ho.holds.store, ho.holds.registry, ho.holds.refs, ho.holds.glx, ho.holds.entry⟩
  have hpos := ho.held_pos (n := .inl w) hw
  have htable (host : Handle) : s'.backend.hostWindowToBacking[host]? =
      (s.backend.hostWindowToBacking[host]?).filter (· ≠ h) := by
    rw [hb, KmsBackend.releaseRedirectedBacking, hkeeps.backings,
      Std.ExtTreeMap.getElem?_filter']
  have htable_some {host g : Handle} (hg : s'.backend.hostWindowToBacking[host]? = some g) :
      s.backend.hostWindowToBacking[host]? = some g := by
    rw [htable] at hg
    exact (Option.filter_eq_some_iff.mp hg).1
  have hbackEq {x : ResourceId} {g : Handle} (hx : s'.backingOf x = some g) :
      s.backingOf x = some g := by
    rw [hback] at hx
    split at hx
    · cases hx
    · exact hx
  have hxid : s'.backend.nextHostXid = s.backend.nextHostXid := by rw [hb]; exact hkeeps.xid
  have hid : s'.backend.store.nextId = s.backend.store.nextId := by rw [hb]; exact hkeeps.nextId
  refine ⟨hb ▸ hold.dropBackingStorage hbacking hpos, ⟨hsame.tree ha.tree, fun x g hx => ?_,
    fun x hx => ?_, fun x host hhost => ?_, fun x y host hx hy => ?_, fun host host' g hx hy => ?_,
    fun x host hx => ?_, fun host g hg => ?_, fun g hg => ?_, ?_⟩, ?_, hsame.glx ▸ ho.glx,
    fun g hg => ?_⟩
  · exact ha.backing x g (hbackEq hx)
  · rw [hwin]
    refine ha.hosted x fun hnone => hx ?_
    rw [hback, hnone, ite_self]
  · rw [hwin] at hhost
    rw [htable, ha.table x host hhost, hback]
    split
    · next hx =>
      rw [hx, hw, Option.filter_some]
      simp
    · next hx =>
      cases hg : s.backingOf x with
      | none => rfl
      | some g =>
        refine Option.filter_eq_some_iff.mpr ⟨rfl, decide_eq_true ?_⟩
        rintro rfl
        exact hx (ha.backing_inj hg hw)
  · rw [hwin] at hx hy
    exact ha.distinct x y host hx hy
  · exact ha.injective host host' g (htable_some hx) (htable_some hy)
  · rw [hxid]
    exact ha.hostKnown x host ((hwin x).symm.trans hx)
  · rw [hxid]
    exact ha.tableKnown host g (htable_some hg)
  · rw [hxid]
    refine ha.known g (hg.imp_left fun hne hzero => hne ?_)
    exact Nat.le_zero.mp (hzero ▸ Holdings.count_drop_le)
  · rw [hxid, hid]
    exact ha.ids
  · have hdrop : Drop s.names s'.names (.inl w) h := by
      refine ⟨hw, (hback w).trans (if_pos rfl), fun n hn => ?_⟩
      cases n with
      | inl x => exact (hback x).trans (if_neg fun hx => hn (congrArg Sum.inl hx))
      | inr p => exact hsame.pixmap p
    exact hdrop.tallied ho.held
  · exact (ho.kept g hg).imp_left fun ⟨p, hp⟩ => ⟨p, (hsame.pixmap p).trans hp⟩

theorem backingOf_modifyWindow {f : Window → Window} :
    (s.modifyWindow w f).backingOf x =
      if x = w then s.resources.windows[w]?.bind fun r => (f r).redirectedBacking.map (·.hostPixmap)
      else s.backingOf x := by
  rw [backingOf, modifyWindow, ResourceTable.get_modifyWindow]
  split
  · next hx =>
    rw [hx]
    cases s.resources.windows[w]? <;> rfl
  · rfl

theorem hostWindowOf_modifyWindow {f : Window → Window} (hf : ∀ r, (f r).hostXid = r.hostXid) :
    (s.modifyWindow w f).hostWindowOf x = s.hostWindowOf x := by
  rw [hostWindowOf, hostWindowOf, modifyWindow, ResourceTable.get_modifyWindow]
  split
  · cases s.resources.windows[x]? with
    | none => rfl
    | some r => exact hf r
  · rfl

theorem treeWellFormed_modifyWindow {f : Window → Window} (h : s.resources.TreeWellFormed)
    (hparent : ∀ r, (f r).parent = r.parent) (hchildren : ∀ r, (f r).children = r.children) :
    (s.modifyWindow w f).resources.TreeWellFormed :=
  h.modifyWindow hparent fun r _ => hchildren r ▸ .refl _

theorem backgroundOf_modifyWindow {f : Window → Window}
    (hf : ∀ r, (f r).backgroundPixmapHostXid = r.backgroundPixmapHostXid) :
    (s.modifyWindow w f).backgroundOf x = s.backgroundOf x := by
  rw [backgroundOf, backgroundOf, modifyWindow, ResourceTable.get_modifyWindow]
  split
  · cases s.resources.windows[x]? with
    | none => rfl
    | some r => exact hf r
  · rfl

/-- A window gets another backing. -/
theorem sameClients_modifyWindow {f : Window → Window} (hparent : ∀ r, (f r).parent = r.parent)
    (hchildren : ∀ r, (f r).children = r.children) (hhost : ∀ r, (f r).hostXid = r.hostXid)
    (hbackground : ∀ r, (f r).backgroundPixmapHostXid = r.backgroundPixmapHostXid) :
    SameClients s (s.modifyWindow w f) where
  tree h := treeWellFormed_modifyWindow h hparent hchildren
  window _ := hostWindowOf_modifyWindow hhost
  background _ := backgroundOf_modifyWindow hbackground
  pixmap _ := rfl
  glx := rfl

theorem teardown_cases (s : RedirectServer) (w : ResourceId) :
    SameClients s (s.teardownRedirectForWindow w) ∧
      (∀ x, (s.teardownRedirectForWindow w).backingOf x =
        if x = w then none else s.backingOf x) ∧
      (s.teardownRedirectForWindow w).backend =
        (s.backingOf w).elim s.backend s.backend.releaseRedirectedBacking := by
  have hmap : s.backingOf w =
      (s.resources.windows[w]?.bind (·.redirectedBacking)).map (·.hostPixmap) := by
    rw [backingOf, Option.map_bind]
    rfl
  rw [teardownRedirectForWindow]
  cases hback : s.resources.windows[w]?.bind (·.redirectedBacking) with
  | none =>
    rw [hback, Option.map_none] at hmap
    refine ⟨.refl s, fun x => ?_, by rw [hmap]; rfl⟩
    change s.backingOf x = if x = w then none else s.backingOf x
    split
    · next hx => rw [hx, hmap]
    · rfl
  | some backing =>
    rw [hback, Option.map_some] at hmap
    refine ⟨.setBackend (sameClients_modifyWindow
      (f := fun w => { w with redirectedBacking := none }) (fun _ => rfl) (fun _ => rfl)
      (fun _ => rfl) fun _ => rfl), fun x => ?_, by rw [hmap]; rfl⟩
    rw [backingOf_setBackend, backingOf_modifyWindow]
    split
    · cases s.resources.windows[w]? <;> rfl
    · rfl

theorem Owned.teardown (ho : Owned s v stray keep glxStray) (w : ResourceId) :
    ∃ v', Owned (s.teardownRedirectForWindow w) v' stray keep glxStray ∧ Within v v' 0 := by
  obtain ⟨hsame, hback, hb⟩ := teardown_cases s w
  cases hw : s.backingOf w with
  | none =>
    rw [hw, Option.elim_none] at hb
    refine ⟨v, ho.congr ⟨hsame, fun x => ?_⟩ hb, .refl v⟩
    rw [hback]
    split
    · next hx => rw [hx, hw]
    · rfl
  | some h =>
    rw [hw, Option.elim_some] at hb
    exact ⟨v.drop h, ho.release hw hsame hback hb, within_drop⟩

def teardownAll (s : RedirectServer) (windows : List ResourceId) : RedirectServer :=
  windows.foldl (·.teardownRedirectForWindow ·) s

theorem Owned.teardownAll (ho : Owned s v stray keep glxStray) (windows : List ResourceId) :
    ∃ v', Owned (s.teardownAll windows) v' stray keep glxStray ∧ Within v v' 0 := by
  induction windows generalizing s v with
  | nil => exact ⟨v, ho, .refl v⟩
  | cons w windows ih =>
    obtain ⟨v', ho', hwithin⟩ := ho.teardown w
    obtain ⟨v'', ho'', hwithin'⟩ := ih ho'
    exact ⟨v'', ho'', hwithin.trans hwithin'⟩

theorem teardownAll_cases (windows : List ResourceId) (s : RedirectServer) :
    SameClients s (s.teardownAll windows) ∧
      ∀ x, (s.teardownAll windows).backingOf x = if x ∈ windows then none else s.backingOf x := by
  induction windows generalizing s with
  | nil => exact ⟨.refl s, fun x => rfl⟩
  | cons w windows ih =>
    obtain ⟨hsame, hback, -⟩ := teardown_cases s w
    obtain ⟨hsame', hback'⟩ := ih (s.teardownRedirectForWindow w)
    refine ⟨hsame.trans hsame', fun x => ?_⟩
    rw [teardownAll, List.foldl_cons, ← teardownAll, hback', hback]
    by_cases hx : x = w
    · simp [hx]
    · simp [hx]

/-- The backings that are released are those of the windows as they were at first. -/
theorem backend_teardownAll {windows : List ResourceId} (hnodup : windows.Nodup) :
    (s.teardownAll windows).backend =
      (windows.filterMap s.backingOf).foldl (·.releaseRedirectedBacking ·) s.backend := by
  induction windows generalizing s with
  | nil => rfl
  | cons w windows ih =>
    obtain ⟨hw, hnodup⟩ := List.nodup_cons.mp hnodup
    obtain ⟨-, hback, hb⟩ := teardown_cases s w
    have hrest : windows.filterMap (s.teardownRedirectForWindow w).backingOf =
        windows.filterMap s.backingOf := by
      refine List.filterMap_congr fun x hx => ?_
      rw [hback, if_neg]
      rintro rfl
      exact hw hx
    rw [teardownAll, List.foldl_cons, ← teardownAll, ih hnodup, hrest, hb]
    cases hback : s.backingOf w with
    | none => rw [List.filterMap_cons_none hback, Option.elim_none]
    | some h => rw [List.filterMap_cons_some hback, Option.elim_some, List.foldl_cons]

end RedirectServer

end X12

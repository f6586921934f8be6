import X12.Verify.BackingHolds

/-! # Requests and the holds on pixmaps

Each request gives holds to names, takes them from names and leaves some of them stray. A
name that is given up is forgotten first, so that its hold is stray, and the stray hold is
dropped where the request drops it. -/

namespace X12

open RefCounts (Tallied Put Drop without without_nil)

namespace RedirectServer

variable {s s' : RedirectServer} {v v' : Holdings} {h g : Handle} {w p x : ResourceId}
  {stray stray' keep keep' glxStray glxStray' : List Handle} {b : KmsBackend}

theorem Owned.perm (ho : Owned s v stray keep glxStray) (hstray : stray.Perm stray')
    (hkeep : keep ⊆ keep') (hglx : glxStray.Perm glxStray') :
    Owned s v stray' keep' glxStray' where
  holds := ho.holds
  agrees := ho.agrees
  held := ho.held.perm hstray
  glx := ho.glx.perm hglx
  kept h hzero := (ho.kept h hzero).imp_right (hkeep ·)

/-! ## Backgrounds -/

/-- The background of a window is a pixmap that has a name or a stray hold. -/
def Shown (s : RedirectServer) (stray : List Handle) : Prop :=
  ∀ w h, s.backgroundOf w = some h → (∃ p, s.hostXidOf p = some h) ∨ h ∈ stray

/-- A new background is that of a pixmap, and no pixmap is gone. -/
structure KeepsShown (s s' : RedirectServer) : Prop where
  background : ∀ w h, s'.backgroundOf w = some h →
    s.backgroundOf w = some h ∨ ∃ p, s'.hostXidOf p = some h
  pixmap : ∀ p h, s.hostXidOf p = some h → s'.hostXidOf p = some h

theorem KeepsShown.refl (s : RedirectServer) : KeepsShown s s := ⟨fun _ _ => .inl, fun _ _ hp => hp⟩

theorem KeepsShown.trans {s'' : RedirectServer} (h : KeepsShown s s') (h' : KeepsShown s' s'') :
    KeepsShown s s'' := by
  refine ⟨fun w g hw => ?_, fun p g hp => h'.pixmap p g (h.pixmap p g hp)⟩
  rcases h'.background w g hw with hw | hpixmap
  · exact (h.background w g hw).imp_right fun ⟨p, hp⟩ => ⟨p, h'.pixmap p g hp⟩
  · exact .inr hpixmap

theorem SameClients.keepsShown (h : SameClients s s') : KeepsShown s s' :=
  ⟨fun w _ hw => .inl ((h.background w).symm.trans hw), fun p _ hp => (h.pixmap p).trans hp⟩

theorem Shown.mono (hs : Shown s stray) (hkeeps : KeepsShown s s') (hstray : stray ⊆ stray') :
    Shown s' stray' := by
  intro w h hw
  rcases hkeeps.background w h hw with hbg | hpixmap
  · exact (hs w h hbg).imp (fun ⟨p, hp⟩ => ⟨p, hkeeps.pixmap p h hp⟩) (hstray ·)
  · exact .inl hpixmap

/-! ## Names that are given up -/

/-- Names are given up without their holds, those of windows with the windows. -/
structure Forgets (s s' : RedirectServer) (lost : List Name) (lostGlx : List UInt32) : Prop where
  tree : s'.resources.TreeWellFormed
  window : ∀ w, s'.hostWindowOf w = s.hostWindowOf w ∧ s'.backingOf w = s.backingOf w ∨
    s'.hostWindowOf w = none ∧ s'.backingOf w = none
  names : s'.names = without s.names lost
  glx : s'.glxNames = without s.glxNames lostGlx
  backend : s'.backend = s.backend

theorem Agrees.forget (ha : s.Agrees v) {lost : List Name} {lostGlx : List UInt32}
    (hf : Forgets s s' lost lostGlx) : s'.Agrees v := by
  have hbacking {w : ResourceId} {h : Handle} (hw : s'.backingOf w = some h) :
      s.backingOf w = some h := by
    rcases hf.window w with ⟨-, hsame⟩ | ⟨-, hnone⟩
    · exact hsame ▸ hw
    · cases hnone.symm.trans hw
  have hhost {w : ResourceId} {host : Handle} (hw : s'.hostWindowOf w = some host) :
      s.hostWindowOf w = some host ∧ s'.backingOf w = s.backingOf w := by
    rcases hf.window w with ⟨hsame, hback⟩ | ⟨hnone, -⟩
    · exact ⟨hsame ▸ hw, hback⟩
    · cases hnone.symm.trans hw
  refine ⟨hf.tree, fun w h hw => ha.backing w h (hbacking hw), fun w hw => ?_,
    fun w host hw => ?_, fun w x host hw hx => ha.distinct w x host (hhost hw).1 (hhost hx).1,
    ?_, fun w host hw => ?_, ?_, ?_, ?_⟩
  · rcases hf.window w with ⟨hsame, hback⟩ | ⟨-, hnone⟩
    · rw [hsame]
      exact ha.hosted w (hback ▸ hw)
    · exact absurd hnone hw
  · rw [hf.backend, (hhost hw).2]
    exact ha.table w host (hhost hw).1
  · rw [hf.backend]
    exact ha.injective
  · rw [hf.backend]
    exact ha.hostKnown w host (hhost hw).1
  · rw [hf.backend]
    exact ha.tableKnown
  · rw [hf.backend]
    exact ha.known
  · rw [hf.backend]
    exact ha.ids

theorem Owned.forget (ho : Owned s v stray stray glxStray) {lost : List Name}
    {lostGlx : List UInt32} (hf : Forgets s s' lost lostGlx) (hlost : lost.Nodup)
    (hlostGlx : lostGlx.Nodup) :
    Owned s' v (lost.filterMap s.names ++ stray) (lost.filterMap s.names ++ stray)
      (lostGlx.filterMap s.glxNames ++ glxStray) where
  holds := hf.backend ▸ ho.holds
  agrees := ho.agrees.forget hf
  held := hf.names ▸ ho.held.without hlost
  glx := hf.glx ▸ ho.glx.without hlostGlx
  kept h hzero := by
    rcases ho.kept h hzero with ⟨p, hp⟩ | hmem
    · by_cases hmem : Sum.inr p ∈ lost
      · exact .inr (List.mem_append_left _ (List.mem_filterMap.mpr ⟨.inr p, hmem, hp⟩))
      · refine .inl ⟨p, ?_⟩
        change s'.names (.inr p) = some h
        rw [hf.names]
        exact (if_neg hmem).trans hp
    · exact .inr (List.mem_append_right _ hmem)

/-- Windows may be gone or new, but none that is redirected or has a host. -/
theorem Owned.same (ho : Owned s v stray stray glxStray) (hf : Forgets s s' [] []) :
    Owned s' v stray stray glxStray :=
  ho.forget hf .nil .nil

/-! ## Stray holds -/

/-- A hold that is one of the stray ones. -/
theorem Owned.freeOne (ho : Owned s v stray stray glxStray) (hmem : h ∈ stray) :
    Owned (s.setBackend (s.backend.freePixmap h)) (v.free h) (stray.erase h) (stray.erase h)
      glxStray := by
  have hperm := List.perm_cons_erase hmem
  exact (ho.perm hperm hperm.subset (.refl _)).freeStray

theorem Owned.freeAll {l : List Handle} (ho : Owned s v stray stray glxStray)
    (hl : List.Subperm l stray) :
    ∃ v', Owned (s.setBackend (l.foldl (·.freePixmap ·) s.backend)) v' (stray.diff l)
      (stray.diff l) glxStray ∧ Within v v' 0 := by
  induction l generalizing s v stray with
  | nil => exact ⟨v, ho, .refl v⟩
  | cons h l ih =>
    have hmem : h ∈ stray := hl.subset (.head _)
    have hrest : List.Subperm l (stray.erase h) :=
      (List.subperm_cons h).mp ((List.perm_cons_erase hmem).subperm_left.mp hl)
    obtain ⟨v', ho', hwithin⟩ := ih (ho.freeOne hmem) hrest
    refine ⟨v', ?_, within_free.trans hwithin⟩
    rw [List.diff_cons]
    exact ho'

/-! ## Windows and pixmaps of the table -/

/-- What the record of a window says to the backend. -/
def hosting (w : Window) : Option Handle × Option RedirectedBacking :=
  (w.hostXid, w.redirectedBacking)

/-- A window that is not there says nothing. -/
def hostingOf (t : ResourceTable) (w : ResourceId) : Option Handle × Option RedirectedBacking :=
  (t.windows[w]?.map hosting).getD (none, none)

theorem hosting_ignoresPlace : ResourceTable.IgnoresPlace hosting := fun _ _ _ _ _ _ _ _ => rfl

theorem hostWindowOf_eq : s.hostWindowOf w = (hostingOf s.resources w).1 := by
  rw [hostWindowOf, hostingOf]
  cases s.resources.windows[w]? <;> rfl

theorem backingOf_eq :
    s.backingOf w = (hostingOf s.resources w).2.map (·.hostPixmap) := by
  rw [backingOf, hostingOf]
  cases s.resources.windows[w]? <;> rfl

/-- The table is changed in what says nothing to the backend. -/
theorem forgets_nothing {t : ResourceTable} (htree : t.TreeWellFormed)
    (hwindows : ∀ w, hostingOf t w = hostingOf s.resources w)
    (hpixmaps : t.pixmaps = s.resources.pixmaps) : Forgets s (s.setResources t) [] [] := by
  have hback (w : ResourceId) : (s.setResources t).backingOf w = s.backingOf w := by
    rw [backingOf_eq, backingOf_eq, ← hwindows]
    rfl
  refine ⟨htree, fun w => .inl ⟨?_, hback w⟩, ?_, (without_nil _).symm, rfl⟩
  · rw [hostWindowOf_eq, hostWindowOf_eq, ← hwindows]
    rfl
  · rw [without_nil]
    funext n
    cases n with
    | inl w => exact hback w
    | inr p =>
      change t.pixmaps[p]?.bind _ = s.resources.pixmaps[p]?.bind _
      rw [hpixmaps]

theorem hostXidOf_freePixmap :
    (s.setResources (s.resources.freePixmap p).1).hostXidOf x =
      if x = p then none else s.hostXidOf x := by
  change (s.resources.pixmaps.erase p)[x]?.bind _ = _
  rw [ResourceMap.get_erase]
  split <;> rfl

theorem forgets_freePixmap (htree : s.resources.TreeWellFormed) (p : ResourceId) :
    Forgets s (s.setResources (s.resources.freePixmap p).1) [.inr p] [] := by
  refine ⟨htree, fun w => .inl ⟨rfl, rfl⟩, ?_, (without_nil _).symm, rfl⟩
  funext n
  cases n with
  | inl w => exact (if_neg (by simp)).symm
  | inr x =>
    refine hostXidOf_freePixmap.trans ?_
    by_cases hx : x = p
    · simp [without, hx]
    · simp [without, hx, names]

theorem filterMap_one {α β : Type} {f : α → Option β} {a : α} :
    [a].filterMap f = (f a).toList := by
  cases hfa : f a with
  | none => rw [List.filterMap_cons_none hfa, List.filterMap_nil, Option.toList_none]
  | some b => rw [List.filterMap_cons_some hfa, List.filterMap_nil, Option.toList_some]

/-- A pixmap is forgotten, and its hold is stray. -/
theorem Owned.forgetPixmap (ho : Owned s v stray stray glxStray) (p : ResourceId) :
    Owned (s.setResources (s.resources.freePixmap p).1) v ((s.hostXidOf p).toList ++ stray)
      ((s.hostXidOf p).toList ++ stray) glxStray := by
  have hforgot := ho.forget (forgets_freePixmap ho.agrees.tree p) (List.nodup_singleton _) .nil
  rw [filterMap_one] at hforgot
  exact hforgot

theorem Shown.forgetPixmap (hs : Shown s stray) (p : ResourceId) :
    Shown (s.setResources (s.resources.freePixmap p).1) ((s.hostXidOf p).toList ++ stray) := by
  intro w h hw
  rcases hs w h hw with ⟨q, hq⟩ | hmem
  · by_cases heq : q = p
    · refine .inr (List.mem_append_left _ (Option.mem_toList.mpr ?_))
      exact heq ▸ hq
    · exact .inl ⟨q, hostXidOf_freePixmap.trans ((if_neg heq).trans hq)⟩
  · exact .inr (List.mem_append_right _ hmem)

theorem freedPixmap_eq_some (hfreed : s.freedPixmap p = some h) : s.hostXidOf p = some h :=
  (Option.filter_eq_some_iff.mp hfreed).1

theorem Owned.freePixmap (ho : Owned s v stray stray glxStray) (p : ResourceId) :
    ∃ v', Owned (s.freePixmap p) v'
      ((if (s.freedPixmap p).isSome then [] else (s.hostXidOf p).toList) ++ stray)
      ((if (s.freedPixmap p).isSome then [] else (s.hostXidOf p).toList) ++ stray) glxStray ∧
      Within v v' 0 := by
  have hforgot := ho.forgetPixmap p
  rw [RedirectServer.freePixmap]
  cases hfreed : s.freedPixmap p with
  | none => exact ⟨v, hforgot, .refl v⟩
  | some h =>
    rw [freedPixmap_eq_some hfreed] at hforgot
    exact ⟨v.free h, hforgot.freeStray, within_free⟩

theorem forgets_changeWindowAttributes (htree : s.resources.TreeWellFormed)
    (request : ChangeWindowAttributesRequest) :
    Forgets s (s.setResources (s.resources.changeWindowAttributes request).1) [] [] :=
  forgets_nothing (htree.modifyWindow (fun _ => rfl) fun _ _ => .refl _)
    (fun _ => congrArg (Option.getD · _) (ResourceTable.field_modifyWindow fun _ => rfl)) rfl

theorem Owned.changeWindowAttributes (ho : Owned s v stray stray glxStray)
    (request : ChangeWindowAttributesRequest)
    (hstray : ∀ h, s.freedBackground request = some h → h ∈ stray) :
    ∃ v', Owned (s.changeWindowAttributes request) v'
      (stray.diff (s.freedBackground request).toList)
      (stray.diff (s.freedBackground request).toList) glxStray ∧ Within v v' 0 := by
  have hchanged := ho.same (forgets_changeWindowAttributes ho.agrees.tree request)
  rw [RedirectServer.changeWindowAttributes]
  cases hfreed : s.freedBackground request with
  | none => exact ⟨v, hchanged, .refl v⟩
  | some h =>
    rw [Option.toList_some, List.diff_cons, List.diff_nil]
    exact ⟨v.free h, hchanged.freeOne (hstray h hfreed), within_free⟩

/-! ## New ids -/

theorem takeHostXid_eq_some {b b' : KmsBackend} {host : Handle}
    (hok : b.takeHostXid = some (b', host)) :
    b' = { b with nextHostXid := host } ∧ host.toNat = b.nextHostXid.toNat + 1 := by
  rw [KmsBackend.takeHostXid] at hok
  split at hok
  · next hlt =>
    cases hok
    exact ⟨rfl, (UInt32.toNat_add _ _).trans (Nat.mod_eq_of_lt hlt)⟩
  · cases hok

/-- The new id is the host of a window that had none. -/
theorem Owned.host (ho : Owned s v stray keep glxStray) {host : Handle}
    (hok : s.backend.takeHostXid = some (b, host)) (htree : s'.resources.TreeWellFormed)
    (hwin : ∀ x, s'.hostWindowOf x = s.hostWindowOf x ∨
      x = w ∧ s.backingOf w = none ∧ s'.hostWindowOf w = some host)
    (hnames : s'.names = s.names) (hglx : s'.glxNames = s.glxNames) (hb : s'.backend = b) :
    Owned s' v stray keep glxStray := by
  have ha := ho.agrees
  obtain ⟨rfl, hhost⟩ := takeHostXid_eq_some hok
  have hback (x : ResourceId) : s'.backingOf x = s.backingOf x := congrFun hnames (.inl x)
  have hnext : s'.backend.nextHostXid.toNat = s.backend.nextHostXid.toNat + 1 := by
    rw [hb]
    exact hhost
  have hfresh (x : ResourceId) : s.hostWindowOf x ≠ some host := fun hx => by
    have hle := ha.hostKnown x host hx
    omega
  have hholds : s'.backend.Holds v := by
    rw [hb]
    exact ⟨ho.holds.store, ho.holds.registry, ho.holds.refs, ho.holds.glx, ho.holds.entry⟩
  have htable : s'.backend.hostWindowToBacking = s.backend.hostWindowToBacking := by rw [hb]
  refine ⟨hholds, ⟨htree, fun x h hx => ha.backing x h (hback x ▸ hx), fun x hx => ?_,
    fun x hw hx => ?_, fun x y hw hx hy => ?_, htable ▸ ha.injective, fun x hw hx => ?_,
    fun hw h hx => ?_, fun h hknown => ?_, ?_⟩, hnames ▸ ho.held, hglx ▸ ho.glx, fun h hzero => ?_⟩
  · rcases hwin x with hsame | ⟨rfl, -, hsome⟩
    · rw [hsame]
      exact ha.hosted x (hback x ▸ hx)
    · rw [hsome]
      exact Option.some_ne_none host
  · rw [htable, hback]
    rcases hwin x with hsame | ⟨rfl, hnone, hsome⟩
    · exact ha.table x hw (hsame ▸ hx)
    · obtain rfl := Option.some.inj (hsome.symm.trans hx)
      rw [hnone]
      cases hg : s.backend.hostWindowToBacking[host]? with
      | none => rfl
      | some g =>
        have hle := (ha.tableKnown host g hg).1
        omega
  · rcases hwin x with hsamex | ⟨rfl, -, hsomex⟩
    · rcases hwin y with hsamey | ⟨rfl, -, hsomey⟩
      · exact ha.distinct x y hw (hsamex ▸ hx) (hsamey ▸ hy)
      · obtain rfl := Option.some.inj (hsomey.symm.trans hy)
        exact absurd (hsamex ▸ hx) (hfresh x)
    · rcases hwin y with hsamey | ⟨rfl, -, -⟩
      · obtain rfl := Option.some.inj (hsomex.symm.trans hx)
        exact absurd (hsamey ▸ hy) (hfresh y)
      · rfl
  · rw [hnext]
    rcases hwin x with hsame | ⟨rfl, -, hsome⟩
    · exact Nat.le_succ_of_le (ha.hostKnown x hw (hsame ▸ hx))
    · obtain rfl := Option.some.inj (hsome.symm.trans hx)
      exact Nat.le_of_eq hhost
  · rw [hnext]
    obtain ⟨hle, hbacking⟩ := ha.tableKnown hw h (htable ▸ hx)
    exact ⟨Nat.le_succ_of_le hle, hbacking⟩
  · rw [hnext]
    exact Nat.le_succ_of_le (ha.known h hknown)
  · rw [hnext, hb]
    exact Nat.le_succ_of_le ha.ids
  · exact (ho.kept h hzero).imp_left fun ⟨p, hp⟩ => ⟨p, (congrFun hnames (.inr p)).trans hp⟩

theorem Owned.takeHostXid (ho : Owned s v stray keep glxStray) {host : Handle}
    (hok : s.backend.takeHostXid = some (b, host)) :
    Owned (s.setBackend b) v stray keep glxStray :=
  ho.host (w := ROOT_WINDOW) hok ho.agrees.tree (fun _ => .inl rfl) rfl rfl rfl

theorem hostingOf_createWindow {t : ResourceTable} {request : CreateWindowRequest}
    (hnew : t.windows[request.window]? = none) (hparent : t.windows[request.parent]? ≠ none)
    (client : ClientId) (w : ResourceId) :
    hostingOf (t.createWindow client request) w = hostingOf t w := by
  obtain ⟨parent, hp⟩ := Option.ne_none_iff_exists'.mp hparent
  rw [hostingOf, ResourceTable.get_createWindow hp, hostingOf]
  split
  · next hw =>
    rw [hw, hnew]
    rfl
  · split
    · next hw =>
      rw [hw, hp]
      rfl
    · rfl

/-- A window gets a host, and the rest of its record stays. -/
theorem Owned.hostWindow (ho : Owned s v stray keep glxStray) {host : Handle}
    (hok : s.backend.takeHostXid = some (b, host)) (hnone : s.backingOf w = none) :
    Owned ((s.setBackend b).modifyWindow w fun r => { r with hostXid := some host }) v stray keep
      glxStray := by
  refine ho.host (w := w) hok (treeWellFormed_modifyWindow ho.agrees.tree (fun _ => rfl)
    fun _ => rfl) (fun x => ?_) ?_ rfl rfl
  · by_cases hx : x = w
    · subst hx
      cases hget : s.resources.windows[x]? with
      | none =>
        refine .inl ?_
        rw [hostWindowOf, modifyWindow, ResourceTable.get_modifyWindow, if_pos rfl, hostWindowOf]
        change (s.resources.windows[x]?.map _).bind _ = _
        rw [hget]
        rfl
      | some r =>
        refine .inr ⟨rfl, hnone, ?_⟩
        rw [hostWindowOf, modifyWindow, ResourceTable.get_modifyWindow, if_pos rfl]
        change (s.resources.windows[x]?.map _).bind _ = _
        rw [hget]
        rfl
    · refine .inl ?_
      rw [hostWindowOf, modifyWindow, ResourceTable.get_modifyWindow, if_neg hx]
      rfl
  · funext n
    cases n with
    | inl x =>
      refine (backingOf_modifyWindow (s := s.setBackend b)).trans ?_
      split
      · next hx =>
        rw [hx]
        rfl
      · rfl
    | inr p => rfl

theorem keepsShown_hostWindow {host : Handle} :
    KeepsShown s ((s.setBackend b).modifyWindow w fun r => { r with hostXid := some host }) where
  background x g hx := by
    rw [backgroundOf_modifyWindow] at hx
    · exact .inl hx
    · exact fun _ => rfl
  pixmap _ _ hp := hp

theorem keepsShown_createWindow (client : ClientId) {request : CreateWindowRequest}
    (hparent : s.resources.windows[request.parent]? ≠ none) :
    KeepsShown s (s.setResources (s.resources.createWindow client request)) := by
  obtain ⟨parent, hp⟩ := Option.ne_none_iff_exists'.mp hparent
  refine ⟨fun w h hw => ?_, fun _ _ hp => hp⟩
  change ((s.resources.createWindow client request).windows[w]?.bind _) = _ at hw
  rw [ResourceTable.get_createWindow hp] at hw
  split at hw
  · have hw : (request.backgroundPixmap.filter (· > 1)).bind
        (fun p => s.resources.pixmaps[p]?.bind (·.hostXid)) = some h := hw
    obtain ⟨p, -, hbg⟩ := Option.bind_eq_some_iff.mp hw
    exact .inr ⟨p, hbg⟩
  · split at hw
    · next heq =>
      refine .inl ?_
      rw [backgroundOf, heq, hp]
      exact hw
    · exact .inl hw

theorem Owned.createWindow (ho : Owned s v stray stray glxStray) {client : ClientId}
    {request : CreateWindowRequest} {hosted : Bool}
    (hok : s.createWindow client request hosted = some s') :
    Owned s' v stray stray glxStray ∧ KeepsShown s s' := by
  rw [RedirectServer.createWindow] at hok
  split at hok
  · cases hok
    exact ⟨ho, .refl s⟩
  · next hrefused =>
    simp only [Bool.or_eq_true, not_or, Bool.not_eq_true', Bool.not_eq_false,
      Std.ExtTreeMap.contains_iff_mem, ResourceMap.mem_iff, not_not] at hrefused
    obtain ⟨hnew, hparent⟩ := hrefused
    have hmade := ho.same (forgets_nothing (ho.agrees.tree.createWindow client hnew hparent)
      (hostingOf_createWindow hnew hparent client) rfl)
    have hshown := keepsShown_createWindow client hparent
    dsimp only at hok
    split at hok
    · obtain ⟨⟨b, host⟩, htaken, hok⟩ := Option.bind_eq_some_iff.mp hok
      cases hok
      cases hosted with
      | false =>
        exact ⟨hmade.takeHostXid htaken, hshown.trans sameNames_setBackend.keepsShown⟩
      | true =>
        refine ⟨hmade.hostWindow htaken ?_, hshown.trans keepsShown_hostWindow⟩
        rw [backingOf_eq]
        change (hostingOf (s.resources.createWindow client request) _).2.map _ = none
        rw [hostingOf_createWindow hnew hparent, hostingOf, hnew]
        rfl
    · cases hok
      exact ⟨hmade, hshown⟩

/-! ## New pixmaps -/

/-- The id that is given out next is that of nothing. -/
theorem Agrees.fresh (ha : s.Agrees v) (hlt : s.backend.nextHostXid.toNat < h.toNat) :
    v.count h = 0 ∧ v.backing h = false := by
  refine ⟨?_, ?_⟩
  · by_contra hne
    have hle := ha.known h (.inl hne)
    omega
  · by_contra hne
    have hle := ha.known h (.inr (Bool.not_eq_false _ ▸ hne))
    omega

/-- A pixmap that the backend has made, and the ids that it has given out for it. -/
structure Made (s : RedirectServer) (v : Holdings) (b : KmsBackend) (h : Handle) : Prop where
  holds : b.Holds (v.create h false)
  xid : b.nextHostXid = h
  next : h.toNat = s.backend.nextHostXid.toNat + 1
  nextId : b.store.nextId = s.backend.store.nextId + 1
  backings : b.hostWindowToBacking = s.backend.hostWindowToBacking

theorem Agrees.nextId_lt (ha : s.Agrees v) : s.backend.store.nextId + 1 < 2 ^ 64 := by
  have hlt := UInt32.toNat_lt s.backend.nextHostXid
  have hle : s.backend.store.nextId + 1 ≤ s.backend.nextHostXid.toNat + 1 :=
    (Nat.add_le_add_left (by decide) _).trans ha.ids
  exact Nat.lt_of_le_of_lt hle (by omega)

theorem Made.ids (hmade : Made s v b h) (ha : s.Agrees v) :
    b.store.nextId + 0x00400000 ≤ h.toNat + 1 := by
  rw [hmade.nextId, hmade.next, Nat.add_right_comm]
  exact Nat.succ_le_succ ha.ids

theorem isSome_createPixmap {b b' : KmsBackend} {depth : UInt8} {stored : Bool}
    {created : Option Handle} (hok : b.createPixmap depth stored = some (b', created)) :
    created.isSome = stored := by
  obtain ⟨⟨b₁, xid⟩, -, hok⟩ := Option.bind_eq_some_iff.mp hok
  cases stored with
  | false =>
    cases hok
    rfl
  | true =>
    simp only [if_true] at hok
    split at hok <;> cases hok <;> rfl

theorem Owned.createPixmap_cases (ho : Owned s v stray keep glxStray) {depth : UInt8}
    {stored : Bool} {created : Option Handle}
    (hok : s.backend.createPixmap depth stored = some (b, created)) :
    created = none ∧ Owned (s.setBackend b) v stray keep glxStray ∨
      ∃ h, created = some h ∧ Made s v b h := by
  have ha := ho.agrees
  obtain ⟨hxid, htable, ⟨hnone, hholds, hid⟩ | ⟨hsome, hholds, hid⟩⟩ :=
    ho.holds.createPixmap (fun h hlt => ha.fresh hlt) ha.nextId_lt hok
  · have hle : s.backend.nextHostXid.toNat ≤ b.nextHostXid.toNat := by omega
    refine .inl ⟨hnone, hholds, ha.grow sameNames_setBackend.toSameHosts (fun _ => rfl) htable hle
      (fun _ _ => rfl) (fun g hg => (ha.known g hg).trans hle) ?_, ho.held, ho.glx, ho.kept⟩
    change b.store.nextId + _ ≤ b.nextHostXid.toNat + 1
    rw [hid]
    exact ha.ids.trans (Nat.succ_le_succ hle)
  · exact .inr ⟨b.nextHostXid, hsome, hholds, rfl, hxid, hid, htable⟩

/-- The hold on a new pixmap is the first one. -/
theorem Agrees.create_held (ha : s.Agrees v) (hlt : s.backend.nextHostXid.toNat < h.toNat)
    (backing : Bool) :
    (v.create h backing).held = Function.update v.held h (v.held h + 1) := by
  have hzero : v.held h + (v.glx h).elim 0 (fun _ => 1) = 0 := (ha.fresh hlt).1
  have hheld : v.held h = 0 := by omega
  rw [hheld]
  rfl

theorem Agrees.known_create (ha : s.Agrees v) (hmade : Made s v b h) {backing : Bool}
    (hg : (v.create h backing).count g ≠ 0 ∨ (v.create h backing).backing g = true) :
    g.toNat ≤ b.nextHostXid.toNat := by
  have hnext := hmade.next
  rw [hmade.xid]
  by_cases heq : g = h
  · rw [heq]
  · have hold : v.count g ≠ 0 ∨ v.backing g = true := by
      rw [Holdings.backing_create, if_neg heq, Holdings.count, Holdings.held_create,
        if_neg heq] at hg
      exact hg
    have hle := ha.known g hold
    omega

/-- A pixmap gets the name of one that the backend had not made. -/
structure NamesPixmap (s s' : RedirectServer) (p : ResourceId) (h : Handle) : Prop extends
    SameHosts s s' where
  unused : s.hostXidOf p = none
  pixmap : ∀ x, s'.hostXidOf x = if x = p then some h else s.hostXidOf x
  backing : ∀ w, s'.backingOf w = s.backingOf w
  glx : s'.glxNames = s.glxNames

namespace NamesPixmap

theorem put (hnames : NamesPixmap s s' p h) : Put s.names s'.names (.inr p) h := by
  refine ⟨hnames.unused, (hnames.pixmap p).trans (if_pos rfl), fun n hn => ?_⟩
  cases n with
  | inl w => exact hnames.backing w
  | inr x => exact (hnames.pixmap x).trans (if_neg fun hx => hn (congrArg Sum.inr hx))

theorem keepsShown (hnames : NamesPixmap s s' p h) : KeepsShown s s' := by
  refine ⟨fun w g hw => .inl ((hnames.background w).symm.trans hw), fun x g hx => ?_⟩
  refine (hnames.pixmap x).trans ((if_neg ?_).trans hx)
  rintro rfl
  cases hnames.unused.symm.trans hx

end NamesPixmap

/-- A new pixmap gets a name. -/
theorem Owned.make (ho : Owned s v stray keep glxStray) (hmade : Made s v b h)
    (hnames : NamesPixmap s s' p h) (hb : s'.backend = b) :
    Owned s' (v.create h false) stray keep glxStray := by
  have ha := ho.agrees
  have hnext := hmade.next
  have hlt : s.backend.nextHostXid.toNat < h.toNat := by omega
  refine ⟨hb ▸ hmade.holds, ha.grow hnames.toSameHosts hnames.backing (hb ▸ hmade.backings) ?_
    (fun g hg => ?_) (fun g hg => ?_) ?_, ?_, hnames.glx ▸ ho.glx, fun g hzero => ?_⟩
  · rw [hb, hmade.xid]
    omega
  · rw [Holdings.backing_create, if_neg]
    rintro rfl
    omega
  · rw [hb]
    exact ha.known_create hmade hg
  · rw [hb, hmade.xid]
    exact hmade.ids ha
  · rw [ha.create_held hlt]
    exact hnames.put.tallied ho.held
  · exact (ho.kept g hzero).imp_left fun ⟨x, hx⟩ => ⟨x, hnames.keepsShown.pixmap x g hx⟩

/-- A new pixmap is made the backing of a window. -/
theorem Owned.assign (ho : Owned s v stray keep glxStray) (hmade : Made s v b h)
    {hostWindow : Handle} (hw : s.hostWindowOf w = some hostWindow) (hnone : s.backingOf w = none)
    {entry : AliasEntry} (hone : entry.refcount = 1) (hsame : SameClients s s')
    (hback : ∀ x, s'.backingOf x = if x = w then some h else s.backingOf x)
    (hb : s'.backend = { b with
      aliasRegistry := b.aliasRegistry.insert h entry
      hostWindowToBacking := b.hostWindowToBacking.insert hostWindow h }) :
    Owned s' (v.create h true) stray keep glxStray := by
  have ha := ho.agrees
  have hnext := hmade.next
  have hlt : s.backend.nextHostXid.toNat < h.toNat := by omega
  obtain ⟨hzero, hunused⟩ := ha.fresh hlt
  have htracked := hmade.holds.track (KmsBackend.Holds.glx_of_count hzero) hone
  have hxid : s'.backend.nextHostXid = h := by rw [hb, ← hmade.xid]
  have hbacking {g : Handle} (hg : v.backing g = true) : (v.create h true).backing g = true := by
    rw [Holdings.backing_create]
    split
    · rfl
    · exact hg
  have htable (host : Handle) : s'.backend.hostWindowToBacking[host]? =
      if host = hostWindow then some h else s.backend.hostWindowToBacking[host]? := by
    rw [hb]
    dsimp only
    rw [ResourceMap.get_insert, hmade.backings]
  have hnotNew {host : Handle} (hg : s.backend.hostWindowToBacking[host]? = some h) : False := by
    cases hunused.symm.trans (ha.tableKnown host h hg).2
  have hput : Put s.names s'.names (.inl w) h := by
    refine ⟨hnone, (hback w).trans (if_pos rfl), fun n hn => ?_⟩
    cases n with
    | inl x => exact (hback x).trans (if_neg fun hx => hn (congrArg Sum.inl hx))
    | inr p => exact hsame.pixmap p
  refine ⟨?_, ⟨hsame.tree ha.tree, fun x g hx => ?_, fun x hx => ?_, fun x host hx => ?_,
    fun x y host hx hy => ?_, fun host host' g hx hy => ?_, fun x host hx => ?_,
    fun host g hg => ?_, fun g hg => ?_, ?_⟩, ?_, hsame.glx ▸ ho.glx, fun g hzero => ?_⟩
  · rw [hb]
    exact ⟨htracked.store, htracked.registry, htracked.refs, htracked.glx, htracked.entry⟩
  · rw [hback] at hx
    split at hx
    · rw [Option.some.inj hx, Holdings.backing_create, if_pos rfl] at *
    · exact hbacking (ha.backing x g hx)
  · rw [hsame.window]
    rw [hback] at hx
    split at hx
    · next heq =>
      rw [heq, hw]
      exact Option.some_ne_none _
    · exact ha.hosted x hx
  · rw [hsame.window] at hx
    rw [htable, hback]
    by_cases heq : x = w
    · rw [if_pos heq, if_pos (Option.some.inj ((heq ▸ hx).symm.trans hw))]
    · rw [if_neg heq, if_neg]
      · exact ha.table x host hx
      · rintro rfl
        exact heq (ha.distinct x w host hx hw)
  · rw [hsame.window] at hx hy
    exact ha.distinct x y host hx hy
  · rw [htable] at hx hy
    split at hx
    · next heq =>
      obtain rfl := Option.some.inj hx
      split at hy
      · next heq' => rw [heq, heq']
      · exact (hnotNew hy).elim
    · split at hy
      · obtain rfl := Option.some.inj hy
        exact (hnotNew hx).elim
      · exact ha.injective host host' g hx hy
  · rw [hsame.window] at hx
    rw [hxid]
    exact Nat.le_of_lt (Nat.lt_of_le_of_lt (ha.hostKnown x host hx) hlt)
  · rw [hxid]
    rw [htable] at hg
    split at hg
    · next heq =>
      obtain rfl := Option.some.inj hg
      refine ⟨?_, by rw [Holdings.backing_create, if_pos rfl]⟩
      rw [heq]
      exact Nat.le_of_lt (Nat.lt_of_le_of_lt (ha.hostKnown w hostWindow hw) hlt)
    · obtain ⟨hle, hknown⟩ := ha.tableKnown host g hg
      exact ⟨Nat.le_of_lt (Nat.lt_of_le_of_lt hle hlt), hbacking hknown⟩
  · rw [hxid, ← hmade.xid]
    exact ha.known_create hmade hg
  · rw [hxid, hb]
    exact hmade.ids ha
  · rw [ha.create_held hlt]
    exact hput.tallied ho.held
  · exact (ho.kept g hzero).imp_left fun ⟨p, hp⟩ => ⟨p, (hsame.pixmap p).trans hp⟩

theorem namesPixmap_createPixmap (client : ClientId) {request : CreatePixmapRequest}
    (hnew : s.resources.pixmaps[request.pixmap]? = none) :
    NamesPixmap s ((s.setResources (s.resources.createPixmap client request (some h))).setBackend b)
      request.pixmap h := by
  refine ⟨⟨fun htree => htree, fun _ => rfl, fun _ => rfl⟩, ?_, fun x => ?_, fun _ => rfl, rfl⟩
  · rw [hostXidOf, hnew, Option.bind_none]
  · change (s.resources.pixmaps.insert request.pixmap _)[x]?.bind _ = _
    rw [ResourceMap.get_insert]
    split <;> rfl

theorem Owned.createPixmap (ho : Owned s v stray keep glxStray) {client : ClientId}
    {request : CreatePixmapRequest} {stored : Bool}
    (hok : s.createPixmap client request stored = some s') :
    ∃ v', Owned s' v' stray keep glxStray ∧ KeepsShown s s' ∧ Within v v' 1 := by
  rw [RedirectServer.createPixmap] at hok
  split at hok
  · cases hok
    exact ⟨v, ho, .refl s, .refl v⟩
  · next hnew =>
    rw [Std.ExtTreeMap.contains_iff_mem, ResourceMap.mem_iff, not_not] at hnew
    obtain ⟨⟨b, created⟩, hcreated, hok⟩ := Option.bind_eq_some_iff.mp hok
    rcases ho.createPixmap_cases hcreated with ⟨rfl, hnone⟩ | ⟨h, rfl, hmade⟩
    · cases hok
      exact ⟨v, hnone, sameNames_setBackend.keepsShown, .refl v⟩
    · cases hok
      have hnames := namesPixmap_createPixmap (b := b) (h := h) client hnew
      exact ⟨v.create h false, ho.make hmade hnames rfl, hnames.keepsShown, within_create⟩

/-! ## Redirecting -/

/-- Two states that differ from one in the backings only. -/
theorem SameClients.beside {s'' : RedirectServer} (h : SameClients s s') (h' : SameClients s s'')
    (htree : s.resources.TreeWellFormed) : SameClients s' s'' where
  tree _ := h'.tree htree
  window w := (h'.window w).trans (h.window w).symm
  background w := (h'.background w).trans (h.background w).symm
  pixmap p := (h'.pixmap p).trans (h.pixmap p).symm
  glx := h'.glx.trans h.glx.symm

def setBacking (s : RedirectServer) (w : ResourceId) (backing : Window → Option RedirectedBacking)
    (b : KmsBackend) : RedirectServer :=
  (s.setBackend b).modifyWindow w fun r => { r with redirectedBacking := backing r }

theorem sameClients_setBacking (s : RedirectServer) (w : ResourceId)
    (backing : Window → Option RedirectedBacking) (b : KmsBackend) :
    SameClients s (s.setBacking w backing b) :=
  .trans (.setBackend (.refl s))
    (sameClients_modifyWindow (fun _ => rfl) (fun _ => rfl) (fun _ => rfl) fun _ => rfl)

theorem backingOf_setBacking {r : Window} (hr : s.resources.windows[w]? = some r)
    (backing : Window → Option RedirectedBacking) (b : KmsBackend) (x : ResourceId) :
    (s.setBacking w backing b).backingOf x =
      if x = w then (backing r).map (·.hostPixmap) else s.backingOf x := by
  refine (backingOf_modifyWindow (s := s.setBackend b)).trans ?_
  change (if x = w then s.resources.windows[w]?.bind _ else _) = _
  rw [hr]
  rfl

/-- The backing that a window without one is given. -/
theorem Owned.allocate (ho : Owned s v stray keep glxStray) {hostWindow : Handle}
    (hw : s.hostWindowOf w = some hostWindow) (hnone : s.backingOf w = none)
    {width height : UInt16} {depth : UInt8} {stored : Bool} {allocated : Option Handle}
    (hok : s.backend.allocateRedirectedBacking hostWindow width height depth stored =
      some (b, allocated)) :
    allocated = none ∧ stored = false ∧ Owned (s.setBackend b) v stray keep glxStray ∨
      ∃ h, allocated = some h ∧ stored = true ∧ ∀ s', SameClients s s' →
        (∀ x, s'.backingOf x = if x = w then some h else s.backingOf x) → s'.backend = b →
        Owned s' (v.create h true) stray keep glxStray := by
  rw [KmsBackend.allocateRedirectedBacking, ho.agrees.table w hostWindow hw, hnone] at hok
  obtain ⟨⟨b', created⟩, hcreated, hok⟩ := Option.bind_eq_some_iff.mp hok
  have hstored := isSome_createPixmap hcreated
  rcases ho.createPixmap_cases hcreated with ⟨rfl, hnothing⟩ | ⟨h, rfl, hmade⟩
  · cases hok
    exact .inl ⟨rfl, hstored.symm, hnothing⟩
  · cases hok
    exact .inr ⟨h, rfl, hstored.symm,
      fun s' hsame hback hb => ho.assign hmade hw hnone rfl hsame hback hb⟩

theorem Owned.redirect (ho : Owned s v stray keep glxStray) {stored : Bool}
    (hok : s.activateRedirectBackingFor w stored = some s') :
    ∃ v', Owned s' v' stray keep glxStray ∧ KeepsShown s s' ∧ Within v v' 1 := by
  have hsame : ∃ v', Owned s v' stray keep glxStray ∧ KeepsShown s s ∧ Within v v' 1 :=
    ⟨v, ho, .refl s, .refl v⟩
  rw [activateRedirectBackingFor] at hok
  split at hok
  · cases hok
    exact hsame
  split at hok
  · cases hok
    exact hsame
  next r hr =>
  split at hok
  · cases hok
    exact hsame
  next hunredirected =>
  split at hok
  · cases hok
    exact hsame
  next hostWindow hhost =>
  obtain ⟨⟨b, allocated⟩, hallocated, hok⟩ := Option.bind_eq_some_iff.mp hok
  have hw : s.hostWindowOf w = some hostWindow := by rw [hostWindowOf, hr, Option.bind_some, hhost]
  have hnone : s.backingOf w = none := by
    rw [backingOf, hr, Option.bind_some, Option.map_eq_none_iff]
    exact Option.not_isSome_iff_eq_none.mp hunredirected
  rcases ho.allocate hw hnone hallocated with ⟨rfl, -, hnothing⟩ | ⟨h, rfl, -, hassigned⟩
  · cases hok
    exact ⟨v, hnothing, sameNames_setBackend.keepsShown, .refl v⟩
  · cases hok
    have hsame := sameClients_setBacking s w (fun r => some ⟨h, r.width, r.height, r.depth⟩) b
    exact ⟨v.create h true, hassigned _ hsame
      (fun x => backingOf_setBacking hr (fun r => some ⟨h, _, _, _⟩) b x) rfl, hsame.keepsShown,
      within_create⟩

theorem count_take_ne_zero (hs : v.Stored h) (hg : (v.take h).count g ≠ 0) : v.count g ≠ 0 := by
  rw [Holdings.count_take] at hg
  split at hg
  · next heq => exact heq ▸ hs
  · exact hg

/-- A hold on the backing of a window is taken for no name. -/
theorem Owned.retain (ho : Owned s v stray keep glxStray) (hw : s.backingOf w = some h)
    (hlt : v.count h + 1 < 2 ^ 32) :
    Owned (s.setBackend (s.backend.retainBackingStorage h)) (v.take h) (h :: stray) keep
      glxStray := by
  have hs := stored_of_held (ho.held_pos (n := .inl w) hw)
  exact ⟨ho.holds.retainBackingStorage (ho.agrees.backing w h hw) hs hlt,
    ho.agrees.keeps sameNames_setBackend.toSameHosts (fun _ => rfl) (.retainBackingStorage _ h)
      rfl fun _ => count_take_ne_zero hs, ho.held.take h, ho.glx, ho.kept⟩

/-- The old backing is held while the new one is made, and beyond if none can be made. -/
theorem Owned.resize (ho : Owned s v stray stray glxStray) {width height : UInt16}
    {stored : Bool} (hbound : ∀ h, v.count h + 1 < 2 ^ 32)
    (hok : s.rotateRedirectedBackingOnResize w width height stored = some s') :
    ∃ v', Owned s' v' ((if stored then [] else (s.backingOf w).toList) ++ stray)
      ((if stored then [] else (s.backingOf w).toList) ++ stray) glxStray ∧ KeepsShown s s' ∧
      Within v v' 2 := by
  have hnothing (hnone : s.backingOf w = none) (heq : s' = s) : ∃ v',
      Owned s' v' ((if stored then [] else (s.backingOf w).toList) ++ stray)
        ((if stored then [] else (s.backingOf w).toList) ++ stray) glxStray ∧ KeepsShown s s' ∧
        Within v v' 2 := by
    rw [heq, hnone, Option.toList_none, ite_self]
    exact ⟨v, ho, .refl s, .refl v⟩
  rw [rotateRedirectedBackingOnResize] at hok
  cases hr : s.resources.windows[w]? with
  | none =>
    rw [hr] at hok
    exact hnothing (by rw [backingOf, hr, Option.bind_none]) (Option.some.inj hok).symm
  | some r =>
    have hbackOf : s.backingOf w = r.redirectedBacking.map (·.hostPixmap) := by
      rw [backingOf, hr, Option.bind_some]
    have hhostOf : s.hostWindowOf w = r.hostXid := by rw [hostWindowOf, hr, Option.bind_some]
    cases hback : r.redirectedBacking with
    | none =>
      simp only [hr, hback] at hok
      rw [hback, Option.map_none] at hbackOf
      exact hnothing hbackOf (Option.some.inj hok).symm
    | some old =>
      rw [hback, Option.map_some] at hbackOf
      have hhosted := ho.agrees.hosted w (hbackOf ▸ Option.some_ne_none _)
      obtain ⟨hostWindow, hhost⟩ := Option.ne_none_iff_exists'.mp (hhostOf ▸ hhosted)
      simp only [hr, hback, hhost] at hok
      obtain ⟨⟨b, allocated⟩, hallocated, hdone⟩ := Option.bind_eq_some_iff.mp hok
      rw [hhost] at hhostOf
      have hretained := ho.retain hbackOf (hbound old.hostPixmap)
      -- the window without a backing, before it gets the new one
      have hsame := sameClients_setBacking s w (fun _ => none)
        ((s.backend.retainBackingStorage old.hostPixmap).releaseRedirectedBacking old.hostPixmap)
      have hreleased := hretained.release hbackOf
        ⟨⟨hsame.tree, hsame.window, hsame.background⟩, hsame.pixmap, hsame.glx⟩
        (backingOf_setBacking hr (fun _ => none) _) rfl
      rcases hreleased.allocate ((hsame.window w).trans hhostOf)
        ((backingOf_setBacking hr (fun _ => none) _ w).trans (if_pos rfl)) hallocated with
        ⟨rfl, rfl, hleft⟩ | ⟨h, rfl, rfl, hassigned⟩
      · cases hdone
        rw [if_neg Bool.false_ne_true, hbackOf, Option.toList_some]
        exact ⟨_, hleft.perm (.refl _) (List.subset_cons_self _ _) (.refl _),
          (sameClients_setBacking s w (fun _ => none) b).keepsShown,
          (within_take.trans within_drop).mono (by omega)⟩
      · cases hdone
        have hgiven := hassigned (s.setBacking w (fun r => some ⟨h, width, height, r.depth⟩) b)
          (hsame.beside (sameClients_setBacking s w _ b) ho.agrees.tree) (fun x => ?_) rfl
        · have hbacking : ((((v.take old.hostPixmap).drop old.hostPixmap).create h true).backing
              old.hostPixmap) = true := by
            rw [Holdings.backing_create]
            split
            · rfl
            · exact ho.agrees.backing w _ hbackOf
          rw [if_pos rfl, List.nil_append]
          exact ⟨_, hgiven.dropStray hbacking, (sameClients_setBacking s w _ _).keepsShown,
            ((within_take.trans within_drop).trans (within_create.trans within_drop)).mono
              (by omega)⟩
        · rw [backingOf_setBacking hr, backingOf_setBacking hr]
          split <;> rfl

/-! ## Naming -/

/-- The backing of a window gets another name. -/
theorem Owned.name (ho : Owned s v stray keep glxStray) (hw : s.backingOf w = some h)
    (hlt : v.count h + 1 < 2 ^ 32) (hnames : NamesPixmap s s' p h)
    (hb : s'.backend =
      { s.backend with aliasRegistry := s.backend.aliasRegistry.incref h }) :
    Owned s' (v.take h) stray keep glxStray := by
  have hs := stored_of_held (ho.held_pos (n := .inl w) hw)
  refine ⟨hb ▸ ho.holds.take_registry (ho.agrees.backing w h hw) hs hlt,
    ho.agrees.keeps hnames.toSameHosts hnames.backing ?_ rfl fun _ => count_take_ne_zero hs,
    hnames.put.tallied ho.held, hnames.glx ▸ ho.glx, fun g hzero => ?_⟩
  · rw [hb]
    exact ⟨rfl, rfl, rfl⟩
  · exact (ho.kept g hzero).imp_left fun ⟨x, hx⟩ => ⟨x, hnames.keepsShown.pixmap x g hx⟩

/-- Whether the window is named. -/
def named (s : RedirectServer) (window : ResourceId) (redirected : Bool) : Bool :=
  redirected && (s.backingOf window).isSome

/-- The window has a pixmap for its backing. -/
def withName (s : RedirectServer) (client : ClientId) (w p : ResourceId) (r : Window)
    (h : Handle) : RedirectServer :=
  ((s.setResources (s.resources.createPixmap client ⟨r.depth, p, w, r.width, r.height⟩
    (some h))).setBackend
      { s.backend with aliasRegistry := s.backend.aliasRegistry.incref h }).modifyWindow w
        fun w => { w with
          compositeNamedPixmaps := w.compositeNamedPixmaps ++ [⟨p, h, w.width, w.height⟩] }

/-- The pixmap that had the id is forgotten before. -/
theorem namesPixmap_withName (s : RedirectServer) (client : ClientId) (w p : ResourceId)
    (r : Window) (h : Handle) :
    NamesPixmap (s.setResources (s.resources.freePixmap p).1) (s.withName client w p r h) p h := by
  refine ⟨⟨fun htree => ?_, fun x => hostWindowOf_modifyWindow fun _ => rfl,
    fun x => backgroundOf_modifyWindow fun _ => rfl⟩, hostXidOf_freePixmap.trans (if_pos rfl),
    fun x => ?_, fun x => ?_, rfl⟩
  · exact ResourceTable.TreeWellFormed.modifyWindow (t := s.resources.createPixmap ..) htree
      (fun _ => rfl) fun _ _ => .refl _
  · rw [hostXidOf_freePixmap]
    change (s.resources.pixmaps.insert p _)[x]?.bind _ = _
    rw [ResourceMap.get_insert]
    split <;> rfl
  · refine backingOf_modifyWindow.trans ?_
    split
    · next hx =>
      rw [hx]
      rfl
    · rfl

theorem Owned.nameWindowPixmap (ho : Owned s v stray stray glxStray) (client : ClientId)
    (w p : ResourceId) (redirected : Bool) (hbound : ∀ h, v.count h + 1 < 2 ^ 32) :
    ∃ v', Owned (s.nameWindowPixmap client w p redirected) v'
      ((if s.named w redirected then (s.hostXidOf p).toList else []) ++ stray)
      ((if s.named w redirected then (s.hostXidOf p).toList else []) ++ stray) glxStray ∧
      (Shown s stray → Shown (s.nameWindowPixmap client w p redirected)
        ((if s.named w redirected then (s.hostXidOf p).toList else []) ++ stray)) ∧
      Within v v' 1 := by
  have hnothing (hnone : redirected = false ∨ s.backingOf w = none) : ∃ v',
      Owned s v' ((if s.named w redirected then (s.hostXidOf p).toList else []) ++ stray)
        ((if s.named w redirected then (s.hostXidOf p).toList else []) ++ stray) glxStray ∧
        (Shown s stray → Shown s
          ((if s.named w redirected then (s.hostXidOf p).toList else []) ++ stray)) ∧
        Within v v' 1 := by
    have hnot : s.named w redirected = false := by
      rcases hnone with rfl | hnone
      · rfl
      · rw [named, hnone, Option.isSome_none, Bool.and_false]
    rw [hnot, if_neg Bool.false_ne_true]
    exact ⟨v, ho, fun hs => hs, .refl v⟩
  rw [RedirectServer.nameWindowPixmap]
  cases hr : s.resources.windows[w]? with
  | none => exact hnothing (.inr (by rw [backingOf, hr, Option.bind_none]))
  | some r =>
    cases redirected with
    | false => exact hnothing (.inl rfl)
    | true =>
      have hhostOf : s.hostWindowOf w = r.hostXid := by rw [hostWindowOf, hr, Option.bind_some]
      cases hhost : r.hostXid with
      | none =>
        simp only [if_true, hhost]
        refine hnothing (.inr ?_)
        by_contra hne
        exact ho.agrees.hosted w hne (hhostOf.trans hhost)
      | some hostWindow =>
        have htable := ho.agrees.table w hostWindow (hhostOf.trans hhost)
        cases hback : s.backingOf w with
        | none =>
          simp only [if_true, hhost, KmsBackend.nameWindowPixmap, htable, hback]
          rw [hback] at hnothing
          exact hnothing (.inr rfl)
        | some h =>
          simp only [if_true, hhost, KmsBackend.nameWindowPixmap, htable, hback, named,
            Option.isSome_some, Bool.and_self]
          have hnames := namesPixmap_withName s client w p r h
          exact ⟨v.take h, (ho.forgetPixmap p).name hback (hbound h) hnames rfl,
            fun hs => (hs.forgetPixmap p).mono hnames.keepsShown (List.Subset.refl _), within_take⟩

/-! ## Exports -/

theorem count_setGlx_ne_zero (hs : v.Stored h) {k : Option Nat}
    (hg : (v.setGlx h k).count g ≠ 0) : v.count g ≠ 0 := by
  by_cases heq : g = h
  · exact heq ▸ hs
  · rw [Holdings.count, Holdings.held_setGlx, Holdings.glx_setGlx, if_neg heq] at hg
    exact hg

theorem sameHosts_of_resources (hsame : s'.resources = s.resources) : SameHosts s s' where
  tree htree := hsame ▸ htree
  window w := by rw [hostWindowOf, hostWindowOf, hsame]
  background w := by rw [backgroundOf, backgroundOf, hsame]

theorem names_of_resources (hsame : s'.resources = s.resources) : s'.names = s.names := by
  funext n
  cases n with
  | inl w => exact congrArg (fun t : ResourceTable => t.windows[w]?.bind _) hsame
  | inr p => exact congrArg (fun t : ResourceTable => t.pixmaps[p]?.bind _) hsame

/-- A GLX pixmap is made of a pixmap. -/
theorem Owned.bind (ho : Owned s v stray keep glxStray) (hp : s.hostXidOf p = some h)
    (hlt : v.count h + 1 < 2 ^ 32) (hbindings : (v.glx h).getD 0 + 1 < 2 ^ 32)
    (hnone : s.glxNames x = none) (hsame : s'.resources = s.resources)
    (hglx : ∀ y, s'.glxNames y = if y = x then some h else s.glxNames y)
    (hb : s'.backend = s.backend.acquireGlxPixmapExport h) :
    Owned s' (v.bindGlx h) stray keep glxStray := by
  have hs := stored_of_held (ho.held_pos (n := .inr p) hp)
  have hput : Put s.glxNames s'.glxNames x h :=
    ⟨hnone, (hglx x).trans (if_pos rfl), fun y hy => (hglx y).trans (if_neg hy)⟩
  have hcount : (fun g => ((v.bindGlx h).glx g).getD 0) =
      Function.update (fun g => (v.glx g).getD 0) h ((v.glx h).getD 0 + 1) := by
    funext g
    rw [Holdings.bindGlx, Holdings.glx_setGlx, Function.update_apply]
    split <;> rfl
  refine ⟨hb ▸ ho.holds.acquireGlxPixmapExport hs hlt hbindings,
    ho.agrees.keeps (sameHosts_of_resources hsame) (fun w => ?_)
      (hb ▸ .acquireGlxPixmapExport _ h) rfl fun g => count_setGlx_ne_zero hs,
    names_of_resources hsame ▸ ho.held, hcount ▸ hput.tallied ho.glx, fun g hzero => ?_⟩
  · exact congrFun (names_of_resources hsame) (.inl w)
  · rw [Holdings.bindGlx, Holdings.glx_setGlx] at hzero
    split at hzero
    · cases hzero
    · exact (ho.kept g hzero).imp_left fun ⟨p, hp⟩ =>
        ⟨p, (congrFun (names_of_resources hsame) (.inr p)).trans hp⟩

/-- A stray binding is given up. -/
theorem Owned.unbind (ho : Owned s v stray keep (h :: glxStray)) :
    Owned (s.setBackend (s.backend.releaseGlxPixmapExport h)) (v.unbindGlx h) stray keep
      glxStray := by
  have hcount : (fun g => ((v.unbindGlx h).glx g).getD 0) =
      Function.update (fun g => (v.glx g).getD 0) h ((v.glx h).getD 0 - 1) := by
    funext g
    rw [Holdings.unbindGlx, Holdings.getD_glx_settle, Holdings.glx_setGlx, Function.update_apply]
    split
    · cases v.glx h <;> rfl
    · rfl
  refine ⟨ho.holds.releaseGlxPixmapExport, ho.agrees.keeps sameNames_setBackend.toSameHosts
    (fun _ => rfl) (.releaseGlxPixmapExport _ h) Holdings.backing_settle fun g hg hzero => hg ?_,
    ?_, hcount ▸ ho.glx.drop, fun g hzero => ?_⟩
  · have hle := Holdings.count_settle_le (v := v.setGlx h ((v.glx h).map (· - 1))) (h := h) (g := g)
    rw [Holdings.count_map_glx, hzero] at hle
    exact Nat.le_zero.mp hle
  · rw [Holdings.unbindGlx, Holdings.held_settle]
    exact ho.held
  · obtain ⟨hne, hglx⟩ := Holdings.glx_settle_eq_zero.mp hzero
    rw [Holdings.glx_setGlx, if_neg hne] at hglx
    exact ho.kept g hglx

theorem Owned.unbindAll {l : List Handle} (ho : Owned s v stray keep (l ++ glxStray)) :
    ∃ v', Owned (s.setBackend (l.foldl (·.releaseGlxPixmapExport ·) s.backend)) v' stray keep
      glxStray ∧ Within v v' 0 := by
  induction l generalizing s v with
  | nil => exact ⟨v, ho, .refl v⟩
  | cons h l ih =>
    obtain ⟨v', ho', hwithin⟩ := ih ho.unbind
    exact ⟨v', ho', within_unbindGlx.trans hwithin⟩

/-- GLX drawables are forgotten. -/
theorem Owned.forgetGlx (ho : Owned s v stray stray glxStray)
    {drawables : ResourceMap GlxDrawable} {lost : List UInt32} (hlost : lost.Nodup)
    (hglx : glxNames { s with glxDrawables := drawables } = without s.glxNames lost) :
    Owned { s with glxDrawables := drawables } v stray stray
      (lost.filterMap s.glxNames ++ glxStray) :=
  have hforgets : Forgets s { s with glxDrawables := drawables } [] lost :=
    ⟨ho.agrees.tree, fun _ => .inl ⟨rfl, rfl⟩, (without_nil _).symm, hglx, rfl⟩
  ho.forget hforgets .nil hlost

theorem glxNames_insert {drawables : ResourceMap GlxDrawable} {d : GlxDrawable} {b : KmsBackend}
    {t : ResourceTable} (y : UInt32) :
    (RedirectServer.mk t (drawables.insert x d) b).glxNames y =
      if y = x then d.glxExportHostXid else drawables[y]?.bind (·.glxExportHostXid) := by
  rw [glxNames, ResourceMap.get_insert]
  split <;> rfl

theorem glxNames_erase :
    ({ s with glxDrawables := s.glxDrawables.erase x } : RedirectServer).glxNames =
      without s.glxNames [x] := by
  funext y
  rw [glxNames, ResourceMap.get_erase, without]
  by_cases hy : y = x
  · rw [if_pos hy, if_pos (List.mem_singleton.mpr hy), Option.bind_none]
  · rw [if_neg hy, if_neg (mt List.mem_singleton.mp hy), glxNames]

/-- Whether a GLX drawable is made. -/
def glxMade (s : RedirectServer) (isPixmap : Bool) (xWindow : UInt32) : Bool :=
  !isPixmap || s.resources.pixmaps.contains xWindow

theorem Owned.glxErase (ho : Owned s v stray stray glxStray) (x : UInt32) :
    Owned { s with glxDrawables := s.glxDrawables.erase x } v stray stray
      ((s.glxNames x).toList ++ glxStray) := by
  rw [← filterMap_one]
  exact ho.forgetGlx (List.nodup_singleton x) glxNames_erase

/-- A GLX drawable that exports nothing takes the id. -/
theorem Owned.glxReplace (ho : Owned s v stray stray glxStray) {d : GlxDrawable}
    (hnone : d.glxExportHostXid = none) :
    Owned { s with glxDrawables := s.glxDrawables.insert x d } v stray stray
      ((s.glxNames x).toList ++ glxStray) := by
  rw [← filterMap_one]
  refine ho.forgetGlx (List.nodup_singleton x) (funext fun y => ?_)
  rw [glxNames_insert, hnone, without]
  exact if_congr List.mem_singleton.symm rfl rfl

theorem Owned.glxCreateDrawable (ho : Owned s v stray stray glxStray) (client : ClientId)
    (isPixmap : Bool) (xWindow fbconfig : UInt32) (hbound : ∀ h, v.count h + 1 < 2 ^ 32)
    (hbindings : ∀ h, (v.glx h).getD 0 + 1 < 2 ^ 32) :
    ∃ v', Owned (s.glxCreateDrawable client isPixmap x xWindow fbconfig) v' stray stray
      ((if s.glxMade isPixmap xWindow then (s.glxNames x).toList else []) ++ glxStray) ∧
      Within v v' 1 := by
  rw [RedirectServer.glxCreateDrawable, glxMade]
  cases isPixmap with
  | false => exact ⟨v, ho.glxReplace rfl, .refl v⟩
  | true =>
    rw [Bool.true_and, Bool.not_true, Bool.false_or]
    cases hcontains : s.resources.pixmaps.contains xWindow with
    | false => exact ⟨v, ho, .refl v⟩
    | true =>
      rw [Bool.not_true, if_neg Bool.false_ne_true, if_pos rfl, if_pos rfl]
      cases hexport : s.resources.pixmaps[xWindow]?.bind (·.hostXid) with
      | none => exact ⟨v, ho.glxReplace rfl, .refl v⟩
      | some h =>
        have hforgot := ho.glxErase x
        refine ⟨v.bindGlx h, hforgot.bind hexport (hbound h) (hbindings h) (x := x) ?_ rfl
          (fun y => ?_) rfl, within_setGlx (Nat.le_refl _)⟩
        · rw [glxNames_erase]
          exact if_pos (List.mem_singleton_self x)
        · rw [glxNames_insert, glxNames_erase, without]
          by_cases hy : y = x
          · rw [if_pos hy, if_pos hy]
          · rw [if_neg hy, if_neg hy, if_neg (mt List.mem_singleton.mp hy), glxNames]

theorem Owned.glxDestroyDrawable (ho : Owned s v stray stray glxStray) (isPixmap : Bool) :
    ∃ v', Owned (s.glxDestroyDrawable isPixmap x) v' stray stray
      ((if isPixmap then [] else (s.glxNames x).toList) ++ glxStray) ∧ Within v v' 0 := by
  have hforgot := ho.glxErase x
  rw [RedirectServer.glxDestroyDrawable]
  cases isPixmap with
  | false => exact ⟨v, hforgot, .refl v⟩
  | true =>
    rw [if_pos rfl, if_pos rfl, ← glxNames]
    cases hexport : s.glxNames x with
    | none =>
      rw [hexport] at hforgot
      exact ⟨v, hforgot, .refl v⟩
    | some h =>
      rw [hexport] at hforgot
      exact ⟨v.unbindGlx h, hforgot.unbind, within_unbindGlx⟩

theorem Owned.dri3BufferFromPixmap (ho : Owned s v stray keep glxStray) (p : ResourceId)
    (hbound : ∀ h, v.count h + 1 < 2 ^ 32) :
    ∃ v', Owned (s.dri3BufferFromPixmap p) v' stray keep glxStray ∧ Within v v' 0 := by
  rw [RedirectServer.dri3BufferFromPixmap, ← hostXidOf]
  cases hp : s.hostXidOf p with
  | none => exact ⟨v, ho, .refl v⟩
  | some h =>
    have hs := stored_of_held (ho.held_pos (n := .inr p) hp)
    have hcount : (fun g => ((v.exportDmabuf h).glx g).getD 0) = fun g => (v.glx g).getD 0 := by
      funext g
      rw [Holdings.exportDmabuf, Holdings.glx_setGlx]
      split
      · next hg => rw [hg, Option.getD_some]
      · rfl
    refine ⟨v.exportDmabuf h, ⟨ho.holds.dri3BufferFromPixmap hs (hbound h),
      ho.agrees.keeps sameNames_setBackend.toSameHosts (fun _ => rfl) (.dri3BufferFromPixmap _ h)
        rfl fun g => count_setGlx_ne_zero hs, ho.held, hcount ▸ ho.glx, fun g hzero => ?_⟩,
      within_setGlx (Nat.le_refl _)⟩
    rw [Holdings.exportDmabuf, Holdings.glx_setGlx] at hzero
    split at hzero
    · next hg => exact .inl ⟨p, hg ▸ hp⟩
    · exact ho.kept g hzero

/-! ## The GPU -/

theorem Owned.idle (ho : Owned s v stray keep glxStray) (hholds : b.Holds v)
    (hkeeps : s.backend.Keeps b) : Owned (s.setBackend b) v stray keep glxStray :=
  ⟨hholds, ho.agrees.keeps sameNames_setBackend.toSameHosts (fun _ => rfl) hkeeps rfl
    fun _ hg => hg, ho.held, ho.glx, ho.kept⟩

theorem Owned.render (ho : Owned s v stray keep glxStray) (ticket : FenceTicket)
    (id : DrawableId) :
    Owned (s.setBackend { s.backend with store := s.backend.store.touchRenderFence id ticket }) v
      stray keep glxStray :=
  ho.idle (ho.holds.touchRenderFence ticket) ⟨rfl, rfl, rfl⟩

theorem Owned.poll (ho : Owned s v stray keep glxStray) (signalled : FenceTicket → Bool) :
    Owned (s.setBackend { s.backend with
      store := (s.backend.store.pollPendingRetire signalled).1
      signalled := signalled }) v stray keep glxStray :=
  ho.idle (ho.holds.pollPendingRetire signalled)
    ⟨rfl, DrawableStore.nextId_pollPendingRetire, rfl⟩

end RedirectServer

end X12

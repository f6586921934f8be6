import X12.Verify.BackingSteps

/-! # Runs of the server with redirected windows

Over a run, storage is there exactly as long as a window, a pixmap or a GLX drawable names
it or a hold on it has gone astray. What goes astray is kept count of beside the server. -/

namespace X12

open RefCounts (Tallied without without_nil without_map without_map_of_ne)

namespace ResourceTable

variable {t t' : ResourceTable} {r x : ResourceId} {destroyed : List ResourceId} {fuel n : Nat}

/-- No window is met twice. -/
theorem TreeWellFormed.nodup_collectDestroyOrder (h : t.TreeWellFormed)
    (hdepth : t.links.AtDepth ROOT_WINDOW r n) (hfuel : t.windows.size ≤ n + fuel) :
    (t.collectDestroyOrder fuel r).Nodup := by
  induction fuel generalizing r n with
  | zero => exact .nil
  | succ fuel ih =>
    obtain ⟨w, hw⟩ := exists_of_present (hdepth.present h.root_present)
    have hpresent := present_of_get hw
    have hlisted : t.links.children r = w.children := childrenOf_of_get hw
    have hchild {child : ResourceId} (hmem : child ∈ w.children) : t.links.Child r child :=
      ⟨hpresent, hlisted ▸ hmem⟩
    have hmet {child x : ResourceId} (hmem : child ∈ w.children)
        (hx : x ∈ t.collectDestroyOrder fuel child) : t.links.Below child x :=
      (h.mem_collectDestroyOrder (h.child_atDepth hdepth (hchild hmem)) (by omega)).mp hx
    rw [collectDestroyOrder, hw]
    refine List.nodup_append'.mpr ⟨List.nodup_flatMap.mpr ⟨fun child hmem => ?_, ?_⟩,
      List.nodup_singleton r, List.disjoint_singleton.mpr fun hr => ?_⟩
    · exact ih (h.child_atDepth hdepth (hchild hmem)) (by omega)
    · have hnodup : w.children.Nodup := hlisted ▸ h.nodup_children hpresent
      refine hnodup.pairwise_of_forall_ne fun b hb c hc hne x hxb hxc => hne ?_
      exact h.below_sibling (hchild hb) (hchild hc) (hmet hb hxb) (hmet hc hxc)
    · obtain ⟨child, hmem, hr⟩ := List.mem_flatMap.mp hr
      exact h.not_below_child (hchild hmem) (hmet hmem hr)

end ResourceTable

namespace ResourceMap

variable {β γ : Type} {m : ResourceMap β} {gone : β → Bool} {f : β → Option γ}

/-- The ids of the entries of some kind. -/
def idsOf (m : ResourceMap β) (gone : β → Bool) : List ResourceId :=
  (m.toList.filter fun e => gone e.2).map (·.1)

theorem mem_idsOf {a : ResourceId} : a ∈ m.idsOf gone ↔ ∃ v, m[a]? = some v ∧ gone v = true := by
  rw [idsOf, List.mem_map]
  constructor
  · rintro ⟨⟨a, v⟩, hmem, rfl⟩
    obtain ⟨hmem, hgone⟩ := List.mem_filter.mp hmem
    exact ⟨v, Std.ExtTreeMap.mem_toList_iff_getElem?_eq_some.mp hmem, hgone⟩
  · rintro ⟨v, hv, hgone⟩
    exact ⟨(a, v), List.mem_filter.mpr
      ⟨Std.ExtTreeMap.mem_toList_iff_getElem?_eq_some.mpr hv, hgone⟩, rfl⟩

theorem nodup_idsOf : (m.idsOf gone).Nodup := by
  have hkeys : (m.toList.map (·.1)).Nodup := by
    rw [Std.ExtTreeMap.map_fst_toList_eq_keys]
    exact Std.ExtTreeMap.nodup_keys
  exact hkeys.sublist (List.filter_sublist.map _)

theorem filterMap_idsOf : (m.idsOf gone).filterMap (fun a => m[a]?.bind f) =
    m.toList.filterMap fun e => if gone e.2 then f e.2 else none := by
  rw [idsOf, List.filterMap_map, List.filterMap_filter]
  refine List.filterMap_congr fun e he => ?_
  have hget : m[e.1]? = some e.2 := Std.ExtTreeMap.mem_toList_iff_getElem?_eq_some.mp he
  rw [Function.comp_apply, hget]
  rfl

theorem get_filter_not (a : ResourceId) : ((m.filter fun _ v => !gone v)[a]?).bind f =
    if a ∈ m.idsOf gone then none else m[a]?.bind f := by
  rw [Std.ExtTreeMap.getElem?_filter']
  cases hv : m[a]? with
  | none => rw [Option.filter_none, Option.bind_none, ite_self]
  | some v =>
    have hmem : a ∈ m.idsOf gone ↔ gone v = true := by
      rw [mem_idsOf, hv]
      exact ⟨fun ⟨_, hw, hgone⟩ => Option.some.inj hw ▸ hgone, fun hgone => ⟨v, rfl, hgone⟩⟩
    rw [Option.filter_some]
    cases hgone : gone v with
    | true =>
      rw [if_pos (hmem.mpr hgone), Bool.not_true, if_neg Bool.false_ne_true, Option.bind_none]
    | false =>
      have hkept : a ∉ m.idsOf gone := fun ha => by cases hgone.symm.trans (hmem.mp ha)
      rw [if_neg hkept, Bool.not_false, if_pos rfl]

end ResourceMap

namespace RedirectServer

open ResourceTable (Pruned)

variable {s s' : RedirectServer} {v v' : Holdings} {h g : Handle} {w p x : ResourceId}
  {stray stray' keep glxStray : List Handle} {destroyed order : List ResourceId} {t : ResourceTable}

/-! ## Windows that are destroyed -/

theorem hostingOf_pruned (hpruned : Pruned s.resources t destroyed) :
    hostingOf t x = if x ∈ destroyed then (none, none) else hostingOf s.resources x := by
  rw [hostingOf, hpruned.get]
  split
  · rfl
  · rw [Option.map_map]
    rfl

theorem backingOf_pruned (hpruned : Pruned s.resources t destroyed) :
    (s.setResources t).backingOf x = if x ∈ destroyed then none else s.backingOf x := by
  rw [backingOf_eq, backingOf_eq]
  change (hostingOf t x).2.map _ = _
  rw [hostingOf_pruned hpruned]
  split <;> rfl

theorem hostWindowOf_pruned (hpruned : Pruned s.resources t destroyed) :
    (s.setResources t).hostWindowOf x = if x ∈ destroyed then none else s.hostWindowOf x := by
  rw [hostWindowOf_eq, hostWindowOf_eq]
  change (hostingOf t x).1 = _
  rw [hostingOf_pruned hpruned]
  split <;> rfl

theorem hostXidOf_pruned (hpruned : Pruned s.resources t destroyed) :
    (s.setResources t).hostXidOf p = s.hostXidOf p := by
  change t.pixmaps[p]?.bind _ = _
  rw [hpruned.others]
  rfl

/-- Windows are destroyed after they have given their backings up. -/
theorem Owned.prune (ho : Owned s v stray stray glxStray)
    (hpruned : Pruned s.resources t destroyed) (hwf : t.TreeWellFormed) (hnodup : order.Nodup)
    (horder : ∀ x, x ∈ order ↔ x ∈ destroyed) :
    ∃ v', Owned ((s.setResources t).setBackend
      ((order.filterMap s.backingOf).foldl (·.releaseRedirectedBacking ·) s.backend)) v' stray
        stray glxStray ∧ Within v v' 0 := by
  obtain ⟨v', hreleased, hwithin⟩ := ho.teardownAll order
  obtain ⟨hsame, hback⟩ := teardownAll_cases order s
  rw [← backend_teardownAll hnodup]
  have hpruned_back (x : ResourceId) :
      (s.setResources t).backingOf x = (s.teardownAll order).backingOf x := by
    rw [backingOf_pruned hpruned, hback]
    exact if_congr (horder x).symm rfl rfl
  refine ⟨v', hreleased.same ⟨hwf, fun x => ?_, ?_, ?_, rfl⟩, hwithin⟩
  · have hhost : (s.setResources t).hostWindowOf x =
        if x ∈ destroyed then none else s.hostWindowOf x := hostWindowOf_pruned hpruned
    by_cases hx : x ∈ destroyed
    · refine .inr ⟨hhost.trans (if_pos hx), ?_⟩
      exact (backingOf_pruned hpruned).trans (if_pos hx)
    · exact .inl ⟨(hhost.trans (if_neg hx)).trans (hsame.window x).symm, hpruned_back x⟩
  · rw [without_nil]
    funext n
    cases n with
    | inl x => exact hpruned_back x
    | inr p => exact (hostXidOf_pruned hpruned).trans (hsame.pixmap p).symm
  · rw [without_nil]
    exact hsame.glx.symm

theorem freedBackgrounds_of_absent (hnone : s.resources.windows[w]? = none) :
    s.freedBackgrounds w = [] := by
  have hnil (fuel : Nat) : s.resources.collectBgPixmapHostXids fuel w = [] := by
    cases fuel with
    | zero => rfl
    | succ fuel => rw [ResourceTable.collectBgPixmapHostXids, hnone]
  rw [freedBackgrounds, hnil]
  rfl

theorem Owned.destroyWindow (ho : Owned s v stray stray glxStray) (hroot : w ≠ ROOT_WINDOW)
    (hstray : (s.freedBackgrounds w).Subperm stray) :
    ∃ v', Owned (s.destroyWindow w) v' (stray.diff (s.freedBackgrounds w))
      (stray.diff (s.freedBackgrounds w)) glxStray ∧ Within v v' 0 := by
  have hwf := ho.agrees.tree
  rw [RedirectServer.destroyWindow]
  split
  · next hcontains =>
    rw [Std.ExtTreeMap.contains_iff_mem, ResourceMap.mem_iff] at hcontains
    obtain ⟨n, hn⟩ := hwf.rooted (ResourceTable.present_iff.mpr hcontains)
    have hnodup : (s.destroyOrder w).Nodup :=
      hwf.nodup_collectDestroyOrder hn (Nat.le_add_left _ _)
    obtain ⟨v', hpruned, hwithin⟩ := ho.prune
      (ResourceTable.destroyWindow_destroys s.resources w).pruned (hwf.destroyWindow w) hnodup
      fun x => hwf.mem_collectDestroyOrder_iff hroot
    obtain ⟨v'', hfreed, hwithin'⟩ := hpruned.freeAll hstray
    exact ⟨v'', hfreed, hwithin.trans hwithin'⟩
  · next habsent =>
    rw [Std.ExtTreeMap.contains_iff_mem, ResourceMap.mem_iff, not_not] at habsent
    rw [freedBackgrounds_of_absent habsent]
    exact ⟨v, ho, .refl v⟩

/-! ## Clients that disconnect -/

/-- The windows that are gone when the roots are destroyed. -/
def goneWindows (s : RedirectServer) (roots : List ResourceId) : List ResourceId :=
  s.resources.windows.keys.filter fun w =>
    !(s.resources.destroyOwnedWindows roots).1.windows.contains w

theorem mem_goneWindows {roots : List ResourceId} : w ∈ s.goneWindows roots ↔
    s.resources.windows[w]? ≠ none ∧
      (s.resources.destroyOwnedWindows roots).1.windows[w]? = none := by
  rw [goneWindows, List.mem_filter, ResourceMap.mem_keys_iff, Bool.not_eq_true',
    ← Bool.not_eq_true, Std.ExtTreeMap.contains_iff_mem, ResourceMap.mem_iff, not_not]

/-- Windows are destroyed, and keep the holds on their backings. -/
theorem Owned.forgetWindows (ho : Owned s v stray stray glxStray) {roots : List ResourceId}
    (hroots : ∀ r ∈ roots, r ≠ ROOT_WINDOW) :
    Owned (s.setResources (s.resources.destroyOwnedWindows roots).1) v
      ((s.goneWindows roots).filterMap s.backingOf ++ stray)
      ((s.goneWindows roots).filterMap s.backingOf ++ stray) glxStray := by
  obtain ⟨hwf, removed, hdestroys, -⟩ := ho.agrees.tree.destroyOwnedWindows_destroys hroots
  have hpruned := hdestroys.pruned
  have hgone {x : ResourceId} (hx : s.backingOf x ≠ none) :
      x ∈ s.goneWindows roots ↔ x ∈ removed := by
    have hpresent : s.resources.windows[x]? ≠ none := fun hnone =>
      hx (by rw [backingOf, hnone, Option.bind_none])
    rw [mem_goneWindows, and_iff_right hpresent, hpruned.get]
    split
    · next hmem => exact iff_of_true rfl hmem
    · next hmem => exact iff_of_false (mt Option.map_eq_none_iff.mp hpresent) hmem
  have hforgets : Forgets s (s.setResources (s.resources.destroyOwnedWindows roots).1)
      ((s.goneWindows roots).map .inl) [] := by
    refine ⟨hwf, fun x => ?_, ?_, (without_nil _).symm, rfl⟩
    · by_cases hx : x ∈ removed
      · exact .inr ⟨(hostWindowOf_pruned hpruned).trans (if_pos hx),
          (backingOf_pruned hpruned).trans (if_pos hx)⟩
      · exact .inl ⟨(hostWindowOf_pruned hpruned).trans (if_neg hx),
          (backingOf_pruned hpruned).trans (if_neg hx)⟩
    · funext n
      cases n with
      | inl x =>
        rw [without_map Sum.inl_injective]
        refine (backingOf_pruned hpruned).trans ?_
        change _ = if x ∈ s.goneWindows roots then none else s.backingOf x
        by_cases hx : s.backingOf x = none
        · rw [hx, ite_self, ite_self]
        · exact if_congr (hgone hx).symm rfl rfl
      | inr p =>
        rw [without_map_of_ne fun _ => Sum.inl_ne_inr]
        exact hostXidOf_pruned hpruned
  have hforgot := ho.forget hforgets
    ((Std.ExtTreeMap.nodup_keys.filter _).map fun _ _ => Sum.inl.inj) .nil
  rw [List.filterMap_map] at hforgot
  exact hforgot

theorem Owned.forgetPixmaps (ho : Owned s v stray stray glxStray) (client : ClientId) :
    Owned (s.setResources (s.resources.removeNonWindowResourcesOwnedBy client)) v
      (s.resources.freedPixmaps client ++ stray) (s.resources.freedPixmaps client ++ stray)
      glxStray := by
  let owned (p : Pixmap) : Bool := p.owner = client
  have hfreed : ((s.resources.pixmaps.idsOf owned).map Sum.inr).filterMap s.names =
      s.resources.freedPixmaps client := by
    rw [List.filterMap_map]
    refine ResourceMap.filterMap_idsOf.trans (List.filterMap_congr fun e _ => ?_)
    exact if_congr decide_eq_true_iff rfl rfl
  have hkept : (s.resources.removeNonWindowResourcesOwnedBy client).pixmaps =
      s.resources.pixmaps.filter fun _ p => !owned p :=
    congrArg (Std.ExtTreeMap.filter · s.resources.pixmaps)
      (funext fun _ => funext fun _ => (decide_not ..))
  have hforgets : Forgets s
      (s.setResources (s.resources.removeNonWindowResourcesOwnedBy client))
      ((s.resources.pixmaps.idsOf owned).map .inr) [] := by
    refine ⟨ho.agrees.tree, fun _ => .inl ⟨rfl, rfl⟩, ?_, (without_nil _).symm, rfl⟩
    funext n
    cases n with
    | inl w => exact (without_map_of_ne (fun _ => Sum.inr_ne_inl) _ _).symm
    | inr p =>
      change (s.resources.removeNonWindowResourcesOwnedBy client).pixmaps[p]?.bind _ = _
      rw [hkept, ResourceMap.get_filter_not, without_map Sum.inr_injective]
      rfl
  rw [← hfreed]
  exact ho.forget hforgets (ResourceMap.nodup_idsOf.map fun _ _ => Sum.inr.inj) .nil

theorem Owned.releaseGlxDrawables (ho : Owned s v stray stray glxStray) (client : ClientId) :
    ∃ v', Owned (s.releaseGlxDrawables client) v' stray stray glxStray ∧ Within v v' 0 := by
  let owned (d : GlxDrawable) : Bool := d.owner = client
  have hreleased : (s.glxDrawables.idsOf owned).filterMap s.glxNames =
      s.glxDrawables.toList.filterMap fun e =>
        if e.2.owner = client then e.2.glxExportHostXid else none := by
    refine ResourceMap.filterMap_idsOf.trans (List.filterMap_congr fun e _ => ?_)
    exact if_congr decide_eq_true_iff rfl rfl
  have hkept : (s.glxDrawables.filter fun _ d => d.owner ≠ client) =
      s.glxDrawables.filter fun _ d => !owned d :=
    congrArg (Std.ExtTreeMap.filter · s.glxDrawables)
      (funext fun _ => funext fun _ => (decide_not ..))
  have hleft : glxNames { s with
      glxDrawables := s.glxDrawables.filter fun _ d => d.owner ≠ client } =
      without s.glxNames (s.glxDrawables.idsOf owned) := by
    funext x
    rw [glxNames, hkept, ResourceMap.get_filter_not]
    rfl
  have hforgot := ho.forgetGlx ResourceMap.nodup_idsOf hleft
  rw [hreleased] at hforgot
  exact hforgot.unbindAll

/-- The pixmaps of the client are freed, and its windows are forgotten. -/
theorem Owned.processDisconnect (ho : Owned s v stray stray glxStray) {client : ClientId}
    {roots targets : List ResourceId} {retain : Bool} (hroots : ∀ r ∈ roots, r ≠ ROOT_WINDOW) :
    ∃ v', Owned (s.processDisconnect client roots targets retain) v'
      ((s.goneWindows roots).filterMap s.backingOf ++ stray)
      ((s.goneWindows roots).filterMap s.backingOf ++ stray) glxStray ∧ Within v v' 0 := by
  have hdestroyed := ho.forgetWindows hroots
  rw [RedirectServer.processDisconnect]
  generalize s.setResources (s.resources.destroyOwnedWindows roots).1 = s₁ at hdestroyed ⊢
  generalize (s.goneWindows roots).filterMap s.backingOf ++ stray = left at hdestroyed ⊢
  cases retain with
  | true =>
    obtain ⟨v₂, hglx, hwithin₂⟩ := hdestroyed.releaseGlxDrawables client
    obtain ⟨v₃, htorn, hwithin₃⟩ := hglx.teardownAll targets
    exact ⟨v₃, htorn, hwithin₂.trans hwithin₃⟩
  | false =>
    obtain ⟨v₂, hglx, hwithin₂⟩ := (hdestroyed.forgetPixmaps client).releaseGlxDrawables client
    obtain ⟨v₃, htorn, hwithin₃⟩ := hglx.teardownAll targets
    obtain ⟨v₄, hfreed, hwithin₄⟩ := htorn.freeAll (List.sublist_append_left _ _).subperm
    have hrest : ((s₁.resources.freedPixmaps client ++ left).diff
        (s₁.resources.freedPixmaps client)).Perm left :=
      (List.perm_append_left_iff _).mp
        (List.subperm_append_diff_self_of_count_le fun a _ =>
          (List.sublist_append_left _ _).count_le a)
    exact ⟨v₄, hfreed.perm hrest hrest.subset (.refl _),
      hwithin₂.trans (hwithin₃.trans hwithin₄)⟩

/-! ## What the windows show -/

theorem windowUses_iff : s.resources.WindowUses h ↔ ∃ w, s.backgroundOf w = some h := by
  refine exists_congr fun w => ?_
  rw [backgroundOf, Option.bind_eq_some_iff]

theorem pixmapUses_iff : s.resources.PixmapUses h ↔ ∃ p, s.hostXidOf p = some h := by
  refine exists_congr fun p => ?_
  rw [hostXidOf, Option.bind_eq_some_iff]

theorem unused_iff : (!t.hostXidReferencedByWindowBg h && !t.hostXidOwnedByPixmap h) = true ↔
    ¬ t.WindowUses h ∧ ¬ t.PixmapUses h := by
  rw [Bool.and_eq_true, Bool.not_eq_true', Bool.not_eq_true', ← Bool.not_eq_true,
    ← Bool.not_eq_true, ResourceTable.hostXidReferencedByWindowBg_iff,
    ResourceTable.hostXidOwnedByPixmap_iff]

theorem Shown.drop {l : List Handle} (hs : Shown s stray)
    (hl : ∀ w h, s.backgroundOf w = some h → h ∉ l) : Shown s (stray.diff l) :=
  fun w h hw => (hs w h hw).imp_right fun hmem => List.mem_diff_of_mem hmem (hl w h hw)

/-- A pixmap that is freed is the background of no window. -/
theorem Shown.freePixmap (hs : Shown s stray) (p : ResourceId) : Shown (s.freePixmap p)
    ((if (s.freedPixmap p).isSome then [] else (s.hostXidOf p).toList) ++ stray) := by
  have hforgot : Shown (s.freePixmap p) ((s.hostXidOf p).toList ++ stray) := hs.forgetPixmap p
  cases hfreed : s.freedPixmap p with
  | none => exact hforgot
  | some h =>
    intro w g hw
    refine (hforgot w g hw).imp_right fun hmem => (List.mem_append.mp hmem).resolve_left ?_
    rw [freedPixmap_eq_some hfreed, Option.mem_toList, Option.some.injEq]
    rintro rfl
    have hunused := (Option.filter_eq_some_iff.mp hfreed).2
    rw [Bool.and_eq_true, Bool.not_eq_true', ← Bool.not_eq_true,
      ResourceTable.hostXidReferencedByWindowBg_iff] at hunused
    exact hunused.1 (windowUses_iff.mpr ⟨w, hw⟩)

theorem keepsShown_changeWindowAttributes (request : ChangeWindowAttributesRequest) :
    KeepsShown s (s.setResources (s.resources.changeWindowAttributes request).1) := by
  refine ⟨fun w h hw => ?_, fun _ _ hp => hp⟩
  rw [backgroundOf] at hw
  change ((s.resources.modifyWindow request.window
    (s.resources.changedWindow request)).windows[w]?.bind _) = _ at hw
  rw [ResourceTable.get_modifyWindow] at hw
  split at hw
  · next heq =>
    obtain ⟨r, hr, hbg⟩ := Option.bind_eq_some_iff.mp hw
    obtain ⟨old, hold, rfl⟩ := Option.map_eq_some_iff.mp hr
    have hbg : request.backgroundPixmap.elim old.backgroundPixmapHostXid
      s.resources.newBgHostXid = some h := hbg
    cases hrequest : request.backgroundPixmap with
    | none =>
      rw [hrequest, Option.elim_none] at hbg
      refine .inl ?_
      rw [backgroundOf, hold, Option.bind_some, hbg]
    | some bg =>
      rw [hrequest, Option.elim_some, ResourceTable.newBgHostXid] at hbg
      split at hbg
      · cases hbg
      · exact .inr ⟨bg, hbg⟩
  · exact .inl hw

/-- A background that is freed is that of no window that is left. -/
theorem Shown.changeWindowAttributes (hs : Shown s stray)
    (request : ChangeWindowAttributesRequest) : Shown (s.changeWindowAttributes request)
      (stray.diff (s.freedBackground request).toList) := by
  have hkept := hs.mono (keepsShown_changeWindowAttributes request) (List.Subset.refl _)
  refine Shown.drop (s := s.changeWindowAttributes request) hkept fun w h hw hmem => ?_
  have hunused := (Option.filter_eq_some_iff.mp (Option.mem_toList.mp hmem)).2
  exact (unused_iff.mp hunused).1 (windowUses_iff.mpr ⟨w, hw⟩)

/-- It has a stray hold. -/
theorem Shown.mem_freedBackground (hs : Shown s stray) {request : ChangeWindowAttributesRequest}
    (hfreed : s.freedBackground request = some h) : h ∈ stray := by
  obtain ⟨hprevious, hunused⟩ := Option.filter_eq_some_iff.mp hfreed
  obtain ⟨bg, -, hold⟩ := Option.bind_eq_some_iff.mp hprevious
  refine (hs request.window h (Option.filter_eq_some_iff.mp hold).1).resolve_left fun hp => ?_
  exact (unused_iff.mp hunused).2 (pixmapUses_iff.mpr hp)

theorem backgroundOf_pruned (hpruned : Pruned s.resources t destroyed) :
    (s.setResources t).backgroundOf x = if x ∈ destroyed then none else s.backgroundOf x := by
  rw [backgroundOf]
  change t.windows[x]?.bind _ = _
  rw [hpruned.get, backgroundOf]
  split
  · rfl
  · cases s.resources.windows[x]? <;> rfl

theorem keepsShown_pruned (hpruned : Pruned s.resources t destroyed) :
    KeepsShown s (s.setResources t) := by
  refine ⟨fun w h hw => ?_, fun p h hp => (hostXidOf_pruned hpruned).trans hp⟩
  rw [backgroundOf_pruned hpruned] at hw
  split at hw
  · cases hw
  · exact .inl hw

theorem mem_freedBackgrounds : h ∈ s.freedBackgrounds w ↔
    h ∈ s.resources.collectBgPixmapHostXids s.resources.windows.size w ∧
      ¬ (s.resources.destroyWindow w).1.WindowUses h ∧
      ¬ (s.resources.destroyWindow w).1.PixmapUses h := by
  rw [freedBackgrounds, List.mem_filter, unused_iff]

theorem Shown.destroyWindow (hs : Shown s stray) :
    Shown (s.destroyWindow w) (stray.diff (s.freedBackgrounds w)) := by
  rw [RedirectServer.destroyWindow]
  split
  · have hkept := hs.mono (keepsShown_pruned
      (ResourceTable.destroyWindow_destroys s.resources w).pruned) (List.Subset.refl _)
    refine Shown.drop (s := s.destroyWindowSubtree w) hkept fun x h hx hmem => ?_
    exact (mem_freedBackgrounds.mp hmem).2.1 (windowUses_iff.mpr ⟨x, hx⟩)
  · next habsent =>
    rw [Std.ExtTreeMap.contains_iff_mem, ResourceMap.mem_iff, not_not] at habsent
    rw [freedBackgrounds_of_absent habsent]
    exact hs

theorem Shown.freedBackgrounds_subset (hs : Shown s stray) (hwf : s.resources.TreeWellFormed) :
    s.freedBackgrounds w ⊆ stray := by
  intro h hmem
  obtain ⟨hbg, -, hunowned⟩ := mem_freedBackgrounds.mp hmem
  have hpresent : s.resources.windows[w]? ≠ none := fun hnone => by
    rw [freedBackgrounds_of_absent hnone] at hmem
    cases hmem
  obtain ⟨n, hn⟩ := hwf.rooted (ResourceTable.present_iff.mpr hpresent)
  obtain ⟨x, r, hr, -, hbg⟩ := (hwf.mem_collectBgPixmapHostXids hn (Nat.le_add_left _ _)).mp hbg
  refine (hs x h (by rw [backgroundOf, hr, Option.bind_some, hbg])).resolve_left fun hp => ?_
  rw [(ResourceTable.destroyWindow_destroys s.resources w).pruned.others] at hunowned
  exact hunowned (pixmapUses_iff.mpr hp)

/-- No pixmap of the client is the background of a window that is left. -/
def Unshown (s : RedirectServer) (client : ClientId) (roots : List ResourceId) : Prop :=
  ∀ h ∈ s.resources.freedPixmaps client,
    ¬ (s.resources.destroyOwnedWindows roots).1.WindowUses h

theorem Shown.removePixmaps {client : ClientId} (hs : Shown s stray)
    (hunshown : ∀ h ∈ s.resources.freedPixmaps client, ¬ s.resources.WindowUses h) :
    Shown (s.setResources (s.resources.removeNonWindowResourcesOwnedBy client)) stray := by
  intro w h hw
  have hw : s.backgroundOf w = some h := hw
  refine (hs w h hw).imp_left fun ⟨p, hp⟩ => ⟨p, ?_⟩
  obtain ⟨r, hr, hxid⟩ := Option.bind_eq_some_iff.mp hp
  refine Option.bind_eq_some_iff.mpr ⟨r, ?_, hxid⟩
  change (s.resources.pixmaps.filter fun _ p => p.owner ≠ client)[p]? = some r
  rw [Std.ExtTreeMap.getElem?_filter', hr, Option.filter_some, if_pos]
  refine decide_eq_true fun howner => ?_
  exact hunshown h (ResourceTable.mem_freedPixmaps.mpr ⟨p, r, hr, howner, hxid⟩)
    (windowUses_iff.mpr ⟨w, hw⟩)

theorem Shown.processDisconnect {client : ClientId} {roots targets : List ResourceId}
    {retain : Bool} (hs : Shown s stray) (hwf : s.resources.TreeWellFormed)
    (hroots : ∀ r ∈ roots, r ≠ ROOT_WINDOW)
    (hunshown : retain = false → s.Unshown client roots) (hsub : stray ⊆ stray') :
    Shown (s.processDisconnect client roots targets retain) stray' := by
  obtain ⟨-, removed, hdestroys, -⟩ := hwf.destroyOwnedWindows_destroys hroots
  have hdestroyed := hs.mono (keepsShown_pruned hdestroys.pruned) hsub
  have hreleased {s : RedirectServer} (hs : Shown s stray') :
      Shown ((s.releaseGlxDrawables client).teardownAll targets) stray' := by
    have hglx : Shown (s.releaseGlxDrawables client) stray' := hs
    exact hglx.mono (teardownAll_cases targets _).1.keepsShown (List.Subset.refl _)
  cases retain with
  | true => exact hreleased hdestroyed
  | false =>
    refine hreleased (hdestroyed.removePixmaps fun h hmem => hunshown rfl h ?_)
    have hpixmaps : (s.resources.destroyOwnedWindows roots).1.pixmaps = s.resources.pixmaps := by
      rw [hdestroys.pruned.others]
    change h ∈ (s.resources.destroyOwnedWindows roots).1.freedPixmaps client at hmem
    rw [ResourceTable.freedPixmaps, hpixmaps] at hmem
    exact hmem

/-! ## Holds that go astray -/

/-- Holds on pixmaps, and bindings to GLX, that have no name. -/
structure Strays where
  pixmaps : List Handle
  bindings : List Handle
  deriving DecidableEq

namespace Strays

def none : Strays := ⟨[], []⟩

def leave (l : Strays) (pixmaps : List Handle) : Strays :=
  { l with pixmaps := pixmaps ++ l.pixmaps }

def leaveBound (l : Strays) (bindings : List Handle) : Strays :=
  { l with bindings := bindings ++ l.bindings }

def drop (l : Strays) (pixmaps : List Handle) : Strays :=
  { l with pixmaps := l.pixmaps.diff pixmaps }

/-- A pixmap that is freed while it is a background is held for the windows that show it, and
dropped with the last of them. Otherwise a hold that has gone astray stays: that of a pixmap
freed while a graphics context has it, of a backing for which there was no other, of a name
that is given out again, of a window that dies with its client, and of a GLX drawable that is
replaced or not destroyed as the pixmap that it is. -/
def after (l : Strays) (s : RedirectServer) : Action → Strays
  | .freePixmap pixmap =>
    l.leave (if (s.freedPixmap pixmap).isSome then [] else (s.hostXidOf pixmap).toList)
  | .changeWindowAttributes request => l.drop (s.freedBackground request).toList
  | .resize window _ _ stored => l.leave (if stored then [] else (s.backingOf window).toList)
  | .nameWindowPixmap _ window pixmap redirected =>
    l.leave (if s.named window redirected then (s.hostXidOf pixmap).toList else [])
  | .destroyWindow window => l.drop (s.freedBackgrounds window)
  | .glxCreate _ isPixmap glxWindow xWindow _ =>
    l.leaveBound (if s.glxMade isPixmap xWindow then (s.glxNames glxWindow).toList else [])
  | .glxDestroy isPixmap xid => l.leaveBound (if isPixmap then [] else (s.glxNames xid).toList)
  | .disconnect _ roots _ _ => l.leave ((s.goneWindows roots).filterMap s.backingOf)
  | _ => l

/-- What has gone astray at the end of a run. -/
def along (l : Strays) (s : RedirectServer) : List Action → Strays
  | [] => l
  | action :: actions => (s.act action).elim l fun s' => (l.after s action).along s' actions

end Strays

/-- The root is not destroyed, no two windows that are destroyed have the same background
without a pixmap, and no pixmap that is freed with its client is a background that is left. -/
def Action.Orderly (s : RedirectServer) : Action → Prop
  | .destroyWindow window => window ≠ ROOT_WINDOW ∧ (s.freedBackgrounds window).Nodup
  | .disconnect client roots _ retain =>
    ROOT_WINDOW ∉ roots ∧ (retain = false → s.Unshown client roots)
  | _ => True

def OrderlyRun (s : RedirectServer) : List Action → Prop
  | [] => True
  | action :: actions => action.Orderly s ∧ ∀ s' ∈ s.act action, OrderlyRun s' actions

instance (s : RedirectServer) (client : ClientId) (roots : List ResourceId) :
    Decidable (s.Unshown client roots) :=
  decidable_of_iff
    ((s.resources.freedPixmaps client).all (fun h =>
      !(s.resources.destroyOwnedWindows roots).1.hostXidReferencedByWindowBg h) = true)
    (List.all_eq_true.trans (forall₂_congr fun _ _ => by
      rw [Bool.not_eq_true', ← ResourceTable.hostXidReferencedByWindowBg_iff,
        Bool.not_eq_true]))

instance (s : RedirectServer) : (action : Action) → Decidable (action.Orderly s)
  | .destroyWindow _ => inferInstanceAs (Decidable (_ ∧ _))
  | .disconnect .. => inferInstanceAs (Decidable (_ ∧ (_ → _)))
  | .createWindow .. | .createPixmap .. | .freePixmap _ | .changeWindowAttributes _
  | .changeGcs _ | .configureWindow _ | .reparentWindow _ | .redirect .. | .unredirect _
  | .resize .. | .nameWindowPixmap .. | .glxCreate .. | .glxDestroy ..
  | .dri3BufferFromPixmap _ | .takeHostXid | .render .. | .poll _ =>
    inferInstanceAs (Decidable True)

instance decidableOrderlyRun : (s : RedirectServer) → (actions : List Action) →
    Decidable (s.OrderlyRun actions)
  | _, [] => inferInstanceAs (Decidable True)
  | s, action :: actions =>
    have : DecidablePred fun s' : RedirectServer => s'.OrderlyRun actions :=
      fun s' => decidableOrderlyRun s' actions
    inferInstanceAs (Decidable (action.Orderly s ∧ ∀ s' ∈ s.act action, s'.OrderlyRun actions))

/-! ## The invariant over runs -/

/-- Every hold has a name or is known to be stray, and so has every background. -/
structure Accounted (s : RedirectServer) (v : Holdings) (l : Strays) : Prop where
  owned : s.Owned v l.pixmaps l.pixmaps l.bindings
  shown : s.Shown l.pixmaps

theorem count_le : v.count h ≤ v.held h + 1 := by
  rw [Holdings.count]
  cases v.glx h with
  | none => exact Nat.add_le_add_left (Nat.zero_le 1) _
  | some n => exact Nat.le_refl _

theorem pixmaps_restackWindow {t : ResourceTable} {sibling : Option ResourceId}
    {stackMode : Option UInt8} : (t.restackWindow w sibling stackMode).pixmaps = t.pixmaps := by
  unfold ResourceTable.restackWindow
  split
  · rfl
  split
  · rfl
  split <;> rfl

theorem pixmaps_configureWindow {t : ResourceTable} {request : ConfigureWindowRequest} :
    (t.configureWindow request).1.pixmaps = t.pixmaps := by
  unfold ResourceTable.configureWindow
  split
  · exact pixmaps_restackWindow
  · rfl

theorem pixmaps_reparentWindow {t : ResourceTable} {request : ReparentWindowRequest} :
    (t.reparentWindow request).1.pixmaps = t.pixmaps := by
  by_cases h : t.ReparentRefused request
  · rw [ResourceTable.reparentWindow_refused h]
  · obtain ⟨window, -, heq⟩ := ResourceTable.reparentWindow_accepted h
    rw [heq]
    rfl

theorem background_ignoresPlace : ResourceTable.IgnoresPlace (·.backgroundPixmapHostXid) :=
  fun _ _ _ _ _ _ _ _ => rfl

/-- Windows are moved, resized or restacked. -/
theorem Owned.place (ho : Owned s v stray stray glxStray) (hwf : t.TreeWellFormed)
    (hpixmaps : t.pixmaps = s.resources.pixmaps)
    (hfields : ∀ {α : Type} {field : Window → α} (w : ResourceId),
      ResourceTable.IgnoresPlace field →
        t.windows[w]?.map field = s.resources.windows[w]?.map field) :
    Owned (s.setResources t) v stray stray glxStray ∧ KeepsShown s (s.setResources t) := by
  refine ⟨ho.same (forgets_nothing hwf (fun w => ?_) hpixmaps), fun w h hw => .inl ?_,
    fun p h hp => ?_⟩
  · rw [hostingOf, hostingOf, hfields w hosting_ignoresPlace]
  · have hfield := hfields w background_ignoresPlace
    have hw : t.windows[w]?.bind (·.backgroundPixmapHostXid) = some h := hw
    rw [Option.bind_eq_some_iff] at hw
    obtain ⟨r, hr, hbg⟩ := hw
    rw [hr, Option.map_some, hbg, eq_comm, Option.map_eq_some_iff] at hfield
    exact Option.bind_eq_some_iff.mpr hfield
  · change t.pixmaps[p]?.bind _ = _
    rw [hpixmaps]
    exact hp

theorem Accounted.step {l : Strays} (ha : Accounted s v l) {action : Action}
    (horderly : action.Orderly s)
    (hbound : ∀ h, v.held h + 2 < 2 ^ 32 ∧ (v.glx h).getD 0 + 2 < 2 ^ 32)
    (hact : s.act action = some s') :
    ∃ v', Accounted s' v' (l.after s action) ∧ Within v v' 2 := by
  have ho := ha.owned
  have hcount (h : Handle) : v.count h + 1 < 2 ^ 32 := by
    have hle := count_le (v := v) (h := h)
    have hlt := (hbound h).1
    omega
  have hbindings (h : Handle) : (v.glx h).getD 0 + 1 < 2 ^ 32 := by
    have hlt := (hbound h).2
    omega
  have hkept {v' : Holdings} {n : Nat} (hn : n ≤ 2) (hwithin : Within v v' n)
      (ho' : Owned s' v' l.pixmaps l.pixmaps l.bindings) (hshown : KeepsShown s s') :
      ∃ v', Accounted s' v' l ∧ Within v v' 2 :=
    ⟨v', ⟨ho', ha.shown.mono hshown (List.Subset.refl _)⟩, hwithin.mono hn⟩
  cases action with
  | createWindow client request hosted =>
    obtain ⟨ho', hshown⟩ := ho.createWindow hact
    exact hkept (Nat.zero_le 2) (.refl v) ho' hshown
  | createPixmap client request stored =>
    obtain ⟨v', ho', hshown, hwithin⟩ := ho.createPixmap hact
    exact hkept (by omega) hwithin ho' hshown
  | freePixmap pixmap =>
    cases hact
    obtain ⟨v', ho', hwithin⟩ := ho.freePixmap pixmap
    exact ⟨v', ⟨ho', ha.shown.freePixmap pixmap⟩, hwithin.mono (Nat.zero_le 2)⟩
  | changeWindowAttributes request =>
    cases hact
    obtain ⟨v', ho', hwithin⟩ := ho.changeWindowAttributes request
      fun h hfreed => ha.shown.mem_freedBackground hfreed
    exact ⟨v', ⟨ho', ha.shown.changeWindowAttributes request⟩, hwithin.mono (Nat.zero_le 2)⟩
  | changeGcs gcs =>
    cases hact
    exact hkept (Nat.zero_le 2) (.refl v)
      (ho.same (forgets_nothing ho.agrees.tree (fun _ => rfl) rfl))
      ⟨fun _ _ => .inl, fun _ _ hp => hp⟩
  | configureWindow request =>
    cases hact
    obtain ⟨ho', hshown⟩ := ho.place (ho.agrees.tree.configureWindow request)
      pixmaps_configureWindow fun _ hfield => ResourceTable.field_configureWindow hfield
    exact hkept (Nat.zero_le 2) (.refl v) ho' hshown
  | reparentWindow request =>
    cases hact
    obtain ⟨ho', hshown⟩ := ho.place (ho.agrees.tree.reparentWindow request)
      pixmaps_reparentWindow fun _ hfield => ResourceTable.field_reparentWindow hfield
    exact hkept (Nat.zero_le 2) (.refl v) ho' hshown
  | redirect window stored =>
    obtain ⟨v', ho', hshown, hwithin⟩ := ho.redirect hact
    exact hkept (by omega) hwithin ho' hshown
  | unredirect window =>
    cases hact
    obtain ⟨v', ho', hwithin⟩ := ho.teardown window
    exact hkept (Nat.zero_le 2) hwithin ho' (teardown_cases s window).1.keepsShown
  | resize window width height stored =>
    obtain ⟨v', ho', hshown, hwithin⟩ := ho.resize hcount hact
    exact ⟨v', ⟨ho', ha.shown.mono hshown (List.subset_append_right _ _)⟩, hwithin⟩
  | nameWindowPixmap client window pixmap redirected =>
    cases hact
    obtain ⟨v', ho', hshown, hwithin⟩ :=
      ho.nameWindowPixmap client window pixmap redirected hcount
    exact ⟨v', ⟨ho', hshown ha.shown⟩, hwithin.mono (by omega)⟩
  | destroyWindow window =>
    cases hact
    obtain ⟨hroot, hnodup⟩ := horderly
    obtain ⟨v', ho', hwithin⟩ := ho.destroyWindow hroot
      (List.subperm_of_subset hnodup (ha.shown.freedBackgrounds_subset ho.agrees.tree))
    exact ⟨v', ⟨ho', ha.shown.destroyWindow⟩, hwithin.mono (Nat.zero_le 2)⟩
  | glxCreate client isPixmap glxWindow xWindow fbconfig =>
    cases hact
    obtain ⟨v', ho', hwithin⟩ :=
      ho.glxCreateDrawable (x := glxWindow) client isPixmap xWindow fbconfig hcount hbindings
    have hshown : Shown (s.glxCreateDrawable client isPixmap glxWindow xWindow fbconfig)
        l.pixmaps := by
      rw [glxCreateDrawable]
      split <;> exact ha.shown
    exact ⟨v', ⟨ho', hshown⟩, hwithin.mono (by omega)⟩
  | glxDestroy isPixmap xid =>
    cases hact
    obtain ⟨v', ho', hwithin⟩ := ho.glxDestroyDrawable (x := xid) isPixmap
    exact ⟨v', ⟨ho', ha.shown⟩, hwithin.mono (Nat.zero_le 2)⟩
  | dri3BufferFromPixmap pixmap =>
    cases hact
    obtain ⟨v', ho', hwithin⟩ := ho.dri3BufferFromPixmap pixmap hcount
    refine hkept (Nat.zero_le 2) hwithin ho' ?_
    rw [RedirectServer.dri3BufferFromPixmap]
    cases s.resources.pixmaps[pixmap]?.bind (·.hostXid) with
    | none => exact .refl s
    | some h => exact sameNames_setBackend.keepsShown
  | disconnect client roots targets retain =>
    cases hact
    obtain ⟨hroot, hunshown⟩ := horderly
    have hroots : ∀ r ∈ roots, r ≠ ROOT_WINDOW := fun r hr heq => hroot (heq ▸ hr)
    obtain ⟨v', ho', hwithin⟩ := ho.processDisconnect hroots
    exact ⟨v', ⟨ho', ha.shown.processDisconnect ho.agrees.tree hroots hunshown
      (List.subset_append_right _ _)⟩, hwithin.mono (Nat.zero_le 2)⟩
  | takeHostXid =>
    obtain ⟨⟨b, host⟩, htaken, rfl⟩ := Option.map_eq_some_iff.mp hact
    exact hkept (Nat.zero_le 2) (.refl v) (ho.takeHostXid htaken) sameNames_setBackend.keepsShown
  | render hostXid ticket =>
    obtain rfl := Option.some.inj hact
    cases hid : s.backend.store.lookup hostXid with
    | none =>
      rw [hid] at hkept
      exact hkept (Nat.zero_le 2) (.refl v) ho (.refl s)
    | some id =>
      rw [hid] at hkept
      exact hkept (Nat.zero_le 2) (.refl v) (ho.render ticket id) sameNames_setBackend.keepsShown
  | poll signalled =>
    cases hact
    exact hkept (Nat.zero_le 2) (.refl v) (ho.poll signalled) sameNames_setBackend.keepsShown

/-- In so many steps no count runs over. -/
theorem Accounted.run {l : Strays} {n : Nat} {actions : List Action} (ha : Accounted s v l)
    (hwithin : Within .new v (2 * n)) (hlen : 2 * (n + actions.length) + 2 < 2 ^ 32)
    (horderly : s.OrderlyRun actions) (hrun : s.run actions = some s') :
    ∃ v', Accounted s' v' (l.along s actions) := by
  induction actions generalizing s v l n with
  | nil =>
    cases hrun
    exact ⟨v, ha⟩
  | cons action actions ih =>
    obtain ⟨s₁, hact, hrest⟩ := Option.bind_eq_some_iff.mp hrun
    rw [List.length_cons] at hlen
    have hbound (h : Handle) : v.held h + 2 < 2 ^ 32 ∧ (v.glx h).getD 0 + 2 < 2 ^ 32 := by
      have hle := hwithin h
      have hheld : Holdings.new.held h = 0 := rfl
      have hglx : (Holdings.new.glx h).getD 0 = 0 := rfl
      omega
    obtain ⟨v₁, ha₁, hwithin₁⟩ := ha.step horderly.1 hbound hact
    have hwithin₁ := (hwithin.trans hwithin₁).mono (n := 2 * (n + 1)) (by omega)
    rw [Strays.along, hact, Option.elim_some]
    exact ih ha₁ hwithin₁ (by omega) (horderly.2 s₁ hact) hrest

end RedirectServer

end X12

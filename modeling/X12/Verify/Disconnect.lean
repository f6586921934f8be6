import X12.Core.Disconnect
import X12.Verify.Owners
import X12.Verify.WindowTree

/-! # What a disconnect leaves

A disconnect destroys what lies below the windows of the client. Of the records
that name a destroyed window it drops some for every client; the others it
drops with their owner only. -/

namespace X12

open Forest

namespace ResourceTable

variable {t t' : ResourceTable} {id a r x : ResourceId} {c : ClientId} {w : Window}
  {roots before : List ResourceId} {fuel n : Nat}

/-! ## The destroy loop -/

/-- Destroyed windows are only ever appended. -/
theorem destroyWindowInner_append (t : ResourceTable) (before : List ResourceId) (id : ResourceId) :
    destroyWindowInner fuel (t, before) id =
      ((destroyWindowInner fuel (t, []) id).1,
        before ++ (destroyWindowInner fuel (t, []) id).2) := by
  induction fuel generalizing t before id with
  | zero => simp [destroyWindowInner]
  | succ fuel ih =>
    have hfold (children : List ResourceId) (t : ResourceTable) (before : List ResourceId) :
        children.foldl (destroyWindowInner fuel) (t, before) =
          ((children.foldl (destroyWindowInner fuel) (t, [])).1,
            before ++ (children.foldl (destroyWindowInner fuel) (t, [])).2) := by
      induction children generalizing t before with
      | nil => simp
      | cons child rest ihc =>
        rw [List.foldl_cons, List.foldl_cons, ih t before, ihc, ih t [], ihc _ ([] ++ _)]
        simp [List.append_assoc]
    rw [destroyWindowInner, destroyWindowInner]
    split
    · simp
    · split
      · simp
      · rw [hfold, hfold _ _ ([] ++ [id])]
        simp [List.append_assoc]

theorem TreeWellFormed.destroys_child_iff (h : t.TreeWellFormed) {p child : ResourceId} :
    child ∈ t.childrenOf p ∧ t.Destroyable child ↔ t.links.Child p child := by
  constructor
  · rintro ⟨hmem, -⟩
    exact child_of_mem_childrenOf hmem
  · intro hchild
    obtain ⟨hne, hparent⟩ := h.child_iff.mp hchild
    exact ⟨hchild.2, hne, present_iff.mp (Links.present_of_parent hparent)⟩

/-- A finished search has found what lies below its starts. -/
theorem Swept.mem_iff_below (h : t.TreeWellFormed) {starts after : List ResourceId}
    (hswept : Swept t starts [] after) :
    x ∈ after ↔ ∃ s ∈ starts, t.Destroyable s ∧ t.links.Below s x := by
  have hrel : (fun p child => child ∈ t.childrenOf p ∧ t.Destroyable child) = t.links.Child := by
    funext p child
    exact propext h.destroys_child_iff
  rw [hswept.mem_iff, hrel]
  rfl

theorem below_cases : t.links.Below r x ↔ x = r ∨ ∃ child, t.links.Child r child ∧
    t.links.Below child x := by
  rw [Links.Below, Relation.ReflTransGen.cases_head_iff, eq_comm]

/-- The walk meets what lies below its start: it goes no deeper than there are
windows. -/
theorem TreeWellFormed.mem_collectDestroyOrder (h : t.TreeWellFormed)
    (hdepth : t.links.AtDepth ROOT_WINDOW r n) (hfuel : t.windows.size ≤ n + fuel) :
    x ∈ t.collectDestroyOrder fuel r ↔ t.links.Below r x := by
  induction fuel generalizing r n with
  | zero =>
    have := h.depth_lt hdepth
    omega
  | succ fuel ih =>
    obtain ⟨w, hw⟩ := exists_of_present (hdepth.present h.root_present)
    have hchild {child : ResourceId} (hc : t.links.Child r child) :
        x ∈ t.collectDestroyOrder fuel child ↔ t.links.Below child x :=
      ih (h.child_atDepth hdepth hc) (by omega)
    rw [collectDestroyOrder, hw]
    simp only [List.mem_append, List.mem_flatMap, List.mem_singleton]
    rw [below_cases, or_comm]
    refine or_congr_right (exists_congr fun child => ?_)
    have hlisted : child ∈ w.children ↔ t.links.Child r child := by
      rw [← childrenOf_of_get hw]
      exact ⟨fun hmem => ⟨present_of_get hw, hmem⟩, And.right⟩
    rw [hlisted]
    exact and_congr_right fun hc => hchild hc

/-- The order that is collected for a root is what destroying it removes. -/
theorem TreeWellFormed.mem_collectDestroyOrder_iff (h : t.TreeWellFormed) (hr : r ≠ ROOT_WINDOW) :
    x ∈ t.collectDestroyOrder t.windows.size r ↔ x ∈ (t.destroyWindow r).2 := by
  rw [(destroyWindow_destroys t r).swept.mem_iff_below h]
  by_cases hpresent : t.windows[r]? = none
  · have hnil : t.collectDestroyOrder t.windows.size r = [] := by
      cases t.windows.size with
      | zero => rfl
      | succ => rw [collectDestroyOrder, hpresent]
    rw [hnil]
    refine iff_of_false List.not_mem_nil ?_
    rintro ⟨s, hs, hd, -⟩
    exact hd.2 (List.mem_singleton.mp hs ▸ hpresent)
  · obtain ⟨n, hn⟩ := h.rooted (present_iff.mpr hpresent)
    rw [h.mem_collectDestroyOrder hn (Nat.le_add_left _ _)]
    refine ⟨fun hbelow => ⟨r, List.mem_singleton_self r, ⟨hr, hpresent⟩, hbelow⟩, ?_⟩
    rintro ⟨s, hs, -, hbelow⟩
    exact List.mem_singleton.mp hs ▸ hbelow

/-- The loop destroys what lies below the roots, and knows what it destroyed. -/
theorem TreeWellFormed.destroyOwnedWindows_destroys (h : t.TreeWellFormed)
    (hroots : ∀ r ∈ roots, r ≠ ROOT_WINDOW) :
    (t.destroyOwnedWindows roots).1.TreeWellFormed ∧
      ∃ removed, Destroys t t roots [] ((t.destroyOwnedWindows roots).1, removed) ∧
        ∀ x, x ∈ (t.destroyOwnedWindows roots).2 ↔ x ∈ removed := by
  have hloop : ∀ (roots : List ResourceId) (t' : ResourceTable) (before destroyed : List ResourceId),
      (∀ r ∈ roots, r ≠ ROOT_WINDOW) → t'.TreeWellFormed → Pruned t t' before →
      (∀ x, x ∈ destroyed ↔ x ∈ before) →
      let result := roots.foldl (fun p root => ((p.1.destroyWindow root).1,
        p.2 ++ p.1.collectDestroyOrder p.1.windows.size root)) (t', destroyed)
      result.1.TreeWellFormed ∧ ∃ removed, Destroys t t' roots before (result.1, removed) ∧
        ∀ x, x ∈ result.2 ↔ x ∈ removed := by
    intro roots
    induction roots with
    | nil =>
      intro t' before destroyed _ hwf hpruned hmem
      exact ⟨hwf, before, ⟨hpruned, .refl t before, Nat.le_refl _⟩, hmem⟩
    | cons root rest ih =>
      intro t' before destroyed hroots hwf hpruned hmem
      have hone := destroyWindowInner_destroys hpruned (Nat.le_refl t'.windows.size) root
      rw [destroyWindowInner_append] at hone
      have hstep (x : ResourceId) :
          x ∈ destroyed ++ t'.collectDestroyOrder t'.windows.size root ↔
            x ∈ before ++ (t'.destroyWindow root).2 := by
        rw [List.mem_append, List.mem_append, hmem,
          hwf.mem_collectDestroyOrder_iff (hroots root (.head _))]
      obtain ⟨hwf', removed, hrest, hremoved⟩ := ih (t'.destroyWindow root).1 _ _
        (fun r hr => hroots r (.tail _ hr)) (hwf.destroyWindow root) hone.pruned hstep
      exact ⟨hwf', removed, ⟨hrest.pruned, hone.swept.trans hrest.swept,
        Nat.le_trans hrest.size_le hone.size_le⟩, hremoved⟩
  exact hloop roots t [] [] hroots h (.refl t) fun _ => .rfl

/-! ## The windows that die with a client -/

/-- The window lies at or below a window of the client. -/
def Dying (t : ResourceTable) (c : ClientId) (x : ResourceId) : Prop :=
  ∃ a, t.windowOwner a = some c ∧ t.links.Below a x

theorem windowOwner_of_get (hw : t.windows[id]? = some w) : t.windowOwner id = some w.owner := by
  rw [windowOwner, hw]
  rfl

theorem exists_of_windowOwner (h : t.windowOwner id = some c) :
    ∃ w, t.windows[id]? = some w ∧ w.owner = c :=
  Option.map_eq_some_iff.mp h

theorem mem_collectOwnedWindowRoots :
    id ∈ t.collectOwnedWindowRoots c ↔
      ∃ w, t.windows[id]? = some w ∧ w.owner = c ∧ t.windowOwner w.parent ≠ some c := by
  simp only [collectOwnedWindowRoots, List.mem_filter, ResourceMap.mem_keys_iff]
  cases h : t.windows[id]? with
  | none => simp
  | some w => simp

/-- Every window of a client lies below one of its roots. -/
theorem TreeWellFormed.exists_ownedRoot (h : t.TreeWellFormed)
    (hroot : t.windowOwner ROOT_WINDOW ≠ some c) (ha : t.windowOwner a = some c) :
    ∃ r ∈ t.collectOwnedWindowRoots c, t.links.Below r a := by
  obtain ⟨w, hw, -⟩ := exists_of_windowOwner ha
  obtain ⟨n, hn⟩ := h.rooted (present_of_get hw)
  clear hw w
  induction hn with
  | root => exact absurd ha hroot
  | @step a p n hne hp _ ih =>
    obtain ⟨w, hw, howner⟩ := exists_of_windowOwner ha
    rw [links_parent, parentOf_of_get hw, Option.some.injEq] at hp
    by_cases hpo : t.windowOwner p = some c
    · obtain ⟨r, hr, hbelow⟩ := ih hpo
      refine ⟨r, hr, hbelow.tail (h.child_iff.mpr ⟨hne, ?_⟩)⟩
      rw [links_parent, parentOf_of_get hw, hp]
    · exact ⟨a, mem_collectOwnedWindowRoots.mpr ⟨w, hw, howner, hp ▸ hpo⟩, .refl⟩

theorem TreeWellFormed.present_of_below (h : t.TreeWellFormed) (ha : t.links.Present a)
    (hbelow : t.links.Below a x) : t.links.Present x := by
  rcases Relation.ReflTransGen.cases_tail hbelow with rfl | ⟨p, -, hchild⟩
  · exact ha
  · exact Links.present_of_parent (h.child_iff.mp hchild).2

theorem TreeWellFormed.present_of_dying (h : t.TreeWellFormed) (hdying : t.Dying c x) :
    t.links.Present x := by
  obtain ⟨a, howner, hbelow⟩ := hdying
  obtain ⟨w, hw, -⟩ := exists_of_windowOwner howner
  exact h.present_of_below (present_of_get hw) hbelow

theorem TreeWellFormed.dying_iff (h : t.TreeWellFormed)
    (hroot : t.windowOwner ROOT_WINDOW ≠ some c) :
    t.Dying c x ↔ ∃ r ∈ t.collectOwnedWindowRoots c, t.Destroyable r ∧ t.links.Below r x := by
  constructor
  · rintro ⟨a, ha, hbelow⟩
    obtain ⟨r, hr, hra⟩ := h.exists_ownedRoot hroot ha
    obtain ⟨w, hw, howner, -⟩ := mem_collectOwnedWindowRoots.mp hr
    refine ⟨r, hr, ⟨?_, by simp [hw]⟩, hra.trans hbelow⟩
    rintro rfl
    exact hroot (by rw [windowOwner_of_get hw, howner])
  · rintro ⟨r, hr, -, hbelow⟩
    obtain ⟨w, hw, howner, -⟩ := mem_collectOwnedWindowRoots.mp hr
    exact ⟨r, by rw [windowOwner_of_get hw, howner], hbelow⟩

/-- What the destroy loop does to the windows of a client, in whatever order
its roots are visited. -/
structure ClosesDown (t t' : ResourceTable) (c : ClientId) (destroyed : List ResourceId) : Prop where
  wellFormed : t'.TreeWellFormed
  others : t' = { t with windows := t'.windows }
  mem_iff : ∀ x, x ∈ destroyed ↔ t.Dying c x
  get : ∀ x, t'.windows[x]? =
    if x ∈ destroyed then none else t.windows[x]?.map (t.keepChildren destroyed x)

theorem TreeWellFormed.closesDown (h : t.TreeWellFormed)
    (hroot : t.windowOwner ROOT_WINDOW ≠ some c)
    (hroots : roots.Perm (t.collectOwnedWindowRoots c)) :
    ClosesDown t (t.destroyOwnedWindows roots).1 c (t.destroyOwnedWindows roots).2 := by
  have hne : ∀ r ∈ roots, r ≠ ROOT_WINDOW := by
    rintro r hr rfl
    obtain ⟨w, hw, howner, -⟩ := mem_collectOwnedWindowRoots.mp (hroots.mem_iff.mp hr)
    exact hroot (by rw [windowOwner_of_get hw, howner])
  obtain ⟨hwf, removed, hdestroys, hmem⟩ := h.destroyOwnedWindows_destroys hne
  refine ⟨hwf, hdestroys.pruned.others, fun x => ?_, fun x => ?_⟩
  · rw [hmem, hdestroys.swept.mem_iff_below h, h.dying_iff hroot]
    simp only [hroots.mem_iff]
  · have hkeep : t.keepChildren removed x = t.keepChildren (t.destroyOwnedWindows roots).2 x := by
      funext w
      simp only [keepChildren, hmem]
    rw [hdestroys.pruned.get, hkeep]
    simp only [hmem]

end ResourceTable

/-! ## Replayed input -/

/-- The window that has the focus, if it is not None or PointerRoot. -/
def CoreFocus.window (f : CoreFocus) : Option ResourceId :=
  if f.raw ≤ 1 then none else some f.raw

namespace ServerState

variable {s s₁ s₂ : ServerState} {c : ClientId} {x id : ResourceId} {released : List UInt16}
  {record : ClientState} {choices : DisconnectChoices}

/-- Replaying input, after the grabs on some devices have been released, changes
active grabs only, and a new one comes from a passive grab. -/
structure Replayed (released : List UInt16) (s s' : ServerState) : Prop where
  others : s' = { s with
    xi1ActiveGrabs := s'.xi1ActiveGrabs
    activeKeyboardGrab := s'.activeKeyboardGrab }
  device : ∀ {dev g}, s'.xi1ActiveGrabs[dev]? = some g →
    (dev ∉ released ∧ s.xi1ActiveGrabs[dev]? = some g) ∨
      ∃ p ∈ s.xi1PassiveGrabs, g.owner = p.owner ∧ g.grabWindow = p.grabWindow
  keyboard : ∀ {g}, s'.activeKeyboardGrab = some g → s.activeKeyboardGrab = some g ∨
    ∃ k ∈ s.keyGrabs, g.owner = k.owner ∧ g.grabWindow = k.grabWindow

namespace Replayed

variable {released₁ released₂ : List UInt16} {dev : UInt16}

theorem refl (s : ServerState) : Replayed [] s s where
  others := rfl
  device hg := .inl ⟨List.not_mem_nil, hg⟩
  keyboard hg := .inl hg

theorem trans (h : Replayed released₁ s s₁) (h' : Replayed released₂ s₁ s₂) :
    Replayed (released₁ ++ released₂) s s₂ where
  others := by
    rw [h'.others, h.others]
  device {dev g} hg := by
    have hpassive : s₁.xi1PassiveGrabs = s.xi1PassiveGrabs := by rw [h.others]
    rcases h'.device hg with ⟨hnot, hg⟩ | hnew
    · refine (h.device hg).imp_left fun ⟨hnot', hg⟩ => ⟨?_, hg⟩
      exact fun hmem => (List.mem_append.mp hmem).elim hnot' hnot
    · exact .inr (hpassive ▸ hnew)
  keyboard hg := by
    have hkeys : s₁.keyGrabs = s.keyGrabs := by rw [h.others]
    rcases h'.keyboard hg with hg | hnew
    · exact h.keyboard hg
    · exact .inr (hkeys ▸ hnew)

theorem replayInput (s : ServerState) (input : ReplayedInput) :
    Replayed [] s (s.replayInput input) := by
  cases input with
  | devicePress detail grab =>
    rw [ServerState.replayInput]
    split
    · exact .refl s
    · next hguard =>
      simp only [Bool.or_eq_true, decide_eq_true_eq, not_or, not_not] at hguard
      refine ⟨rfl, fun {dev g} hg => ?_, .inl⟩
      rw [ResourceMap.get_insert] at hg
      split at hg
      · obtain rfl := Option.some.inj hg
        exact .inr ⟨grab, hguard.2, rfl, rfl⟩
      · exact .inl ⟨List.not_mem_nil, hg⟩
  | deviceRelease deviceid =>
    rw [ServerState.replayInput]
    split
    · refine ⟨rfl, fun {dev g} hg => ?_, .inl⟩
      rw [ResourceMap.get_erase] at hg
      split at hg
      · cases hg
      · exact .inl ⟨List.not_mem_nil, hg⟩
    · exact .refl s
  | keyPress keycode grab =>
    rw [ServerState.replayInput]
    split
    · exact .refl s
    · next hguard =>
      simp only [Bool.or_eq_true, decide_eq_true_eq, not_or, not_not] at hguard
      refine ⟨rfl, fun hg => .inl ⟨List.not_mem_nil, hg⟩, fun hg => ?_⟩
      obtain rfl := Option.some.inj hg
      exact .inr ⟨grab, hguard.2, rfl, rfl⟩
  | keyRelease keycode =>
    rw [ServerState.replayInput]
    split
    · exact ⟨rfl, fun hg => .inl ⟨List.not_mem_nil, hg⟩, fun hg => by cases hg⟩
    · exact .refl s

theorem computeFreezes (s : ServerState) (withheld : List ReplayedInput) :
    Replayed [] s (s.xi1ComputeFreezes withheld) := by
  induction withheld generalizing s with
  | nil => exact .refl s
  | cons input rest ih => exact (replayInput s input).trans (ih (s.replayInput input))

theorem deactivateDeviceGrab (s : ServerState) (dev : UInt16) (withheld : List ReplayedInput) :
    Replayed [dev] s (s.xi1DeactivateDeviceGrab dev withheld) := by
  rw [xi1DeactivateDeviceGrab]
  split
  · have herase : Replayed [dev] s { s with xi1ActiveGrabs := s.xi1ActiveGrabs.erase dev } := by
      refine ⟨rfl, fun {d g} hg => ?_, .inl⟩
      rw [ResourceMap.get_erase] at hg
      split at hg
      · cases hg
      · next hne => exact .inl ⟨fun hmem => hne (List.mem_singleton.mp hmem), hg⟩
    exact herase.trans (computeFreezes _ withheld)
  · next habsent =>
    refine ⟨rfl, fun {d g} hg => .inl ⟨fun hmem => habsent ?_, hg⟩, .inl⟩
    rw [Std.ExtTreeMap.contains_iff_mem, Std.ExtTreeMap.mem_iff_isSome_getElem?,
      ← List.mem_singleton.mp hmem, hg]
    rfl

theorem releaseDeviceGrabs (s : ServerState) (choices : DisconnectChoices) :
    Replayed choices.released s (s.releaseDeviceGrabs choices) := by
  have hrelease (devices : List UInt16) (s : ServerState) : Replayed devices s
      (devices.foldl (fun s dev => s.xi1DeactivateDeviceGrab dev (choices.withheld dev)) s) := by
    induction devices generalizing s with
    | nil => exact .refl s
    | cons dev rest ih => exact (deactivateDeviceGrab s dev _).trans (ih _)
  have hthaw (devices : List UInt16) (s : ServerState) : Replayed [] s
      (devices.foldl (fun s dev => s.xi1ComputeFreezes (choices.withheld dev)) s) := by
    induction devices generalizing s with
    | nil => exact .refl s
    | cons dev rest ih => exact (computeFreezes s _).trans (ih _)
  rw [ServerState.releaseDeviceGrabs]
  split
  · simpa using (hrelease choices.released s).trans (hthaw [4, 5] _)
  · exact hrelease choices.released s

end Replayed

/-! ## The state after a disconnect -/

theorem xfixesSelectionClientClose_others :
    s.xfixesSelectionClientClose c =
      { s with selections := (s.xfixesSelectionClientClose c).selections } := by
  unfold xfixesSelectionClientClose
  dsimp only
  split <;> rfl

/-- The state in which the device grabs of a client are released, when nothing
is retained. -/
def closedDown (s : ServerState) (choices : DisconnectChoices) (c : ClientId)
    (record : ClientState) : ServerState :=
  let closed := s.resources.destroyOwnedWindows choices.roots
  let s := { s with
    resources := closed.1.removeNonWindowResourcesOwnedBy c
    clients := (s.dropWindowSubscriptions closed.2).clients.erase c
    idAllocator := s.idAllocator.release record.resourceIdBase
    closeDownModes := s.closeDownModes.erase c
    selections := (s.xfixesSelectionClientClose c).selections }
  (s.retainUnrelated c closed.2).dropGrabs c

theorem processDisconnect_destroy (hrec : s.clients[c]? = some record)
    (hmode : s.retainsResources c = false) :
    s.processDisconnect choices c =
      ((s.closedDown choices c record).releaseDeviceGrabs choices).dropSelectionsOwnedByWindows
        (s.resources.destroyOwnedWindows choices.roots).2 := by
  have hclose : { s with closeDownModes := s.closeDownModes.erase c }.xfixesSelectionClientClose c =
      { s with
        closeDownModes := s.closeDownModes.erase c
        selections := (s.xfixesSelectionClientClose c).selections } := by
    unfold xfixesSelectionClientClose
    dsimp only
    split <;> rfl
  rw [retainsResources] at hmode
  rw [processDisconnect, hrec]
  dsimp only
  rw [hclose, removeClient, if_neg (by simpa using hmode)]
  rfl

/-! ## Resources of the client -/

/-- The id names nothing any more, or the same resource of another client. -/
def Released (c : ClientId) (new old : Option ClientId) : Prop :=
  new = none ∨ new = old ∧ new ≠ some c

theorem Released.of_some {new old : Option ClientId} {o : ClientId} (h : Released c new old)
    (ho : new = some o) : old = some o ∧ o ≠ c := by
  rcases h with hnone | ⟨rfl, hne⟩
  · rw [hnone] at ho
    cases ho
  · exact ⟨ho, fun heq => hne (ho.trans (congrArg some heq))⟩

theorem released_filter {β : Type} {m : ResourceMap β} {owner : β → ClientId} {keep : β → Bool}
    (h : ∀ v, keep v = true → owner v ≠ c) :
    Released c ((m.filter fun _ v => keep v)[id]?.map owner) (m[id]?.map owner) := by
  rw [Std.ExtTreeMap.getElem?_filter']
  cases m[id]? with
  | none => exact .inl rfl
  | some v =>
    rw [Option.filter_some]
    split
    · next hv => exact .inr ⟨rfl, fun heq => h v hv (Option.some.inj heq)⟩
    · exact .inl rfl

theorem processDisconnect_ownerOf (hrec : s.clients[c]? = some record)
    (hmode : s.retainsResources c = false) (hwf : s.resources.TreeWellFormed)
    (hroot : s.resources.windowOwner ROOT_WINDOW ≠ some c) (hallowed : choices.Allowed s c)
    (kind : ResourceKind) :
    Released c ((s.processDisconnect choices c).ownerOf kind id) (s.ownerOf kind id) := by
  have hclosed := hwf.closesDown hroot hallowed.roots
  have hwindow : Released c
      ((s.resources.destroyOwnedWindows choices.roots).1.windows[id]?.map (·.owner))
      (s.resources.windows[id]?.map (·.owner)) := by
    rw [hclosed.get]
    split
    · exact .inl rfl
    · next hlive =>
      rw [Option.map_map]
      refine .inr ⟨rfl, fun howner => hlive ?_⟩
      exact (hclosed.mem_iff id).mpr ⟨id, howner, .refl⟩
  rw [processDisconnect_destroy hrec hmode,
    (Replayed.releaseDeviceGrabs (s.closedDown choices c record) choices).others]
  simp only [dropSelectionsOwnedByWindows, closedDown, dropGrabs, retainUnrelated,
    ResourceTable.removeNonWindowResourcesOwnedBy]
  rw [hclosed.others]
  -- every other table keeps what has another owner
  cases kind with
  | Window => exact hwindow
  | _ => exact released_filter (by simp +contextual)

/-! ## Records of windows -/

/-- No record that a disconnect drops for every client names the window. -/
structure DroppedFree (s : ServerState) (w : ResourceId) : Prop where
  eventMasks : ∀ {d : ClientId} {client : ClientState}, s.clients[d]? = some client →
    client.eventMasks[w]? = none
  shapeWindows : s.shapeWindows[w]? = none
  selections : ∀ {sel : AtomId} {entry : ResourceId × UInt32}, s.selections[sel]? = some entry → entry.1 ≠ w

/-- No record that a disconnect drops with its owner only names the window;
records of other clients than those meant may do so. -/
structure KeptFree (s : ServerState) (meant : ClientId → Prop) (w : ResourceId) : Prop where
  xi2Masks : ∀ {d : ClientId} {client : ClientState}, meant d → s.clients[d]? = some client →
    ∀ m ∈ client.xi2Masks, m.1.1 ≠ w
  xi1WindowEventClasses : ∀ {d : ClientId} {client : ClientState}, meant d →
    s.clients[d]? = some client → client.xi1WindowEventClasses[w]? = none
  saveSet : ∀ {d : ClientId} {client : ClientState}, meant d → s.clients[d]? = some client →
    w ∉ client.saveSet
  pointerGrab : ∀ {g}, s.pointerGrab = some g → meant g.1 → g.2 ≠ w
  activePointerGrab : ∀ {g}, s.activePointerGrab = some g → meant g.owner → g.grabWindow ≠ w
  activeKeyboardGrab : ∀ {g}, s.activeKeyboardGrab = some g → meant g.owner → g.grabWindow ≠ w
  xi1ActiveGrabs : ∀ {dev : UInt16} {g : Xi1ActiveGrab}, s.xi1ActiveGrabs[dev]? = some g →
    meant g.owner → g.grabWindow ≠ w
  buttonGrabs : ∀ g ∈ s.buttonGrabs, meant g.owner → g.grabWindow ≠ w
  keyGrabs : ∀ g ∈ s.keyGrabs, meant g.owner → g.grabWindow ≠ w
  xi1PassiveGrabs : ∀ g ∈ s.xi1PassiveGrabs, meant g.owner → g.grabWindow ≠ w
  coreFocus : s.coreFocus.window ≠ some w

theorem foldl_erase {β : Type} (ids : List ResourceId) (m : ResourceMap β) :
    (ids.foldl (·.erase ·) m)[x]? = if x ∈ ids then none else m[x]? := by
  induction ids generalizing m with
  | nil => simp
  | cons head rest ih =>
    rw [List.foldl_cons, ih, ResourceMap.get_erase]
    by_cases hx : x = head
    · simp [hx]
    · simp [hx]

/-- The record of a client that stays. -/
def forgetWindows (destroyed : List ResourceId) (client : ClientState) : ClientState :=
  { client with eventMasks := destroyed.foldl (·.erase ·) client.eventMasks }

theorem releaseDeviceGrabs_others : s.releaseDeviceGrabs choices =
    { s with
      xi1ActiveGrabs := (s.releaseDeviceGrabs choices).xi1ActiveGrabs
      activeKeyboardGrab := (s.releaseDeviceGrabs choices).activeKeyboardGrab } :=
  (Replayed.releaseDeviceGrabs s choices).others

theorem removeClient_windows {mode : UInt8} :
    (s.removeClient c record mode).resources.windows = s.resources.windows := by
  rw [removeClient]
  split <;> rfl

theorem removeClient_clients {mode : UInt8} :
    (s.removeClient c record mode).clients = s.clients.erase c := by
  rw [removeClient]
  split <;> rfl

/-- The windows that are left, also when other resources are retained. -/
theorem processDisconnect_windows (hrec : s.clients[c]? = some record) :
    (s.processDisconnect choices c).resources.windows =
      (s.resources.destroyOwnedWindows choices.roots).1.windows := by
  rw [processDisconnect, hrec]
  dsimp only
  rw [dropSelectionsOwnedByWindows, releaseDeviceGrabs_others]
  simp only [dropGrabs, retainUnrelated, removeClient_windows, dropWindowSubscriptions]
  rw [xfixesSelectionClientClose_others]

theorem processDisconnect_clients (hrec : s.clients[c]? = some record) {d : ClientId} :
    (s.processDisconnect choices c).clients[d]? =
      if d = c then none
      else s.clients[d]?.map (forgetWindows (s.resources.destroyOwnedWindows choices.roots).2) := by
  rw [processDisconnect, hrec]
  dsimp only
  rw [dropSelectionsOwnedByWindows, releaseDeviceGrabs_others]
  simp only [dropGrabs, retainUnrelated, removeClient_clients, dropWindowSubscriptions]
  rw [xfixesSelectionClientClose_others, ResourceMap.get_erase, Std.ExtTreeMap.getElem?_map]
  rfl

theorem mem_grabbedDevices {dev : UInt16} :
    dev ∈ s.grabbedDevices c ↔ ∃ g, s.xi1ActiveGrabs[dev]? = some g ∧ g.owner = c := by
  simp only [grabbedDevices, List.mem_filter, Std.ExtTreeMap.mem_keys,
    Std.ExtTreeMap.mem_iff_isSome_getElem?]
  cases s.xi1ActiveGrabs[dev]? with
  | none => simp
  | some g => simp

/-- What a disconnect with nothing retained does to the records of windows. -/
structure Disconnected (s s' : ServerState) (c : ClientId) (destroyed : List ResourceId)
    (released : List UInt16) : Prop where
  clients : ∀ d, s'.clients[d]? =
    if d = c then none else s.clients[d]?.map (forgetWindows destroyed)
  shapeWindows : s'.shapeWindows = s.shapeWindows.filter fun w _ => w ∉ destroyed
  selections : ∀ {sel : AtomId} {entry : ResourceId × UInt32}, s'.selections[sel]? = some entry →
    entry.1 ∉ destroyed
  pointerGrab : s'.pointerGrab = s.pointerGrab.filter (·.1 ≠ c)
  activePointerGrab : s'.activePointerGrab = s.activePointerGrab.filter (·.owner ≠ c)
  buttonGrabs : s'.buttonGrabs = s.buttonGrabs.filter (·.owner ≠ c)
  keyGrabs : s'.keyGrabs = s.keyGrabs.filter (·.owner ≠ c)
  xi1PassiveGrabs : s'.xi1PassiveGrabs = s.xi1PassiveGrabs.filter (·.owner ≠ c)
  coreFocus : s'.coreFocus = s.coreFocus
  device : ∀ {dev : UInt16} {g : Xi1ActiveGrab}, s'.xi1ActiveGrabs[dev]? = some g →
    (dev ∉ released ∧ s.xi1ActiveGrabs[dev]? = some g) ∨
      ∃ p ∈ s.xi1PassiveGrabs, p.owner ≠ c ∧ g.grabWindow = p.grabWindow
  keyboard : ∀ {g : ActiveKeyboardGrab}, s'.activeKeyboardGrab = some g →
    (g.owner ≠ c ∧ s.activeKeyboardGrab = some g) ∨
      ∃ k ∈ s.keyGrabs, k.owner ≠ c ∧ g.grabWindow = k.grabWindow

theorem processDisconnect_disconnected (hrec : s.clients[c]? = some record)
    (hmode : s.retainsResources c = false) :
    Disconnected s (s.processDisconnect choices c) c
      (s.resources.destroyOwnedWindows choices.roots).2 choices.released := by
  have hreplayed := Replayed.releaseDeviceGrabs (s.closedDown choices c record) choices
  have hclients (d : ClientId) := @processDisconnect_clients s c record choices hrec d
  rw [processDisconnect_destroy hrec hmode, hreplayed.others] at hclients ⊢
  refine ⟨hclients, rfl, fun {sel entry} hget => ?_,
    rfl, rfl, rfl, rfl, rfl, rfl, fun {dev g} hget => ?_, fun {g} hget => ?_⟩
  · rw [dropSelectionsOwnedByWindows, Std.ExtTreeMap.getElem?_filter',
      Option.filter_eq_some_iff] at hget
    simpa using hget.2
  · refine (hreplayed.device hget).imp_right fun ⟨p, hp, _, hwindow⟩ => ?_
    obtain ⟨hp, howner⟩ := List.mem_filter.mp hp
    exact ⟨p, hp, by simpa using howner, hwindow⟩
  · rcases hreplayed.keyboard hget with hold | ⟨k, hk, _, hwindow⟩
    · obtain ⟨hold, howner⟩ := Option.filter_eq_some_iff.mp hold
      exact .inl ⟨by simpa using howner, hold⟩
    · obtain ⟨hk, howner⟩ := List.mem_filter.mp hk
      exact .inr ⟨k, hk, by simpa using howner, hwindow⟩

variable {s' : ServerState} {destroyed : List ResourceId}

namespace Disconnected

theorem exists_client (h : Disconnected s s' c destroyed released) {d : ClientId}
    {client : ClientState} (hget : s'.clients[d]? = some client) :
    d ≠ c ∧ ∃ old, s.clients[d]? = some old ∧ forgetWindows destroyed old = client := by
  rw [h.clients] at hget
  split at hget
  · cases hget
  · next hd => exact ⟨hd, Option.map_eq_some_iff.mp hget⟩

theorem client_stays (h : Disconnected s s' c destroyed released) {d : ClientId}
    {old : ClientState} (hd : d ≠ c) (hold : s.clients[d]? = some old) :
    s'.clients[d]? = some (forgetWindows destroyed old) := by
  rw [h.clients, if_neg hd, hold]
  rfl

/-- What the disconnect drops for every client is gone. -/
theorem droppedFree (h : Disconnected s s' c destroyed released) (hx : x ∈ destroyed) :
    s'.DroppedFree x where
  eventMasks hget := by
    obtain ⟨-, old, -, rfl⟩ := h.exists_client hget
    rw [forgetWindows, foldl_erase, if_pos hx]
  shapeWindows := by
    rw [h.shapeWindows, Std.ExtTreeMap.getElem?_filter']
    cases s.shapeWindows[x]? <;> simp [hx]
  selections hget := by
    rintro rfl
    exact h.selections hget hx

/-- Records of other clients are all that can be left. -/
theorem keptFree (h : Disconnected s s' c destroyed released)
    (hreleased : released.Perm (s.grabbedDevices c)) (hfree : s.KeptFree (· ≠ c) x) :
    s'.KeptFree (fun _ => True) x where
  xi2Masks _ hget := by
    obtain ⟨hd, old, hold, rfl⟩ := h.exists_client hget
    have hfree := hfree.xi2Masks hd hold
    exact hfree
  xi1WindowEventClasses _ hget := by
    obtain ⟨hd, old, hold, rfl⟩ := h.exists_client hget
    have hfree := hfree.xi1WindowEventClasses hd hold
    exact hfree
  saveSet _ hget := by
    obtain ⟨hd, old, hold, rfl⟩ := h.exists_client hget
    have hfree := hfree.saveSet hd hold
    exact hfree
  pointerGrab hget _ := by
    rw [h.pointerGrab, Option.filter_eq_some_iff] at hget
    exact hfree.pointerGrab hget.1 (by simpa using hget.2)
  activePointerGrab hget _ := by
    rw [h.activePointerGrab, Option.filter_eq_some_iff] at hget
    exact hfree.activePointerGrab hget.1 (by simpa using hget.2)
  activeKeyboardGrab hget _ := by
    rcases h.keyboard hget with ⟨howner, hold⟩ | ⟨k, hk, howner, hwindow⟩
    · exact hfree.activeKeyboardGrab hold howner
    · exact hwindow ▸ hfree.keyGrabs k hk howner
  xi1ActiveGrabs {dev g} hget _ := by
    rcases h.device hget with ⟨hnot, hold⟩ | ⟨p, hp, howner, hwindow⟩
    · refine hfree.xi1ActiveGrabs hold fun howner => hnot (hreleased.mem_iff.mpr ?_)
      exact mem_grabbedDevices.mpr ⟨g, hold, howner⟩
    · exact hwindow ▸ hfree.xi1PassiveGrabs p hp howner
  buttonGrabs g hg _ := by
    rw [h.buttonGrabs, List.mem_filter] at hg
    exact hfree.buttonGrabs g hg.1 (by simpa using hg.2)
  keyGrabs g hg _ := by
    rw [h.keyGrabs, List.mem_filter] at hg
    exact hfree.keyGrabs g hg.1 (by simpa using hg.2)
  xi1PassiveGrabs g hg _ := by
    rw [h.xi1PassiveGrabs, List.mem_filter] at hg
    exact hfree.xi1PassiveGrabs g hg.1 (by simpa using hg.2)
  coreFocus := by
    rw [h.coreFocus]
    exact hfree.coreFocus

end Disconnected

/-- The choices under which no input has been withheld. -/
def quietChoices (s : ServerState) (c : ClientId) : DisconnectChoices where
  roots := s.resources.collectOwnedWindowRoots c
  released := s.grabbedDevices c
  withheld _ := []

theorem quietChoices_allowed (s : ServerState) (c : ClientId) : (s.quietChoices c).Allowed s c where
  roots := .refl _
  released := .refl _

/-- Without withheld input only the released grabs change. -/
theorem releaseDeviceGrabs_quiet (s : ServerState) (hquiet : ∀ dev, choices.withheld dev = []) :
    (s.releaseDeviceGrabs choices).activeKeyboardGrab = s.activeKeyboardGrab ∧
      ∀ dev ∉ choices.released,
        (s.releaseDeviceGrabs choices).xi1ActiveGrabs[dev]? = s.xi1ActiveGrabs[dev]? := by
  have hrelease (devices : List UInt16) (s : ServerState) :
      let s' := devices.foldl (fun s dev => s.xi1DeactivateDeviceGrab dev (choices.withheld dev)) s
      s'.activeKeyboardGrab = s.activeKeyboardGrab ∧
        ∀ dev ∉ devices, s'.xi1ActiveGrabs[dev]? = s.xi1ActiveGrabs[dev]? := by
    induction devices generalizing s with
    | nil => exact ⟨rfl, fun _ _ => rfl⟩
    | cons head rest ih =>
      have hstep : (s.xi1DeactivateDeviceGrab head (choices.withheld head)).activeKeyboardGrab =
          s.activeKeyboardGrab ∧ ∀ dev ≠ head,
          (s.xi1DeactivateDeviceGrab head (choices.withheld head)).xi1ActiveGrabs[dev]? =
            s.xi1ActiveGrabs[dev]? := by
        rw [xi1DeactivateDeviceGrab, hquiet]
        split
        · exact ⟨rfl, fun dev hdev => by
            rw [xi1ComputeFreezes, List.foldl_nil, ResourceMap.get_erase, if_neg hdev]⟩
        · exact ⟨rfl, fun _ _ => rfl⟩
      obtain ⟨hkeyboard, hdevices⟩ := ih (s.xi1DeactivateDeviceGrab head (choices.withheld head))
      refine ⟨hkeyboard.trans hstep.1, fun dev hdev => ?_⟩
      rw [List.mem_cons, not_or] at hdev
      exact (hdevices dev hdev.2).trans (hstep.2 dev hdev.1)
  have hthaw (s : ServerState) : [4, 5].foldl
      (fun s dev => s.xi1ComputeFreezes (choices.withheld dev)) s = s := by
    simp only [hquiet, List.foldl_cons, List.foldl_nil, xi1ComputeFreezes]
  rw [releaseDeviceGrabs, hthaw, ite_self]
  exact hrelease choices.released s

/-- A record of another client, or the focus, survives a disconnect when no
input has been withheld. -/
theorem KeptFree.of_processDisconnect (hrec : s.clients[c]? = some record)
    (hmode : s.retainsResources c = false)
    (hfree : (s.processDisconnect (s.quietChoices c) c).KeptFree (fun _ => True) x) :
    s.KeptFree (· ≠ c) x := by
  have h : Disconnected s (s.processDisconnect (s.quietChoices c) c) c _ _ :=
    processDisconnect_disconnected hrec hmode
  have hquiet (dev : UInt16) : (s.quietChoices c).withheld dev = [] := rfl
  obtain ⟨hkeyboard, hdevices⟩ :=
    releaseDeviceGrabs_quiet (s.closedDown (s.quietChoices c) c record) hquiet
  have hkeyboard : (s.processDisconnect (s.quietChoices c) c).activeKeyboardGrab =
      s.activeKeyboardGrab.filter (·.owner ≠ c) := by
    rw [processDisconnect_destroy hrec hmode]
    exact hkeyboard
  have hdevices (dev : UInt16) (hdev : dev ∉ s.grabbedDevices c) :
      (s.processDisconnect (s.quietChoices c) c).xi1ActiveGrabs[dev]? = s.xi1ActiveGrabs[dev]? := by
    rw [processDisconnect_destroy hrec hmode]
    exact hdevices dev hdev
  refine ⟨fun hd hget => ?_, fun hd hget => ?_, fun hd hget => ?_, fun hget howner => ?_,
    fun hget howner => ?_, fun hget howner => ?_, fun {dev g} hget howner => ?_,
    fun g hg howner => ?_, fun g hg howner => ?_, fun g hg howner => ?_, ?_⟩
  · have hfree := hfree.xi2Masks trivial (h.client_stays hd hget)
    exact hfree
  · have hfree := hfree.xi1WindowEventClasses trivial (h.client_stays hd hget)
    exact hfree
  · have hfree := hfree.saveSet trivial (h.client_stays hd hget)
    exact hfree
  · refine hfree.pointerGrab ?_ trivial
    rw [h.pointerGrab, Option.filter_eq_some_iff]
    exact ⟨hget, by simpa using howner⟩
  · refine hfree.activePointerGrab ?_ trivial
    rw [h.activePointerGrab, Option.filter_eq_some_iff]
    exact ⟨hget, by simpa using howner⟩
  · refine hfree.activeKeyboardGrab ?_ trivial
    rw [hkeyboard, Option.filter_eq_some_iff]
    exact ⟨hget, by simpa using howner⟩
  · refine @hfree.xi1ActiveGrabs dev g ?_ trivial
    rw [hdevices, hget]
    intro hmem
    obtain ⟨g', hget', howner'⟩ := mem_grabbedDevices.mp hmem
    rw [hget] at hget'
    exact howner (Option.some.inj hget' ▸ howner')
  · refine hfree.buttonGrabs g ?_ trivial
    rw [h.buttonGrabs, List.mem_filter]
    exact ⟨hg, by simpa using howner⟩
  · refine hfree.keyGrabs g ?_ trivial
    rw [h.keyGrabs, List.mem_filter]
    exact ⟨hg, by simpa using howner⟩
  · refine hfree.xi1PassiveGrabs g ?_ trivial
    rw [h.xi1PassiveGrabs, List.mem_filter]
    exact ⟨hg, by simpa using howner⟩
  · have hfocus := hfree.coreFocus
    rw [h.coreFocus] at hfocus
    exact hfocus

/-! ## What a disconnect promises -/

/-- After a disconnect from `s` to `s'` nothing of the client is left: no
resource of any kind, no occupied id in a range that was all its own, and no
record of a window that was destroyed. -/
structure DisconnectClean (s s' : ServerState) (c : ClientId) (record : ClientState) : Prop where
  owned : ∀ kind id, s'.ownerOf kind id ≠ some c
  unoccupied : ∀ id, IdAllocator.validateOwned id record.resourceIdBase record.resourceIdMask →
    (∀ kind o, s.ownerOf kind id = some o → o = c) → s'.xidOccupied id = false
  records : ∀ w, s.resources.windows[w]? ≠ none → s'.resources.windows[w]? = none →
    s'.DroppedFree w ∧ s'.KeptFree (fun _ => True) w

/-- The windows that a client wants kept alive are, each with all that is below
it and with a parent. -/
def SaveSetKept (s s' : ServerState) (c : ClientId) (record : ClientState) : Prop :=
  ∀ w ∈ record.saveSet, ∀ v, s.resources.windows[w]? = some v → v.owner ≠ c →
    ∃ v', s'.resources.windows[w]? = some v' ∧ s'.resources.windows[v'.parent]? ≠ none ∧
      ∀ x, s.resources.links.Below w x → s'.resources.windows[x]? = s.resources.windows[x]?

/-- No kept window, and no window below one, lies below a window of the client. -/
def SaveSetClear (s : ServerState) (c : ClientId) (record : ClientState) : Prop :=
  ∀ w ∈ record.saveSet, ∀ v, s.resources.windows[w]? = some v → v.owner ≠ c →
    ∀ x, s.resources.links.Below w x → ¬ s.resources.Dying c x

section

variable (hrec : s.clients[c]? = some record) (hwf : s.resources.TreeWellFormed)
  (hroot : s.resources.windowOwner ROOT_WINDOW ≠ some c)
include hrec hwf hroot

/-- What the client owned is gone, whatever else is left. -/
theorem processDisconnect_owned (hmode : s.retainsResources c = false)
    (hallowed : choices.Allowed s c) :
    (∀ kind, (s.processDisconnect choices c).ownerOf kind id ≠ some c) ∧
      ((∀ kind o, s.ownerOf kind id = some o → o = c) →
        (s.processDisconnect choices c).xidOccupied id = false) := by
  have hleft (kind : ResourceKind) : Released c
      ((s.processDisconnect choices c).ownerOf kind id) (s.ownerOf kind id) :=
    processDisconnect_ownerOf hrec hmode hwf hroot hallowed kind
  refine ⟨fun kind howner => ((hleft kind).of_some howner).2 rfl, fun hall => ?_⟩
  refine xidOccupied_eq_false.mpr fun kind => ?_
  by_contra hused
  obtain ⟨o, ho⟩ := Option.ne_none_iff_exists'.mp hused
  obtain ⟨hold, hne⟩ := (hleft kind).of_some ho
  exact hne (hall kind o hold)

/-- A disconnect leaves nothing behind exactly if no other client's record of a
window, and not the focus, names a window that dies. -/
theorem disconnectClean_iff (hmode : s.retainsResources c = false) :
    (∀ choices : DisconnectChoices, choices.Allowed s c →
      DisconnectClean s (s.processDisconnect choices c) c record) ↔
    ∀ w, s.resources.Dying c w → s.KeptFree (· ≠ c) w := by
  have hdestroyed (choices : DisconnectChoices) (hallowed : choices.Allowed s c) (w : ResourceId)
      (hw : s.resources.windows[w]? ≠ none) :
      (s.processDisconnect choices c).resources.windows[w]? = none ↔
        w ∈ (s.resources.destroyOwnedWindows choices.roots).2 := by
    rw [processDisconnect_windows hrec, (hwf.closesDown hroot hallowed.roots).get]
    split
    · next hmem => exact iff_of_true rfl hmem
    · next hmem => simp [hw, hmem]
  constructor
  · intro hclean w hdying
    have hquiet := quietChoices_allowed s c
    have hw : s.resources.windows[w]? ≠ none :=
      ResourceTable.present_iff.mp (hwf.present_of_dying hdying)
    have hmem := ((hwf.closesDown hroot hquiet.roots).mem_iff w).mpr hdying
    exact .of_processDisconnect hrec hmode
      ((hclean _ hquiet).records w hw ((hdestroyed _ hquiet w hw).mpr hmem)).2
  · intro hfree choices hallowed
    have hdisc : Disconnected s (s.processDisconnect choices c) c _ _ :=
      processDisconnect_disconnected hrec hmode
    have howned (id : ResourceId) :=
      @processDisconnect_owned _ _ id _ _ hrec hwf hroot hmode hallowed
    refine ⟨fun kind id => (howned id).1 kind, fun id _ => (howned id).2, fun w hw hgone => ?_⟩
    have hmem := (hdestroyed choices hallowed w hw).mp hgone
    have hdying := ((hwf.closesDown hroot hallowed.roots).mem_iff w).mp hmem
    exact ⟨hdisc.droppedFree hmem, hdisc.keptFree hallowed.released (hfree w hdying)⟩

/-- Kept windows survive exactly if they and what is below them are clear of the
windows of the client. -/
theorem saveSetKept_iff (hallowed : choices.Allowed s c) :
    SaveSetKept s (s.processDisconnect choices c) c record ↔ SaveSetClear s c record := by
  have hclosed := hwf.closesDown hroot hallowed.roots
  have hdead {x : ResourceId} (hx : s.resources.Dying c x) :
      (s.processDisconnect choices c).resources.windows[x]? = none := by
    rw [processDisconnect_windows hrec, hclosed.get,
      if_pos ((hclosed.mem_iff x).mpr hx)]
  -- a window none of whose children dies keeps its record
  have hlive {x : ResourceId} (hx : ¬ s.resources.Dying c x)
      (hchildren : ∀ y, s.resources.links.Child x y → ¬ s.resources.Dying c y) :
      (s.processDisconnect choices c).resources.windows[x]? = s.resources.windows[x]? := by
    rw [processDisconnect_windows hrec, hclosed.get,
      if_neg fun hmem => hx ((hclosed.mem_iff x).mp hmem)]
    cases hw : s.resources.windows[x]? with
    | none => rfl
    | some w =>
      rw [Option.map_some, ResourceTable.keepChildren, Window.retainChildren_all fun y hy => ?_]
      have hchild : s.resources.links.Child x y :=
        ⟨ResourceTable.present_of_get hw, by
          rwa [ResourceTable.links_children, ResourceTable.childrenOf_of_get hw]⟩
      have hy : y ∉ (s.resources.destroyOwnedWindows choices.roots).2 := fun hmem =>
        hchildren y hchild ((hclosed.mem_iff y).mp hmem)
      simp [hy]
  constructor
  · intro hkept w hmem v hv howner x hbelow hdying
    obtain ⟨-, -, -, hsame⟩ := hkept w hmem v hv howner
    have hpresent := ResourceTable.present_iff.mp
      (hwf.present_of_below (ResourceTable.present_of_get hv) hbelow)
    exact hpresent ((hsame x hbelow).symm.trans (hdead hdying))
  · intro hclear w hmem v hv howner
    have hsame (x : ResourceId) (hbelow : s.resources.links.Below w x) :
        (s.processDisconnect choices c).resources.windows[x]? = s.resources.windows[x]? :=
      hlive (hclear w hmem v hv howner x hbelow) fun y hchild =>
        hclear w hmem v hv howner y (hbelow.tail hchild)
    refine ⟨v, (hsame w .refl).trans hv, fun hgone => ?_, hsame⟩
    have hparent : s.resources.links.parent w = some v.parent := ResourceTable.parentOf_of_get hv
    have hpresent := ResourceTable.present_iff.mp (hwf.parent_present hparent)
    -- the parent can only be gone if it died, and then the window did too
    have hdying : s.resources.Dying c v.parent := by
      by_contra hnot
      rw [processDisconnect_windows hrec, hclosed.get,
        if_neg fun hmem => hnot ((hclosed.mem_iff _).mp hmem), Option.map_eq_none_iff] at hgone
      exact hpresent hgone
    refine hclear w hmem v hv howner w .refl ?_
    by_cases hwroot : w = ROOT_WINDOW
    · subst hwroot
      rw [hwf.root_parent, Option.some.injEq] at hparent
      exact hparent ▸ hdying
    · obtain ⟨a, ha, hbelow⟩ := hdying
      exact ⟨a, ha, hbelow.tail (hwf.child_iff.mpr ⟨hwroot, hparent⟩)⟩

end

end ServerState

end X12

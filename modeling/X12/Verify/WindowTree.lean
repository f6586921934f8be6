import X12.Lib.Forest
import X12.Verify.DestroyWindow

/-! # The window tree

The parent pointers and the child lists of the window table are one tree with
redundant links. Every operation is described by what it does to the links,
and keeps the tree well formed; the teardown of the overlay window does so
only as long as the overlay is a leaf below the root. -/

namespace X12

open Forest

/-! ## Child lists -/

theorem cowAwareTopIndex_le (w : Window) : cowAwareTopIndex w ≤ w.children.length := by
  unfold cowAwareTopIndex
  split
  · split <;> omega
  · exact Nat.le_refl _

namespace Window

variable {w : Window} {c d : ResourceId}

theorem count_pushChild : (w.pushChild c).children.count d =
    w.children.count d + if d = c then 1 else 0 := by
  rw [pushChild, (List.perm_insertIdx c w.children (cowAwareTopIndex_le w)).count_eq,
    List.count_cons]
  simp only [beq_iff_eq, Eq.comm (a := c)]

theorem count_retainChildren {keep : ResourceId → Bool} :
    (w.retainChildren keep).children.count c = if keep c then w.children.count c else 0 := by
  rw [retainChildren]
  split
  · next h => exact List.count_filter h
  · next h => exact List.count_eq_zero.mpr fun hmem => h (List.mem_filter.mp hmem).2

theorem count_dropChild : (w.dropChild c).children.count d =
    if d = c then 0 else w.children.count d := by
  rw [dropChild, count_retainChildren]
  by_cases h : d = c <;> simp [h]

/-- Moving a child to another place in its list. -/
theorem perm_insertAt_removeAt {index place : Nat} (hc : w.children[index]? = some c)
    (hplace : place ≤ (w.removeAt index).children.length) :
    ((w.removeAt index).insertAt place c).children.Perm w.children := by
  obtain ⟨hlt, rfl⟩ := List.getElem?_eq_some_iff.mp hc
  exact (List.perm_insertIdx _ _ hplace).trans (List.getElem_cons_eraseIdx_perm hlt)

end Window

theorem applyRestack_perm {parent : Window} {index : Nat} {window : ResourceId}
    (hindex : parent.children[index]? = some window) (action : RestackAction) :
    (ResourceTable.applyRestack parent index window action).children.Perm parent.children := by
  cases action with
  | NoOp => exact .refl _
  | Top => exact Window.perm_insertAt_removeAt hindex (cowAwareTopIndex_le _)
  | Bottom => exact Window.perm_insertAt_removeAt hindex (Nat.zero_le _)
  | AboveSibling sibling =>
    refine Window.perm_insertAt_removeAt hindex ?_
    split
    · exact cowAwareTopIndex_le _
    · cases h : (parent.removeAt index).children.idxOf? sibling with
      | none => exact Nat.le_refl _
      | some i => exact (List.idxOf?_eq_some_iff.mp h).1
  | BelowSibling sibling =>
    refine Window.perm_insertAt_removeAt hindex ?_
    cases h : (parent.removeAt index).children.idxOf? sibling with
    | none => exact Nat.zero_le _
    | some i => exact Nat.le_of_lt (List.idxOf?_eq_some_iff.mp h).1

theorem applyRestack_parent {parent : Window} {index : Nat} {window : ResourceId}
    (action : RestackAction) :
    (ResourceTable.applyRestack parent index window action).parent = parent.parent := by
  cases action <;> rfl

namespace ResourceTable

/-- The tree that the window table stores. -/
def links (t : ResourceTable) : Links ResourceId where
  parent := t.parentOf
  children := t.childrenOf

def TreeWellFormed (t : ResourceTable) : Prop :=
  t.links.WellFormed ROOT_WINDOW

variable {t t' : ResourceTable} {id a c p : ResourceId} {w : Window} {f : Window → Window}

theorem links_parent : t.links.parent a = t.parentOf a :=
  rfl

theorem links_children : t.links.children a = t.childrenOf a :=
  rfl

theorem present_iff : t.links.Present a ↔ t.windows[a]? ≠ none :=
  parentOf_eq_none.not

theorem parentOf_of_get (hw : t.windows[a]? = some w) : t.parentOf a = some w.parent := by
  rw [parentOf, hw]
  rfl

theorem present_of_get (hw : t.windows[a]? = some w) : t.links.Present a :=
  Links.present_of_parent (parentOf_of_get hw)

theorem exists_of_parentOf (h : t.parentOf a = some p) :
    ∃ w, t.windows[a]? = some w ∧ w.parent = p :=
  Option.map_eq_some_iff.mp h

theorem childrenOf_of_get (hw : t.windows[a]? = some w) : t.childrenOf a = w.children := by
  rw [childrenOf, hw]
  rfl

theorem childrenOf_of_absent (h : t.windows[a]? = none) : t.childrenOf a = [] := by
  rw [childrenOf, h]
  rfl

theorem exists_of_mem_childrenOf (h : c ∈ t.childrenOf p) :
    ∃ parent, t.windows[p]? = some parent := by
  refine Option.ne_none_iff_exists'.mp fun hnone => ?_
  rw [childrenOf_of_absent hnone] at h
  exact nomatch h

theorem child_of_mem_childrenOf (h : c ∈ t.childrenOf p) : t.links.Child p c := by
  obtain ⟨parent, hparent⟩ := exists_of_mem_childrenOf h
  exact ⟨present_of_get hparent, h⟩

theorem exists_of_present (h : t.links.Present a) : ∃ w, t.windows[a]? = some w :=
  Option.ne_none_iff_exists'.mp (present_iff.mp h)

theorem TreeWellFormed.depth_lt (h : t.TreeWellFormed) {n : Nat}
    (ha : t.links.AtDepth ROOT_WINDOW a n) : n < t.windows.size := by
  rw [← Std.ExtTreeMap.length_keys]
  exact ha.lt_length h.root_present fun x hx => ResourceMap.mem_keys_iff.mpr (present_iff.mp hx)

/-! ## Changing one record -/

theorem parentOf_modifyWindow (hparent : ∀ w, (f w).parent = w.parent) :
    (t.modifyWindow id f).parentOf a = t.parentOf a := by
  rw [parentOf, get_modifyWindow, parentOf]
  split
  · cases t.windows[a]? <;> simp [hparent]
  · rfl

theorem childrenOf_modifyWindow_of_ne (h : a ≠ id) :
    (t.modifyWindow id f).childrenOf a = t.childrenOf a := by
  rw [childrenOf, get_modifyWindow, if_neg h, childrenOf]

theorem childrenOf_modifyWindow (hw : t.windows[id]? = some w) :
    (t.modifyWindow id f).childrenOf id = (f w).children := by
  rw [childrenOf, get_modifyWindow, if_pos rfl, hw]
  rfl

/-- A change that keeps the parent pointer and permutes the children. -/
theorem TreeWellFormed.modifyWindow (h : t.TreeWellFormed)
    (hparent : ∀ w, (f w).parent = w.parent)
    (hperm : ∀ w, t.windows[id]? = some w → (f w).children.Perm w.children) :
    (t.modifyWindow id f).TreeWellFormed := by
  refine h.reorder (fun x => parentOf_modifyWindow hparent) fun x hx y => ?_
  by_cases hxid : x = id
  · subst hxid
    obtain ⟨w, hw⟩ := exists_of_present hx
    rw [links_children, childrenOf_modifyWindow hw, (hperm w hw).count_eq, links_children,
      childrenOf_of_get hw]
  · rw [links_children, childrenOf_modifyWindow_of_ne hxid, links_children]

/-! ## The operations -/

theorem parentOf_default :
    default.parentOf a = if a = ROOT_WINDOW then some ROOT_WINDOW else none := by
  rw [parentOf, get_default]
  split <;> rfl

theorem childrenOf_default : default.childrenOf a = [] := by
  rw [childrenOf, get_default]
  split <;> rfl

theorem treeWellFormed_default : default.TreeWellFormed where
  root_parent := by rw [links_parent, parentOf_default, if_pos rfl]
  parent_present {a p} h := by
    rw [links_parent, parentOf_default] at h
    split at h
    · cases h
      rw [Links.Present, links_parent, parentOf_default, if_pos rfl]
      exact Option.some_ne_none _
    · cases h
  count_children {p} _ c := by
    rw [links_children, links_parent, childrenOf_default, parentOf_default, List.count_nil]
    refine (if_neg fun h => ?_).symm
    rw [if_neg h.1] at h
    cases h.2
  rooted {a} ha := by
    rw [Links.Present, links_parent, parentOf_default] at ha
    split at ha
    · next h => exact ⟨0, h ▸ .root⟩
    · exact absurd rfl ha

/-- A new record below a window that lists it. -/
theorem TreeWellFormed.addLeaf (h : t.TreeWellFormed) (new : Window) {parent : Window}
    (hnew : t.windows[c]? = none) (hp : t.windows[p]? = some parent)
    (hparent : new.parent = p) (hleaf : new.children = [])
    (hget : ∀ x, t'.windows[x]? = if x = c then some new
      else if x = p then some (parent.pushChild c) else t.windows[x]?) :
    t'.TreeWellFormed := by
  have habsent : ¬ t.links.Present c := present_iff.not_left.mpr hnew
  have hpresent : t.links.Present p := present_of_get hp
  refine h.insertLeaf habsent hpresent (fun x => ?_) ?_ fun x hx y => ?_
  · rw [links_parent, parentOf, hget]
    split
    · rw [Option.map_some, hparent]
    · split
      · next hxp => rw [links_parent, hxp, parentOf_of_get hp]; rfl
      · rfl
  · rw [links_children, childrenOf, hget, if_pos rfl]
    exact hleaf
  · have hxc : x ≠ c := fun heq => habsent (heq ▸ hx)
    rw [links_children, childrenOf, hget, if_neg hxc]
    split
    · next hxp =>
      subst hxp
      rw [Option.elim_some, Window.count_pushChild, links_children, childrenOf_of_get hp]
      simp
    · next hxp => simp [links_children, childrenOf, hxp]

theorem get_createWindow {owner : ClientId} {request : CreateWindowRequest} {parent : Window}
    (hp : t.windows[request.parent]? = some parent) :
    (t.createWindow owner request).windows[a]? =
      if a = request.window then some (t.newWindow owner request)
      else if a = request.parent then some (parent.pushChild request.window)
      else t.windows[a]? := by
  rw [createWindow, ResourceMap.get_insert, ResourceMap.get_insert, hp]
  rfl

theorem TreeWellFormed.createWindow (h : t.TreeWellFormed) (owner : ClientId)
    {request : CreateWindowRequest} (hnew : t.windows[request.window]? = none)
    (hparent : t.windows[request.parent]? ≠ none) :
    (t.createWindow owner request).TreeWellFormed := by
  obtain ⟨parent, hp⟩ := Option.ne_none_iff_exists'.mp hparent
  exact h.addLeaf (t.newWindow owner request) hnew hp rfl rfl fun x => get_createWindow hp

theorem TreeWellFormed.materializeCowResource (h : t.TreeWellFormed) {hostXid : Handle}
    (ht : t.materializeCowResource hostXid = some t') : t'.TreeWellFormed := by
  rw [ResourceTable.materializeCowResource] at ht
  split at ht
  · cases ht
  next hcontains =>
  obtain rfl := Option.some.inj ht
  have hnew : t.windows[COMPOSITE_OVERLAY_WINDOW]? = none := by
    rw [Std.ExtTreeMap.contains_iff_mem, ResourceMap.mem_iff, not_not] at hcontains
    exact hcontains
  obtain ⟨root, hroot⟩ := exists_of_present h.root_present
  refine h.addLeaf (t.cowWindow hostXid) hnew hroot rfl rfl fun x => ?_
  rw [get_modifyWindow, ResourceMap.get_insert]
  by_cases hx : x = ROOT_WINDOW
  · subst hx
    rw [hroot]
    rfl
  · rw [if_neg hx, if_neg hx]

/-- The overlay is gone, or it is a leaf below the root. -/
def CowRemovable (t : ResourceTable) : Prop :=
  ∀ cow, t.windows[COMPOSITE_OVERLAY_WINDOW]? = some cow →
    cow.parent = ROOT_WINDOW ∧ cow.children = []

theorem get_destroyCowResource : t.destroyCowResource.windows[a]? =
    if a = COMPOSITE_OVERLAY_WINDOW then none
    else if a = ROOT_WINDOW then t.windows[a]?.map (·.dropChild COMPOSITE_OVERLAY_WINDOW)
    else t.windows[a]? := by
  rw [destroyCowResource, ResourceMap.get_erase, get_modifyWindow]

theorem TreeWellFormed.destroyCowResource (h : t.TreeWellFormed) (hcow : t.CowRemovable) :
    t.destroyCowResource.TreeWellFormed := by
  refine h.prune (· = COMPOSITE_OVERLAY_WINDOW) (by decide) ?_ (fun x => ?_)
    fun x hx hkept y => ?_
  · rintro x y rfl ⟨hx, hy⟩
    obtain ⟨cow, hget⟩ := exists_of_present hx
    rw [links_children, childrenOf_of_get hget, (hcow cow hget).2] at hy
    cases hy
  · rw [links_parent, parentOf, get_destroyCowResource, links_parent, parentOf]
    split
    · rfl
    · split
      · rw [Option.map_map]
        rfl
      · rfl
  · obtain ⟨w, hw⟩ := exists_of_present hx
    rw [links_children, childrenOf, get_destroyCowResource, if_neg hkept, hw]
    split
    · rw [Option.map_some, Option.elim_some, Window.count_dropChild, links_children,
        childrenOf_of_get hw]
    · next hroot =>
      rw [Option.elim_some, links_children, childrenOf_of_get hw]
      split
      · next hy =>
        -- a window other than the root does not list the overlay
        subst hy
        refine List.count_eq_zero.mpr fun hmem => hroot ?_
        rw [← childrenOf_of_get hw, ← links_children, h.mem_children hx, links_parent] at hmem
        obtain ⟨cow, hget⟩ := exists_of_present (Links.present_of_parent hmem.2)
        rw [parentOf_of_get hget, (hcow cow hget).1] at hmem
        exact (Option.some.inj hmem.2).symm
      · rfl

/-- The condition is exact: a child of the overlay loses its parent, and a
parent other than the root keeps the overlay in its list. -/
theorem TreeWellFormed.destroyCowResource_iff (h : t.TreeWellFormed) :
    t.destroyCowResource.TreeWellFormed ↔ t.CowRemovable := by
  refine ⟨fun hafter cow hcow => ?_, h.destroyCowResource⟩
  have hpresent : t.links.Present COMPOSITE_OVERLAY_WINDOW := present_of_get hcow
  have hparent : t.links.parent COMPOSITE_OVERLAY_WINDOW = some cow.parent :=
    parentOf_of_get hcow
  have hgone : ¬ t.destroyCowResource.links.Present COMPOSITE_OVERLAY_WINDOW :=
    present_iff.not_left.mpr (by rw [get_destroyCowResource, if_pos rfl])
  have hcowroot : COMPOSITE_OVERLAY_WINDOW ≠ ROOT_WINDOW := by decide
  constructor
  · by_contra hne
    obtain ⟨p, hp⟩ := exists_of_present (h.parent_present hparent)
    have hlist : COMPOSITE_OVERLAY_WINDOW ∈ t.links.children cow.parent :=
      (h.mem_children (h.parent_present hparent)).mpr ⟨hcowroot, hparent⟩
    have hp' : t.destroyCowResource.windows[cow.parent]? = some p := by
      rw [get_destroyCowResource, if_neg (h.parent_ne hcowroot hparent), if_neg hne, hp]
    rw [links_children, childrenOf_of_get hp, ← childrenOf_of_get hp', ← links_children,
      hafter.mem_children (present_of_get hp')] at hlist
    exact hgone (Links.present_of_parent hlist.2)
  · refine List.eq_nil_iff_forall_not_mem.mpr fun c hc => ?_
    rw [← childrenOf_of_get hcow, ← links_children, h.mem_children hpresent] at hc
    have hc' : t.destroyCowResource.links.parent c = some COMPOSITE_OVERLAY_WINDOW := by
      have hne : c ≠ COMPOSITE_OVERLAY_WINDOW := (h.parent_ne hc.1 hc.2).symm
      rw [links_parent, parentOf, get_destroyCowResource, if_neg hne, if_neg hc.1]
      exact hc.2
    exact hgone (hafter.parent_present hc')

theorem TreeWellFormed.destroyWindow (h : t.TreeWellFormed) (id : ResourceId) :
    (t.destroyWindow id).1.TreeWellFormed := by
  obtain ⟨hpruned, hswept, -⟩ := destroyWindow_destroys t id
  generalize t.destroyWindow id = result at hpruned hswept
  obtain ⟨t', destroyed⟩ := result
  refine h.prune (· ∈ destroyed) (fun hroot => ?_) (fun {x y} hx hchild => ?_)
    (fun x => hpruned.parentOf_eq) fun x hx hkept y => ?_
  · exact ((hswept.destroyable _ hroot).resolve_left List.not_mem_nil).1 rfl
  · obtain ⟨hne, hparent⟩ := h.child_iff.mp hchild
    exact (hswept.closed x hx).resolve_left List.not_mem_nil y hchild.2
      ⟨hne, present_iff.mp (Links.present_of_parent hparent)⟩
  · obtain ⟨w, hw⟩ := exists_of_present hx
    rw [links_children, childrenOf, hpruned.get, if_neg hkept, hw, Option.map_some,
      Option.elim_some, keepChildren, Window.count_retainChildren, links_children,
      childrenOf_of_get hw]
    by_cases hy : y ∈ destroyed
    · rw [if_pos hy]
      split
      · next hparent =>
        refine List.count_eq_zero.mpr fun hmem => ?_
        rw [← childrenOf_of_get hw, ← links_children, h.mem_children hx, links_parent] at hmem
        simp [hy, hmem.2] at hparent
      · rfl
    · simp [hy]

theorem TreeWellFormed.restackWindow (h : t.TreeWellFormed) (id : ResourceId)
    (sibling : Option ResourceId) (stackMode : Option UInt8) :
    (t.restackWindow id sibling stackMode).TreeWellFormed := by
  unfold ResourceTable.restackWindow
  split
  · exact h
  split
  · exact h
  split
  · exact h
  · next action _ =>
    refine h.modifyWindow (fun w => ?_) fun w _ => ?_
    · split
      · rfl
      · exact applyRestack_parent action
    · split
      · exact .refl _
      · next hindex =>
        obtain ⟨hlt, heq, -⟩ := List.idxOf?_eq_some_iff.mp hindex
        exact applyRestack_perm (List.getElem?_eq_some_iff.mpr ⟨hlt, heq⟩) action

theorem TreeWellFormed.configureWindow (h : t.TreeWellFormed) (request : ConfigureWindowRequest) :
    (t.configureWindow request).1.TreeWellFormed := by
  unfold ResourceTable.configureWindow
  split
  · refine TreeWellFormed.restackWindow ?_ ..
    exact h.modifyWindow (fun _ => rfl) fun _ _ => .refl _
  · exact h

theorem TreeWellFormed.circulateWindow (h : t.TreeWellFormed) (container : ResourceId)
    (direction : UInt8) : (t.circulateWindow container direction).1.TreeWellFormed := by
  unfold ResourceTable.circulateWindow
  split
  · exact h
  next parent hparent =>
  -- taking the child at `index` out and putting it in at `place`
  have hrotate : ∀ {index place : Nat} {child : ResourceId},
      parent.children[index]? = some child → place < parent.children.length →
      (t.modifyWindow container fun p =>
        (p.removeAt index).insertAt place child).TreeWellFormed := by
    intro index place child hchild hplace
    refine h.modifyWindow (fun _ => rfl) fun w hw => ?_
    rw [hparent] at hw
    cases hw
    refine Window.perm_insertAt_removeAt hchild ?_
    have hlt := (List.getElem?_eq_some_iff.mp hchild).1
    rw [Window.removeAt, List.length_eraseIdx_of_lt hlt]
    omega
  have htop : (if container = ROOT_WINDOW then cowAwareTopIndex parent
      else parent.children.length) ≤ parent.children.length := by
    split
    · exact cowAwareTopIndex_le parent
    · exact Nat.le_refl _
  generalize (if container = ROOT_WINDOW then cowAwareTopIndex parent
    else parent.children.length) = top at htop
  dsimp only
  split
  · exact h
  split
  · split
    · exact h
    · next hlast => exact hrotate hlast (by omega)
  split
  · split
    · exact h
    · next hfirst => exact hrotate hfirst (by omega)
  · exact h

/-! ## Reparenting -/

theorem TreeWellFormed.below_root (h : t.TreeWellFormed) (ha : t.links.Below a ROOT_WINDOW) :
    a = ROOT_WINDOW := by
  rcases Relation.ReflTransGen.cases_tail ha with heq | ⟨q, -, hq⟩
  · exact heq.symm
  · exact absurd rfl (h.child_iff.mp hq).1

/-- The walk to the root meets every window above its start, given as many
rounds as the start is deep. -/
theorem TreeWellFormed.isDescendantOfFrom (h : t.TreeWellFormed) {n rounds : Nat}
    (hdepth : t.links.AtDepth ROOT_WINDOW c n) (hrounds : n < rounds)
    (hbelow : t.links.Below a c) (hne : c ≠ a) : t.isDescendantOfFrom a rounds c = true := by
  induction hdepth generalizing rounds with
  | root => exact absurd (h.below_root hbelow).symm hne
  | @step c p n hroot hp hrest ih =>
    obtain ⟨w, hw⟩ := exists_of_present (Links.present_of_parent hp)
    rw [links_parent, parentOf_of_get hw, Option.some.injEq] at hp
    cases rounds with
    | zero => omega
    | succ rounds =>
      rw [ResourceTable.isDescendantOfFrom, if_neg hroot, hw]
      dsimp only
      by_cases hpa : p = a
      · rw [if_pos (hp.trans hpa)]
      have hstep : t.links.parent c = some p := by rw [links_parent, parentOf_of_get hw, hp]
      rw [hp, if_neg hpa, if_neg (h.parent_ne hroot hstep)]
      exact ih (by omega) (h.below_parent hbelow hne hstep) hpa

theorem TreeWellFormed.not_below (h : t.TreeWellFormed) (hp : t.windows[p]? ≠ none)
    (hne : c ≠ p) (hwalk : t.isDescendantOf p c = false) : ¬ t.links.Below c p := by
  intro hbelow
  obtain ⟨n, hn⟩ := h.rooted (present_iff.mpr hp)
  have hlt := h.depth_lt hn
  rw [isDescendantOf, h.isDescendantOfFrom hn (by omega) hbelow hne.symm] at hwalk
  cases hwalk

/-- The table after a successful reparent. -/
def reparented (t : ResourceTable) (request : ReparentWindowRequest) (oldParent : ResourceId) :
    ResourceTable :=
  ((t.modifyWindow oldParent (·.dropChild request.window)).modifyWindow request.parent
    (·.pushChild request.window)).modifyWindow request.window fun w =>
      { w with parent := request.parent, x := request.x, y := request.y }

/-- The record of one window after a successful reparent. -/
def reparentRecord (request : ReparentWindowRequest) (oldParent id : ResourceId) (w : Window) :
    Window :=
  let w := if id = oldParent then w.dropChild request.window else w
  let w := if id = request.parent then w.pushChild request.window else w
  if id = request.window then { w with parent := request.parent, x := request.x, y := request.y }
  else w

theorem get_reparented {request : ReparentWindowRequest} {oldParent : ResourceId} :
    (t.reparented request oldParent).windows[a]? =
      t.windows[a]?.map (reparentRecord request oldParent a) := by
  rw [reparented, get_modifyWindow_map, get_modifyWindow_map, get_modifyWindow_map,
    Option.map_map, Option.map_map]
  rfl

theorem reparentRecord_parent {request : ReparentWindowRequest} {oldParent : ResourceId} :
    (reparentRecord request oldParent a w).parent =
      if a = request.window then request.parent else w.parent := by
  unfold reparentRecord
  dsimp only
  repeat' split
  all_goals rfl

theorem count_reparentRecord {request : ReparentWindowRequest} {oldParent : ResourceId} :
    (reparentRecord request oldParent a w).children.count c =
      (if c = request.window ∧ a = oldParent then 0 else w.children.count c) +
        if c = request.window ∧ a = request.parent then 1 else 0 := by
  have hmoved : (reparentRecord request oldParent a w).children =
      (if a = request.parent then
        (if a = oldParent then w.dropChild request.window else w).pushChild request.window
      else if a = oldParent then w.dropChild request.window else w).children := by
    unfold reparentRecord
    dsimp only
    split <;> rfl
  have hdropped : (if a = oldParent then w.dropChild request.window else w).children.count c =
      if c = request.window ∧ a = oldParent then 0 else w.children.count c := by
    split
    · next ho => simp only [Window.count_dropChild, ho, and_true]
    · next ho => simp only [ho, and_false, if_false]
  rw [hmoved]
  split
  · next hp => rw [Window.count_pushChild, hdropped]; simp only [hp, and_true]
  · next hp => rw [hdropped]; simp only [hp, and_false, if_false, Nat.add_zero]

/-- The requests that are answered with an error. -/
def ReparentRefused (t : ResourceTable) (request : ReparentWindowRequest) : Prop :=
  request.window = ROOT_WINDOW ∨ request.window = request.parent ∨
    t.isDescendantOf request.parent request.window = true ∨
    t.windows[request.window]? = none ∨ t.windows[request.parent]? = none

theorem reparentWindow_refused {request : ReparentWindowRequest}
    (h : t.ReparentRefused request) : (t.reparentWindow request).1 = t := by
  unfold reparentWindow
  split
  · rfl
  next hguard =>
  split
  · rfl
  next window hwindow =>
  split
  · rfl
  next hparent =>
  simp only [Bool.or_eq_true, decide_eq_true_eq, not_or] at hguard
  simp only [Bool.not_eq_true', Bool.not_eq_false, Std.ExtTreeMap.contains_iff_mem,
    ResourceMap.mem_iff] at hparent
  rcases h with h | h | h | h | h
  · exact absurd h hguard.1.1
  · exact absurd h hguard.1.2
  · exact absurd h hguard.2
  · rw [hwindow] at h
    cases h
  · exact absurd h hparent

theorem reparentWindow_accepted {request : ReparentWindowRequest}
    (h : ¬ t.ReparentRefused request) : ∃ window, t.windows[request.window]? = some window ∧
      (t.reparentWindow request).1 = t.reparented request window.parent := by
  simp only [ReparentRefused, not_or] at h
  obtain ⟨hroot, hself, hwalk, hwindow, hparent⟩ := h
  obtain ⟨window, hw⟩ := Option.ne_none_iff_exists'.mp hwindow
  refine ⟨window, hw, ?_⟩
  have hcontains : t.windows.contains request.parent = true :=
    Std.ExtTreeMap.contains_iff_mem.mpr (ResourceMap.mem_iff.mpr hparent)
  simp only [reparentWindow, hroot, hself, hwalk, hw, hcontains, decide_false, Bool.or_self,
    Bool.not_true, Bool.false_eq_true, if_false]
  rfl

theorem TreeWellFormed.reparentWindow (h : t.TreeWellFormed) (request : ReparentWindowRequest) :
    (t.reparentWindow request).1.TreeWellFormed := by
  by_cases hrefused : t.ReparentRefused request
  · rw [reparentWindow_refused hrefused]
    exact h
  obtain ⟨window, hw, heq⟩ := reparentWindow_accepted hrefused
  simp only [ReparentRefused, not_or, Bool.not_eq_true] at hrefused
  obtain ⟨hroot, hne, hwalk, -, hp⟩ := hrefused
  rw [heq]
  have hc : t.links.Present request.window := present_of_get hw
  refine h.move hc hroot (present_iff.mpr hp) (h.not_below hp hne hwalk) (fun x => ?_)
    fun x hx y => ?_
  · rw [links_parent, links_parent, parentOf, get_reparented]
    split
    · next hxc => rw [hxc, hw, Option.map_some, Option.map_some, reparentRecord_parent, if_pos rfl]
    · next hxc =>
      rw [Option.map_map, parentOf]
      refine congrFun (congrArg Option.map (funext fun v => ?_)) _
      rw [Function.comp_apply, reparentRecord_parent, if_neg hxc]
  · obtain ⟨v, hv⟩ := exists_of_present hx
    rw [links_children, childrenOf, get_reparented, hv, Option.map_some, Option.elim_some,
      count_reparentRecord, ← childrenOf_of_get hv, ← links_children, h.count_children hx]
    by_cases hy : y = request.window
    · -- only the old parent lists the window
      subst hy
      simp only [true_and, ne_eq, hroot, not_false_eq_true, links_parent, parentOf_of_get hw,
        Option.some.injEq, if_true]
      by_cases hxp : x = window.parent
      · simp [hxp]
      · simp [hxp, Ne.symm hxp]
    · simp [hy]

/-! ## The invariant over runs -/

/-- Some steps up the parent pointers. -/
def climb (t : ResourceTable) : Nat → ResourceId → Option ResourceId
  | 0, id => some id
  | n + 1, id => (t.parentOf id).bind (t.climb n)

/-- The stored links form one tree below the root. -/
structure WindowTreeInvariant (t : ResourceTable) : Prop where
  parent_known : ∀ {id : ResourceId} {w : Window}, t.windows[id]? = some w →
    t.windows.contains w.parent
  listed_once : ∀ {p c : ResourceId} {parent : Window}, t.windows[p]? = some parent →
    c ≠ ROOT_WINDOW → t.parentOf c = some p → parent.children.count c = 1
  listed_nowhere_else : ∀ {p c : ResourceId} {parent : Window}, t.windows[p]? = some parent →
    c ∈ parent.children → c ≠ ROOT_WINDOW ∧ t.parentOf c = some p
  reaches_root : ∀ {id : ResourceId} {w : Window}, t.windows[id]? = some w →
    ∃ n, t.climb n id = some ROOT_WINDOW

theorem climb_of_atDepth {n : Nat} (h : t.links.AtDepth ROOT_WINDOW a n) :
    t.climb n a = some ROOT_WINDOW := by
  induction h with
  | root => rfl
  | step _ hp _ ih => rw [climb, ← links_parent, hp, Option.bind_some, ih]

theorem TreeWellFormed.invariant (h : t.TreeWellFormed) : t.WindowTreeInvariant where
  parent_known hw := by
    rw [Std.ExtTreeMap.contains_iff_mem, ResourceMap.mem_iff, ← present_iff]
    exact h.parent_present (parentOf_of_get hw)
  listed_once hp hc hparent := by
    rw [← childrenOf_of_get hp, ← links_children,
      h.count_children (present_of_get hp), if_pos ⟨hc, hparent⟩]
  listed_nowhere_else hp hmem := by
    rw [← childrenOf_of_get hp] at hmem
    exact (h.mem_children (present_of_get hp)).mp hmem
  reaches_root hw := by
    obtain ⟨n, hn⟩ := h.rooted (present_of_get hw)
    exact ⟨n, climb_of_atDepth hn⟩

/-- The operations on the tree. -/
inductive TreeOp where
  | createWindow (owner : ClientId) (request : CreateWindowRequest)
  | destroyWindow (id : ResourceId)
  | reparentWindow (request : ReparentWindowRequest)
  | configureWindow (request : ConfigureWindowRequest)
  | circulateWindow (container : ResourceId) (direction : UInt8)
  | materializeCowResource (hostXid : Handle)
  | destroyCowResource

/-- The table after an operation, unless it panics. -/
def TreeOp.apply (t : ResourceTable) : TreeOp → Option ResourceTable
  | .createWindow owner request => some (t.createWindow owner request)
  | .destroyWindow id => some (t.destroyWindow id).1
  | .reparentWindow request => some (t.reparentWindow request).1
  | .configureWindow request => some (t.configureWindow request).1
  | .circulateWindow container direction => some (t.circulateWindow container direction).1
  | .materializeCowResource hostXid => t.materializeCowResource hostXid
  | .destroyCowResource => some t.destroyCowResource

/-- Windows are created with an unused id below an existing parent. -/
def TreeOp.CreatesFresh (t : ResourceTable) : TreeOp → Prop
  | .createWindow _ request =>
    t.windows[request.window]? = none ∧ t.windows[request.parent]? ≠ none
  | _ => True

/-- In addition the overlay is torn down only as a leaf below the root. -/
def TreeOp.ReleasesLeaf (t : ResourceTable) (op : TreeOp) : Prop :=
  op.CreatesFresh t ∧ (op = .destroyCowResource → t.CowRemovable)

/-- The tables that operations admitted in their states lead to. -/
inductive TreeReachable (admitted : ResourceTable → TreeOp → Prop) : ResourceTable → Prop
  | init : TreeReachable admitted default
  | step {t t' : ResourceTable} (op : TreeOp) (before : TreeReachable admitted t)
      (allowed : admitted t op) (applied : op.apply t = some t') : TreeReachable admitted t'

theorem TreeWellFormed.step (h : t.TreeWellFormed) {op : TreeOp} (hop : op.ReleasesLeaf t)
    (ht : op.apply t = some t') : t'.TreeWellFormed := by
  cases op with
  | createWindow owner request =>
    cases ht
    exact h.createWindow owner hop.1.1 hop.1.2
  | destroyWindow id =>
    cases ht
    exact h.destroyWindow id
  | reparentWindow request =>
    cases ht
    exact h.reparentWindow request
  | configureWindow request =>
    cases ht
    exact h.configureWindow request
  | circulateWindow container direction =>
    cases ht
    exact h.circulateWindow container direction
  | materializeCowResource hostXid => exact h.materializeCowResource ht
  | destroyCowResource =>
    cases ht
    exact h.destroyCowResource (hop.2 rfl)

theorem TreeReachable.treeWellFormed (h : TreeReachable TreeOp.ReleasesLeaf t) :
    t.TreeWellFormed := by
  induction h with
  | init => exact treeWellFormed_default
  | step op _ hop ht ih => exact ih.step hop ht

/-- In every table reached, the stored links form one tree. -/
theorem windowTree_wellFormed (h : TreeReachable TreeOp.ReleasesLeaf t) :
    t.WindowTreeInvariant :=
  h.treeWellFormed.invariant

/-- A window of the root's visual below `parent`. -/
def childRequest (window parent : ResourceId) : CreateWindowRequest :=
  { CreateWindowRequest.default with window := window, parent := parent, width := 1, height := 1 }

def restackRequest (window : ResourceId) (sibling : Option ResourceId) (stackMode : UInt8) :
    ConfigureWindowRequest where
  window := window
  x := none
  y := none
  width := none
  height := none
  borderWidth := none
  sibling := sibling
  stackMode := some stackMode

theorem cowRemovable_of_get
    (h : t.windows[COMPOSITE_OVERLAY_WINDOW]?.map (fun cow => (cow.parent, cow.children)) =
      some (ROOT_WINDOW, [])) : t.CowRemovable := by
  intro cow hcow
  rw [hcow, Option.map_some, Option.some.injEq] at h
  exact Prod.mk.inj h

/-- A window is moved below another one, its new parent is put below its sibling, and the overlay
is torn down above them. -/
theorem windowTree_wellFormed_stacked :
    ∃ t, TreeReachable TreeOp.ReleasesLeaf t ∧ t.WindowTreeInvariant ∧
      t.childrenOf ROOT_WINDOW = [0x200001, 0x200000] ∧ t.childrenOf 0x200001 = [0x200002] ∧
      t.childrenOf 0x200000 = [] := by
  have hcreated : TreeReachable TreeOp.ReleasesLeaf _ :=
    .step (.createWindow 1 (childRequest 0x200002 0x200000))
      (.step (.createWindow 1 (childRequest 0x200001 ROOT_WINDOW))
        (.step (.createWindow 1 (childRequest 0x200000 ROOT_WINDOW))
          (.step (.materializeCowResource 1) .init ⟨trivial, fun h => by cases h⟩ rfl)
          ⟨⟨by decide, by decide⟩, fun h => by cases h⟩ rfl)
        ⟨⟨by decide, by decide⟩, fun h => by cases h⟩ rfl)
      ⟨⟨by decide, by decide⟩, fun h => by cases h⟩ rfl
  have hstacked : TreeReachable TreeOp.ReleasesLeaf _ :=
    .step (.configureWindow (restackRequest 0x200001 (some 0x200000) 1))
      (.step (.reparentWindow ⟨0x200002, 0x200001, 3, 4⟩) hcreated
        ⟨trivial, fun h => by cases h⟩ rfl)
      ⟨trivial, fun h => by cases h⟩ rfl
  have hrun : TreeReachable TreeOp.ReleasesLeaf _ :=
    .step .destroyCowResource hstacked ⟨trivial, fun _ => cowRemovable_of_get (by decide)⟩ rfl
  exact ⟨_, hrun, windowTree_wellFormed hrun, by decide, by decide, by decide⟩

/-- A window created below the overlay keeps its parent pointer when the
overlay is torn down. -/
theorem windowTree_orphan : ∃ t, TreeReachable TreeOp.CreatesFresh t ∧ ¬ t.WindowTreeInvariant := by
  have hrun : TreeReachable TreeOp.CreatesFresh _ :=
    .step .destroyCowResource
      (.step (.createWindow 1 (childRequest 0x200000 COMPOSITE_OVERLAY_WINDOW))
        (.step (.materializeCowResource 1) .init trivial rfl)
        ⟨by decide, by decide⟩ rfl)
      trivial rfl
  refine ⟨_, hrun, fun h => ?_⟩
  have hknown := @h.parent_known 0x200000 _ (Option.some_get (by decide)).symm
  revert hknown
  decide

end ResourceTable

end X12

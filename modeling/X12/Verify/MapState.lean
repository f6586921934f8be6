import X12.Verify.WindowTree

/-! # Map states

Whether a window is Viewable depends on all of its ancestors, but each
operation looks at one window and its parent. The local rule, which compares a
mapped window with its parent only, is equivalent to the global one; mapping
restores it by promoting what is below, while unmapping and reparenting leave
the windows below as they were. -/

namespace X12

open Forest

namespace ResourceTable

variable {t t' t₁ t₂ : ResourceTable} {id a c p x : ResourceId} {w : Window}

/-- A proper ancestor, found by following parent pointers up to the root. -/
def Ancestor (t : ResourceTable) : ResourceId → ResourceId → Prop :=
  Relation.TransGen fun x p => x ≠ ROOT_WINDOW ∧ t.parentOf x = some p

def IsMapped (t : ResourceTable) (id : ResourceId) : Prop :=
  ∃ w, t.windows[id]? = some w ∧ w.mapState ≠ .Unmapped

/-- Every window has the state that its own mapping and its ancestors give it. -/
structure MapStateExact (t : ResourceTable) : Prop where
  viewable_iff : ∀ {id : ResourceId} {w : Window}, t.windows[id]? = some w →
    (w.mapState = .Viewable ↔
      w.mapState ≠ .Unmapped ∧ ∀ a, t.Ancestor id a → t.isViewable a)
  unviewable_iff : ∀ {id : ResourceId} {w : Window}, t.windows[id]? = some w →
    (w.mapState = .Unviewable ↔
      w.mapState ≠ .Unmapped ∧ ∃ a, t.Ancestor id a ∧ ¬ t.isViewable a)

/-- The state that a mapped window has below `parent`. -/
def stateBelow (t : ResourceTable) (parent : ResourceId) : MapState :=
  if t.isViewable parent then .Viewable else .Unviewable

/-- The local rule at one window. -/
def FollowsParent (t : ResourceTable) (w : Window) : Prop :=
  w.mapState = .Unmapped ∨ w.mapState = t.stateBelow w.parent

/-- The root is Viewable and every other mapped window follows its parent. -/
structure MapStateLocal (t : ResourceTable) : Prop where
  root : t.isViewable ROOT_WINDOW
  follows : ∀ {id : ResourceId} {w : Window}, t.windows[id]? = some w → id ≠ ROOT_WINDOW →
    t.FollowsParent w

theorem isViewable_of_get (hw : t.windows[id]? = some w) :
    t.isViewable id = true ↔ w.mapState = .Viewable := by
  rw [isViewable, hw]
  simp

theorem isMapped_of_isViewable (h : t.isViewable id = true) : t.IsMapped id := by
  unfold isViewable at h
  cases hw : t.windows[id]? with
  | none => simp [hw] at h
  | some w => exact ⟨w, hw, by simp_all⟩

theorem stateBelow_eq_viewable : t.stateBelow p = .Viewable ↔ t.isViewable p = true := by
  unfold stateBelow
  split <;> simp_all

/-- What the local rule says about a mapped window. -/
theorem MapStateLocal.viewable_iff_parent (h : t.MapStateLocal) (hw : t.windows[id]? = some w)
    (hid : id ≠ ROOT_WINDOW) (hmapped : w.mapState ≠ .Unmapped) :
    w.mapState = .Viewable ↔ t.isViewable w.parent = true := by
  rw [(h.follows hw hid).resolve_left hmapped, stateBelow_eq_viewable]

theorem MapStateLocal.ancestor_viewable (h : t.MapStateLocal) (hid : t.isViewable id = true)
    (ha : t.Ancestor id a) : t.isViewable a = true := by
  have hup : ∀ {x p}, t.isViewable x = true → x ≠ ROOT_WINDOW ∧ t.parentOf x = some p →
      t.isViewable p = true := by
    rintro x p hx ⟨hroot, hp⟩
    obtain ⟨w, hw, rfl⟩ := exists_of_parentOf hp
    have hview := (isViewable_of_get hw).mp hx
    exact (h.viewable_iff_parent hw hroot (by simp [hview])).mp hview
  induction ha with
  | single hstep => exact hup hid hstep
  | tail _ hstep ih => exact hup ih hstep

theorem Ancestor.parent (hw : t.windows[id]? = some w) (hid : id ≠ ROOT_WINDOW) :
    t.Ancestor id w.parent :=
  .single ⟨hid, parentOf_of_get hw⟩

/-- The ancestors of a window are its parent and the parent's ancestors. -/
theorem Ancestor.cases (hw : t.windows[id]? = some w) (ha : t.Ancestor id a) :
    id ≠ ROOT_WINDOW ∧ (a = w.parent ∨ t.Ancestor w.parent a) := by
  rcases Relation.TransGen.head'_iff.mp ha with ⟨p, ⟨hid, hp⟩, hrest⟩
  rw [parentOf_of_get hw, Option.some.injEq] at hp
  subst hp
  rcases Relation.reflTransGen_iff_eq_or_transGen.mp hrest with heq | hrest
  · exact ⟨hid, .inl heq⟩
  · exact ⟨hid, .inr hrest⟩

theorem MapStateLocal.all_viewable_iff (h : t.MapStateLocal) (hw : t.windows[id]? = some w)
    (hmapped : w.mapState ≠ .Unmapped) :
    w.mapState = .Viewable ↔ ∀ a, t.Ancestor id a → t.isViewable a = true := by
  refine ⟨fun hv a => h.ancestor_viewable ((isViewable_of_get hw).mpr hv), fun hall => ?_⟩
  by_cases hid : id = ROOT_WINDOW
  · subst hid
    exact (isViewable_of_get hw).mp h.root
  · exact (h.viewable_iff_parent hw hid hmapped).mpr (hall _ (.parent hw hid))

/-- The local rule gives the global one. -/
theorem MapStateLocal.exact (h : t.MapStateLocal) : t.MapStateExact where
  viewable_iff {id w} hw := by
    by_cases hmapped : w.mapState = .Unmapped
    · simp [hmapped]
    · rw [h.all_viewable_iff hw hmapped]
      exact (and_iff_right hmapped).symm
  unviewable_iff {id w} hw := by
    by_cases hmapped : w.mapState = .Unmapped
    · simp [hmapped]
    have hview := h.all_viewable_iff hw hmapped
    have hother : w.mapState = .Unviewable ↔ ¬ w.mapState = .Viewable := by
      cases hstate : w.mapState <;> simp_all
    rw [hother, hview, not_forall, and_iff_right hmapped]
    exact exists_congr fun a => Classical.not_imp

/-- The global rule gives the local one in a tree. -/
theorem MapStateExact.isLocal (h : t.MapStateExact) (hwf : t.TreeWellFormed)
    (hroot : t.isViewable ROOT_WINDOW = true) : t.MapStateLocal where
  root := hroot
  follows {id w} hw hid := by
    by_cases hmapped : w.mapState = .Unmapped
    · exact .inl hmapped
    refine .inr ?_
    obtain ⟨parent, hp⟩ := exists_of_present (hwf.parent_present (parentOf_of_get hw))
    unfold stateBelow
    split
    · next hview =>
      refine (h.viewable_iff hw).mpr ⟨hmapped, fun a ha => ?_⟩
      rcases (ha.cases hw).2 with rfl | ha
      · exact hview
      · exact ((h.viewable_iff hp).mp ((isViewable_of_get hp).mp hview)).2 a ha
    · next hview => exact (h.unviewable_iff hw).mpr ⟨hmapped, _, .parent hw hid, hview⟩

/-! ## Promotion -/

theorem promoteWindow_links (w : Window) :
    (promoteWindow w).parent = w.parent ∧ (promoteWindow w).children = w.children := by
  unfold promoteWindow
  split <;> exact ⟨rfl, rfl⟩

theorem promoteWindow_unmapped : (promoteWindow w).mapState = .Unmapped ↔ w.mapState = .Unmapped := by
  unfold promoteWindow
  split <;> simp_all

theorem promoteWindow_viewable :
    (promoteWindow w).mapState = .Viewable ↔ w.mapState ≠ .Unmapped := by
  unfold promoteWindow
  cases h : w.mapState <;> simp [h]

theorem promoteWindow_promoteWindow : promoteWindow (promoteWindow w) = promoteWindow w := by
  unfold promoteWindow
  cases h : w.mapState <;> simp [h]

/-- `t'` is `t` with the windows of a set promoted. -/
structure Promoted (t t' : ResourceTable) (S : ResourceId → Prop) : Prop where
  inside : ∀ {x}, S x → t'.windows[x]? = t.windows[x]?.map promoteWindow
  outside : ∀ {x}, ¬ S x → t'.windows[x]? = t.windows[x]?
  size : t'.windows.size = t.windows.size

/-- A window that can be reached from above through mapped windows only. -/
def MappedBelow (t : ResourceTable) : ResourceId → ResourceId → Prop :=
  Relation.TransGen fun p c => c ∈ t.childrenOf p ∧ t.IsMapped c

theorem mappedBelow_iff_parent (h : t.TreeWellFormed) (hp : t.parentOf x = some p) :
    t.MappedBelow id x ↔
      x ≠ ROOT_WINDOW ∧ t.IsMapped x ∧ (p = id ∨ t.MappedBelow id p) := by
  unfold MappedBelow
  rw [Relation.TransGen.tail'_iff]
  constructor
  · rintro ⟨q, hchain, hchild, hmapped⟩
    obtain ⟨hroot, hparent⟩ := h.child_iff.mp (child_of_mem_childrenOf hchild)
    obtain rfl : p = q := Option.some.inj (hp.symm.trans hparent)
    exact ⟨hroot, hmapped, Relation.reflTransGen_iff_eq_or_transGen.mp hchain⟩
  · rintro ⟨hroot, hmapped, hchain⟩
    exact ⟨p, Relation.reflTransGen_iff_eq_or_transGen.mpr hchain,
      (h.child_iff.mpr ⟨hroot, hp⟩).2, hmapped⟩

namespace Promoted

variable {S S' : ResourceId → Prop}

theorem refl (t : ResourceTable) : Promoted t t fun _ => False :=
  ⟨False.elim, fun _ => rfl, rfl⟩

theorem modify (t : ResourceTable) (c : ResourceId) :
    Promoted t (t.modifyWindow c promoteWindow) (· = c) where
  inside hx := by rw [get_modifyWindow, if_pos hx]
  outside hx := by rw [get_modifyWindow, if_neg hx]
  size := size_modifyWindow

theorem trans (h : Promoted t t₁ S) (h' : Promoted t₁ t₂ S') :
    Promoted t t₂ fun x => S x ∨ S' x where
  inside {x} hx := by
    by_cases h₂ : S' x
    · rw [h'.inside h₂]
      by_cases h₁ : S x
      · rw [h.inside h₁, Option.map_map]
        exact congrFun (congrArg Option.map (funext fun _ => promoteWindow_promoteWindow)) _
      · rw [h.outside h₁]
    · rw [h'.outside h₂, h.inside (hx.resolve_right h₂)]
  outside {x} hx := by
    rw [h'.outside fun h₂ => hx (.inr h₂), h.outside fun h₁ => hx (.inl h₁)]
  size := h'.size.trans h.size

theorem congr (h : Promoted t t' S) (hS : ∀ x, t.IsMapped x → (S x ↔ S' x)) :
    Promoted t t' S' := by
  have hidle : ∀ {x}, ¬ t.IsMapped x → t.windows[x]?.map promoteWindow = t.windows[x]? := by
    intro x hx
    cases hw : t.windows[x]? with
    | none => rfl
    | some w =>
      have hunmapped : w.mapState = .Unmapped := not_not.mp fun hne => hx ⟨w, hw, hne⟩
      rw [Option.map_some, promoteWindow, if_neg (by rw [hunmapped]; decide)]
  refine ⟨fun {x} hx => ?_, fun {x} hx => ?_, h.size⟩
  · by_cases hmapped : t.IsMapped x
    · exact h.inside ((hS x hmapped).mpr hx)
    · by_cases hSx : S x
      · exact h.inside hSx
      · rw [h.outside hSx, hidle hmapped]
  · by_cases hmapped : t.IsMapped x
    · exact h.outside fun hSx => hx ((hS x hmapped).mp hSx)
    · by_cases hSx : S x
      · rw [h.inside hSx, hidle hmapped]
      · exact h.outside hSx

/-- What promotion leaves alone can be read off either table. -/
theorem map_eq (h : Promoted t t' S) {β : Type} {g : Window → β}
    (hg : ∀ w, g (promoteWindow w) = g w) (x : ResourceId) :
    t'.windows[x]?.map g = t.windows[x]?.map g := by
  by_cases hx : S x
  · rw [h.inside hx, Option.map_map]
    exact congrFun (congrArg Option.map (funext hg)) _
  · rw [h.outside hx]

theorem links_eq (h : Promoted t t' S) : t'.links = t.links := by
  have hparent : t'.parentOf = t.parentOf :=
    funext (h.map_eq fun w => (promoteWindow_links w).1)
  have hchildren : t'.childrenOf = t.childrenOf := funext fun x => by
    have hmap := h.map_eq (fun w => (promoteWindow_links w).2) x
    unfold childrenOf
    cases hw : t.windows[x]? <;> cases hw' : t'.windows[x]? <;> simp_all
  rw [links, hparent, hchildren, links]

theorem isMapped_iff (h : Promoted t t' S) : t'.IsMapped x ↔ t.IsMapped x := by
  have hstate := h.map_eq (g := fun w => decide (w.mapState = .Unmapped))
    (fun w => decide_eq_decide.mpr promoteWindow_unmapped) x
  unfold IsMapped
  cases hw : t.windows[x]? <;> cases hw' : t'.windows[x]? <;> simp_all

theorem mappedBelow_eq (h : Promoted t t' S) : t'.MappedBelow = t.MappedBelow := by
  have hchildren : t'.childrenOf = t.childrenOf := congrArg Links.children h.links_eq
  unfold MappedBelow
  simp only [hchildren, h.isMapped_iff]

theorem isViewable_iff (h : Promoted t t' S) :
    t'.isViewable x = true ↔ t.isViewable x = true ∨ S x ∧ t.IsMapped x := by
  unfold isViewable IsMapped
  by_cases hx : S x
  · rw [h.inside hx]
    cases hw : t.windows[x]? with
    | none => simp
    | some w =>
      simp only [Option.map_some, Option.any_some, decide_eq_true_eq, promoteWindow_viewable]
      cases hstate : w.mapState <;> simp_all
  · rw [h.outside hx]
    simp [hx]

end Promoted

theorem TreeWellFormed.of_links (h : t.TreeWellFormed) (heq : t'.links = t.links) :
    t'.TreeWellFormed := by
  rw [TreeWellFormed, heq]
  exact h

/-- One level of the recursion, for any way of visiting a child. -/
theorem promoteChildren_promoted {visit : ResourceTable → ResourceId → ResourceTable}
    {cs : List ResourceId} {t₀ : ResourceTable} {S : ResourceId → Prop}
    (hvisit : ∀ c ∈ cs, ∀ {t₁ S}, Promoted t t₁ S → Promoted t₁ (visit t₁ c) (t.MappedBelow c))
    (h : Promoted t t₀ S) :
    Promoted t (cs.foldl (fun t child =>
        let t := t.modifyWindow child promoteWindow
        if t.isViewable child then visit t child else t) t₀)
      (fun x => S x ∨ ∃ c ∈ cs, t.IsMapped c ∧ (x = c ∨ t.MappedBelow c x)) := by
  induction cs generalizing t₀ S with
  | nil => exact h.congr fun x _ => by simp
  | cons c cs ih =>
    have hc := h.trans (.modify t₀ c)
    rw [List.foldl_cons]
    dsimp only
    split
    · next hviewable =>
      have hmapped := hc.isMapped_iff.mp (isMapped_of_isViewable hviewable)
      have hrest := ih (fun d hd => hvisit d (.tail _ hd)) (hc.trans (hvisit c (.head _) hc))
      refine hrest.congr fun x _ => ?_
      simp only [List.exists_mem_cons_iff, hmapped, true_and, or_assoc]
    · next hviewable =>
      have hmapped : ¬ t.IsMapped c := fun hmapped => by
        refine hviewable (hc.isViewable_iff.mpr (.inr ⟨.inr rfl, hmapped⟩))
      have hrest := ih (fun d hd => hvisit d (.tail _ hd)) hc
      refine hrest.congr fun x hx => ?_
      have hxc : x ≠ c := fun heq => hmapped (heq ▸ hx)
      simp only [List.exists_mem_cons_iff, hmapped, hxc, false_and, false_or, or_false]

/-- The recursion reaches exactly the windows below mapped ones, given fuel for
the levels that are left. -/
theorem promoteUnviewableDescendants_promoted (fuel : Nat) {n : Nat} (hwf : t.TreeWellFormed)
    (hdepth : t.links.AtDepth ROOT_WINDOW id n) (hfuel : t.windows.size ≤ fuel + n) :
    Promoted t (promoteUnviewableDescendants fuel t id) (t.MappedBelow id) := by
  induction fuel generalizing t id n with
  | zero =>
    have := hwf.depth_lt hdepth
    omega
  | succ fuel ih =>
    have hpresent : t.links.Present id := hdepth.present hwf.root_present
    have hvisit : ∀ c ∈ t.childrenOf id, ∀ {t₁ S}, Promoted t t₁ S →
        Promoted t₁ (promoteUnviewableDescendants fuel t₁ c) (t.MappedBelow c) := by
      intro c hc t₁ S h₁
      rw [← h₁.mappedBelow_eq]
      refine ih (hwf.of_links h₁.links_eq) (n := n + 1) ?_ (by rw [h₁.size]; omega)
      rw [h₁.links_eq]
      exact hwf.child_atDepth hdepth ⟨hpresent, hc⟩
    rw [promoteUnviewableDescendants]
    refine (promoteChildren_promoted hvisit (.refl t)).congr fun x _ => ?_
    rw [false_or, MappedBelow, Relation.TransGen.head'_iff]
    refine exists_congr fun c => ?_
    rw [Relation.reflTransGen_iff_eq_or_transGen, and_assoc]

/-! ## The operations -/

/-- Changing some windows: they have to follow their parents afterwards, and
the other mapped windows must not see their parents change. -/
theorem MapStateLocal.transfer (h : t.MapStateLocal) (changed : ResourceId → Prop)
    (hroot : t'.isViewable ROOT_WINDOW = true)
    (hsame : ∀ {x w'}, ¬ changed x → t'.windows[x]? = some w' → ∃ w, t.windows[x]? = some w ∧
      w'.parent = w.parent ∧ w'.mapState = w.mapState)
    (hkept : ∀ {x w}, ¬ changed x → x ≠ ROOT_WINDOW → t.windows[x]? = some w →
      w.mapState ≠ .Unmapped → t'.isViewable w.parent = t.isViewable w.parent)
    (hchanged : ∀ {x w'}, changed x → x ≠ ROOT_WINDOW → t'.windows[x]? = some w' →
      t'.FollowsParent w') :
    t'.MapStateLocal where
  root := hroot
  follows {x w'} hw' hx := by
    by_cases hc : changed x
    · exact hchanged hc hx hw'
    obtain ⟨w, hw, hparent, hstate⟩ := hsame hc hw'
    by_cases hmapped : w.mapState = .Unmapped
    · exact .inl (hstate.trans hmapped)
    · have hfollows := (h.follows hw hx).resolve_left hmapped
      refine .inr ?_
      rw [stateBelow] at hfollows ⊢
      rw [hstate, hparent, hkept hc hx hw hmapped, hfollows]

theorem mapStateLocal_default : default.MapStateLocal where
  root := by decide
  follows {id w} hw hid := by
    rw [get_default, if_neg hid] at hw
    cases hw

theorem MapStateLocal.createWindow (h : t.MapStateLocal) (hwf : t.TreeWellFormed)
    (owner : ClientId) {request : CreateWindowRequest}
    (hnew : t.windows[request.window]? = none) (hparent : t.windows[request.parent]? ≠ none) :
    (t.createWindow owner request).MapStateLocal := by
  obtain ⟨parent, hp⟩ := Option.ne_none_iff_exists'.mp hparent
  have hview : ∀ {x}, x ≠ request.window →
      (t.createWindow owner request).isViewable x = t.isViewable x := by
    intro x hx
    rw [isViewable, get_createWindow hp, if_neg hx, isViewable]
    split
    · next hxp => rw [hxp, hp]; rfl
    · rfl
  have hold : ∀ {x}, t.links.Present x → x ≠ request.window :=
    fun hx heq => present_iff.mp hx (heq ▸ hnew)
  refine h.transfer (· = request.window) ?_ ?_ ?_ ?_
  · rw [hview (hold hwf.root_present)]
    exact h.root
  · intro x w' hx hw'
    rw [get_createWindow hp, if_neg hx] at hw'
    split at hw'
    · next hxp =>
      cases hw'
      exact ⟨parent, hxp ▸ hp, rfl, rfl⟩
    · exact ⟨w', hw', rfl, rfl⟩
  · intro x w _ _ hw _
    exact hview (hold (hwf.parent_present (parentOf_of_get hw)))
  · intro x w' hx _ hw'
    rw [get_createWindow hp, if_pos hx] at hw'
    cases hw'
    exact .inl rfl

theorem MapStateLocal.destroyWindow (h : t.MapStateLocal) (hwf : t.TreeWellFormed)
    (id : ResourceId) : (t.destroyWindow id).1.MapStateLocal := by
  obtain ⟨hpruned, hswept, -⟩ := destroyWindow_destroys t id
  generalize t.destroyWindow id = result at hpruned hswept
  obtain ⟨t', destroyed⟩ := result
  have hview : ∀ {x}, x ∉ destroyed → t'.isViewable x = t.isViewable x := by
    intro x hx
    rw [isViewable, hpruned.get, if_neg hx, isViewable]
    cases t.windows[x]? <;> rfl
  refine h.transfer (· ∈ destroyed) ?_ ?_ ?_ ?_
  · rw [hview fun hmem => ((hswept.destroyable _ hmem).resolve_left List.not_mem_nil).1 rfl]
    exact h.root
  · intro x w' hx hw'
    rw [hpruned.get, if_neg hx] at hw'
    obtain ⟨w, hw, rfl⟩ := Option.map_eq_some_iff.mp hw'
    exact ⟨w, hw, rfl, rfl⟩
  · intro x w hx hroot hw _
    -- the parent of a window that stays stays as well
    refine hview fun hmem => hx ?_
    have hchild := hwf.child_iff.mpr ⟨hroot, parentOf_of_get hw⟩
    exact (hswept.closed _ hmem).resolve_left List.not_mem_nil x hchild.2 ⟨hroot, by simp [hw]⟩
  · intro x w' hx _ hw'
    rw [hpruned.get, if_pos hx] at hw'
    cases hw'

/-- The table with the state of one window replaced. -/
def withMapState (t : ResourceTable) (id : ResourceId) (state : MapState) : ResourceTable :=
  t.modifyWindow id fun w => { w with mapState := state }

theorem get_withMapState {state : MapState} :
    (t.withMapState id state).windows[a]? =
      if a = id then t.windows[a]?.map fun w => { w with mapState := state } else t.windows[a]? :=
  get_modifyWindow

theorem links_withMapState (state : MapState) : (t.withMapState id state).links = t.links := by
  have hparent : (t.withMapState id state).parentOf = t.parentOf :=
    funext fun _ => parentOf_modifyWindow fun _ => rfl
  have hchildren : (t.withMapState id state).childrenOf = t.childrenOf := funext fun x => by
    rw [childrenOf, get_withMapState, childrenOf]
    split
    · cases t.windows[x]? <;> rfl
    · rfl
  rw [links, hparent, hchildren, links]

theorem isViewable_withMapState_of_ne (state : MapState) (h : a ≠ id) :
    (t.withMapState id state).isViewable a = t.isViewable a := by
  rw [isViewable, get_withMapState, if_neg h, isViewable]

theorem isViewable_withMapState {state : MapState} (hw : t.windows[id]? = some w) :
    (t.withMapState id state).isViewable id = decide (state = .Viewable) := by
  rw [isViewable, get_withMapState, if_pos rfl, hw]
  rfl

/-- Mapping below a parent that is not Viewable: one window becomes Unviewable. -/
theorem MapStateLocal.setUnviewable (h : t.MapStateLocal) (hwf : t.TreeWellFormed)
    (hw : t.windows[id]? = some w) (hroot : id ≠ ROOT_WINDOW)
    (hparent : t.isViewable w.parent = false) : (t.withMapState id .Unviewable).MapStateLocal := by
  have hne : w.parent ≠ id := hwf.parent_ne hroot (parentOf_of_get hw)
  have hwas : t.isViewable id = false := by
    by_contra hview
    rw [Bool.not_eq_false] at hview
    have := h.ancestor_viewable hview (.parent hw hroot)
    simp [hparent] at this
  refine h.transfer (· = id) ?_ ?_ ?_ ?_
  · rw [isViewable_withMapState_of_ne _ hroot.symm]
    exact h.root
  · intro x w' hx hw'
    rw [get_withMapState, if_neg hx] at hw'
    exact ⟨w', hw', rfl, rfl⟩
  · intro x v _ _ _ _
    by_cases hv : v.parent = id
    · rw [hv, isViewable_withMapState hw, hwas]
      rfl
    · exact isViewable_withMapState_of_ne _ hv
  · intro x w' hx _ hw'
    subst hx
    rw [get_withMapState, if_pos rfl, hw] at hw'
    cases hw'
    refine .inr ?_
    rw [stateBelow, isViewable_withMapState_of_ne _ hne, hparent]
    rfl

/-- Mapping below a Viewable parent, or mapping the root: the window and what
is mapped below it become Viewable. -/
theorem MapStateLocal.setViewable (h : t.MapStateLocal) (hwf : t.TreeWellFormed)
    (hw : t.windows[id]? = some w) (hparent : id ≠ ROOT_WINDOW → t.isViewable w.parent = true) :
    (promoteUnviewableDescendants t.windows.size (t.withMapState id .Viewable) id).MapStateLocal := by
  have hwf₁ : (t.withMapState id .Viewable).TreeWellFormed := hwf.of_links (links_withMapState _)
  have hself : (t.withMapState id .Viewable).isViewable id = true := by
    rw [isViewable_withMapState hw]
    rfl
  have hother : ∀ {x}, x ≠ id → (t.withMapState id .Viewable).isViewable x = t.isViewable x :=
    fun hx => isViewable_withMapState_of_ne _ hx
  have hid : (t.withMapState id .Viewable).windows[id]? =
      some { w with mapState := .Viewable } := by
    rw [get_withMapState, if_pos rfl, hw]
    rfl
  have hget : ∀ {x}, x ≠ id → (t.withMapState id .Viewable).windows[x]? = t.windows[x]? :=
    fun hx => by rw [get_withMapState, if_neg hx]
  have hsize : (t.withMapState id .Viewable).windows.size = t.windows.size := size_modifyWindow
  generalize t.withMapState id .Viewable = t₁ at *
  obtain ⟨n, hn⟩ := hwf₁.rooted (present_of_get hid)
  have hprom := promoteUnviewableDescendants_promoted t.windows.size hwf₁ hn (by omega)
  generalize promoteUnviewableDescendants t.windows.size t₁ id = t' at *
  have hviewable : ∀ {x}, x = id ∨ t₁.MappedBelow id x → t'.isViewable x = true := by
    rintro x (rfl | hx)
    · exact hprom.isViewable_iff.mpr (.inl hself)
    · obtain ⟨_, -, -, hmapped⟩ := Relation.TransGen.tail'_iff.mp hx
      exact hprom.isViewable_iff.mpr (.inr ⟨hx, hmapped⟩)
  refine h.transfer (fun x => x = id ∨ t₁.MappedBelow id x) ?_ ?_ ?_ ?_
  · by_cases hroot : ROOT_WINDOW = id
    · exact hviewable (.inl hroot)
    · exact hprom.isViewable_iff.mpr (.inl (by rw [hother hroot]; exact h.root))
  · intro x w' hx hw'
    rw [hprom.outside fun hmem => hx (.inr hmem), hget fun heq => hx (.inl heq)] at hw'
    exact ⟨w', hw', rfl, rfl⟩
  · intro x v hx hroot hv hmapped
    have hv₁ : t₁.windows[x]? = some v := by rw [hget fun heq => hx (.inl heq), hv]
    have hp : ¬ (v.parent = id ∨ t₁.MappedBelow id v.parent) := fun hp =>
      hx (.inr ((mappedBelow_iff_parent hwf₁ (parentOf_of_get hv₁)).mpr
        ⟨hroot, ⟨v, hv₁, hmapped⟩, hp⟩))
    rw [isViewable, hprom.outside fun hmem => hp (.inr hmem), ← isViewable,
      hother fun heq => hp (.inl heq)]
  · intro x w' hx hroot hw'
    have hview := hviewable hx
    refine .inr ?_
    rw [(isViewable_of_get hw').mp hview]
    refine (stateBelow_eq_viewable.mpr ?_).symm
    have hlinks : t'.parentOf = t₁.parentOf := congrArg Links.parent hprom.links_eq
    have hp : t₁.parentOf x = some w'.parent := by rw [← hlinks, parentOf_of_get hw']
    rcases hx with rfl | hx
    · rw [parentOf_of_get hid, Option.some.injEq] at hp
      have hne : w.parent ≠ x := by
        rw [show w.parent = w'.parent from hp]
        exact hwf₁.parent_ne hroot (by rw [links_parent, parentOf_of_get hid, hp])
      rw [← hp]
      exact hprom.isViewable_iff.mpr (.inl (by rw [hother hne]; exact hparent hroot))
    · obtain ⟨-, -, rfl | hparent⟩ := (mappedBelow_iff_parent hwf₁ hp).mp hx
      · exact hviewable (.inl rfl)
      · exact hviewable (.inr hparent)

theorem mapWindow_absent (h : t.windows[id]? = none) : (t.mapWindow id).1 = t := by
  rw [mapWindow, h]

theorem mapWindow_of_get (hw : t.windows[id]? = some w) :
    (t.mapWindow id).1 =
      if w.parent = id ∨ t.isViewable w.parent = true then
        promoteUnviewableDescendants t.windows.size (t.withMapState id .Viewable) id
      else t.withMapState id .Unviewable := by
  have hsize : (t.withMapState id .Viewable).windows.size = t.windows.size := size_modifyWindow
  rw [← hsize]
  simp only [mapWindow, hw, Option.map_some]
  by_cases hself : w.parent = id
  · simp only [hself, if_true, true_or]
    rfl
  · cases hview : t.isViewable w.parent
    · simp only [hself, if_false, false_or, Bool.false_eq_true]
      rfl
    · simp only [hself, if_false, or_true, if_true]
      rfl

theorem MapStateLocal.mapWindow (h : t.MapStateLocal) (hwf : t.TreeWellFormed)
    (id : ResourceId) : (t.mapWindow id).1.MapStateLocal := by
  cases hw : t.windows[id]? with
  | none =>
    rw [mapWindow_absent hw]
    exact h
  | some w =>
    have hself : w.parent = id ↔ id = ROOT_WINDOW := by
      constructor
      · intro hself
        by_contra hne
        exact hwf.parent_ne hne (parentOf_of_get hw) hself
      · rintro rfl
        have hp := hwf.root_parent
        rw [links_parent, parentOf_of_get hw] at hp
        exact Option.some.inj hp
    rw [mapWindow_of_get hw]
    split
    · next hview =>
      exact h.setViewable hwf hw fun hne => hview.resolve_left fun heq => hne (hself.mp heq)
    · next hview =>
      rw [not_or, Bool.not_eq_true] at hview
      exact h.setUnviewable hwf hw (fun heq => hview.1 (hself.mpr heq)) hview.2

/-- No Viewable child sees the window go. -/
def UnmapHarmless (t : ResourceTable) (id : ResourceId) : Prop :=
  id = ROOT_WINDOW ∨ t.isViewable id = false ∨
    ∀ c, c ≠ ROOT_WINDOW → t.parentOf c = some id → t.isViewable c = false

theorem MapStateLocal.unmapWindow_iff (h : t.MapStateLocal) (hwf : t.TreeWellFormed)
    (id : ResourceId) : (t.unmapWindow id).1.MapStateLocal ↔ t.UnmapHarmless id := by
  unfold ResourceTable.unmapWindow
  by_cases hroot : id = ROOT_WINDOW
  · rw [if_pos hroot]
    exact iff_of_true h (.inl hroot)
  rw [if_neg hroot]
  cases hw : t.windows[id]? with
  | none =>
    refine iff_of_true h (.inr (.inl ?_))
    rw [isViewable, hw]
    rfl
  | some w =>
    show (t.withMapState id .Unmapped).MapStateLocal ↔ _
    have hgone : (t.withMapState id .Unmapped).isViewable id = false :=
      isViewable_withMapState hw
    constructor
    · intro hafter
      refine .inr (or_iff_not_imp_left.mpr fun hview c hc hp => ?_)
      obtain ⟨v, hv, hparent⟩ := exists_of_parentOf hp
      have hne : c ≠ id := (hwf.parent_ne hc hp).symm
      by_contra hviewc
      rw [Bool.not_eq_false, ← isViewable_withMapState_of_ne .Unmapped hne] at hviewc
      have hv' : (t.withMapState id .Unmapped).windows[c]? = some v := by
        rw [get_withMapState, if_neg hne, hv]
      have := hafter.ancestor_viewable hviewc (.parent hv' hc)
      rw [hparent, hgone] at this
      cases this
    · intro hharmless
      have hsafe := hharmless.resolve_left hroot
      refine h.transfer (· = id) ?_ ?_ ?_ ?_
      · rw [isViewable_withMapState_of_ne _ (Ne.symm hroot)]
        exact h.root
      · intro x w' hx hw'
        rw [get_withMapState, if_neg hx] at hw'
        exact ⟨w', hw', rfl, rfl⟩
      · intro x v hx hxroot hv hmapped
        by_cases hvp : v.parent = id
        · rw [hvp, hgone]
          rcases hsafe with hview | hchildren
          · exact hview.symm
          · by_contra hview
            have hx := hchildren x hxroot (by rw [parentOf_of_get hv, hvp])
            rw [eq_comm, Bool.not_eq_false, ← hvp] at hview
            have := (isViewable_of_get hv).mpr ((h.viewable_iff_parent hv hxroot hmapped).mpr hview)
            rw [hx] at this
            cases this
        · exact isViewable_withMapState_of_ne _ hvp
      · intro x w' hx _ hw'
        subst hx
        rw [get_withMapState, if_pos rfl, hw] at hw'
        cases hw'
        exact .inl rfl

/-- A reparent that is refused, or that moves a window which is unmapped or has
the state it needs below its new parent. -/
def ReparentHarmless (t : ResourceTable) (request : ReparentWindowRequest) : Prop :=
  t.ReparentRefused request ∨ ∀ w, t.windows[request.window]? = some w →
    w.mapState = .Unmapped ∨ w.mapState = t.stateBelow request.parent

theorem reparentRecord_mapState {request : ReparentWindowRequest} {oldParent : ResourceId} :
    (reparentRecord request oldParent a w).mapState = w.mapState := by
  unfold reparentRecord
  dsimp only
  repeat' split
  all_goals rfl

theorem isViewable_reparented {request : ReparentWindowRequest} {oldParent : ResourceId} :
    (t.reparented request oldParent).isViewable a = t.isViewable a := by
  rw [isViewable, get_reparented, isViewable]
  cases t.windows[a]? with
  | none => rfl
  | some w => simp only [Option.map_some, Option.any_some, reparentRecord_mapState]

theorem MapStateLocal.reparentWindow_iff (h : t.MapStateLocal) (request : ReparentWindowRequest) :
    (t.reparentWindow request).1.MapStateLocal ↔ t.ReparentHarmless request := by
  by_cases hrefused : t.ReparentRefused request
  · rw [reparentWindow_refused hrefused]
    exact iff_of_true h (.inl hrefused)
  obtain ⟨window, hw, heq⟩ := reparentWindow_accepted hrefused
  have hroot : request.window ≠ ROOT_WINDOW := fun hroot => hrefused (.inl hroot)
  have hbelow : (t.reparented request window.parent).stateBelow = t.stateBelow :=
    funext fun x => by rw [stateBelow, isViewable_reparented, stateBelow]
  rw [heq, ReparentHarmless, or_iff_right hrefused]
  constructor
  · intro hafter w hw'
    have hget : (t.reparented request window.parent).windows[request.window]? = _ :=
      get_reparented
    rw [hw'] at hget
    have hfollows := hafter.follows hget hroot
    rwa [FollowsParent, reparentRecord_mapState, reparentRecord_parent, if_pos rfl, hbelow]
      at hfollows
  · intro hharmless
    refine h.transfer (· = request.window) ?_ ?_ ?_ ?_
    · rw [isViewable_reparented]
      exact h.root
    · intro x w' hx hw'
      rw [get_reparented] at hw'
      obtain ⟨v, hv, rfl⟩ := Option.map_eq_some_iff.mp hw'
      refine ⟨v, hv, ?_, reparentRecord_mapState⟩
      rw [reparentRecord_parent, if_neg hx]
    · intro x v _ _ _ _
      exact isViewable_reparented
    · intro x w' hx _ hw'
      subst hx
      rw [get_reparented, hw] at hw'
      cases hw'
      rw [FollowsParent, reparentRecord_mapState, reparentRecord_parent, if_pos rfl, hbelow]
      exact hharmless window hw

/-! ## Runs -/

/-- The operations that map states depend on. -/
inductive MapOp where
  | createWindow (owner : ClientId) (request : CreateWindowRequest)
  | mapWindow (id : ResourceId)
  | unmapWindow (id : ResourceId)
  | reparentWindow (request : ReparentWindowRequest)
  | destroyWindow (id : ResourceId)

def MapOp.apply (t : ResourceTable) : MapOp → ResourceTable
  | .createWindow owner request => t.createWindow owner request
  | .mapWindow id => (t.mapWindow id).1
  | .unmapWindow id => (t.unmapWindow id).1
  | .reparentWindow request => (t.reparentWindow request).1
  | .destroyWindow id => (t.destroyWindow id).1

/-- What the callers of `create_window` check: an unused id, an existing
parent. -/
def MapOp.CreatesFresh (t : ResourceTable) : MapOp → Prop
  | .createWindow _ request =>
    t.windows[request.window]? = none ∧ t.windows[request.parent]? ≠ none
  | _ => True

/-- No window is left with a state that its new surroundings contradict. -/
def MapOp.KeepsStates (t : ResourceTable) : MapOp → Prop
  | .unmapWindow id => t.UnmapHarmless id
  | .reparentWindow request => t.ReparentHarmless request
  | _ => True

def MapOp.Harmless (t : ResourceTable) (op : MapOp) : Prop :=
  op.CreatesFresh t ∧ op.KeepsStates t

inductive MapReachable (admitted : ResourceTable → MapOp → Prop) : ResourceTable → Prop
  | init : MapReachable admitted default
  | step {t : ResourceTable} (op : MapOp) (before : MapReachable admitted t)
      (allowed : admitted t op) : MapReachable admitted (op.apply t)

theorem TreeWellFormed.mapWindow (h : t.TreeWellFormed) (id : ResourceId) :
    (t.mapWindow id).1.TreeWellFormed := by
  have hset (state : MapState) : (t.withMapState id state).TreeWellFormed :=
    h.of_links (links_withMapState state)
  cases hw : t.windows[id]? with
  | none =>
    rw [mapWindow_absent hw]
    exact h
  | some w =>
    rw [mapWindow_of_get hw]
    split
    · obtain ⟨n, hn⟩ := (hset .Viewable).rooted (by
        rw [links_withMapState]
        exact present_of_get hw)
      have hprom := promoteUnviewableDescendants_promoted t.windows.size (hset .Viewable) hn
        (Nat.le_trans (Nat.le_of_eq size_modifyWindow) (Nat.le_add_right _ n))
      exact (hset .Viewable).of_links hprom.links_eq
    · exact hset .Unviewable

theorem TreeWellFormed.unmapWindow (h : t.TreeWellFormed) (id : ResourceId) :
    (t.unmapWindow id).1.TreeWellFormed := by
  unfold ResourceTable.unmapWindow
  split
  · exact h
  split
  · exact h
  · exact h.of_links (links_withMapState .Unmapped)

theorem TreeWellFormed.mapOp (h : t.TreeWellFormed) {op : MapOp} (hop : op.CreatesFresh t) :
    (op.apply t).TreeWellFormed := by
  cases op with
  | createWindow owner request => exact h.createWindow owner hop.1 hop.2
  | mapWindow id => exact h.mapWindow id
  | unmapWindow id => exact h.unmapWindow id
  | reparentWindow request => exact h.reparentWindow request
  | destroyWindow id => exact h.destroyWindow id

/-- In a tree whose states are right, a step keeps them right exactly when it
is harmless. -/
theorem MapStateLocal.mapOp_iff (h : t.MapStateLocal) (hwf : t.TreeWellFormed) {op : MapOp}
    (hop : op.CreatesFresh t) : (op.apply t).MapStateLocal ↔ op.Harmless t := by
  rw [MapOp.Harmless, and_iff_right hop]
  cases op with
  | createWindow owner request => exact iff_of_true (h.createWindow hwf owner hop.1 hop.2) trivial
  | mapWindow id => exact iff_of_true (h.mapWindow hwf id) trivial
  | unmapWindow id => exact h.unmapWindow_iff hwf id
  | reparentWindow request => exact h.reparentWindow_iff request
  | destroyWindow id => exact iff_of_true (h.destroyWindow hwf id) trivial

theorem MapReachable.invariant (h : MapReachable MapOp.Harmless t) :
    t.TreeWellFormed ∧ t.MapStateLocal := by
  induction h with
  | init => exact ⟨treeWellFormed_default, mapStateLocal_default⟩
  | step op _ hop ih => exact ⟨ih.1.mapOp hop.1, (ih.2.mapOp_iff ih.1 hop.1).mpr hop⟩

/-- In every table reached by harmless steps, each window has the state that
its own mapping and its ancestors give it. -/
theorem mapState_exact (h : MapReachable MapOp.Harmless t) : t.MapStateExact :=
  h.invariant.2.exact

theorem UnmapHarmless.of_all (h : t.windows.toList.all fun p =>
    p.1 = ROOT_WINDOW ∨ p.2.parent ≠ id ∨ p.2.mapState ≠ .Viewable) : t.UnmapHarmless id := by
  refine .inr (.inr fun c hc hp => ?_)
  obtain ⟨w, hw, hparent⟩ := exists_of_parentOf hp
  have hmem := Std.ExtTreeMap.mem_toList_iff_getElem?_eq_some.mpr hw
  rcases of_decide_eq_true (List.all_eq_true.mp h (c, w) hmem) with hroot | hother | hview
  · exact absurd hroot hc
  · exact absurd hparent hother
  · exact Bool.eq_false_iff.mpr fun hviewable => hview ((isViewable_of_get hw).mp hviewable)

theorem ReparentHarmless.of_get {request : ReparentWindowRequest}
    (h : t.windows[request.window]?.map (·.mapState) = some (t.stateBelow request.parent)) :
    t.ReparentHarmless request := by
  refine .inr fun w hw => .inr ?_
  rw [hw, Option.map_some, Option.some.injEq] at h
  exact h

/-- A window is unmapped and mapped again, and moved below another one that is Viewable too. The
window that it was moved from is unmapped then. -/
theorem mapState_exact_reparented :
    ∃ t, MapReachable MapOp.Harmless t ∧ t.MapStateExact ∧ t.parentOf 0x200001 = some 0x200002 ∧
      t.isViewable 0x200001 = true ∧ t.isViewable 0x200000 = false := by
  have hcreated : MapReachable MapOp.Harmless _ :=
    .step (.createWindow 1 (childRequest 0x200002 ROOT_WINDOW))
      (.step (.createWindow 1 (childRequest 0x200001 0x200000))
        (.step (.createWindow 1 (childRequest 0x200000 ROOT_WINDOW)) .init
          ⟨⟨by decide, by decide⟩, trivial⟩)
        ⟨⟨by decide, by decide⟩, trivial⟩)
      ⟨⟨by decide, by decide⟩, trivial⟩
  have hmapped := ((hcreated.step (.mapWindow 0x200001) ⟨trivial, trivial⟩).step
    (.mapWindow 0x200000) ⟨trivial, trivial⟩).step (.mapWindow 0x200002) ⟨trivial, trivial⟩
  have hagain := (hmapped.step (.unmapWindow 0x200001) ⟨trivial, .of_all (by decide)⟩).step
    (.mapWindow 0x200001) ⟨trivial, trivial⟩
  have hrun := (hagain.step (.reparentWindow ⟨0x200001, 0x200002, 3, 4⟩)
    ⟨trivial, .of_get (by decide)⟩).step (.unmapWindow 0x200000) ⟨trivial, .of_all (by decide)⟩
  exact ⟨_, hrun, mapState_exact hrun, by decide, by decide, by decide⟩

/-- Unmapping a window leaves its mapped child Viewable. -/
theorem mapState_stale : ∃ t, MapReachable MapOp.CreatesFresh t ∧ ¬ t.MapStateExact := by
  have hcreate : MapReachable MapOp.CreatesFresh _ :=
    .step (.createWindow 1 (childRequest 0x200001 0x200000))
      (.step (.createWindow 1 (childRequest 0x200000 ROOT_WINDOW)) .init
        ⟨by decide, by decide⟩)
      ⟨by decide, by decide⟩
  have hrun := ((hcreate.step (.mapWindow 0x200000) trivial).step
    (.mapWindow 0x200001) trivial).step (.unmapWindow 0x200000) trivial
  refine ⟨_, hrun, fun h => ?_⟩
  have hchild := @h.viewable_iff 0x200001 _ (Option.some_get (by decide)).symm
  have hparent := (hchild.mp (by decide)).2 0x200000 (.single ⟨by decide, by decide⟩)
  revert hparent
  decide

end ResourceTable

end X12

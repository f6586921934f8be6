import X12.Verify.Restacking

/-! # The overlay window stays on top

The overlay is the last child of the root as long as no configure request moves
it down or stacks another window above itself. -/

namespace X12

open Stacking

/-! ## The overlay window -/

/-- The overlay window stays on top of the order: no other window is put above
itself, and the overlay is not moved down. -/
def RestackAction.SparesOverlay (window : ResourceId) (order : List ResourceId) :
    RestackAction → Prop
  | .NoOp => True
  | .Top => True
  | .Bottom => window = COMPOSITE_OVERLAY_WINDOW → order.erase window = []
  | .AboveSibling sibling =>
    if window = COMPOSITE_OVERLAY_WINDOW then
      sibling = COMPOSITE_OVERLAY_WINDOW ∨
        (order.erase window).idxOf? sibling = some ((order.erase window).length - 1)
    else sibling ≠ window
  | .BelowSibling _ => window = COMPOSITE_OVERLAY_WINDOW → order.erase window = []

/-- A request for one child of an order that holds the overlay moves the
overlay away from the top: it puts another window above itself, or the overlay
below one of the others. -/
def DisplacesOverlay (window : ResourceId) (order : List ResourceId) (sibling : Option ResourceId)
    (stackMode : UInt8) (occluded occluding : Bool) : Prop :=
  if window = COMPOSITE_OVERLAY_WINDOW then
    let others := order.erase window
    others ≠ [] ∧
      (stackMode = 0 ∧ (∃ s, sibling = some s ∧ s ≠ COMPOSITE_OVERLAY_WINDOW ∧
          others.idxOf? s ≠ some (others.length - 1)) ∨
        stackMode = 1 ∨
        stackMode = 3 ∧ occluding = true ∨
        stackMode = 4 ∧ occluded = false ∧ occluding = true)
  else stackMode = 0 ∧ sibling = some window

/-- The siblings that an action names are in the order. -/
def RestackAction.Known (order : List ResourceId) : RestackAction → Prop
  | .AboveSibling sibling => sibling ∈ order
  | .BelowSibling sibling => sibling ∈ order
  | _ => True

theorem RestackAction.known_ofMode {stackMode : UInt8} {sibling : Option ResourceId}
    {occluded occluding : Bool} {action : RestackAction} {order : List ResourceId}
    (hsibling : ∀ s ∈ sibling, s ∈ order)
    (h : RestackAction.ofMode stackMode sibling occluded occluding = some action) :
    action.Known order := by
  unfold RestackAction.ofMode at h
  cases sibling with
  | none => split_ifs at h <;> cases h <;> trivial
  | some s => split_ifs at h <;> cases h <;> first | trivial | exact hsibling s rfl

theorem sparesOverlay_ofMode {window : ResourceId} {order : List ResourceId} {stackMode : UInt8}
    {sibling : Option ResourceId} {occluded occluding : Bool} {action : RestackAction}
    (hsibling : ∀ s ∈ sibling, s ∈ order)
    (h : RestackAction.ofMode stackMode sibling occluded occluding = some action) :
    action.SparesOverlay window order ↔
      ¬ DisplacesOverlay window order sibling stackMode occluded occluding := by
  unfold RestackAction.ofMode at h
  by_cases hcow : window = COMPOSITE_OVERLAY_WINDOW
  · rw [DisplacesOverlay, if_pos hcow]
    subst hcow
    split_ifs at h with h0 h1 h2 h3 hocc h4 hocc hocc' <;> cases h
    · cases sibling with
      | none => simp [RestackAction.SparesOverlay, h0]
      | some s =>
        have hothers : s ≠ COMPOSITE_OVERLAY_WINDOW → order.erase COMPOSITE_OVERLAY_WINDOW ≠ [] :=
          fun hne => List.ne_nil_of_mem ((List.mem_erase_of_ne hne).mpr (hsibling s rfl))
        by_cases hs : s = COMPOSITE_OVERLAY_WINDOW
        · simp [RestackAction.SparesOverlay, hs, h0]
        · simp [RestackAction.SparesOverlay, hs, h0, hothers hs]
    · cases sibling <;> simp [RestackAction.SparesOverlay, h1, -List.erase_eq_nil_iff]
    all_goals simp_all [RestackAction.SparesOverlay, -List.erase_eq_nil_iff]
  · rw [DisplacesOverlay, if_neg hcow]
    split_ifs at h with h0 h1 h2 h3 hocc h4 hocc hocc' <;> cases h
    · cases sibling with
      | none => simp [RestackAction.SparesOverlay]
      | some s => simp [RestackAction.SparesOverlay, hcow, h0]
    · cases sibling <;> simp [RestackAction.SparesOverlay, hcow, h0]
    all_goals simp [RestackAction.SparesOverlay, hcow, h0]

theorem not_displaces_of_ofMode {window : ResourceId} {order : List ResourceId} {stackMode : UInt8}
    {sibling : Option ResourceId} {occluded occluding : Bool}
    (h : RestackAction.ofMode stackMode sibling occluded occluding = none) :
    ¬ DisplacesOverlay window order sibling stackMode occluded occluding := by
  unfold RestackAction.ofMode at h
  unfold DisplacesOverlay
  split_ifs at h with h0 h1 h2 h3 h4
  simp [h0, h1, h3, h4]

section
variable {window sibling : ResourceId} {order : List ResourceId} {action : RestackAction}

/-- A window that goes to the bottom stays below the overlay. -/
theorem pinned_bottom (h : Pinned COMPOSITE_OVERLAY_WINDOW order)
    (hspares : window = COMPOSITE_OVERLAY_WINDOW → order.erase window = []) :
    Pinned COMPOSITE_OVERLAY_WINDOW (window :: order.erase window) := by
  by_cases hcow : window = COMPOSITE_OVERLAY_WINDOW
  · rw [hspares hcow, hcow]
    exact pinned_concat (l := [])
  · exact (h.erase window).cons hcow

theorem pinned_putAbove (h : Pinned COMPOSITE_OVERLAY_WINDOW order) (hsibling : sibling ∈ order)
    (hne : sibling ≠ COMPOSITE_OVERLAY_WINDOW) (hself : sibling ≠ window)
    (hcow : window ≠ COMPOSITE_OVERLAY_WINDOW) :
    Pinned COMPOSITE_OVERLAY_WINDOW (putAbove sibling window (order.erase window)) := by
  have hrest := h.erase window
  obtain ⟨lower, upper, hsplit, hlower⟩ :=
    List.eq_append_cons_of_mem ((List.mem_erase_of_ne hself).mpr hsibling)
  rw [hsplit] at hrest ⊢
  rw [putAbove_of_split hlower, List.append_cons]
  rw [List.append_cons] at hrest
  refine (hrest.insert_iff hcow).mpr fun hmem hupper => ?_
  -- otherwise the sibling is the topmost of the others, so it is the overlay
  have hlast := hrest (List.mem_append_left upper hmem)
  rw [hupper, List.append_nil, List.getLast?_concat] at hlast
  exact hne (Option.some.inj hlast)

theorem pinned_putBelow (h : Pinned COMPOSITE_OVERLAY_WINDOW order)
    (hspares : window = COMPOSITE_OVERLAY_WINDOW → order.erase window = []) :
    Pinned COMPOSITE_OVERLAY_WINDOW (putBelow sibling window (order.erase window)) := by
  by_cases hmem : sibling ∈ order.erase window
  · have hcow : window ≠ COMPOSITE_OVERLAY_WINDOW := fun heq => by
      rw [hspares heq] at hmem
      exact nomatch hmem
    have hrest := h.erase window
    obtain ⟨lower, upper, hsplit, hlower⟩ := List.eq_append_cons_of_mem hmem
    rw [hsplit] at hrest ⊢
    rw [putBelow_of_split hlower]
    exact (hrest.insert_iff hcow).mpr fun _ => List.cons_ne_nil sibling upper
  · rw [putBelow_of_not_mem hmem]
    exact pinned_bottom h hspares

theorem pinned_reorder (h : Pinned COMPOSITE_OVERLAY_WINDOW order) (hwindow : window ∈ order)
    (hknown : action.Known order)
    (hspares : COMPOSITE_OVERLAY_WINDOW ∈ order → action.SparesOverlay window order) :
    Pinned COMPOSITE_OVERLAY_WINDOW (action.reorder window order) := by
  have hpresent : window = COMPOSITE_OVERLAY_WINDOW → COMPOSITE_OVERLAY_WINDOW ∈ order :=
    fun heq => heq ▸ hwindow
  cases action with
  | NoOp => exact h
  | Top => exact (h.erase window).raise window
  | Bottom => exact pinned_bottom h fun heq => hspares (hpresent heq) heq
  | BelowSibling sibling =>
    exact pinned_putBelow h fun heq => hspares (hpresent heq) heq
  | AboveSibling sibling =>
    rw [RestackAction.reorder]
    by_cases hsibling : sibling = COMPOSITE_OVERLAY_WINDOW
    · rw [if_pos hsibling]
      exact (h.erase window).raise window
    rw [if_neg hsibling]
    by_cases hcow : window = COMPOSITE_OVERLAY_WINDOW
    · -- the overlay goes on the topmost of the others
      have htop := hspares (hpresent hcow)
      rw [RestackAction.SparesOverlay, if_pos hcow] at htop
      have hplace := htop.resolve_left hsibling
      have hlt := (List.idxOf?_eq_some_iff.mp hplace).1
      rw [putAbove, hplace, Option.elim_some, Nat.sub_add_cancel (by omega),
        List.insertIdx_length_self, hcow]
      exact pinned_concat
    by_cases hin : COMPOSITE_OVERLAY_WINDOW ∈ order
    · have hself := hspares hin
      rw [RestackAction.SparesOverlay, if_neg hcow] at hself
      exact pinned_putAbove h hknown hsibling hself hcow
    · exact pinned_insertIdx_of_not_mem (fun hmem => hin (List.mem_of_mem_erase hmem)) hcow

/-- The condition is exact when no child is listed twice. -/
theorem sparesOverlay_of_pinned (hnodup : order.Nodup) (hin : COMPOSITE_OVERLAY_WINDOW ∈ order)
    (hknown : action.Known order)
    (hafter : Pinned COMPOSITE_OVERLAY_WINDOW (action.reorder window order)) :
    action.SparesOverlay window order := by
  have hgone : COMPOSITE_OVERLAY_WINDOW ∉ order.erase COMPOSITE_OVERLAY_WINDOW :=
    hnodup.not_mem_erase
  cases action with
  | NoOp => trivial
  | Top => trivial
  | Bottom =>
    rintro rfl
    exact (pinned_cons_self_iff hgone).mp hafter
  | BelowSibling sibling =>
    rintro rfl
    rw [RestackAction.reorder] at hafter
    by_cases hmem : sibling ∈ order.erase COMPOSITE_OVERLAY_WINDOW
    · obtain ⟨lower, upper, hsplit, hlower⟩ := List.eq_append_cons_of_mem hmem
      rw [hsplit] at hgone hafter
      rw [putBelow_of_split hlower, pinned_insert_self_iff
        fun hupper => hgone (List.mem_append_right lower hupper)] at hafter
      cases hafter
    · rw [putBelow_of_not_mem hmem] at hafter
      exact (pinned_cons_self_iff hgone).mp hafter
  | AboveSibling sibling =>
    rw [RestackAction.reorder] at hafter
    rw [RestackAction.SparesOverlay]
    by_cases hcow : window = COMPOSITE_OVERLAY_WINDOW
    · subst hcow
      rw [if_pos rfl]
      refine or_iff_not_imp_left.mpr fun hsibling => ?_
      rw [if_neg hsibling] at hafter
      obtain ⟨lower, upper, hsplit, hlower⟩ :=
        List.eq_append_cons_of_mem ((List.mem_erase_of_ne hsibling).mpr hknown)
      rw [hsplit] at hgone hafter ⊢
      rw [putAbove_of_split hlower, List.append_cons, pinned_insert_self_iff
        fun hupper => hgone (List.mem_append_right lower (List.mem_cons_of_mem _ hupper))] at hafter
      rw [hafter, idxOf?_append_cons hlower, List.length_append, List.length_singleton,
        Nat.add_sub_cancel]
    · rw [if_neg hcow]
      rintro rfl
      rw [if_neg hcow, putAbove_of_not_mem hnodup.not_mem_erase] at hafter
      have hrest : COMPOSITE_OVERLAY_WINDOW ∈ order.erase sibling :=
        (List.mem_erase_of_ne (Ne.symm hcow)).mpr hin
      have hlast := hafter (List.mem_append_left [sibling] hrest)
      rw [List.getLast?_concat] at hlast
      exact hcow (Option.some.inj hlast)

end

namespace ResourceTable

variable {t t' : ResourceTable} {a p : ResourceId} {request : ConfigureWindowRequest}

/-! ## Runs with the overlay window -/

def OverlayPinned (t : ResourceTable) : Prop :=
  Pinned COMPOSITE_OVERLAY_WINDOW (t.childrenOf ROOT_WINDOW)

/-- Restacking spares the overlay among the root's children. -/
def RestackSparesOverlay (t : ResourceTable) (request : ConfigureWindowRequest) : Prop :=
  ∀ action, (t.reshape request).restackAction request ROOT_WINDOW = some action →
    COMPOSITE_OVERLAY_WINDOW ∈ t.childrenOf ROOT_WINDOW →
    action.SparesOverlay request.window (t.childrenOf ROOT_WINDOW)

/-- A configure request that moves the overlay away from the top of the root's
children. -/
def RestackDisplacesOverlay (t : ResourceTable) (request : ConfigureWindowRequest) : Prop :=
  let order := t.childrenOf ROOT_WINDOW
  COMPOSITE_OVERLAY_WINDOW ∈ order ∧ t.parentOf request.window = some ROOT_WINDOW ∧
    request.window ∈ order ∧ (∀ s ∈ request.sibling, s ∈ order) ∧
    ∃ stackMode, request.stackMode = some stackMode ∧
      DisplacesOverlay request.window order request.sibling stackMode
        ((t.reshape request).occluded request ROOT_WINDOW)
        ((t.reshape request).occluding request ROOT_WINDOW)

theorem restackSparesOverlay_iff :
    t.RestackSparesOverlay request ↔ ¬ t.RestackDisplacesOverlay request := by
  simp only [RestackSparesOverlay, RestackDisplacesOverlay, restackAction_eq_some_iff,
    parentOf_reshape, childrenOf_reshape]
  constructor
  · rintro h ⟨hcow, hparent, hwindow, hsibling, stackMode, hmode, hdisplaces⟩
    cases haction : RestackAction.ofMode stackMode request.sibling
        ((t.reshape request).occluded request ROOT_WINDOW)
        ((t.reshape request).occluding request ROOT_WINDOW) with
    | none => exact absurd hdisplaces (not_displaces_of_ofMode haction)
    | some action =>
      exact (sparesOverlay_ofMode hsibling haction).mp
        (h action ⟨hparent, hwindow, hsibling, stackMode, hmode, haction⟩ hcow) hdisplaces
  · rintro h action ⟨hparent, hwindow, hsibling, stackMode, hmode, haction⟩ hcow
    refine (sparesOverlay_ofMode hsibling haction).mpr fun hdisplaces => h ?_
    exact ⟨hcow, hparent, hwindow, hsibling, stackMode, hmode, hdisplaces⟩

theorem known_of_restackAction {action : RestackAction}
    (h : t.restackAction request a = some action) :
    request.window ∈ t.childrenOf a ∧ action.Known (t.childrenOf a) := by
  obtain ⟨-, hwindow, hsibling, stackMode, -, hmode⟩ := restackAction_eq_some_iff.mp h
  exact ⟨hwindow, RestackAction.known_ofMode hsibling hmode⟩

theorem OverlayPinned.configureWindow (h : t.OverlayPinned)
    (hspares : ¬ t.RestackDisplacesOverlay request) :
    (t.configureWindow request).1.OverlayPinned := by
  by_cases hw : t.windows[request.window]? = none
  · have hcontains : ¬ t.windows.contains request.window = true := by
      rw [Std.ExtTreeMap.contains_iff_mem, ResourceMap.mem_iff, not_not]
      exact hw
    rw [ResourceTable.configureWindow, if_neg hcontains]
    exact h
  rw [OverlayPinned, childrenOf_configureWindow hw]
  cases haction : (t.reshape request).restackAction request ROOT_WINDOW with
  | none => exact h
  | some action =>
    obtain ⟨hwindow, hknown⟩ := known_of_restackAction haction
    rw [childrenOf_reshape] at hwindow hknown
    exact pinned_reorder h hwindow hknown (restackSparesOverlay_iff.mpr hspares action haction)

/-- The condition is exact. -/
theorem OverlayPinned.configureWindow_iff (h : t.OverlayPinned)
    (hnodup : (t.childrenOf ROOT_WINDOW).Nodup) :
    (t.configureWindow request).1.OverlayPinned ↔ ¬ t.RestackDisplacesOverlay request := by
  refine ⟨fun hafter => restackSparesOverlay_iff.mp fun action haction hin => ?_,
    h.configureWindow⟩
  obtain ⟨-, hknown⟩ := known_of_restackAction haction
  have hw : t.windows[request.window]? ≠ none := by
    intro hnone
    rw [restackAction, parentOf_reshape, parentOf_eq_none.mpr hnone] at haction
    exact nomatch haction
  rw [OverlayPinned, childrenOf_configureWindow hw, haction, Option.elim_some] at hafter
  rw [childrenOf_reshape] at hknown
  exact sparesOverlay_of_pinned hnodup hin hknown hafter

theorem childrenOf_modifyWindow_self {f : Window → Window} :
    (t.modifyWindow p f).childrenOf p = t.windows[p]?.elim [] fun w => (f w).children := by
  rw [childrenOf, get_modifyWindow, if_pos rfl]
  cases t.windows[p]? <;> rfl

theorem OverlayPinned.createWindow (h : t.OverlayPinned) (owner : ClientId)
    (request : CreateWindowRequest) : (t.createWindow owner request).OverlayPinned := by
  rw [OverlayPinned, ResourceTable.createWindow, childrenOf, ResourceMap.get_insert,
    ResourceMap.get_insert]
  by_cases hwindow : ROOT_WINDOW = request.window
  · rw [if_pos hwindow]
    exact pinned_of_not_mem List.not_mem_nil
  rw [if_neg hwindow]
  by_cases hparent : ROOT_WINDOW = request.parent
  · rw [if_pos hparent, Option.elim_some, Window.children_pushChild]
    refine Pinned.raise ?_ request.window
    rw [OverlayPinned, childrenOf, hparent] at h
    cases hget : t.windows[request.parent]? with
    | none => exact pinned_of_not_mem List.not_mem_nil
    | some parent =>
      rw [hget] at h
      exact h
  · rw [if_neg hparent]
    exact h

theorem OverlayPinned.materializeCowResource (h : t.OverlayPinned) {hostXid : Handle}
    (ht : t.materializeCowResource hostXid = some t') : t'.OverlayPinned := by
  rw [ResourceTable.materializeCowResource] at ht
  split at ht
  · cases ht
  obtain rfl := Option.some.inj ht
  rw [OverlayPinned, childrenOf_modifyWindow_self, ResourceMap.get_insert,
    if_neg (by decide : ROOT_WINDOW ≠ COMPOSITE_OVERLAY_WINDOW)]
  rw [OverlayPinned, childrenOf] at h
  cases hget : t.windows[ROOT_WINDOW]? with
  | none => exact pinned_of_not_mem List.not_mem_nil
  | some root =>
    rw [hget] at h
    rw [Option.elim_some, Window.children_pushChild]
    exact Pinned.raise h COMPOSITE_OVERLAY_WINDOW

theorem OverlayPinned.destroyCowResource (h : t.OverlayPinned) :
    t.destroyCowResource.OverlayPinned := by
  rw [OverlayPinned, childrenOf, get_destroyCowResource,
    if_neg (by decide : ROOT_WINDOW ≠ COMPOSITE_OVERLAY_WINDOW), if_pos rfl]
  rw [OverlayPinned, childrenOf] at h
  cases hget : t.windows[ROOT_WINDOW]? with
  | none => exact pinned_of_not_mem List.not_mem_nil
  | some root =>
    rw [hget] at h
    exact Pinned.filter h _

theorem OverlayPinned.destroyWindow (h : t.OverlayPinned) (id : ResourceId) :
    (t.destroyWindow id).1.OverlayPinned := by
  obtain ⟨hpruned, -⟩ := destroyWindow_destroys t id
  rw [OverlayPinned, hpruned.childrenOf_eq]
  split
  · exact pinned_of_not_mem List.not_mem_nil
  · exact Pinned.filter h _

theorem OverlayPinned.reparentWindow (h : t.OverlayPinned) (request : ReparentWindowRequest) :
    (t.reparentWindow request).1.OverlayPinned := by
  by_cases hrefused : t.ReparentRefused request
  · rw [reparentWindow_refused hrefused]
    exact h
  obtain ⟨window, -, heq⟩ := reparentWindow_accepted hrefused
  rw [heq, OverlayPinned, reparented, childrenOf_modifyWindow_same (by intro w; rfl), childrenOf,
    get_modifyWindow_map, get_modifyWindow_map, Option.map_map]
  rw [OverlayPinned, childrenOf] at h
  cases hget : t.windows[ROOT_WINDOW]? with
  | none => exact pinned_of_not_mem List.not_mem_nil
  | some root =>
    rw [hget] at h
    rw [Option.map_some, Option.elim_some, Function.comp_apply]
    -- dropped from the old parent's list, then raised in the new one's
    have hdropped : Pinned COMPOSITE_OVERLAY_WINDOW
        (if ROOT_WINDOW = window.parent then root.dropChild request.window else root).children := by
      split
      · exact Pinned.filter h _
      · exact h
    split
    · rw [Window.children_pushChild]
      exact hdropped.raise request.window
    · exact hdropped

theorem OverlayPinned.circulateWindow (h : t.OverlayPinned) (container : ResourceId)
    (direction : UInt8) : (t.circulateWindow container direction).1.OverlayPinned := by
  by_cases hroot : container = ROOT_WINDOW
  · subst hroot
    unfold ResourceTable.circulateWindow
    split
    · exact h
    next parent hparent =>
    rw [if_pos rfl, cowAwareTopIndex_eq]
    rw [OverlayPinned, childrenOf_of_get hparent] at h
    have hunchanged : t.OverlayPinned := by
      rw [OverlayPinned, childrenOf_of_get hparent]
      exact h
    dsimp only
    split
    · exact hunchanged
    next htop =>
    rw [Nat.not_lt] at htop
    split
    · split
      · exact hunchanged
      · next last hlast =>
        rw [OverlayPinned, childrenOf_modifyWindow hparent]
        exact h.lowerTop htop hlast
    split
    · split
      · exact hunchanged
      · next first hfirst =>
        rw [OverlayPinned, childrenOf_modifyWindow hparent]
        exact h.raiseBottom htop hfirst
    · exact hunchanged
  · have hsame : (t.circulateWindow container direction).1.childrenOf ROOT_WINDOW =
        t.childrenOf ROOT_WINDOW := by
      unfold ResourceTable.circulateWindow
      dsimp only
      repeat' split
      all_goals first | rfl | exact childrenOf_modifyWindow_of_ne (Ne.symm hroot)
    rw [OverlayPinned, hsame]
    exact h

/-- The overlay window itself is neither destroyed as a window nor reparented. -/
def LeavesOverlay (_ : ResourceTable) : TreeOp → Prop
  | .destroyWindow id => id ≠ COMPOSITE_OVERLAY_WINDOW
  | .reparentWindow request => request.window ≠ COMPOSITE_OVERLAY_WINDOW
  | _ => True

/-- No configure request moves the overlay away from the top. -/
def SparesOverlay (t : ResourceTable) : TreeOp → Prop
  | .configureWindow request => ¬ t.RestackDisplacesOverlay request
  | _ => True

theorem OverlayPinned.step (h : t.OverlayPinned) {op : TreeOp} (hop : t.SparesOverlay op)
    (ht : op.apply t = some t') : t'.OverlayPinned := by
  cases op with
  | createWindow owner request =>
    cases ht
    exact h.createWindow owner request
  | destroyWindow id =>
    cases ht
    exact h.destroyWindow id
  | reparentWindow request =>
    cases ht
    exact h.reparentWindow request
  | configureWindow request =>
    cases ht
    exact h.configureWindow hop
  | circulateWindow container direction =>
    cases ht
    exact h.circulateWindow container direction
  | materializeCowResource hostXid => exact h.materializeCowResource ht
  | destroyCowResource =>
    cases ht
    exact h.destroyCowResource

/-- In every run whose configure requests spare the overlay, the overlay is the
last child of the root whenever it is one. -/
theorem overlay_last (h : TreeReachable (fun t op => LeavesOverlay t op ∧ t.SparesOverlay op) t)
    (hcow : COMPOSITE_OVERLAY_WINDOW ∈ t.childrenOf ROOT_WINDOW) :
    (t.childrenOf ROOT_WINDOW).getLast? = some COMPOSITE_OVERLAY_WINDOW := by
  have hpinned : t.OverlayPinned := by
    clear hcow
    induction h with
    | init => exact pinned_of_not_mem (by rw [childrenOf_default]; exact List.not_mem_nil)
    | step op _ hop ht ih => exact ih.step hop.2 ht
  exact hpinned hcow

theorem treeReachable_overlayTable {admitted : ResourceTable → TreeOp → Prop}
    (hcreate : admitted default (.createWindow 1 (childRequest 0x200000 ROOT_WINDOW)))
    (hcow : ∀ t, admitted t (.materializeCowResource 1)) :
    TreeReachable admitted overlayTable :=
  .step (.materializeCowResource 1) (.step _ .init hcreate rfl) (hcow _) rfl

theorem overlay_last_raised :
    ((overlayTable.configureWindow (restackRequest 0x200000 none 0)).1.childrenOf
      ROOT_WINDOW).getLast? = some COMPOSITE_OVERLAY_WINDOW :=
  overlay_last
    (.step (.configureWindow (restackRequest 0x200000 none 0))
      (treeReachable_overlayTable ⟨trivial, trivial⟩ fun _ => ⟨trivial, trivial⟩)
      ⟨trivial, by
        rintro ⟨-, -, -, -, stackMode, -, h⟩
        rw [DisplacesOverlay, if_neg (by decide)] at h
        exact nomatch h.2⟩ rfl)
    (by decide)

/-- The overlay can be restacked to the bottom, and another window above itself
and so above the overlay. -/
theorem overlay_not_last :
    (∀ request, TreeReachable LeavesOverlay (overlayTable.configureWindow request).1) ∧
      ¬ (overlayTable.configureWindow
        (restackRequest COMPOSITE_OVERLAY_WINDOW none 1)).1.OverlayPinned ∧
      ¬ (overlayTable.configureWindow
        (restackRequest 0x200000 (some 0x200000) 0)).1.OverlayPinned := by
  refine ⟨fun request => ?_, fun h => absurd (h (by decide)) (by decide),
    fun h => absurd (h (by decide)) (by decide)⟩
  exact .step (.configureWindow request)
    (treeReachable_overlayTable trivial fun _ => trivial) trivial rfl

end ResourceTable

end X12

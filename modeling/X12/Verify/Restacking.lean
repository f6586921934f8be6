import X12.Lib.Stacking
import X12.Verify.WindowTree

/-! # Restacking

A window's place among its siblings is its place in the parent's list of
children, bottom to top. Restacking takes the window out of that list and puts
it back. Where it goes depends on the stack mode, on the sibling and on which
mapped siblings overlap; a window that goes to the top stays below the overlay
window. -/

namespace X12

open Stacking

theorem cowAwareTopIndex_eq (w : Window) :
    cowAwareTopIndex w = topIndex COMPOSITE_OVERLAY_WINDOW w.children := by
  unfold cowAwareTopIndex topIndex
  cases w.children.getLast? <;> rfl

theorem Window.children_pushChild {w : Window} {c : ResourceId} :
    (w.pushChild c).children = raise COMPOSITE_OVERLAY_WINDOW c w.children := by
  rw [pushChild, cowAwareTopIndex_eq, raise]

/-- The order of the children after an action. -/
def RestackAction.reorder (window : ResourceId) (order : List ResourceId) :
    RestackAction → List ResourceId
  | .NoOp => order
  | .Top => raise COMPOSITE_OVERLAY_WINDOW window (order.erase window)
  | .Bottom => window :: order.erase window
  | .AboveSibling sibling =>
    if sibling = COMPOSITE_OVERLAY_WINDOW then
      raise COMPOSITE_OVERLAY_WINDOW window (order.erase window)
    else putAbove sibling window (order.erase window)
  | .BelowSibling sibling => putBelow sibling window (order.erase window)

/-- The action that a stack mode stands for, given whether the window is
occluded and whether it occludes. -/
def RestackAction.ofMode (stackMode : UInt8) (sibling : Option ResourceId)
    (occluded occluding : Bool) : Option RestackAction :=
  if stackMode = 0 then some (sibling.elim .Top .AboveSibling)
  else if stackMode = 1 then some (sibling.elim .Bottom .BelowSibling)
  else if stackMode = 2 then some (if occluded then .Top else .NoOp)
  else if stackMode = 3 then some (if occluding then .Bottom else .NoOp)
  else if stackMode = 4 then
    some (if occluded then .Top else if occluding then .Bottom else .NoOp)
  else none

theorem children_applyRestack {parent : Window} {window : ResourceId} {index : Nat}
    (h : parent.children.idxOf? window = some index) (action : RestackAction) :
    (ResourceTable.applyRestack parent index window action).children =
      action.reorder window parent.children := by
  have hremove : (parent.removeAt index).children = parent.children.erase window := by
    rw [List.erase_eq_eraseIdx, h, Window.removeAt]
  have hraise : ((parent.removeAt index).insertAt (cowAwareTopIndex (parent.removeAt index))
      window).children =
        raise COMPOSITE_OVERLAY_WINDOW window (parent.removeAt index).children := by
    rw [Window.insertAt, cowAwareTopIndex_eq, raise]
  cases action with
  | NoOp => rfl
  | Top =>
    rw [RestackAction.reorder, ← hremove]
    exact hraise
  | Bottom =>
    rw [RestackAction.reorder, ← hremove]
    rfl
  | AboveSibling sibling =>
    rw [RestackAction.reorder, ← hremove, ResourceTable.applyRestack]
    by_cases hsibling : sibling = COMPOSITE_OVERLAY_WINDOW
    · rw [if_pos hsibling, if_pos hsibling]
      exact hraise
    · rw [if_neg hsibling, if_neg hsibling]
      rfl
  | BelowSibling sibling =>
    rw [RestackAction.reorder, ← hremove]
    rfl

namespace ResourceTable

variable {t t' : ResourceTable} {a p : ResourceId} {request : ConfigureWindowRequest}

/-- The geometry part of a configure request. -/
def reshape (t : ResourceTable) (request : ConfigureWindowRequest) : ResourceTable :=
  t.modifyWindow request.window fun window =>
    { window with
      x := request.x.getD window.x
      y := request.y.getD window.y
      width := request.width.getD window.width
      height := request.height.getD window.height
      borderWidth := request.borderWidth.getD window.borderWidth }

theorem parentOf_reshape : (t.reshape request).parentOf a = t.parentOf a :=
  parentOf_modifyWindow fun _ => rfl

theorem childrenOf_modifyWindow_same {f : Window → Window}
    (hchildren : ∀ w, (f w).children = w.children) :
    (t.modifyWindow p f).childrenOf a = t.childrenOf a := by
  rw [childrenOf, get_modifyWindow_map, childrenOf]
  cases t.windows[a]? with
  | none => rfl
  | some w =>
    by_cases ha : a = p
    · simp [ha, hchildren]
    · simp [ha]

theorem childrenOf_reshape : (t.reshape request).childrenOf a = t.childrenOf a :=
  childrenOf_modifyWindow_same fun _ => rfl

/-- What a restack does to the children of `p`. -/
def restackAction (t : ResourceTable) (request : ConfigureWindowRequest) (p : ResourceId) :
    Option RestackAction :=
  if t.parentOf request.window = some p then
    request.stackMode.bind (t.resolveRestackAction request.window p request.sibling)
  else none

theorem mem_of_resolveRestackAction {window : ResourceId} {sibling : Option ResourceId}
    {stackMode : UInt8} {action : RestackAction}
    (h : t.resolveRestackAction window p sibling stackMode = some action) :
    window ∈ t.childrenOf p ∧ ∀ s ∈ sibling, s ∈ t.childrenOf p := by
  unfold resolveRestackAction at h
  obtain ⟨parent, hparent, h⟩ := Option.bind_eq_some_iff.mp h
  obtain ⟨index, hindex, h⟩ := Option.bind_eq_some_iff.mp h
  rw [childrenOf_of_get hparent]
  constructor
  · by_contra hmem
    rw [List.idxOf?_eq_none_iff.mpr hmem] at hindex
    exact nomatch hindex
  · rintro s rfl
    by_contra hmem
    simp [hmem] at h

/-- Some sibling that the request considers occludes the window. -/
def occluded (t : ResourceTable) (request : ConfigureWindowRequest) (p : ResourceId) : Bool :=
  t.anySiblingOccludesWindow p ((t.childrenOf p).idxOf request.window) request.sibling

/-- The window occludes some sibling that the request considers. -/
def occluding (t : ResourceTable) (request : ConfigureWindowRequest) (p : ResourceId) : Bool :=
  t.windowOccludesAnySibling p ((t.childrenOf p).idxOf request.window) request.sibling

theorem resolveRestackAction_eq (stackMode : UInt8)
    (hwindow : request.window ∈ t.childrenOf p)
    (hsibling : ∀ s ∈ request.sibling, s ∈ t.childrenOf p) :
    t.resolveRestackAction request.window p request.sibling stackMode =
      RestackAction.ofMode stackMode request.sibling (t.occluded request p)
        (t.occluding request p) := by
  obtain ⟨parent, hparent⟩ := exists_of_mem_childrenOf hwindow
  have hindex : parent.children.idxOf? request.window =
      some ((t.childrenOf p).idxOf request.window) := by
    rw [childrenOf_of_get hparent] at hwindow ⊢
    exact idxOf?_of_mem hwindow
  have hknown : request.sibling.any (fun id => !parent.children.contains id) = false := by
    rw [childrenOf_of_get hparent] at hsibling
    cases hs : request.sibling with
    | none => rfl
    | some s => simpa using hsibling s hs
  simp only [resolveRestackAction, hparent, hindex, hknown, Option.bind_eq_bind, Option.bind_some,
    Bool.false_eq_true, if_false]
  unfold RestackAction.ofMode occluded occluding
  cases request.sibling <;> rfl

theorem restackAction_eq_some_iff {action : RestackAction} :
    t.restackAction request p = some action ↔
      t.parentOf request.window = some p ∧ request.window ∈ t.childrenOf p ∧
        (∀ s ∈ request.sibling, s ∈ t.childrenOf p) ∧
        ∃ stackMode, request.stackMode = some stackMode ∧
          RestackAction.ofMode stackMode request.sibling (t.occluded request p)
            (t.occluding request p) = some action := by
  unfold restackAction
  constructor
  · intro h
    split at h
    · next hparent =>
      obtain ⟨stackMode, hmode, h⟩ := Option.bind_eq_some_iff.mp h
      obtain ⟨hwindow, hsibling⟩ := mem_of_resolveRestackAction h
      rw [resolveRestackAction_eq stackMode hwindow hsibling] at h
      exact ⟨hparent, hwindow, hsibling, stackMode, hmode, h⟩
    · exact nomatch h
  · rintro ⟨hparent, hwindow, hsibling, stackMode, hmode, h⟩
    rw [if_pos hparent, hmode, Option.bind_some, resolveRestackAction_eq stackMode hwindow hsibling]
    exact h

theorem childrenOf_restackWindow :
    (t.restackWindow request.window request.sibling request.stackMode).childrenOf a =
      (t.restackAction request a).elim (t.childrenOf a)
        fun action => action.reorder request.window (t.childrenOf a) := by
  unfold restackWindow restackAction parentOf
  cases request.stackMode with
  | none => simp
  | some stackMode =>
    cases hparent : t.windows[request.window]?.map (·.parent) with
    | none => simp
    | some p =>
      rw [Option.bind_some]
      dsimp only
      cases haction : t.resolveRestackAction request.window p request.sibling stackMode with
      | none =>
        by_cases ha : p = a
        · subst ha
          rw [if_pos rfl, haction]
          rfl
        · rw [if_neg fun heq => ha (Option.some.inj heq)]
          rfl
      | some action =>
        by_cases ha : p = a
        · subst ha
          obtain ⟨hwindow, -⟩ := mem_of_resolveRestackAction haction
          obtain ⟨parent, hget⟩ := exists_of_mem_childrenOf hwindow
          rw [childrenOf_of_get hget] at hwindow
          have hindex := idxOf?_of_mem hwindow
          rw [if_pos rfl, haction, Option.elim_some, childrenOf_modifyWindow hget, hindex,
            childrenOf_of_get hget]
          exact children_applyRestack hindex action
        · rw [if_neg fun heq => ha (Option.some.inj heq),
            childrenOf_modifyWindow_of_ne (Ne.symm ha)]
          rfl

/-- A configure request changes the order of one list of children. -/
theorem childrenOf_configureWindow (hw : t.windows[request.window]? ≠ none) :
    (t.configureWindow request).1.childrenOf a =
      ((t.reshape request).restackAction request a).elim (t.childrenOf a)
        fun action => action.reorder request.window (t.childrenOf a) := by
  have hcontains : t.windows.contains request.window = true :=
    Std.ExtTreeMap.contains_iff_mem.mpr (ResourceMap.mem_iff.mpr hw)
  rw [configureWindow, if_pos hcontains]
  have hrestack := @childrenOf_restackWindow (t.reshape request) a request
  rw [childrenOf_reshape] at hrestack
  exact hrestack

end ResourceTable

/-! ## Occlusion -/

/-- On both axes, each outline begins before the other one ends; the border is
part of the outline. -/
def OutlinesMeet (a b : Window) : Prop :=
  a.x.toInt < b.x.toInt + b.width.toNat + 2 * b.borderWidth.toNat ∧
    b.x.toInt < a.x.toInt + a.width.toNat + 2 * a.borderWidth.toNat ∧
    a.y.toInt < b.y.toInt + b.height.toNat + 2 * b.borderWidth.toNat ∧
    b.y.toInt < a.y.toInt + a.height.toNat + 2 * a.borderWidth.toNat

theorem windowRectsOverlap_iff {a b : Window} :
    windowRectsOverlap a b = true ↔ OutlinesMeet a b := by
  simp only [windowRectsOverlap, windowBoundingBox, Bool.and_eq_true, OutlinesMeet, and_assoc]
  exact and_congr decide_eq_true_iff
    (and_congr decide_eq_true_iff (and_congr decide_eq_true_iff decide_eq_true_iff))

theorem OutlinesMeet.symm {a b : Window} (h : OutlinesMeet a b) : OutlinesMeet b a :=
  ⟨h.2.1, h.1, h.2.2.2, h.2.2.1⟩

namespace ResourceTable

variable {t : ResourceTable} {p window : ResourceId} {request : ConfigureWindowRequest}

/-- A mapped child of `p` occludes another one below it when their outlines
meet. -/
def Occludes (t : ResourceTable) (p a b : ResourceId) : Prop :=
  Above a b (t.childrenOf p) ∧ ∃ wa wb, t.windows[a]? = some wa ∧ t.windows[b]? = some wb ∧
    wa.mapState ≠ .Unmapped ∧ wb.mapState ≠ .Unmapped ∧ OutlinesMeet wa wb

theorem overlapsSibling_iff {considered : Nat → Bool} {sibling : Option ResourceId}
    (hwindow : window ∈ t.childrenOf p) :
    t.overlapsSibling considered p ((t.childrenOf p).idxOf window) sibling = true ↔
      ∃ (i : Nat) (other : ResourceId), (t.childrenOf p)[i]? = some other ∧ considered i = true ∧
        (∀ s ∈ sibling, s = other) ∧
        ∃ w o, t.windows[window]? = some w ∧ t.windows[other]? = some o ∧
          w.mapState ≠ .Unmapped ∧ o.mapState ≠ .Unmapped ∧ OutlinesMeet w o := by
  obtain ⟨parent, hparent⟩ := exists_of_mem_childrenOf hwindow
  rw [childrenOf_of_get hparent] at hwindow ⊢
  have hget : parent.children[parent.children.idxOf window]? = some window :=
    List.getElem?_idxOf hwindow
  simp only [overlapsSibling, hparent, hget, Option.bind_some]
  cases hw : t.windows[window]? with
  | none => simp
  | some w =>
    simp only [Bool.and_eq_true, decide_eq_true_eq, List.any_eq_true, Prod.exists,
      List.mk_mem_zipIdx_iff_getElem?, Option.all_eq_true]
    constructor
    · rintro ⟨hmapped, other, i, hi, ⟨hconsidered, hsibling⟩, hover⟩
      cases ho : t.windows[other]? with
      | none => simp [ho] at hover
      | some o =>
        simp only [ho, Bool.and_eq_true, decide_eq_true_eq] at hover
        exact ⟨i, other, hi, hconsidered, hsibling, w, o, rfl, ho, hmapped, hover.1,
          windowRectsOverlap_iff.mp hover.2⟩
    · rintro ⟨i, other, hi, hconsidered, hsibling, w', o, hw', ho, hmapped, homapped, hmeet⟩
      cases hw'
      refine ⟨hmapped, other, i, hi, ⟨hconsidered, hsibling⟩, ?_⟩
      simp only [ho, Bool.and_eq_true, decide_eq_true_eq]
      exact ⟨homapped, windowRectsOverlap_iff.mpr hmeet⟩

theorem occluded_iff (hnodup : (t.childrenOf p).Nodup) (hwindow : request.window ∈ t.childrenOf p) :
    t.occluded request p = true ↔
      ∃ other, (∀ s ∈ request.sibling, s = other) ∧ t.Occludes p other request.window := by
  rw [occluded, anySiblingOccludesWindow, overlapsSibling_iff hwindow]
  constructor
  · rintro ⟨i, other, hi, hlt, hsibling, w, o, hw, ho, hmapped, homapped, hmeet⟩
    refine ⟨other, hsibling, above_iff.mpr ⟨_, i, of_decide_eq_true hlt, ?_, hi⟩, o, w, ho, hw,
      homapped, hmapped, hmeet.symm⟩
    exact List.getElem?_idxOf hwindow
  · rintro ⟨other, hsibling, habove, o, w, ho, hw, homapped, hmapped, hmeet⟩
    obtain ⟨i, j, hij, hi, hj⟩ := above_iff.mp habove
    refine ⟨j, other, hj, decide_eq_true ?_, hsibling, w, o, hw, ho, hmapped, homapped, hmeet.symm⟩
    rw [idxOf_of_getElem? hnodup hi]
    exact hij

theorem occluding_iff (hnodup : (t.childrenOf p).Nodup)
    (hwindow : request.window ∈ t.childrenOf p) :
    t.occluding request p = true ↔
      ∃ other, (∀ s ∈ request.sibling, s = other) ∧ t.Occludes p request.window other := by
  rw [occluding, windowOccludesAnySibling, overlapsSibling_iff hwindow]
  constructor
  · rintro ⟨i, other, hi, hlt, hsibling, hrest⟩
    exact ⟨other, hsibling, above_iff.mpr
      ⟨i, _, of_decide_eq_true hlt, hi, List.getElem?_idxOf hwindow⟩, hrest⟩
  · rintro ⟨other, hsibling, habove, hrest⟩
    obtain ⟨i, j, hij, hi, hj⟩ := above_iff.mp habove
    refine ⟨i, other, hi, decide_eq_true ?_, hsibling, hrest⟩
    rw [idxOf_of_getElem? hnodup hj]
    exact hij

end ResourceTable

/-! ## Where a configure request puts a window -/

/-- `window` is on top, or just below the overlay when that is on top of the
others. -/
def OnTop (window : ResourceId) (order order' : List ResourceId) : Prop :=
  if (order.erase window).getLast? = some COMPOSITE_OVERLAY_WINDOW then
    ∃ lower, order' = lower ++ [window, COMPOSITE_OVERLAY_WINDOW]
  else order'.getLast? = some window

section
variable {window sibling : ResourceId} {order : List ResourceId}

theorem onTop_raise :
    OnTop window order (raise COMPOSITE_OVERLAY_WINDOW window (order.erase window)) := by
  unfold OnTop
  split
  · next hlast =>
    obtain ⟨rest, hrest⟩ := List.getLast?_eq_some_iff.mp hlast
    rw [hrest, raise_concat]
    exact ⟨rest, rfl⟩
  · next hlast =>
    rw [raise_of_ne hlast]
    exact List.getLast?_concat

theorem directlyAbove_putAbove (h : sibling ∈ order.erase window) :
    DirectlyAbove window sibling (putAbove sibling window (order.erase window)) := by
  obtain ⟨lower, upper, hsplit, hlower⟩ := List.eq_append_cons_of_mem h
  rw [hsplit, putAbove_of_split hlower]
  exact ⟨lower, upper, rfl⟩

theorem directlyAbove_putBelow (h : sibling ∈ order.erase window) :
    DirectlyAbove sibling window (putBelow sibling window (order.erase window)) := by
  obtain ⟨lower, upper, hsplit, hlower⟩ := List.eq_append_cons_of_mem h
  rw [hsplit, putBelow_of_split hlower]
  exact ⟨lower, upper, rfl⟩

theorem rearranged_reorder (hnodup : order.Nodup) (hwindow : window ∈ order)
    (action : RestackAction) : Rearranged window order (action.reorder window order) := by
  have hraise : Rearranged window order
      (raise COMPOSITE_OVERLAY_WINDOW window (order.erase window)) := by
    obtain ⟨lower, upper, hsplit, hraise⟩ :=
      raise_split COMPOSITE_OVERLAY_WINDOW window (order.erase window)
    rw [hraise]
    exact .insert hnodup hwindow hsplit
  have hbottom : Rearranged window order (window :: order.erase window) :=
    .bottom hnodup hwindow
  cases action with
  | NoOp => exact .refl window order
  | Top => exact hraise
  | Bottom => exact hbottom
  | AboveSibling sibling =>
    rw [RestackAction.reorder]
    split
    · exact hraise
    by_cases hmem : sibling ∈ order.erase window
    · obtain ⟨lower, upper, hsplit, hlower⟩ := List.eq_append_cons_of_mem hmem
      rw [hsplit, putAbove_of_split hlower, List.append_cons]
      exact .insert hnodup hwindow (hsplit.trans (List.append_cons ..))
    · rw [putAbove_of_not_mem hmem]
      exact .insert hnodup hwindow (List.append_nil _).symm
  | BelowSibling sibling =>
    rw [RestackAction.reorder]
    by_cases hmem : sibling ∈ order.erase window
    · obtain ⟨lower, upper, hsplit, hlower⟩ := List.eq_append_cons_of_mem hmem
      rw [hsplit, putBelow_of_split hlower]
      exact .insert hnodup hwindow hsplit
    · rw [putBelow_of_not_mem hmem]
      exact hbottom

end

theorem RestackAction.exists_ofMode {stackMode : UInt8} (hmode : stackMode.toNat ≤ 4)
    (sibling : Option ResourceId) (occluded occluding : Bool) :
    ∃ action, RestackAction.ofMode stackMode sibling occluded occluding = some action := by
  have hcases : stackMode = 0 ∨ stackMode = 1 ∨ stackMode = 2 ∨ stackMode = 3 ∨ stackMode = 4 := by
    simp only [← UInt8.toNat_inj, UInt8.toNat_ofNat]
    omega
  rcases hcases with rfl | rfl | rfl | rfl | rfl <;> exact ⟨_, rfl⟩

namespace ResourceTable

variable {t : ResourceTable} {p : ResourceId} {request : ConfigureWindowRequest}

/-- Some sibling that the request considers occludes the window. -/
def IsOccluded (t : ResourceTable) (p : ResourceId) (request : ConfigureWindowRequest) : Prop :=
  ∃ other, (∀ s ∈ request.sibling, s = other) ∧ t.Occludes p other request.window

/-- The window occludes some sibling that the request considers. -/
def IsOccluding (t : ResourceTable) (p : ResourceId) (request : ConfigureWindowRequest) : Prop :=
  ∃ other, (∀ s ∈ request.sibling, s = other) ∧ t.Occludes p request.window other

/-- The order of the children of `p` after a configure request, mode by mode.
Occlusion is that of `t`. -/
structure Restacks (t : ResourceTable) (p : ResourceId) (request : ConfigureWindowRequest)
    (order order' : List ResourceId) : Prop where
  rearranged : Rearranged request.window order order'
  above : ∀ s, request.stackMode = some 0 → request.sibling = some s →
    s ≠ COMPOSITE_OVERLAY_WINDOW → DirectlyAbove request.window s order'
  aboveOverlay : request.stackMode = some 0 → request.sibling = some COMPOSITE_OVERLAY_WINDOW →
    OnTop request.window order order'
  raised : request.stackMode = some 0 → request.sibling = none →
    OnTop request.window order order'
  below : ∀ s, request.stackMode = some 1 → request.sibling = some s →
    DirectlyAbove s request.window order'
  lowered : request.stackMode = some 1 → request.sibling = none →
    order'.head? = some request.window
  topIf : request.stackMode = some 2 → t.IsOccluded p request →
    OnTop request.window order order'
  topIf_not : request.stackMode = some 2 → ¬ t.IsOccluded p request → order' = order
  bottomIf : request.stackMode = some 3 → t.IsOccluding p request →
    order'.head? = some request.window
  bottomIf_not : request.stackMode = some 3 → ¬ t.IsOccluding p request → order' = order
  oppositeTop : request.stackMode = some 4 → t.IsOccluded p request →
    OnTop request.window order order'
  oppositeBottom : request.stackMode = some 4 → ¬ t.IsOccluded p request →
    t.IsOccluding p request → order'.head? = some request.window
  opposite_not : request.stackMode = some 4 → ¬ t.IsOccluded p request →
    ¬ t.IsOccluding p request → order' = order

/-- Restacking a child of `p` by the siblings' occlusion in the geometry that the
request asks for. -/
theorem configureWindow_restacks (hparent : t.parentOf request.window = some p)
    (hnodup : (t.childrenOf p).Nodup) (hwindow : request.window ∈ t.childrenOf p)
    (hsibling : ∀ s ∈ request.sibling, s ∈ t.childrenOf p ∧ s ≠ request.window)
    {stackMode : UInt8} (hmode : request.stackMode = some stackMode)
    (hrange : stackMode.toNat ≤ 4) :
    (t.reshape request).Restacks p request (t.childrenOf p)
      ((t.configureWindow request).1.childrenOf p) := by
  have hw : t.windows[request.window]? ≠ none := by
    intro hnone
    rw [parentOf_eq_none.mpr hnone] at hparent
    exact nomatch hparent
  obtain ⟨action, haction⟩ := RestackAction.exists_ofMode hrange request.sibling
    ((t.reshape request).occluded request p) ((t.reshape request).occluding request p)
  have hrestack : (t.reshape request).restackAction request p = some action := by
    rw [restackAction_eq_some_iff, parentOf_reshape, childrenOf_reshape]
    exact ⟨hparent, hwindow, fun s hs => (hsibling s hs).1, stackMode, hmode, haction⟩
  have hoccluded := @occluded_iff (t.reshape request) p request
  have hoccluding := @occluding_iff (t.reshape request) p request
  rw [childrenOf_reshape] at hoccluded hoccluding
  have hoccluded : _ ↔ (t.reshape request).IsOccluded p request := hoccluded hnodup hwindow
  have hoccluding : _ ↔ (t.reshape request).IsOccluding p request := hoccluding hnodup hwindow
  have hknown : ∀ s, request.sibling = some s → s ∈ (t.childrenOf p).erase request.window :=
    fun s hs => (List.mem_erase_of_ne (hsibling s hs).2).mpr (hsibling s hs).1
  rw [childrenOf_configureWindow hw, hrestack, Option.elim_some]
  generalize (t.reshape request).occluded request p = occluded at haction hoccluded
  generalize (t.reshape request).occluding request p = occluding at haction hoccluding
  have hoccluded' : ¬ (t.reshape request).IsOccluded p request → occluded = false :=
    fun h => Bool.eq_false_iff.mpr fun ho => h (hoccluded.mp ho)
  have hoccluding' : ¬ (t.reshape request).IsOccluding p request → occluding = false :=
    fun h => Bool.eq_false_iff.mpr fun ho => h (hoccluding.mp ho)
  have hchosen : ∀ {m chosen}, request.stackMode = some m →
      RestackAction.ofMode m request.sibling occluded occluding = some chosen →
      action = chosen := by
    intro m chosen hm hchosen
    rw [hmode] at hm
    cases hm
    exact Option.some.inj (haction.symm.trans hchosen)
  constructor
  case rearranged => exact rearranged_reorder hnodup hwindow action
  case above =>
    intro s hm hs hne
    obtain rfl : action = .AboveSibling s := hchosen hm (by rw [hs]; rfl)
    rw [RestackAction.reorder, if_neg hne]
    exact directlyAbove_putAbove (hknown s hs)
  case aboveOverlay =>
    intro hm hs
    obtain rfl : action = .AboveSibling _ := hchosen hm (by rw [hs]; rfl)
    rw [RestackAction.reorder, if_pos rfl]
    exact onTop_raise
  case raised =>
    intro hm hs
    obtain rfl : action = .Top := hchosen hm (by rw [hs]; rfl)
    exact onTop_raise
  case below =>
    intro s hm hs
    obtain rfl : action = .BelowSibling s := hchosen hm (by rw [hs]; rfl)
    exact directlyAbove_putBelow (hknown s hs)
  case lowered =>
    intro hm hs
    obtain rfl : action = .Bottom := hchosen hm (by rw [hs]; rfl)
    rfl
  case topIf =>
    intro hm ho
    obtain rfl : action = .Top := hchosen hm (by rw [hoccluded.mpr ho]; rfl)
    exact onTop_raise
  case topIf_not =>
    intro hm ho
    obtain rfl : action = .NoOp := hchosen hm (by rw [hoccluded' ho]; rfl)
    rfl
  case bottomIf =>
    intro hm ho
    obtain rfl : action = .Bottom := hchosen hm (by rw [hoccluding.mpr ho]; rfl)
    rfl
  case bottomIf_not =>
    intro hm ho
    obtain rfl : action = .NoOp := hchosen hm (by rw [hoccluding' ho]; rfl)
    rfl
  case oppositeTop =>
    intro hm ho
    obtain rfl : action = .Top := hchosen hm (by rw [hoccluded.mpr ho]; rfl)
    exact onTop_raise
  case oppositeBottom =>
    intro hm ho hg
    obtain rfl : action = .Bottom := hchosen hm (by rw [hoccluded' ho, hoccluding.mpr hg]; rfl)
    rfl
  case opposite_not =>
    intro hm ho hg
    obtain rfl : action = .NoOp := hchosen hm (by rw [hoccluded' ho, hoccluding' hg]; rfl)
    rfl

/-- The overlay above one other child of the root. -/
def overlayTable : ResourceTable :=
  ((default.createWindow 1 (childRequest 0x200000 ROOT_WINDOW)).materializeCowResource 1).getD
    default

/-- Two mapped windows side by side, and the overlay. -/
def occludedTable : ResourceTable :=
  let child (window : ResourceId) (x y : Int16) : CreateWindowRequest :=
    { childRequest window ROOT_WINDOW with
      x := x
      y := y
      width := 100
      height := 100 }
  let t := (default.createWindow 1 (child 0x200000 0 0)).createWindow 1 (child 0x200001 120 50)
  let t := ((t.mapWindow 0x200000).1.mapWindow 0x200001).1
  (t.materializeCowResource 1).getD default

/-- The first window is moved behind the second one, and comes to the front. -/
theorem configureWindow_restacks_topIf :
    let request : ConfigureWindowRequest :=
      { restackRequest 0x200000 none 2 with x := some 50, y := some 40 }
    (occludedTable.reshape request).Restacks ROOT_WINDOW request
        (occludedTable.childrenOf ROOT_WINDOW)
        ((occludedTable.configureWindow request).1.childrenOf ROOT_WINDOW) ∧
      (occludedTable.reshape request).IsOccluded ROOT_WINDOW request ∧
      occludedTable.childrenOf ROOT_WINDOW = [0x200000, 0x200001, COMPOSITE_OVERLAY_WINDOW] ∧
      (occludedTable.configureWindow request).1.childrenOf ROOT_WINDOW =
        [0x200001, 0x200000, COMPOSITE_OVERLAY_WINDOW] := by
  intro request
  refine ⟨configureWindow_restacks (by decide) (by decide) (by decide) (fun _ hs => ?_) rfl
    (by decide), (occluded_iff (by decide) (by decide)).mp (by decide), by decide, by decide⟩
  cases hs

/-- A window restacked above the overlay, or to the top, ends below it. -/
theorem restacked_below_overlay :
    overlayTable.childrenOf ROOT_WINDOW = [0x200000, COMPOSITE_OVERLAY_WINDOW] ∧
      ¬ DirectlyAbove 0x200000 COMPOSITE_OVERLAY_WINDOW
        ((overlayTable.configureWindow
          (restackRequest 0x200000 (some COMPOSITE_OVERLAY_WINDOW) 0)).1.childrenOf ROOT_WINDOW) ∧
      ((overlayTable.configureWindow (restackRequest 0x200000 none 0)).1.childrenOf
        ROOT_WINDOW).getLast? ≠ some 0x200000 := by
  refine ⟨by decide, ?_, by decide⟩
  have horder : (overlayTable.configureWindow
      (restackRequest 0x200000 (some COMPOSITE_OVERLAY_WINDOW) 0)).1.childrenOf ROOT_WINDOW =
        [0x200000, COMPOSITE_OVERLAY_WINDOW] := by
    decide
  rw [horder]
  rintro ⟨lower, upper, h⟩
  cases lower with
  | nil => exact absurd (List.cons.inj h).1 (by decide)
  | cons a lower =>
    cases lower with
    | nil => exact nomatch (List.cons.inj (List.cons.inj h).2).2
    | cons b lower =>
      have hlength := congrArg List.length h
      simp at hlength

end ResourceTable

end X12

import X12.Core.DeviceFocus
import X12.Verify.AbsolutePosition
import X12.Verify.MapState

/-! # The focus of a device stays valid

The walks up the tree go 256 windows far. Within that reach a device loses its focus exactly
when its window is not viewable or dies, and the focus goes where the device has it revert to. -/

namespace X12

open Forest Links

namespace ResourceTable

variable {t : ResourceTable} {w p a root : ResourceId} {win : Window} {k n d : Nat}
  {dying : Option ResourceId}

/-- The window and all its ancestors are mapped. -/
def Viewable (t : ResourceTable) (w : ResourceId) : Prop :=
  t.IsMapped w ∧ ∀ a, t.Ancestor w a → t.IsMapped a

/-- The window is `root` or below it. -/
def AtOrBelow (t : ResourceTable) (root w : ResourceId) : Prop :=
  w = root ∨ t.Ancestor w root

/-- The window can be given the focus while a subtree dies. -/
def Hosts (t : ResourceTable) (dying : Option ResourceId) (a : ResourceId) : Prop :=
  t.Viewable a ∧ ∀ root, dying = some root → ¬ t.AtOrBelow root a

/-! ## Walks up the tree -/

theorem not_ancestor_root : ¬ t.Ancestor ROOT_WINDOW a := by
  intro ha
  obtain ⟨_, hstep, _⟩ := Relation.TransGen.head'_iff.mp ha
  exact hstep.1 rfl

theorem viewable_root : t.Viewable ROOT_WINDOW ↔ t.IsMapped ROOT_WINDOW :=
  and_iff_left fun _ ha => absurd ha not_ancestor_root

theorem viewable_iff_parent (hw : t.windows[w]? = some win) (hne : w ≠ ROOT_WINDOW) :
    t.Viewable w ↔ t.IsMapped w ∧ t.Viewable win.parent := by
  constructor
  · intro ⟨hmapped, hall⟩
    refine ⟨hmapped, hall _ (.parent hw hne), fun a ha => hall a ?_⟩
    exact .head ⟨hne, parentOf_of_get hw⟩ ha
  · intro ⟨hmapped, hparent, hall⟩
    refine ⟨hmapped, fun a ha => ?_⟩
    rcases (ha.cases hw).2 with rfl | ha
    · exact hparent
    · exact hall a ha

theorem exists_atDepth (h : t.TreeWellFormed) (hw : t.windows[w]? ≠ none) :
    ∃ d, t.links.AtDepth ROOT_WINDOW w d :=
  h.rooted (present_iff.mpr hw)

theorem isMapped_of_get (hw : t.windows[w]? = some win) :
    t.IsMapped w ↔ win.mapState ≠ .Unmapped := by
  constructor
  · intro ⟨win', hw', hmapped⟩
    rw [hw] at hw'
    cases hw'
    exact hmapped
  · exact fun hmapped => ⟨win, hw, hmapped⟩

theorem mappedFrom_succ (hw : t.windows[w]? = some win) :
    t.mappedFrom (n + 1) w = true ↔
      t.IsMapped w ∧ (win.parent = w ∨ t.mappedFrom n win.parent = true) := by
  rw [mappedFrom, hw, isMapped_of_get hw]
  by_cases hmapped : win.mapState = .Unmapped
  · simp only [hmapped, if_true, Bool.false_eq_true, ne_eq, not_true_eq_false, false_and]
  · simp only [hmapped, if_false, ne_eq, not_false_eq_true, true_and]
    by_cases hself : win.parent = w
    · simp only [hself, if_true, true_or]
    · simp only [hself, if_false, false_or]

/-- The walk sees that everything is mapped if it gets to the root. -/
theorem mappedFrom_iff (h : t.TreeWellFormed) (hdepth : t.links.AtDepth ROOT_WINDOW w d) :
    t.mappedFrom n w = true ↔ t.Viewable w ∧ d < n := by
  induction hdepth generalizing n with
  | root =>
    cases n with
    | zero => exact iff_of_false Bool.false_ne_true fun h => absurd h.2 (Nat.lt_irrefl 0)
    | succ n =>
      obtain ⟨win, hw⟩ := exists_of_present h.root_present
      have hself : win.parent = ROOT_WINDOW :=
        Option.some.inj ((parentOf_of_get hw).symm.trans h.root_parent)
      rw [mappedFrom_succ hw, viewable_root]
      exact and_congr_right fun _ => iff_of_true (.inl hself) (Nat.succ_pos n)
  | @step a p d hne hp hrest ih =>
    cases n with
    | zero => exact iff_of_false Bool.false_ne_true fun h => absurd h.2 (Nat.not_lt_zero _)
    | succ n =>
      obtain ⟨win, hw, rfl⟩ := exists_of_parentOf hp
      rw [mappedFrom_succ hw, viewable_iff_parent hw hne, or_iff_right (h.parent_ne hne hp), ih,
        and_assoc, Nat.add_lt_add_iff_right]

/-- The stored state of the window agrees, and the walk from it gets to the root. -/
def Recognised (t : ResourceTable) (w : ResourceId) : Prop :=
  t.isViewable w = true ∧ ∃ d, d < 256 ∧ t.links.AtDepth ROOT_WINDOW w d

theorem windowViewable_iff (h : t.TreeWellFormed) :
    t.windowViewable w = true ↔ t.Viewable w ∧ t.Recognised w := by
  rw [windowViewable]
  cases hw : t.windows[w]? with
  | none =>
    refine iff_of_false Bool.false_ne_true ?_
    intro ⟨⟨⟨win, hw', _⟩, _⟩, _⟩
    rw [hw] at hw'
    cases hw'
  | some win =>
    obtain ⟨d, hdepth⟩ := exists_atDepth h (hw ▸ Option.some_ne_none win)
    have hreach : (∃ d, d < 256 ∧ t.links.AtDepth ROOT_WINDOW w d) ↔ d < 256 :=
      ⟨fun ⟨d', hlt, hdepth'⟩ => hdepth.unique hdepth' ▸ hlt, fun hlt => ⟨d, hlt, hdepth⟩⟩
    rw [Recognised, hreach, isViewable_of_get hw]
    by_cases hstate : win.mapState = .Viewable
    · simp only [hstate, ne_eq, not_true_eq_false, if_false, true_and]
      exact mappedFrom_iff h hdepth
    · simp only [hstate, ne_eq, not_false_eq_true, if_true, Bool.false_eq_true, false_and,
        and_false]

theorem inSubtreeFrom_iff : t.inSubtreeFrom root n w = true ↔
    ∃ k, k < n ∧ t.links.AtDepth root w k := by
  induction n generalizing w with
  | zero => exact iff_of_false Bool.false_ne_true fun ⟨k, hk, _⟩ => Nat.not_lt_zero k hk
  | succ n ih =>
    rw [inSubtreeFrom]
    by_cases hroot : w = root
    · rw [if_pos hroot]
      exact iff_of_true rfl ⟨0, Nat.succ_pos n, hroot ▸ .root⟩
    rw [if_neg hroot]
    cases hw : t.windows[w]? with
    | none =>
      refine iff_of_false Bool.false_ne_true ?_
      intro ⟨k, _, hdepth⟩
      cases hdepth with
      | root => exact hroot rfl
      | step _ hp _ =>
        obtain ⟨win, hw', _⟩ := exists_of_parentOf hp
        rw [hw] at hw'
        cases hw'
    | some win =>
      have hp := parentOf_of_get hw
      by_cases hself : win.parent = w
      · simp only [hself, ne_eq, not_true_eq_false, if_false]
        refine iff_of_false Bool.false_ne_true ?_
        intro ⟨k, _, hdepth⟩
        rw [hself] at hp
        exact hroot (hdepth.eq_of_self hp)
      · simp only [hself, ne_eq, not_false_eq_true, if_true]
        rw [ih]
        constructor
        · intro ⟨k, hk, hdepth⟩
          exact ⟨k + 1, Nat.succ_lt_succ hk, .step hroot hp hdepth⟩
        · intro ⟨k, hk, hdepth⟩
          obtain ⟨m, rfl, hrest⟩ := hdepth.parent hroot hp
          exact ⟨m, Nat.lt_of_succ_lt_succ hk, hrest⟩

/-- Being below a window is being some steps below it. -/
theorem atOrBelow_iff (h : t.TreeWellFormed) :
    t.AtOrBelow root w ↔ ∃ k, t.links.AtDepth root w k := by
  constructor
  · rintro (rfl | ha)
    · exact ⟨0, .root⟩
    · have hstep {x p : ResourceId} (hp : t.parentOf x = some p)
          (hrest : ∃ k, t.links.AtDepth root p k) : ∃ k, t.links.AtDepth root x k := by
        obtain ⟨k, hrest⟩ := hrest
        by_cases hne : x = root
        · exact ⟨0, hne ▸ .root⟩
        · exact ⟨k + 1, .step hne hp hrest⟩
      induction ha using Relation.TransGen.head_induction_on with
      | single hedge => exact hstep hedge.2 ⟨0, .root⟩
      | head hedge _ ih => exact hstep hedge.2 ih
  · intro ⟨k, hdepth⟩
    induction hdepth with
    | root => exact .inl rfl
    | @step w p k hne hp hrest ih =>
      have hroot : w ≠ ROOT_WINDOW := by
        rintro rfl
        exact hne ((Links.AtDepth.step hne hp hrest).eq_of_self h.root_parent)
      rcases ih with rfl | ha
      · exact .inr (.single ⟨hroot, hp⟩)
      · exact .inr (.head ⟨hroot, hp⟩ ha)

theorem ancestor_atDepth (ha : t.Ancestor w a)
    (hdepth : t.links.AtDepth ROOT_WINDOW w d) :
    ∃ m, m < d ∧ t.links.AtDepth ROOT_WINDOW a m := by
  induction ha using Relation.TransGen.head_induction_on generalizing d with
  | single hedge =>
    obtain ⟨m, rfl, hrest⟩ := hdepth.parent hedge.1 hedge.2
    exact ⟨m, Nat.lt_succ_self m, hrest⟩
  | head hedge _ ih =>
    obtain ⟨m, rfl, hrest⟩ := hdepth.parent hedge.1 hedge.2
    obtain ⟨m', hlt, hdepth'⟩ := ih hrest
    exact ⟨m', Nat.lt_succ_of_lt hlt, hdepth'⟩

theorem present_of_atDepth (h : t.TreeWellFormed) (hdepth : t.links.AtDepth root w k)
    (hw : t.links.Present w) : t.links.Present root := by
  induction hdepth with
  | root => exact hw
  | step _ hp _ ih => exact ih (h.parent_present hp)

/-- The window is seen to be at or below `root`. -/
def SeenBelow (t : ResourceTable) (root w : ResourceId) : Prop :=
  ∃ k, k < 256 ∧ t.links.AtDepth root w k

theorem inSubtree_iff : t.inSubtree w root = true ↔ t.SeenBelow root w :=
  inSubtreeFrom_iff

/-- Whether an ancestor is below `root` is seen when it is seen of the window. -/
theorem SeenBelow.ancestor (h : t.TreeWellFormed) (hw : t.SeenBelow root w)
    (ha : t.Ancestor w a) : t.inSubtree a root = true ↔ t.AtOrBelow root a := by
  rw [inSubtree_iff, atOrBelow_iff h]
  refine ⟨fun ⟨k, _, hdepth⟩ => ⟨k, hdepth⟩, fun ⟨j, hj⟩ => ⟨j, ?_, hj⟩⟩
  obtain ⟨k, hk, hdepth⟩ := hw
  obtain ⟨_, hedge, _⟩ := Relation.TransGen.head'_iff.mp ha
  obtain ⟨d, hroot⟩ := h.rooted (present_of_atDepth h hdepth (present_of_parent hedge.2))
  obtain ⟨m, hlt, hm⟩ := ancestor_atDepth ha (hdepth.trans hroot h.root_parent)
  have heq := hm.unique (hj.trans hroot h.root_parent)
  omega

/-! ## The walk to an ancestor -/

/-- An ancestor that the walk takes. -/
def viable (t : ResourceTable) (dying : Option ResourceId) (p : ResourceId) : Bool :=
  !(dying.any fun root => t.inSubtree p root) && (p = ROOT_WINDOW || t.windowViewable p)

theorem viableFrom_succ (hw : t.windows[w]? = some win) (hself : win.parent ≠ w) :
    t.viableFrom dying (n + 1) w =
      if t.viable dying win.parent then win.parent else t.viableFrom dying n win.parent := by
  rw [viableFrom, hw]
  exact if_neg hself

/-- The walk ends at the root window or at an ancestor that it takes. -/
theorem viableFrom_cases (dying : Option ResourceId) (n : Nat) (w : ResourceId) :
    t.viableFrom dying n w = ROOT_WINDOW ∨ t.viable dying (t.viableFrom dying n w) = true := by
  induction n generalizing w with
  | zero => exact .inl rfl
  | succ n ih =>
    cases hw : t.windows[w]? with
    | none =>
      left
      rw [viableFrom, hw]
    | some win =>
      by_cases hself : win.parent = w
      · left
        rw [viableFrom, hw]
        exact if_pos hself
      · rw [viableFrom_succ hw hself]
        split
        · next hviable => exact .inr hviable
        · exact ih win.parent

theorem viableFrom_zero_iff (hk : 0 < k) : t.viableFrom dying 0 w = a ↔
    a = ROOT_WINDOW ∨ k ≤ 0 ∧ t.viable dying a = true := by
  rw [or_iff_left fun hfar => Nat.not_le_of_lt hk hfar.1]
  exact eq_comm

/-- The walk finds the nearest ancestor that can have the focus if that is the root window, or
near enough and known to be viewable. -/
theorem viableFrom_eq_iff (h : t.TreeWellFormed) {P : ResourceId → Prop}
    (hnear : t.links.NearestAbove ROOT_WINDOW P w a k)
    (hviable : ∀ p, t.Ancestor w p → p ≠ ROOT_WINDOW → t.viable dying p = true → P p)
    (hroot : P ROOT_WINDOW → t.viable dying ROOT_WINDOW = true) :
    t.viableFrom dying n w = a ↔ a = ROOT_WINDOW ∨ k ≤ n ∧ t.viable dying a = true := by
  induction hnear generalizing n with
  | @parent w p hne hp hholds =>
    obtain ⟨win, hw, rfl⟩ := exists_of_parentOf hp
    cases n with
    | zero => exact viableFrom_zero_iff Nat.one_pos
    | succ n =>
      rw [viableFrom_succ hw (h.parent_ne hne hp)]
      by_cases htaken : t.viable dying win.parent = true
      · rw [if_pos htaken]
        exact iff_of_true rfl (.inr ⟨Nat.succ_pos n, htaken⟩)
      · rw [if_neg htaken]
        have hbelow : win.parent ≠ ROOT_WINDOW := by
          intro heq
          rw [heq] at hholds htaken
          exact htaken (hroot hholds)
        refine iff_of_false (fun heq => ?_) (not_or.mpr ⟨hbelow, fun hfar => htaken hfar.2⟩)
        rcases viableFrom_cases (t := t) dying n win.parent with hend | hend
        · exact hbelow (heq.symm.trans hend)
        · exact htaken (heq ▸ hend)
  | @above w p a k hne hp hfails hrest ih =>
    obtain ⟨win, hw, rfl⟩ := exists_of_parentOf hp
    cases n with
    | zero => exact viableFrom_zero_iff (Nat.succ_pos k)
    | succ n =>
      have hbelow : win.parent ≠ ROOT_WINDOW := by
        intro heq
        rw [heq] at hrest
        cases hrest with
        | parent hne' => exact hne' rfl
        | above hne' => exact hne' rfl
      have hpassed : ¬ t.viable dying win.parent = true := fun htaken =>
        hfails (hviable _ (.single ⟨hne, hp⟩) hbelow htaken)
      rw [viableFrom_succ hw (h.parent_ne hne hp), if_neg hpassed,
        ih fun p ha => hviable p (.head ⟨hne, hp⟩ ha), Nat.add_le_add_iff_right]

/-! ## Where the focus goes -/

/-- Nothing dies, or the window is seen to be in the subtree that does. -/
def DyingSeen (t : ResourceTable) (w : ResourceId) (dying : Option ResourceId) : Prop :=
  ∀ root, dying = some root → root ≠ ROOT_WINDOW ∧ t.SeenBelow root w

theorem viable_iff (h : t.TreeWellFormed) (hdying : t.DyingSeen w dying)
    (ha : t.Ancestor w a) : t.viable dying a = true ↔
      (∀ root, dying = some root → ¬ t.AtOrBelow root a) ∧
        (a = ROOT_WINDOW ∨ t.windowViewable a = true) := by
  rw [viable, Bool.and_eq_true, Bool.or_eq_true, decide_eq_true_iff]
  refine and_congr_left fun _ => ?_
  cases dying with
  | none =>
    refine iff_of_true rfl fun root heq => ?_
    cases heq
  | some root =>
    rw [Option.any_some, Bool.not_eq_true', ← Bool.not_eq_true,
      (hdying root rfl).2.ancestor h ha]
    constructor
    · intro hnot root' heq
      cases heq
      exact hnot
    · exact fun hnot => hnot root rfl

theorem viable_root (h : t.TreeWellFormed) (hroot : t.Hosts dying ROOT_WINDOW) :
    t.viable dying ROOT_WINDOW = true := by
  rw [viable, decide_eq_true rfl, Bool.true_or, Bool.and_true, Bool.not_eq_true',
    Option.any_eq_false]
  intro root heq
  rw [← Bool.not_eq_true]
  intro hseen
  obtain ⟨k, _, hdepth⟩ := inSubtree_iff.mp hseen
  exact hroot.2 root heq ((atOrBelow_iff h).mpr ⟨k, hdepth⟩)

theorem ancestor_of_nearestAbove {P : ResourceId → Prop}
    (hnear : t.links.NearestAbove ROOT_WINDOW P w a k) : t.Ancestor w a := by
  induction hnear with
  | parent hne hp _ => exact .single ⟨hne, hp⟩
  | above hne hp _ _ ih => exact .head ⟨hne, hp⟩ ih

/-- The window that the focus goes to from `w`. A window that is gone has no ancestors, and the
root window stands in for them. -/
def NearestHost (t : ResourceTable) (dying : Option ResourceId) (w a : ResourceId) : Prop :=
  (∃ k, t.links.NearestAbove ROOT_WINDOW (t.Hosts dying) w a k) ∨
    t.windows[w]? = none ∧ a = ROOT_WINDOW ∧ t.Hosts dying ROOT_WINDOW

theorem NearestHost.hosts (hnear : t.NearestHost dying w a) : t.Hosts dying a := by
  rcases hnear with ⟨_, hnear⟩ | ⟨_, rfl, hroot⟩
  · exact hnear.holds
  · exact hroot

/-- The nearest ancestor that can have the focus is the root window, or at most 256 steps up
and known to be viewable. -/
def HostSeen (t : ResourceTable) (dying : Option ResourceId) (w : ResourceId) : Prop :=
  (∃ a k, t.links.NearestAbove ROOT_WINDOW (t.Hosts dying) w a k ∧
      (a = ROOT_WINDOW ∨ k ≤ 256 ∧ t.Recognised a)) ∨
    t.windows[w]? = none ∧ t.Hosts dying ROOT_WINDOW

theorem closestViableAncestor_eq_iff (h : t.TreeWellFormed) (hdying : t.DyingSeen w dying)
    (hnear : t.links.NearestAbove ROOT_WINDOW (t.Hosts dying) w a k) :
    t.closestViableAncestor w dying = a ↔ a = ROOT_WINDOW ∨ k ≤ 256 ∧ t.Recognised a := by
  have hviable (p : ResourceId) (ha : t.Ancestor w p) (hne : p ≠ ROOT_WINDOW)
      (htaken : t.viable dying p = true) : t.Hosts dying p := by
    obtain ⟨halive, hview⟩ := (viable_iff h hdying ha).mp htaken
    exact ⟨((windowViewable_iff h).mp (hview.resolve_left hne)).1, halive⟩
  rw [closestViableAncestor, viableFrom_eq_iff h hnear hviable (viable_root h)]
  by_cases hroot : a = ROOT_WINDOW
  · exact iff_of_true (.inl hroot) (.inl hroot)
  · rw [or_iff_right hroot, or_iff_right hroot,
      viable_iff h hdying (ancestor_of_nearestAbove hnear), or_iff_right hroot,
      windowViewable_iff h, and_iff_right hnear.holds.2, and_iff_right hnear.holds.1]

/-- The walk goes to the right window if and only if it gets that far. -/
theorem nearestHost_closest_iff (h : t.TreeWellFormed) (hdying : t.DyingSeen w dying) :
    t.NearestHost dying w (t.closestViableAncestor w dying) ↔ t.HostSeen dying w := by
  constructor
  · rintro (⟨k, hnear⟩ | ⟨hgone, _, hroot⟩)
    · exact .inl ⟨_, k, hnear, (closestViableAncestor_eq_iff h hdying hnear).mp rfl⟩
    · exact .inr ⟨hgone, hroot⟩
  · rintro (⟨a, k, hnear, hseen⟩ | ⟨hgone, hroot⟩)
    · rw [(closestViableAncestor_eq_iff h hdying hnear).mpr hseen]
      exact .inl ⟨k, hnear⟩
    · refine .inr ⟨hgone, ?_, hroot⟩
      rw [closestViableAncestor, viableFrom, hgone]

end ResourceTable

/-! ## Devices -/

namespace DeviceFocusState

variable {s : DeviceFocusState} {dev : UInt16} {f f' : Xi1DeviceFocus} {w root : ResourceId}
  {dying : Option ResourceId} {reverts : ResourceTable → ResourceId → Bool}

/-- The focus after a revert, by the revert-to of the device. -/
structure Reverted (t : ResourceTable) (dying : Option ResourceId) (w : ResourceId)
    (f f' : Xi1DeviceFocus) : Prop where
  time : f'.time = f.time
  parent : f.revertTo = REVERT_TO_PARENT →
    t.NearestHost dying w f'.focus ∧ f'.revertTo = REVERT_TO_NONE
  pointerRoot : f.revertTo = REVERT_TO_POINTER_ROOT →
    f'.focus = FOCUS_POINTER_ROOT ∧ f'.revertTo = f.revertTo
  followKeyboard : f.revertTo = REVERT_TO_FOLLOW_KEYBOARD →
    f'.focus = FOCUS_FOLLOW_KEYBOARD ∧ f'.revertTo = f.revertTo
  other : f.revertTo ≠ REVERT_TO_PARENT → f.revertTo ≠ REVERT_TO_POINTER_ROOT →
    f.revertTo ≠ REVERT_TO_FOLLOW_KEYBOARD → f'.focus = FOCUS_NONE ∧ f'.revertTo = f.revertTo

/-- The devices whose focus is a window of this kind have reverted, and the others have the
focus they had. -/
structure DevicesReverted (s s' : DeviceFocusState) (dying : Option ResourceId)
    (leaves : ResourceId → Prop) : Prop where
  resources : s'.resources = s.resources
  devices : ∀ dev : UInt16, s.xi1DeviceFocus[dev]? = none → s'.xi1DeviceFocus[dev]? = none
  kept : ∀ (dev : UInt16) f, s.xi1DeviceFocus[dev]? = some f →
    (∀ w, resolveRawWindowOnly f.focus = .Window w → ¬ leaves w) →
      s'.xi1DeviceFocus[dev]? = some f
  reverted : ∀ (dev : UInt16) f w, s.xi1DeviceFocus[dev]? = some f →
    resolveRawWindowOnly f.focus = .Window w → leaves w →
      ∃ f', s'.xi1DeviceFocus[dev]? = some f' ∧ Reverted s.resources dying w f f'
  left : ∀ (dev : UInt16) f w, s'.xi1DeviceFocus[dev]? = some f →
    resolveRawWindowOnly f.focus = .Window w → ¬ leaves w

/-- The focus that `doRevert` stores. -/
def revertedFocus (t : ResourceTable) (dying : Option ResourceId) (w : ResourceId)
    (f : Xi1DeviceFocus) : Xi1DeviceFocus where
  focus := (revertTarget t f w dying).1
  revertTo := (revertTarget t f w dying).2
  time := f.time

/-- What the loop makes of one device. -/
def afterRevert (t : ResourceTable) (reverts : ResourceTable → ResourceId → Bool)
    (dying : Option ResourceId) (f : Xi1DeviceFocus) : Xi1DeviceFocus :=
  match resolveRawWindowOnly f.focus with
  | .Window w => if reverts t w then revertedFocus t dying w f else f
  | _ => f

theorem afterRevert_window {t : ResourceTable} (hw : resolveRawWindowOnly f.focus = .Window w) :
    afterRevert t reverts dying f =
      if reverts t w then revertedFocus t dying w f else f := by
  rw [afterRevert, hw]

/-- A device keeps its focus unless that is a window of the kind. -/
theorem afterRevert_eq_self {t : ResourceTable}
    (h : ∀ w, resolveRawWindowOnly f.focus = .Window w → ¬ reverts t w = true) :
    afterRevert t reverts dying f = f := by
  cases hw : resolveRawWindowOnly f.focus with
  | None => rw [afterRevert, hw]
  | PointerRoot => rw [afterRevert, hw]
  | Window w => rw [afterRevert_window hw, if_neg (h w hw)]

/-- A round writes the entry of its device only. -/
theorem revertDevice_spec (reverts : ResourceTable → ResourceId → Bool)
    (dying : Option ResourceId) (hdev : s.xi1DeviceFocus[dev]? = some f) :
    (revertDevice reverts dying s dev).resources = s.resources ∧
      ∀ d : UInt16, (revertDevice reverts dying s dev).xi1DeviceFocus[d]? =
        if d = dev then some (afterRevert s.resources reverts dying f)
        else s.xi1DeviceFocus[d]? := by
  have hfocus : s.deviceFocus dev = f := by
    rw [deviceFocus, Std.ExtTreeMap.getD_eq_getD_getElem?, hdev, Option.getD_some]
  have hsame : (∀ d : UInt16, s.xi1DeviceFocus[d]? =
      if d = dev then some f else s.xi1DeviceFocus[d]?) := by
    intro d
    split
    · next heq => rw [heq, hdev]
    · rfl
  rw [revertDevice, afterRevert, hfocus]
  cases resolveRawWindowOnly f.focus with
  | None => exact ⟨rfl, hsame⟩
  | PointerRoot => exact ⟨rfl, hsame⟩
  | Window w =>
    cases hreverts : reverts s.resources w with
    | false =>
      simp only [hreverts, Bool.false_eq_true, if_false]
      exact ⟨trivial, hsame⟩
    | true =>
      simp only [hreverts, if_true]
      rw [← hfocus]
      exact ⟨rfl, fun d => ResourceMap.get_insert⟩

/-- The devices are looked at one after the other, and do not depend on each other. -/
theorem get_foldl_revertDevice {l : List UInt16} (hnodup : l.Nodup)
    (hl : ∀ d ∈ l, s.xi1DeviceFocus[d]? ≠ none) :
    (l.foldl (revertDevice reverts dying) s).resources = s.resources ∧
      ∀ d : UInt16, (l.foldl (revertDevice reverts dying) s).xi1DeviceFocus[d]? =
        if d ∈ l then s.xi1DeviceFocus[d]?.map (afterRevert s.resources reverts dying)
        else s.xi1DeviceFocus[d]? := by
  induction l generalizing s with
  | nil => exact ⟨rfl, fun d => (if_neg List.not_mem_nil).symm⟩
  | cons dev l ih =>
    obtain ⟨hfresh, hnodup⟩ := List.nodup_cons.mp hnodup
    obtain ⟨f, hdev⟩ := Option.ne_none_iff_exists'.mp (hl dev List.mem_cons_self)
    obtain ⟨hresources, hget⟩ := revertDevice_spec reverts dying hdev
    have hrest : ∀ d ∈ l, (revertDevice reverts dying s dev).xi1DeviceFocus[d]? ≠ none := by
      intro d hd
      rw [hget, if_neg fun heq : d = dev => hfresh (heq ▸ hd)]
      exact hl d (List.mem_cons_of_mem _ hd)
    obtain ⟨ihresources, ihget⟩ := ih hnodup hrest
    refine ⟨ihresources.trans hresources, fun d => ?_⟩
    rw [List.foldl_cons, ihget, hresources, hget]
    by_cases heq : d = dev
    · rw [if_pos heq, if_neg (heq ▸ hfresh), if_pos (heq ▸ List.mem_cons_self), heq, hdev]
      rfl
    · rw [if_neg heq]
      refine if_congr ?_ rfl rfl
      rw [List.mem_cons, or_iff_right heq]

theorem mem_devices_iff {d : UInt16} :
    d ∈ s.xi1DeviceFocus.keys ↔ s.xi1DeviceFocus[d]? ≠ none := by
  rw [Std.ExtTreeMap.mem_keys, Std.ExtTreeMap.mem_iff_isSome_getElem?, Option.isSome_iff_ne_none]

theorem get_revertDevices (s : DeviceFocusState)
    (reverts : ResourceTable → ResourceId → Bool) (dying : Option ResourceId) (d : UInt16) :
    (s.revertDevices reverts dying).xi1DeviceFocus[d]? =
      s.xi1DeviceFocus[d]?.map (afterRevert s.resources reverts dying) := by
  rw [revertDevices,
    (get_foldl_revertDevice Std.ExtTreeMap.nodup_keys fun d => mem_devices_iff.mp).2]
  by_cases hd : s.xi1DeviceFocus[d]? = none
  · rw [if_neg fun hmem => mem_devices_iff.mp hmem hd, hd]
    rfl
  · rw [if_pos (mem_devices_iff.mpr hd)]

theorem resources_revertDevices : (s.revertDevices reverts dying).resources = s.resources :=
  (get_foldl_revertDevice Std.ExtTreeMap.nodup_keys fun _ => mem_devices_iff.mp).1

/-! ## Reverts -/

theorem resolveRawWindowOnly_eq_window {raw : UInt32} :
    resolveRawWindowOnly raw = .Window w ↔
      raw = w ∧ w ≠ FOCUS_NONE ∧ w ≠ FOCUS_POINTER_ROOT ∧ w ≠ FOCUS_FOLLOW_KEYBOARD := by
  rw [resolveRawWindowOnly]
  split
  · next hspecial =>
    refine iff_of_false Xi1FocusTarget.noConfusion ?_
    rintro ⟨rfl, hnone, _, hfollow⟩
    exact hspecial.elim hnone hfollow
  · next hspecial =>
    split
    · next hpointer =>
      refine iff_of_false Xi1FocusTarget.noConfusion ?_
      rintro ⟨rfl, _, hne, _⟩
      exact hne hpointer
    · next hpointer =>
      rw [Xi1FocusTarget.Window.injEq]
      constructor
      · rintro rfl
        exact ⟨rfl, fun heq => hspecial (.inl heq), hpointer, fun heq => hspecial (.inr heq)⟩
      · exact And.left

theorem revertTarget_parent {t : ResourceTable} (hf : f.revertTo = REVERT_TO_PARENT) :
    revertTarget t f w dying = (t.closestViableAncestor w dying, REVERT_TO_NONE) :=
  if_pos hf

/-- Without the parent as revert-to the focus goes to no window. -/
theorem revertTarget_special {t : ResourceTable} (hf : f.revertTo ≠ REVERT_TO_PARENT) :
    resolveRawWindowOnly (revertTarget t f w dying).1 ≠ .Window root := by
  rw [revertTarget, if_neg hf]
  split
  · exact Xi1FocusTarget.noConfusion
  · split
    · exact Xi1FocusTarget.noConfusion
    · exact Xi1FocusTarget.noConfusion

/-- A device with the focus on `w` reverts as it should if and only if its revert-to is not the
parent or the walk sees the right ancestor. -/
theorem reverted_iff {t : ResourceTable} (h : t.TreeWellFormed) (hdying : t.DyingSeen w dying) :
    Reverted t dying w f (revertedFocus t dying w f) ↔
      (f.revertTo = REVERT_TO_PARENT → t.HostSeen dying w) := by
  rw [← ResourceTable.nearestHost_closest_iff h hdying]
  constructor
  · intro hreverted hf
    have hhost := (hreverted.parent hf).1
    rwa [revertedFocus, revertTarget_parent hf] at hhost
  · intro hhost
    refine ⟨rfl, fun hf => ?_, fun hf => ?_, fun hf => ?_, fun hparent hpointer hfollow => ?_⟩
    · rw [revertedFocus, revertTarget_parent hf]
      exact ⟨hhost hf, rfl⟩
    · have hother : f.revertTo ≠ REVERT_TO_PARENT := hf ▸ by decide
      rw [revertedFocus, revertTarget, if_neg hother, if_pos hf]
      exact ⟨rfl, rfl⟩
    · have hparent : f.revertTo ≠ REVERT_TO_PARENT := hf ▸ by decide
      have hpointer : f.revertTo ≠ REVERT_TO_POINTER_ROOT := hf ▸ by decide
      rw [revertedFocus, revertTarget, if_neg hparent, if_neg hpointer, if_pos hf]
      exact ⟨rfl, rfl⟩
    · rw [revertedFocus, revertTarget, if_neg hparent, if_neg hpointer, if_neg hfollow]
      exact ⟨rfl, rfl⟩

/-- A device always changes when it reverts. -/
theorem revertedFocus_ne {t : ResourceTable} (hw : resolveRawWindowOnly f.focus = .Window w) :
    revertedFocus t dying w f ≠ f := by
  intro heq
  by_cases hf : f.revertTo = REVERT_TO_PARENT
  · have hrevert := congrArg Xi1DeviceFocus.revertTo heq
    rw [revertedFocus, revertTarget_parent hf, hf] at hrevert
    exact absurd (show REVERT_TO_NONE = REVERT_TO_PARENT from hrevert) (by decide)
  · have hfocus := congrArg Xi1DeviceFocus.focus heq
    rw [← hfocus] at hw
    exact revertTarget_special hf hw

/-- The window of a reverted focus can have it. -/
theorem Reverted.host {t : ResourceTable} {a : ResourceId} (h : Reverted t dying w f f')
    (ha : resolveRawWindowOnly f'.focus = .Window a) : t.Hosts dying a := by
  obtain ⟨hfocus, hnone, hpointer, hfollow⟩ := resolveRawWindowOnly_eq_window.mp ha
  by_cases hparent : f.revertTo = REVERT_TO_PARENT
  · exact ResourceTable.NearestHost.hosts (hfocus ▸ (h.parent hparent).1)
  by_cases hto : f.revertTo = REVERT_TO_POINTER_ROOT
  · exact absurd (hfocus.symm.trans (h.pointerRoot hto).1) hpointer
  by_cases hto' : f.revertTo = REVERT_TO_FOLLOW_KEYBOARD
  · exact absurd (hfocus.symm.trans (h.followKeyboard hto').1) hfollow
  · exact absurd (hfocus.symm.trans (h.other hparent hto hto').1) hnone

/-- A loop that is right looks for the right windows. -/
theorem DevicesReverted.reverts_iff {leaves : ResourceId → Prop} {dev : UInt16}
    (hafter : DevicesReverted s (s.revertDevices reverts dying) dying leaves)
    (hdev : s.xi1DeviceFocus[dev]? = some f) (hw : resolveRawWindowOnly f.focus = .Window w) :
    reverts s.resources w = true ↔ leaves w := by
  have hget := get_revertDevices s reverts dying dev
  rw [hdev, Option.map_some, afterRevert_window hw] at hget
  constructor
  · intro hreverts
    by_contra hstays
    have hkept := hafter.kept dev f hdev fun w' hw' => by
      rw [hw] at hw'
      cases hw'
      exact hstays
    rw [hget, Option.some.injEq] at hkept
    rw [if_pos hreverts] at hkept
    exact revertedFocus_ne hw hkept
  · intro hleaves
    by_contra hstays
    rw [if_neg hstays] at hget
    exact hafter.left dev f w hget hw hleaves

/-- No focus is on a window that it leaves, if the loop looks for these windows and the ancestors
are seen. -/
theorem not_leaves_afterRevert {leaves : ResourceId → Prop} {a : ResourceId}
    (h : s.resources.TreeWellFormed)
    (hdying : ∀ w, reverts s.resources w = true → s.resources.DyingSeen w dying)
    (hhosts : ∀ w, s.resources.Hosts dying w → ¬ leaves w)
    (hall : ∀ w, resolveRawWindowOnly f.focus = .Window w →
      (reverts s.resources w = true ↔ leaves w) ∧
        (leaves w → f.revertTo = REVERT_TO_PARENT → s.resources.HostSeen dying w))
    (ha : resolveRawWindowOnly (afterRevert s.resources reverts dying f).focus = .Window a) :
    ¬ leaves a := by
  by_cases hreverts : ∃ w, resolveRawWindowOnly f.focus = .Window w ∧
      reverts s.resources w = true
  · obtain ⟨w, hw, hreverts⟩ := hreverts
    obtain ⟨hleft, hhost⟩ := hall w hw
    rw [afterRevert_window hw, if_pos hreverts] at ha
    have hreverted := (reverted_iff h (hdying w hreverts)).mpr (hhost (hleft.mp hreverts))
    exact hhosts a (hreverted.host ha)
  · have hself := fun w hw hr => hreverts ⟨w, hw, hr⟩
    rw [afterRevert_eq_self hself] at ha
    exact mt (hall a ha).1.mpr (hself a ha)

/-- The loop is right if and only if it looks for the right windows, and sees the ancestor that
the focus goes to from each of them. -/
theorem devicesReverted_iff {leaves : ResourceId → Prop} (h : s.resources.TreeWellFormed)
    (hdying : ∀ w, reverts s.resources w = true → s.resources.DyingSeen w dying)
    (hhosts : ∀ w, s.resources.Hosts dying w → ¬ leaves w) :
    DevicesReverted s (s.revertDevices reverts dying) dying leaves ↔
      ∀ (dev : UInt16) f w, s.xi1DeviceFocus[dev]? = some f →
        resolveRawWindowOnly f.focus = .Window w →
          (reverts s.resources w = true ↔ leaves w) ∧
            (leaves w → f.revertTo = REVERT_TO_PARENT → s.resources.HostSeen dying w) := by
  have hget (dev : UInt16) := get_revertDevices s reverts dying dev
  constructor
  · intro hafter dev f w hdev hw
    have hreverts := hafter.reverts_iff hdev hw
    refine ⟨hreverts, fun hleaves => ?_⟩
    obtain ⟨f', hf', hreverted⟩ := hafter.reverted dev f w hdev hw hleaves
    rw [hget, hdev, Option.map_some, afterRevert_window hw, if_pos (hreverts.mpr hleaves),
      Option.some.injEq] at hf'
    rw [← hf'] at hreverted
    exact (reverted_iff h (hdying w (hreverts.mpr hleaves))).mp hreverted
  · intro hall
    refine ⟨resources_revertDevices, fun dev hdev => ?_, fun dev f hdev hstays => ?_,
      fun dev f w hdev hw hleaves => ?_, fun dev f' w hdev' hw => ?_⟩
    · rw [hget, hdev]
      rfl
    · rw [hget, hdev, Option.map_some, afterRevert_eq_self]
      exact fun w hw hreverts => hstays w hw ((hall dev f w hdev hw).1.mp hreverts)
    · obtain ⟨hreverts, hhost⟩ := hall dev f w hdev hw
      refine ⟨revertedFocus s.resources dying w f, ?_, ?_⟩
      · rw [hget, hdev, Option.map_some, afterRevert_window hw, if_pos (hreverts.mpr hleaves)]
      · exact (reverted_iff h (hdying w (hreverts.mpr hleaves))).mpr (hhost hleaves)
    · rw [hget, Option.map_eq_some_iff] at hdev'
      obtain ⟨f, hdev, rfl⟩ := hdev'
      exact not_leaves_afterRevert h hdying hhosts (fun w hw => hall dev f w hdev hw) hw

/-! ## The two reverts -/

/-- What the walks of `revertUnviewableFocus` see. -/
def UnviewableSeen (s : DeviceFocusState) : Prop :=
  ∀ (dev : UInt16) f w, s.xi1DeviceFocus[dev]? = some f →
    resolveRawWindowOnly f.focus = .Window w →
      (s.resources.Viewable w → s.resources.Recognised w) ∧
        (¬ s.resources.Viewable w → f.revertTo = REVERT_TO_PARENT →
          s.resources.HostSeen none w)

/-- What the walks of `revertFocusForDyingSubtree` see. -/
def DyingSubtreeSeen (s : DeviceFocusState) (root : ResourceId) : Prop :=
  ∀ (dev : UInt16) f w, s.xi1DeviceFocus[dev]? = some f →
    resolveRawWindowOnly f.focus = .Window w → s.resources.AtOrBelow root w →
      root ≠ ROOT_WINDOW ∧ s.resources.SeenBelow root w ∧
        (f.revertTo = REVERT_TO_PARENT → s.resources.HostSeen (some root) w)

theorem revertUnviewableFocus_iff (h : s.resources.TreeWellFormed) :
    DevicesReverted s s.revertUnviewableFocus none (fun w => ¬ s.resources.Viewable w) ↔
      s.UnviewableSeen := by
  have hdying (w : ResourceId) : s.resources.DyingSeen w none := fun root heq => by cases heq
  rw [revertUnviewableFocus, devicesReverted_iff h (fun w _ => hdying w)
    fun w hhost => not_not.mpr hhost.1]
  refine forall_congr' fun dev => forall_congr' fun f => forall_congr' fun w =>
    forall_congr' fun _ => forall_congr' fun _ => and_congr_left fun _ => ?_
  rw [Bool.not_eq_true', ← Bool.not_eq_true, ResourceTable.windowViewable_iff h, not_iff_not]
  exact and_iff_left_iff_imp

theorem revertFocusForDyingSubtree_iff (h : s.resources.TreeWellFormed) (root : ResourceId) :
    DevicesReverted s (s.revertFocusForDyingSubtree root) (some root)
      (s.resources.AtOrBelow root) ↔ s.DyingSubtreeSeen root := by
  by_cases hroot : root = ROOT_WINDOW
  · -- nothing is done when the root window dies
    rw [revertFocusForDyingSubtree, if_pos hroot]
    constructor
    · intro hafter dev f w hdev hw hbelow
      exact absurd hbelow (hafter.left dev f w hdev hw)
    · intro hseen
      have hstays (dev : UInt16) f w (hdev : s.xi1DeviceFocus[dev]? = some f)
          (hw : resolveRawWindowOnly f.focus = .Window w) : ¬ s.resources.AtOrBelow root w :=
        fun hbelow => (hseen dev f w hdev hw hbelow).1 hroot
      exact ⟨rfl, fun _ hdev => hdev, fun _ _ hdev _ => hdev,
        fun dev f w hdev hw hbelow => absurd hbelow (hstays dev f w hdev hw), hstays⟩
  · have hdying (w : ResourceId) (hw : s.resources.inSubtree w root = true) :
        s.resources.DyingSeen w (some root) := by
      intro root' heq
      cases heq
      exact ⟨hroot, ResourceTable.inSubtree_iff.mp hw⟩
    rw [revertFocusForDyingSubtree, if_neg hroot,
      devicesReverted_iff h hdying fun w hhost => hhost.2 root rfl]
    refine forall_congr' fun dev => forall_congr' fun f => forall_congr' fun w =>
      forall_congr' fun _ => forall_congr' fun _ => ?_
    rw [ResourceTable.inSubtree_iff]
    constructor
    · intro ⟨hseen, hhost⟩ hbelow
      exact ⟨hroot, hseen.mpr hbelow, hhost hbelow⟩
    · intro hall
      refine ⟨⟨fun ⟨k, _, hdepth⟩ => ?_, fun hbelow => (hall hbelow).2.1⟩,
        fun hbelow => (hall hbelow).2.2⟩
      exact (ResourceTable.atOrBelow_iff h).mpr ⟨k, hdepth⟩

/-- Of the devices those revert whose windows are not viewable, and before a subtree dies those
whose windows are in it, each as its revert-to says, if and only if the walks see the windows
that they should. -/
theorem deviceFocus_valid_iff (s : DeviceFocusState) (h : s.resources.TreeWellFormed) :
    (DevicesReverted s s.revertUnviewableFocus none (fun w => ¬ s.resources.Viewable w) ↔
      s.UnviewableSeen) ∧
    ∀ root, DevicesReverted s (s.revertFocusForDyingSubtree root) (some root)
      (s.resources.AtOrBelow root) ↔ s.DyingSubtreeSeen root :=
  ⟨revertUnviewableFocus_iff h, revertFocusForDyingSubtree_iff h⟩

/-! ## A window below 255 others -/

/-- The tower with all its windows mapped. -/
def mappedTower (n : Nat) : ResourceTable :=
  { ResourceTable.tower n with
    windows := (ResourceTable.tower n).windows.map fun _ w => { w with mapState := .Viewable } }

theorem get_mappedTower {n : Nat} {a : ResourceId} : (mappedTower n).windows[a]? =
    (ResourceTable.tower n).windows[a]?.map fun w => { w with mapState := .Viewable } :=
  Std.ExtTreeMap.getElem?_map

theorem links_mappedTower (n : Nat) :
    (mappedTower n).links = (ResourceTable.tower n).links := by
  have hparent (a : ResourceId) :
      (mappedTower n).parentOf a = (ResourceTable.tower n).parentOf a := by
    rw [ResourceTable.parentOf, ResourceTable.parentOf, get_mappedTower, Option.map_map]
    rfl
  have hchildren (a : ResourceId) :
      (mappedTower n).childrenOf a = (ResourceTable.tower n).childrenOf a := by
    rw [ResourceTable.childrenOf, ResourceTable.childrenOf, get_mappedTower]
    cases (ResourceTable.tower n).windows[a]? with
    | none => rfl
    | some w => rfl
  rw [ResourceTable.links, ResourceTable.links, funext hparent, funext hchildren]

theorem isMapped_mappedTower {n : Nat} {a : ResourceId}
    (ha : (mappedTower n).links.Present a) : (mappedTower n).IsMapped a := by
  obtain ⟨w, hw⟩ := ResourceTable.exists_of_present ha
  have hget := hw
  rw [get_mappedTower, Option.map_eq_some_iff] at hget
  obtain ⟨_, _, rfl⟩ := hget
  exact ⟨_, hw, MapState.noConfusion⟩

theorem mappedTower_wellFormed {n : Nat} (hn : n ≤ 1000) : (mappedTower n).TreeWellFormed :=
  (ResourceTable.tower_spec hn).wellFormed.of_links (links_mappedTower n)

theorem mappedTower_viewable {n : Nat} (hn : n ≤ 1000) {a : ResourceId}
    (ha : (mappedTower n).links.Present a) : (mappedTower n).Viewable a := by
  refine ⟨isMapped_mappedTower ha, fun b hb => isMapped_mappedTower ?_⟩
  obtain ⟨_, _, hedge⟩ := Relation.TransGen.tail'_iff.mp hb
  exact (mappedTower_wellFormed hn).parent_present hedge.2

/-- A device with its focus on the lowest of 256 windows. -/
def deepFocus : DeviceFocusState where
  resources := mappedTower 256
  xi1DeviceFocus := (∅ : Std.ExtTreeMap UInt16 Xi1DeviceFocus).insert 2
    { focus := ResourceTable.towerId 256, revertTo := REVERT_TO_POINTER_ROOT, time := 0 }

/-- The device loses its focus although the window is viewable. -/
theorem deepFocus_lost : deepFocus.resources.TreeWellFormed ∧
    deepFocus.resources.Viewable (ResourceTable.towerId 256) ∧
    ¬ DevicesReverted deepFocus deepFocus.revertUnviewableFocus none
        (fun w => ¬ deepFocus.resources.Viewable w) := by
  have htower := ResourceTable.tower_spec (show 256 ≤ 1000 by decide)
  have h : deepFocus.resources.TreeWellFormed := mappedTower_wellFormed (by decide)
  have hpresent : (mappedTower 256).links.Present (ResourceTable.towerId 256) := by
    rw [links_mappedTower]
    exact ResourceTable.present_iff.mpr htower.present
  have hviewable := mappedTower_viewable (by decide) hpresent
  refine ⟨h, hviewable, fun hreverted => ?_⟩
  have hdev : deepFocus.xi1DeviceFocus[(2 : UInt16)]? = some
      { focus := ResourceTable.towerId 256, revertTo := REVERT_TO_POINTER_ROOT, time := 0 } :=
    Std.ExtTreeMap.getElem?_insert_self
  obtain ⟨-, d, hd, hdepth⟩ :=
    ((revertUnviewableFocus_iff h).mp hreverted 2 _ _ hdev (by decide)).1 hviewable
  have hlength := htower.path.atDepth
  rw [ResourceTable.length_towerPath, ← links_mappedTower] at hlength
  have heq : d = 256 := hdepth.unique hlength
  omega

theorem deviceFocus_valid_iff_deep :
    (DevicesReverted deepFocus deepFocus.revertUnviewableFocus none
        (fun w => ¬ deepFocus.resources.Viewable w) ↔ deepFocus.UnviewableSeen) ∧
    ∀ root, DevicesReverted deepFocus (deepFocus.revertFocusForDyingSubtree root) (some root)
      (deepFocus.resources.AtOrBelow root) ↔ deepFocus.DyingSubtreeSeen root :=
  deviceFocus_valid_iff deepFocus (mappedTower_wellFormed (by decide))

end DeviceFocusState

end X12

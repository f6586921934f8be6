import X12.Core.HitTest
import X12.Lib.Descent
import X12.Lib.Stacking
import X12.Verify.MapState

/-! # Hit testing is geometry

What a window covers is said in unbounded integers. The walk of the pointer
code agrees with it as long as no window on the way is met at a coordinate that
its sixteen-bit comparison cannot express. -/

namespace X12

open Relation Descent Stacking

/-- A window and a point in its coordinates. -/
abbrev Target := ResourceId × Int × Int

def Target.lift (q : ResourceId × Int16 × Int16) : Target :=
  (q.1, q.2.1.toInt, q.2.2.toInt)

theorem Target.lift_injective : Function.Injective Target.lift := by
  rintro ⟨c, x, y⟩ ⟨c', x', y'⟩ h
  simpa [Target.lift, Int16.toInt_inj] using h

/-- The coordinates are below the largest sixteen-bit integer. -/
def Target.Near (q : Target) : Prop :=
  q.2.1 < 32767 ∧ q.2.2 < 32767

namespace ServerState

variable {s : ServerState} {c : ResourceId} {w : Window} {x y : Int}

/-- The input shape of a window, when there is one, contains a point. -/
def ShapeContains (s : ServerState) (window : ResourceId) (x y : Int) : Prop :=
  ∀ rects, s.shapeWindows[window]?.bind (·.input) = some rects →
    ∃ rect ∈ rects, (rect.x.toInt ≤ x ∧ x < rect.x.toInt + rect.width.toNat) ∧
      rect.y.toInt ≤ y ∧ y < rect.y.toInt + rect.height.toNat

/-- A mapped child covers a point in its parent's coordinates. -/
structure Covers (s : ServerState) (c : ResourceId) (w : Window) (x y : Int) : Prop where
  record : s.resources.windows[c]? = some w
  mapped : w.mapState ≠ .Unmapped
  horizontal : w.x.toInt ≤ x ∧ x < w.x.toInt + w.width.toNat
  vertical : w.y.toInt ≤ y ∧ y < w.y.toInt + w.height.toNat
  shape : s.ShapeContains c (x - w.x.toInt) (y - w.y.toInt)

/-- From a window to its topmost child that covers the point. -/
def DescendsTo (s : ServerState) (p q : Target) : Prop :=
  Topmost (fun c => ∃ w, s.Covers c w p.2.1 p.2.2) q.1 (s.resources.childrenOf p.1) ∧
    ∃ w, s.Covers q.1 w p.2.1 p.2.2 ∧ q.2 = (p.2.1 - w.x.toInt, p.2.2 - w.y.toInt)

theorem descendsTo_rightUnique : Relator.RightUnique s.DescendsTo := by
  rintro p ⟨c, q⟩ ⟨c', q'⟩ ⟨htop, w, hw, hq⟩ ⟨htop', w', hw', hq'⟩
  obtain rfl : c = c' := htop.unique htop'
  obtain rfl : w = w' := Option.some.inj (hw.record.symm.trans hw'.record)
  rw [show q = q' from hq.trans hq'.symm]

/-! ## One child -/

theorem windowInputContains_iff {x y : Int16} :
    s.windowInputContains c x y = true ↔ s.ShapeContains c x.toInt y.toInt := by
  unfold windowInputContains ShapeContains
  cases s.shapeWindows[c]?.bind (·.input) with
  | none => simp
  | some rects =>
    simp only [List.any_eq_true, Bool.and_eq_true, Option.some.injEq, forall_eq']
    refine exists_congr fun rect => and_congr_right fun _ => ?_
    constructor
    · rintro ⟨⟨⟨h₁, h₂⟩, h₃⟩, h₄⟩
      exact ⟨⟨of_decide_eq_true h₁, of_decide_eq_true h₃⟩, of_decide_eq_true h₂,
        of_decide_eq_true h₄⟩
    · rintro ⟨⟨h₁, h₃⟩, h₂, h₄⟩
      exact ⟨⟨⟨decide_eq_true h₁, decide_eq_true h₂⟩, decide_eq_true h₃⟩, decide_eq_true h₄⟩

theorem toInt_i16OrMax (v : UInt16) : (i16OrMax v).toInt = min (v.toNat : Int) 32767 := by
  unfold i16OrMax
  split
  · rw [Int16.toInt_ofNat_of_lt (by omega)]
    omega
  · have : (32767 : Int16).toInt = 32767 := by decide
    omega

/-- A difference that stays in the first half of the range has not wrapped. -/
theorem sub_inside_iff {a b : Int16} {size : UInt16} (ha : 0 ≤ a.toInt) :
    (¬ a - b < 0 ∧ ¬ i16OrMax size ≤ a - b) ↔
      (b.toInt ≤ a.toInt ∧ a.toInt < b.toInt + size.toNat) ∧ a.toInt - b.toInt < 32767 := by
  have hzero : (0 : Int16).toInt = 0 := by decide
  rw [Int16.lt_iff_toInt_lt, Int16.le_iff_toInt_le, Int16.toInt_sub, toInt_i16OrMax, hzero]
  have := a.toInt_lt
  have := b.toInt_lt
  have := b.le_toInt
  have := size.toNat_lt
  rw [Int.bmod_def]
  omega

theorem toInt_sub_of_lt {a b : Int16} (h : b.toInt ≤ a.toInt) (hnear : a.toInt - b.toInt < 32767) :
    (a - b).toInt = a.toInt - b.toInt := by
  rw [Int16.toInt_sub, Int.bmod_def]
  omega

/-- The code's test of one child: it covers the point, not too far from its own
corner. -/
theorem hitTestChild_eq_some_iff {x y : Int16} {q : ResourceId × Int16 × Int16}
    (hx : 0 ≤ x.toInt) (hy : 0 ≤ y.toInt) :
    s.hitTestChild c x y = some q ↔
      ∃ w, s.Covers c w x.toInt y.toInt ∧
        Target.lift q = (c, x.toInt - w.x.toInt, y.toInt - w.y.toInt) ∧ (Target.lift q).Near := by
  unfold hitTestChild
  cases hw : s.resources.windows[c]? with
  | none =>
    simp only [reduceCtorEq, false_iff, not_exists]
    rintro w ⟨hcovers, -⟩
    have hrecord := hcovers.record
    rw [hw] at hrecord
    exact nomatch hrecord
  | some child =>
    dsimp only
    have hguard : (x - child.x < 0 || y - child.y < 0 || i16OrMax child.width ≤ x - child.x ||
        i16OrMax child.height ≤ y - child.y ||
        !s.windowInputContains c (x - child.x) (y - child.y)) = false ↔
          ((child.x.toInt ≤ x.toInt ∧ x.toInt < child.x.toInt + child.width.toNat) ∧
            x.toInt - child.x.toInt < 32767) ∧
          ((child.y.toInt ≤ y.toInt ∧ y.toInt < child.y.toInt + child.height.toNat) ∧
            y.toInt - child.y.toInt < 32767) ∧
          s.ShapeContains c (x - child.x).toInt (y - child.y).toInt := by
      rw [← sub_inside_iff hx, ← sub_inside_iff hy, ← windowInputContains_iff]
      simp only [Bool.or_eq_false_iff, decide_eq_false_iff_not, Bool.not_eq_false']
      tauto
    constructor
    · intro h
      split at h
      · exact nomatch h
      next hmapped =>
      split at h
      · exact nomatch h
      next hoff =>
      obtain rfl := Option.some.inj h
      obtain ⟨⟨hh, hfarx⟩, ⟨hv, hfary⟩, hshape⟩ := hguard.mp (Bool.eq_false_iff.mpr hoff)
      rw [toInt_sub_of_lt hh.1 hfarx, toInt_sub_of_lt hv.1 hfary] at hshape
      refine ⟨child, ⟨hw, hmapped, hh, hv, hshape⟩, ?_, ?_⟩
      · rw [Target.lift, toInt_sub_of_lt hh.1 hfarx, toInt_sub_of_lt hv.1 hfary]
      · rw [Target.Near, Target.lift, toInt_sub_of_lt hh.1 hfarx, toInt_sub_of_lt hv.1 hfary]
        exact ⟨hfarx, hfary⟩
    · rintro ⟨w, hcovers, hlift, hnear⟩
      obtain rfl : child = w := Option.some.inj (hw.symm.trans hcovers.record)
      rw [hlift] at hnear
      have hxy := hguard.mpr ⟨⟨hcovers.horizontal, hnear.1⟩, ⟨hcovers.vertical, hnear.2⟩, by
        rw [toInt_sub_of_lt hcovers.horizontal.1 hnear.1,
          toInt_sub_of_lt hcovers.vertical.1 hnear.2]
        exact hcovers.shape⟩
      rw [if_neg hcovers.mapped, if_neg (by rw [hxy]; exact Bool.false_ne_true)]
      rw [← toInt_sub_of_lt hcovers.horizontal.1 hnear.1,
        ← toInt_sub_of_lt hcovers.vertical.1 hnear.2] at hlift
      rw [Target.lift_injective (hlift.trans rfl : _ = Target.lift (c, x - child.x, y - child.y))]

/-! ## One step down -/

theorem hitTestChildren_eq_some_iff {p : ResourceId} {x y : Int16}
    {q : ResourceId × Int16 × Int16} :
    s.hitTestChildren p x y = some q ↔
      ∃ c, Topmost (fun c => s.hitTestChild c x y ≠ none) c (s.resources.childrenOf p) ∧
        s.hitTestChild c x y = some q := by
  unfold hitTestChildren ResourceTable.childrenOf
  cases s.resources.windows[p]? with
  | none =>
    simp only [reduceCtorEq, false_iff, not_exists]
    rintro c ⟨htop, -⟩
    exact nomatch htop.mem
  | some parent => exact findSome?_reverse_eq_some_iff

/-- The code's step from a window to a child. -/
def CodeStep (s : ServerState) : ResourceId × Int16 × Int16 → ResourceId × Int16 × Int16 → Prop :=
  Next fun p => s.hitTestChildren p.1 p.2.1 p.2.2

section
variable {p q : ResourceId × Int16 × Int16} {q' : Target}

/-- The target of a code step is a child that covers the point, not too far from
its corner. -/
theorem CodeStep.covers (h : s.CodeStep p q) (hx : 0 ≤ p.2.1.toInt) (hy : 0 ≤ p.2.2.toInt) :
    q.1 ∈ s.resources.childrenOf p.1 ∧ (Target.lift q).Near ∧
      ∃ w, s.Covers q.1 w p.2.1.toInt p.2.2.toInt ∧
        Target.lift q = (q.1, p.2.1.toInt - w.x.toInt, p.2.2.toInt - w.y.toInt) := by
  obtain ⟨c, htop, hc⟩ := hitTestChildren_eq_some_iff.mp h
  obtain ⟨w, hcovers, hlift, hnear⟩ := (hitTestChild_eq_some_iff hx hy).mp hc
  obtain rfl : q.1 = c := congrArg Prod.fst hlift
  exact ⟨htop.mem, hnear, w, hcovers, hlift⟩

theorem CodeStep.nonneg (h : s.CodeStep p q) (hx : 0 ≤ p.2.1.toInt) (hy : 0 ≤ p.2.2.toInt) :
    0 ≤ q.2.1.toInt ∧ 0 ≤ q.2.2.toInt := by
  obtain ⟨-, -, w, hcovers, hlift⟩ := h.covers hx hy
  have hqx : q.2.1.toInt = p.2.1.toInt - w.x.toInt := congrArg (·.2.1) hlift
  have hqy : q.2.2.toInt = p.2.2.toInt - w.y.toInt := congrArg (·.2.2) hlift
  have := hcovers.horizontal.1
  have := hcovers.vertical.1
  omega

/-- The code takes a step to a window that the point is near in. -/
theorem DescendsTo.codeStep (h : s.DescendsTo (Target.lift p) q') (hx : 0 ≤ p.2.1.toInt)
    (hy : 0 ≤ p.2.2.toInt) (hnear : q'.Near) : ∃ q, s.CodeStep p q ∧ Target.lift q = q' := by
  obtain ⟨c, qx, qy⟩ := q'
  obtain ⟨htop, w, hcovers, hq⟩ := h
  obtain ⟨rfl, rfl⟩ := Prod.mk.inj hq
  have hlift : Target.lift (c, p.2.1 - w.x, p.2.2 - w.y) =
      (c, p.2.1.toInt - w.x.toInt, p.2.2.toInt - w.y.toInt) := by
    rw [Target.lift, toInt_sub_of_lt hcovers.horizontal.1 hnear.1,
      toInt_sub_of_lt hcovers.vertical.1 hnear.2]
  have hhit : s.hitTestChild c p.2.1 p.2.2 = some (c, p.2.1 - w.x, p.2.2 - w.y) :=
    (hitTestChild_eq_some_iff hx hy).mpr ⟨w, hcovers, hlift, hlift ▸ hnear⟩
  refine ⟨_, hitTestChildren_eq_some_iff.mpr ⟨c, htop.weaken ?_ fun b hb => ?_, hhit⟩, hlift⟩
  · rw [hhit]
    exact Option.some_ne_none _
  · obtain ⟨q, hq⟩ := Option.ne_none_iff_exists'.mp hb
    obtain ⟨v, hv, -⟩ := (hitTestChild_eq_some_iff hx hy).mp hq
    exact ⟨v, hv⟩

/-- Where the code takes a step, some child covers the point. -/
theorem CodeStep.exists_descendsTo (h : s.CodeStep p q) (hx : 0 ≤ p.2.1.toInt)
    (hy : 0 ≤ p.2.2.toInt) : ∃ q', s.DescendsTo (Target.lift p) q' := by
  obtain ⟨hmem, -, w, hcovers, -⟩ := h.covers hx hy
  obtain ⟨c, htop⟩ := exists_topmost (P := fun c => ∃ w, s.Covers c w p.2.1.toInt p.2.2.toInt)
    ⟨q.1, hmem, w, hcovers⟩
  obtain ⟨v, hv⟩ := htop.holds
  exact ⟨(c, _), htop, v, hv, rfl⟩

/-- A window that the point is far in is passed over. -/
theorem CodeStep.ne_of_far (h : s.CodeStep p q) (hx : 0 ≤ p.2.1.toInt) (hy : 0 ≤ p.2.2.toInt)
    (hdescends : s.DescendsTo (Target.lift p) q') (hfar : ¬ q'.Near) : q.1 ≠ q'.1 := by
  intro heq
  obtain ⟨-, hnear, w, hcovers, hlift⟩ := h.covers hx hy
  obtain ⟨-, v, hv, hq'⟩ := hdescends
  obtain rfl : w = v := Option.some.inj (hcovers.record.symm.trans (heq ▸ hv.record))
  refine hfar ?_
  rw [Target.Near, hlift] at hnear
  rw [Target.Near, hq']
  exact hnear

end

/-! ## The walk -/

theorem hitTestChild_fst {x y : Int16} {q : ResourceId × Int16 × Int16}
    (h : s.hitTestChild c x y = some q) : q.1 = c := by
  unfold hitTestChild at h
  split at h
  · exact nomatch h
  split at h
  · exact nomatch h
  dsimp only at h
  split at h
  · exact nomatch h
  · exact (congrArg Prod.fst (Option.some.inj h)).symm

theorem CodeStep.child {p q : ResourceId × Int16 × Int16} (h : s.CodeStep p q) :
    s.resources.links.Child p.1 q.1 := by
  obtain ⟨c, htop, hc⟩ := hitTestChildren_eq_some_iff.mp h
  rw [hitTestChild_fst hc]
  exact ResourceTable.child_of_mem_childrenOf htop.mem

theorem DescendsTo.child {p q : Target} (h : s.DescendsTo p q) :
    s.resources.links.Child p.1 q.1 :=
  ResourceTable.child_of_mem_childrenOf h.1.mem

theorem pointerTargetAtInner_eq_follow (fuel : Nat) (p : ResourceId × Int16 × Int16) :
    s.pointerTargetAtInner fuel p =
      follow (fun p => s.hitTestChildren p.1 p.2.1 p.2.2) fuel p := by
  induction fuel generalizing p with
  | zero => rfl
  | succ fuel ih =>
    rw [pointerTargetAtInner, follow]
    cases s.hitTestChildren p.1 p.2.1 p.2.2 with
    | none => rfl
    | some hit => exact ih hit

/-- The walk of the code comes to an end. -/
theorem pointerTargetAtInner_ends (h : s.resources.TreeWellFormed) (x y : Int16) :
    Ends s.CodeStep (ROOT_WINDOW, x, y)
      (s.pointerTargetAtInner s.resources.windows.size (ROOT_WINDOW, x, y)) := by
  rw [pointerTargetAtInner_eq_follow]
  refine follow_ends (fun n p => s.resources.links.AtDepth ROOT_WINDOW p.1 n) (n := 0)
    (fun ha hstep => ?_) (fun ha => h.depth_lt ha) .root (by omega)
  exact h.child_atDepth ha (CodeStep.child hstep)

section
variable {start p r : ResourceId × Int16 × Int16} {q : Target}

theorem CodeStep.reaches_nonneg (hp : ReflTransGen s.CodeStep start p)
    (hx : 0 ≤ start.2.1.toInt) (hy : 0 ≤ start.2.2.toInt) :
    0 ≤ p.2.1.toInt ∧ 0 ≤ p.2.2.toInt := by
  induction hp with
  | refl => exact ⟨hx, hy⟩
  | tail _ hstep ih => exact hstep.nonneg ih.1 ih.2

theorem reaches_of_near (hp : ReflTransGen s.CodeStep start p) (hx : 0 ≤ start.2.1.toInt)
    (hy : 0 ≤ start.2.2.toInt)
    (hnear : ∀ q, TransGen s.DescendsTo (Target.lift start) q → q.Near) :
    ReflTransGen s.DescendsTo (Target.lift start) (Target.lift p) := by
  induction hp with
  | refl => exact .refl
  | @tail p q hp hstep ih =>
    obtain ⟨hpx, hpy⟩ := CodeStep.reaches_nonneg hp hx hy
    obtain ⟨q', hq'⟩ := hstep.exists_descendsTo hpx hpy
    obtain ⟨u, hu, rfl⟩ := hq'.codeStep hpx hpy (hnear q' (.tail' ih hq'))
    rw [next_rightUnique hstep hu]
    exact ih.tail hq'

/-- As long as the point is near in every window on the way, the walk of the
code is the descent. -/
theorem ends_of_near (hr : Ends s.CodeStep start r) (hx : 0 ≤ start.2.1.toInt)
    (hy : 0 ≤ start.2.2.toInt)
    (hnear : ∀ q, TransGen s.DescendsTo (Target.lift start) q → q.Near) :
    Ends s.DescendsTo (Target.lift start) (Target.lift r) := by
  have hreaches := reaches_of_near hr.reaches hx hy hnear
  refine ⟨hreaches, fun q' hq' => ?_⟩
  obtain ⟨hrx, hry⟩ := CodeStep.reaches_nonneg hr.reaches hx hy
  obtain ⟨u, hu, -⟩ := hq'.codeStep hrx hry (hnear q' (.tail' hreaches hq'))
  exact hr.stops u hu

/-- A window that the point is far in sends the walk of the code elsewhere. -/
theorem near_of_ends (h : s.resources.TreeWellFormed) (hr : Ends s.CodeStep start r)
    (hx : 0 ≤ start.2.1.toInt) (hy : 0 ≤ start.2.2.toInt)
    (hexact : Ends s.DescendsTo (Target.lift start) (Target.lift r))
    (hp : ReflTransGen s.CodeStep start p)
    (hreaches : ReflTransGen s.DescendsTo (Target.lift start) (Target.lift p))
    (hq : s.DescendsTo (Target.lift p) q) : q.Near := by
  by_contra hfar
  obtain ⟨hpx, hpy⟩ := CodeStep.reaches_nonneg hp hx hy
  rcases ReflTransGen.cases_head (hr.of_reaches next_rightUnique hp) with rfl | ⟨v, hv, hvr⟩
  · exact hexact.stops q hq
  · -- the result would lie below two children of `p`
    have hqr := hexact.of_reaches descendsTo_rightUnique (hreaches.tail hq)
    have hcode : s.resources.links.Below v.1 r.1 :=
      hvr.lift Prod.fst fun _ _ hstep => CodeStep.child hstep
    have htrue : s.resources.links.Below q.1 r.1 :=
      hqr.lift Prod.fst fun _ _ hstep => DescendsTo.child hstep
    exact hv.ne_of_far hpx hpy hq hfar (h.below_sibling hv.child hq.child hcode htrue)

theorem near_of_ends_transGen (h : s.resources.TreeWellFormed) (hr : Ends s.CodeStep start r)
    (hx : 0 ≤ start.2.1.toInt) (hy : 0 ≤ start.2.2.toInt)
    (hexact : Ends s.DescendsTo (Target.lift start) (Target.lift r))
    (hq : TransGen s.DescendsTo (Target.lift start) q) : q.Near := by
  have hon : ∀ {p'}, ReflTransGen s.DescendsTo (Target.lift start) p' →
      ∃ p, Target.lift p = p' ∧ ReflTransGen s.CodeStep start p := by
    intro p' hp'
    induction hp' with
    | refl => exact ⟨start, rfl, .refl⟩
    | tail hp' hstep ih =>
      obtain ⟨p, rfl, hp⟩ := ih
      obtain ⟨hpx, hpy⟩ := CodeStep.reaches_nonneg hp hx hy
      obtain ⟨u, hu, hlift⟩ :=
        hstep.codeStep hpx hpy (near_of_ends h hr hx hy hexact hp hp' hstep)
      exact ⟨u, hlift, hp.tail hu⟩
  obtain ⟨p', hp', hstep⟩ := TransGen.tail'_iff.mp hq
  obtain ⟨p, rfl, hp⟩ := hon hp'
  exact near_of_ends h hr hx hy hexact hp hp' hstep

end

/-! ## The lookup by screen position -/

/-- The offsets on the way up are those of the descent. -/
theorem absolutePositionFrom_eq (h : s.resources.TreeWellFormed) {q : Target} {rounds : Nat}
    (hq : ReflTransGen s.DescendsTo (ROOT_WINDOW, x, y) q)
    (hdepth : ∃ n ≤ rounds, s.resources.links.AtDepth ROOT_WINDOW q.1 n) (ax ay : Int) :
    s.resources.absolutePositionFrom rounds q.1 (ax, ay) =
      (ax + (x - q.2.1), ay + (y - q.2.2)) := by
  induction hq generalizing rounds ax ay with
  | refl =>
    have hhere : ∀ a b : Int, a + (b - b) = a := by omega
    rw [hhere, hhere]
    cases rounds with
    | zero => rfl
    | succ rounds => rw [ResourceTable.absolutePositionFrom, if_pos rfl]
  | @tail p q _ hstep ih =>
    obtain ⟨hne, hparent⟩ := h.child_iff.mp hstep.child
    obtain ⟨n, hn, hdepth⟩ := hdepth
    obtain ⟨n, rfl, hrest⟩ := hdepth.parent hne hparent
    obtain ⟨-, w, hcovers, hlocal⟩ := hstep
    have hwp : w.parent = p.1 := by
      rw [ResourceTable.links_parent, ResourceTable.parentOf_of_get hcovers.record] at hparent
      exact Option.some.inj hparent
    cases rounds with
    | zero => omega
    | succ rounds =>
      rw [ResourceTable.absolutePositionFrom, if_neg hne, hcovers.record]
      dsimp only
      rw [hwp, if_neg (h.parent_ne hne hparent), ih ⟨n, by omega, hrest⟩, hlocal, Prod.mk.injEq]
      constructor <;> dsimp only <;> omega

theorem windowAbsolutePosition_eq (h : s.resources.TreeWellFormed) {q : Target}
    (hq : ReflTransGen s.DescendsTo (ROOT_WINDOW, x, y) q)
    (hdepth : ∃ n ≤ 256, s.resources.links.AtDepth ROOT_WINDOW q.1 n) :
    s.resources.windowAbsolutePosition q.1 = (x - q.2.1, y - q.2.2) := by
  have hwalk := absolutePositionFrom_eq h hq hdepth 0 0
  rw [Int.zero_add, Int.zero_add] at hwalk
  exact hwalk

/-- No window has an input shape. -/
def Unshaped (s : ServerState) : Prop :=
  ∀ window : ResourceId, s.shapeWindows[window]?.bind (·.input) = none

theorem childContainingPoint_eq_some_iff (h : s.resources.TreeWellFormed) (hshape : s.Unshaped)
    {q : Target} (hq : ReflTransGen s.DescendsTo (ROOT_WINDOW, x, y) q)
    (hdepth : ∃ n ≤ 256, s.resources.links.AtDepth ROOT_WINDOW q.1 n) :
    s.resources.childContainingPoint q.1 x y = some c ↔
      Topmost (fun c => ∃ w, s.Covers c w q.2.1 q.2.2) c (s.resources.childrenOf q.1) := by
  have hlocal : ∀ a b : Int, a - (a - b) = b := by omega
  unfold ResourceTable.childContainingPoint ResourceTable.childrenOf
  rw [windowAbsolutePosition_eq h hq hdepth]
  dsimp only
  rw [hlocal, hlocal]
  cases s.resources.windows[q.1]? with
  | none =>
    simp only [reduceCtorEq, false_iff]
    intro htop
    exact nomatch htop.mem
  | some parent =>
    dsimp only [Option.elim_some]
    rw [find?_reverse_eq_some_iff]
    refine topmost_congr fun b _ => ?_
    cases hb : s.resources.windows[b]? with
    | none =>
      simp only [Bool.false_eq_true, false_iff, not_exists]
      intro w hw
      have hrecord := hw.record
      rw [hb] at hrecord
      exact nomatch hrecord
    | some child =>
      simp only [Bool.and_eq_true]
      constructor
      · rintro ⟨⟨⟨⟨hmapped, h₁⟩, h₂⟩, h₃⟩, h₄⟩
        refine ⟨child, hb, of_decide_eq_true hmapped, ⟨of_decide_eq_true h₁, of_decide_eq_true h₂⟩,
          ⟨of_decide_eq_true h₃, of_decide_eq_true h₄⟩, fun rects hrects => ?_⟩
        rw [hshape b] at hrects
        exact nomatch hrects
      · rintro ⟨w, hrecord, hmapped, hh, hv, -⟩
        obtain rfl : child = w := Option.some.inj (hb.symm.trans hrecord)
        exact ⟨⟨⟨⟨decide_eq_true hmapped, decide_eq_true hh.1⟩, decide_eq_true hh.2⟩,
          decide_eq_true hv.1⟩, decide_eq_true hv.2⟩

/-- Where the point is near in the child that it is in, both lookups find the
same child. -/
theorem hitTestChildren_eq_childContainingPoint (h : s.resources.TreeWellFormed)
    (hshape : s.Unshaped) {p : ResourceId × Int16 × Int16}
    (hp : ReflTransGen s.DescendsTo (ROOT_WINDOW, x, y) (Target.lift p))
    (hdepth : ∃ n ≤ 256, s.resources.links.AtDepth ROOT_WINDOW p.1 n)
    (hpx : 0 ≤ p.2.1.toInt) (hpy : 0 ≤ p.2.2.toInt)
    (hnear : ∀ q, s.DescendsTo (Target.lift p) q → q.Near) :
    (s.hitTestChildren p.1 p.2.1 p.2.2).map (·.1) =
      s.resources.childContainingPoint p.1 x y := by
  have hlookup : ∀ c, s.resources.childContainingPoint p.1 x y = some c ↔ _ :=
    fun c => childContainingPoint_eq_some_iff h hshape hp hdepth
  cases hhit : s.hitTestChildren p.1 p.2.1 p.2.2 with
  | some v =>
    have hstep : s.CodeStep p v := hhit
    obtain ⟨q, hq⟩ := hstep.exists_descendsTo hpx hpy
    obtain ⟨u, hu, rfl⟩ := hq.codeStep hpx hpy (hnear q hq)
    obtain rfl : v = u := next_rightUnique hstep hu
    exact ((hlookup v.1).mpr hq.1).symm
  | none =>
    cases hchild : s.resources.childContainingPoint p.1 x y with
    | none => rfl
    | some c =>
      have htop := (hlookup c).mp hchild
      obtain ⟨w, hw⟩ := htop.holds
      have hq : s.DescendsTo (Target.lift p)
          (c, p.2.1.toInt - w.x.toInt, p.2.2.toInt - w.y.toInt) :=
        ⟨htop, w, hw, rfl⟩
      obtain ⟨u, hu, -⟩ := hq.codeStep hpx hpy (hnear _ hq)
      rw [CodeStep, Next, hhit] at hu
      cases hu

/-! ## The pointer -/

/-- The walk of the pointer is the exact descent, and without input shapes each
of its steps is what the lookup by screen position finds. That lookup adds up
the offsets of at most 256 windows. -/
structure HitTestExact (s : ServerState) (x y : Int16) : Prop where
  target : ∃ r, s.pointerTargetAt ROOT_WINDOW x y = some r ∧
    Ends s.DescendsTo (ROOT_WINDOW, x.toInt, y.toInt) (Target.lift r)
  agrees : s.Unshaped → ∀ p, ReflTransGen s.CodeStep (ROOT_WINDOW, x, y) p →
    (∃ n ≤ 256, s.resources.links.AtDepth ROOT_WINDOW p.1 n) →
      (s.hitTestChildren p.1 p.2.1 p.2.2).map (·.1) =
        s.resources.childContainingPoint p.1 x.toInt y.toInt

theorem pointerTargetAt_root (hroot : s.resources.isViewable ROOT_WINDOW = true) (x y : Int16) :
    s.pointerTargetAt ROOT_WINDOW x y =
      some (s.pointerTargetAtInner s.resources.windows.size (ROOT_WINDOW, x, y)) := by
  unfold pointerTargetAt
  unfold ResourceTable.isViewable at hroot
  cases hget : s.resources.windows[ROOT_WINDOW]? with
  | none => simp [hget] at hroot
  | some root =>
    simp only [hget, Option.any_some, decide_eq_true_eq] at hroot
    exact if_neg (by rw [hroot]; exact nofun)

/-- Hit testing is exact if and only if the point is near in every window on
its way down. -/
theorem hitTestExact_iff (h : s.resources.TreeWellFormed)
    (hroot : s.resources.isViewable ROOT_WINDOW = true) {x y : Int16} (hx : 0 ≤ x.toInt)
    (hy : 0 ≤ y.toInt) :
    s.HitTestExact x y ↔
      ∀ q, TransGen s.DescendsTo (ROOT_WINDOW, x.toInt, y.toInt) q → q.Near := by
  have hends := pointerTargetAtInner_ends h x y
  have htarget := pointerTargetAt_root hroot x y
  constructor
  · rintro ⟨⟨r, hr, hexact⟩, -⟩ q hq
    obtain rfl := Option.some.inj (htarget.symm.trans hr)
    exact near_of_ends_transGen h hends hx hy hexact hq
  · intro hnear
    refine ⟨⟨_, htarget, ends_of_near hends hx hy hnear⟩, fun hshape p hp hdepth => ?_⟩
    obtain ⟨hpx, hpy⟩ := CodeStep.reaches_nonneg hp hx hy
    have hreaches := reaches_of_near hp hx hy hnear
    exact hitTestChildren_eq_childContainingPoint h hshape hreaches hdepth hpx hpy
      fun q hq => hnear q (.tail' hreaches hq)

theorem treeWellFormed_new : new.resources.TreeWellFormed :=
  ResourceTable.treeWellFormed_default.modifyWindow (fun _ => rfl) fun _ _ => .refl _

/-- The point is near in every window on its way if no window is larger than that. -/
theorem near_of_transGen (hsmall : ∀ (c : ResourceId) (w : Window),
    s.resources.windows[c]? = some w → w.width.toNat ≤ 32767 ∧ w.height.toNat ≤ 32767)
    {p q : Target}
    (hq : TransGen s.DescendsTo p q) : q.Near := by
  obtain ⟨mid, -, -, w, hw, hpoint⟩ := TransGen.tail'_iff.mp hq
  have hhorizontal := hw.horizontal
  have hvertical := hw.vertical
  obtain ⟨hwidth, hheight⟩ := hsmall q.1 w hw.record
  rw [Target.Near, hpoint]
  constructor <;> dsimp only <;> omega

/-- A window of client 1 with two children. The upper one takes input in its corner only, and
another window on top of them is not mapped. -/
def nestedWindows : ServerState :=
  let child (window parent : ResourceId) (x y : Int16) (size : UInt16) : CreateWindowRequest :=
    { ResourceTable.childRequest window parent with
      x := x
      y := y
      width := size
      height := size }
  let t := new.resources.createWindow 1 (child 0x200000 ROOT_WINDOW 10 20 200)
  let t := t.createWindow 1 (child 0x200001 0x200000 5 5 100)
  let t := t.createWindow 1 (child 0x200002 0x200000 (-8) 0 120)
  let t := t.createWindow 1 (child 0x200003 ROOT_WINDOW 0 0 300)
  let t := (((t.mapWindow 0x200000).1.mapWindow 0x200001).1.mapWindow 0x200002).1
  { new with
    resources := t
    shapeWindows := (∅ : ResourceMap ShapeWindowState).insert 0x200002
      { bounding := none
        clip := none
        input := some [⟨0, 0, 10, 10⟩] } }

theorem treeWellFormed_nestedWindows : nestedWindows.resources.TreeWellFormed :=
  (((((((treeWellFormed_new.createWindow 1 (by decide) (by decide)).createWindow 1 (by decide)
    (by decide)).createWindow 1 (by decide) (by decide)).createWindow 1 (by decide)
    (by decide)).mapWindow _).mapWindow _).mapWindow _)

/-- The pointer passes through the upper child to the lower one, and meets the upper one in
its corner. -/
theorem hitTestExact_new :
    nestedWindows.HitTestExact 60 80 ∧
      nestedWindows.pointerTargetAt ROOT_WINDOW 60 80 = some (0x200001, 45, 55) ∧
      nestedWindows.HitTestExact 11 29 ∧
      nestedWindows.pointerTargetAt ROOT_WINDOW 11 29 = some (0x200002, 9, 9) := by
  have hsmall : nestedWindows.resources.windows.toList.all fun p =>
      p.2.width.toNat ≤ 32767 ∧ p.2.height.toNat ≤ 32767 := by decide
  have hrecords (c : ResourceId) (w : Window)
      (hw : nestedWindows.resources.windows[c]? = some w) :
      w.width.toNat ≤ 32767 ∧ w.height.toNat ≤ 32767 := by
    have hmem := Std.ExtTreeMap.mem_toList_iff_getElem?_eq_some.mpr hw
    exact of_decide_eq_true (List.all_eq_true.mp hsmall (c, w) hmem)
  refine ⟨?_, by decide, ?_, by decide⟩
  · exact (hitTestExact_iff treeWellFormed_nestedWindows (by decide) (by decide) (by decide)).mpr
      fun _ => near_of_transGen hrecords
  · exact (hitTestExact_iff treeWellFormed_nestedWindows (by decide) (by decide) (by decide)).mpr
      fun _ => near_of_transGen hrecords

/-- A mapped window that is wider than a sixteen-bit integer. -/
def wideWindow : ServerState :=
  { new with
    resources := ((new.resources.createWindow 1
      { ResourceTable.childRequest 0x200000 ROOT_WINDOW with
        width := 40000
        height := 10 }).mapWindow 0x200000).1 }

/-- The pointer at the right edge of the coordinate range is not found in a wide
window there. -/
theorem wideWindow_missed :
    wideWindow.resources.TreeWellFormed ∧ wideWindow.resources.isViewable ROOT_WINDOW = true ∧
      ¬ wideWindow.HitTestExact 32767 0 := by
  refine ⟨?_, by decide, fun h => ?_⟩
  · exact (treeWellFormed_new.createWindow 1 (by decide) (by decide)).mapWindow 0x200000
  obtain ⟨⟨r, hr, hexact⟩, -⟩ := h
  have hroot : wideWindow.pointerTargetAt ROOT_WINDOW 32767 0 = some (ROOT_WINDOW, 32767, 0) := by
    decide
  obtain rfl : (ROOT_WINDOW, 32767, 0) = r := Option.some.inj (hroot.symm.trans hr)
  have hrecord : wideWindow.resources.windows[(0x200000 : ResourceId)]?.map
      (fun w => (w.mapState, w.x, w.y, w.width, w.height)) = some (.Viewable, 0, 0, 40000, 10) := by
    decide
  obtain ⟨w, hw, hfields⟩ := Option.map_eq_some_iff.mp hrecord
  simp only [Prod.mk.injEq] at hfields
  obtain ⟨hmap, hx, hy, hwidth, hheight⟩ := hfields
  have hcovers : wideWindow.Covers 0x200000 w 32767 0 := by
    refine ⟨hw, by rw [hmap]; exact nofun, ?_, ?_, fun rects hrects => ?_⟩
    · rw [hx, hwidth]
      decide
    · rw [hy, hheight]
      decide
    · rw [show wideWindow.shapeWindows = ∅ from rfl] at hrects
      simp at hrects
  have hchildren : wideWindow.resources.childrenOf ROOT_WINDOW = [0x200000] := by
    decide
  exact hexact.stops (0x200000, 32767 - w.x.toInt, 0 - w.y.toInt)
    ⟨⟨[], [], hchildren, ⟨w, hcovers⟩, fun b hb => nomatch hb⟩, w, hcovers, rfl⟩

end ServerState

end X12

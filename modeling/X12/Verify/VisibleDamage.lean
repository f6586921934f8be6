import X12.Verify.Damage
import X12.Verify.HitTest

/-! # Damage as far as it is visible

What a damage object records of a drawing should be the part of the rectangle that lies
inside the drawn window and inside every window above it up to the one the object watches.
The ancestor walk clips to the windows above the drawn one only, and not to all of them. -/

namespace X12

open Boxes (Box)

namespace ResourceTable

variable {t : ResourceTable} {w a : ResourceId} {p q : Point} {k : Nat}

/-- A point of a window, in the coordinates of the window, lies inside it. -/
def Inside (t : ResourceTable) (w : ResourceId) (p : Point) : Prop :=
  ∃ win, t.windows[w]? = some win ∧ p ∈ (⟨0, win.width.toNat, 0, win.height.toNat⟩ : Box Int)

/-- A point of a window as a point inside its parent. -/
def InParent (t : ResourceTable) (c q : ResourceId × Point) : Prop :=
  ∃ win, t.windows[c.1]? = some win ∧ win.parent ≠ c.1 ∧
    q = (win.parent, (c.2.1 + win.x.toInt, c.2.2 + win.y.toInt)) ∧ t.Inside q.1 q.2

/-- A point of a window as a point of the window that many levels above it, inside of all
windows on the way and of that one. -/
inductive Rises (t : ResourceTable) : Nat → ResourceId × Point → ResourceId × Point → Prop
  | start {c : ResourceId × Point} : Rises t 0 c c
  | step {c d e : ResourceId × Point} {k : Nat} (parent : t.InParent c d) (rest : Rises t k d e) :
      Rises t (k + 1) c e

/-- The part of a rectangle of `w` that is visible in `a`. -/
def VisibleIn (t : ResourceTable) (w : ResourceId) (r : RegionRect) (a : ResourceId)
    (q : Point) : Prop :=
  ∃ p k, p ∈ r ∧ t.Inside w p ∧ t.Rises k (w, p) (a, q)

/-- Where the windows above `w` up to `a` would show a part of the rectangle, that part is
inside `w` and starts within the fields of a rectangle. Further up than the walk goes, they
show nothing of `w`. -/
structure Contained (t : ResourceTable) (w : ResourceId) (r : RegionRect) (a : ResourceId) :
    Prop where
  inside : ∀ k ≤ ANCESTOR_WALK_MAX_DEPTH, ∀ p ∈ r, ∀ q, t.Rises k (w, p) (a, q) → t.Inside w p
  corner : ∀ k ≤ ANCESTOR_WALK_MAX_DEPTH, (∃ p ∈ r, ∃ q, t.Rises k (w, p) (a, q)) →
    ∃ p ∈ r, ∃ q, t.Rises k (w, p) (a, q) ∧ q.1 ≤ 32767 ∧ q.2 ≤ 32767
  near : ∀ k > ANCESTOR_WALK_MAX_DEPTH, ∀ p ∈ r, ∀ q, t.Rises k (w, p) (a, q) → ¬ t.Inside w p

/-! ## One level -/

variable {l above : LevelRect}

theorem inside_iff {win : Window} (hw : t.windows[w]? = some win) :
    t.Inside w p ↔ (0 ≤ p.1 ∧ p.1 < win.width.toNat) ∧ 0 ≤ p.2 ∧ p.2 < win.height.toNat := by
  unfold Inside
  simp only [hw, Option.some.injEq, exists_eq_left', Box.mem_iff]

theorem mem_levelAbove (h : t.levelAbove l = some above) :
    q ∈ above.toBox ↔ ∃ p ∈ l.toBox, t.InParent (l.drawable, p) (above.drawable, q) := by
  simp only [levelAbove, Option.bind_eq_bind, Option.bind_eq_some_iff,
    Option.ite_none_left_eq_some, Option.some.injEq] at h
  obtain ⟨current, hcurrent, hproper, parent, hparent, -, rfl⟩ := h
  simp only [Box.mem_iff, LevelRect.toBox, InParent]
  constructor
  · intro hq
    refine ⟨(q.1 - current.x.toInt, q.2 - current.y.toInt), by omega, current, hcurrent, hproper,
      ?_, (inside_iff hparent).mpr (by omega)⟩
    rw [Int.sub_add_cancel, Int.sub_add_cancel]
  · rintro ⟨p, hp, win, hwin, -, heq, hin⟩
    cases hcurrent.symm.trans hwin
    cases heq
    have hin := (inside_iff hparent).mp hin
    dsimp only at hin ⊢
    omega

theorem levelAbove_of_inParent (hp : p ∈ l.toBox) (h : t.InParent (l.drawable, p) (a, q)) :
    ∃ above, t.levelAbove l = some above ∧ above.drawable = a := by
  obtain ⟨win, hwin, hproper, heq, hin⟩ := h
  cases heq
  obtain ⟨parent, hparent, -⟩ := id hin
  have hin := (inside_iff hparent).mp hin
  have hwin : t.windows[l.drawable]? = some win := hwin
  have hparent : t.windows[win.parent]? = some parent := hparent
  simp only [Box.mem_iff, LevelRect.toBox] at hp
  dsimp only at hin
  simp only [levelAbove, Option.bind_eq_bind, hwin, Option.bind_some, hparent]
  rw [if_neg hproper, if_neg (by omega)]
  exact ⟨_, rfl, rfl⟩

/-! ## The walk -/

theorem rises_one {c d : ResourceId × Point} : t.Rises 1 c d ↔ t.InParent c d := by
  constructor
  · intro h
    cases h with
    | step hparent hrest =>
      cases hrest
      exact hparent
  · intro h
    exact .step h .start

/-- The window above shows what is in the level above. -/
theorem mem_of_inParent {c : ResourceId × Point} (hl : t.levelAbove l = some above)
    (hp : p ∈ l.toBox) (h : t.InParent (l.drawable, p) c) :
    above.drawable = c.1 ∧ c.2 ∈ above.toBox := by
  obtain ⟨next, hnext, hdrawable⟩ := levelAbove_of_inParent hp h
  cases hl.symm.trans hnext
  refine ⟨hdrawable, (mem_levelAbove hl).mpr ⟨p, hp, ?_⟩⟩
  rw [hdrawable]
  exact h

theorem mem_levelsAbove {steps : Nat} (h : (t.levelsAbove steps l)[k]? = some above) :
    q ∈ above.toBox ↔ ∃ p ∈ l.toBox, t.Rises (k + 1) (l.drawable, p) (above.drawable, q) := by
  induction steps generalizing l k with
  | zero => cases h
  | succ steps ih =>
    rw [levelsAbove] at h
    cases hl : t.levelAbove l with
    | none =>
      rw [hl] at h
      cases h
    | some next =>
      rw [hl, Option.elim_some] at h
      cases k with
      | zero =>
        cases h
        simp only [mem_levelAbove hl, Nat.zero_add, rises_one]
      | succ k =>
        rw [ih h]
        constructor
        · rintro ⟨p', hp', hrise⟩
          obtain ⟨p, hp, hparent⟩ := (mem_levelAbove hl).mp hp'
          exact ⟨p, hp, .step hparent hrise⟩
        · rintro ⟨p, hp, hrise⟩
          cases hrise with
          | @step _ c _ _ hparent hrest =>
            obtain ⟨hdrawable, hc⟩ := mem_of_inParent hl hp hparent
            refine ⟨c.2, hc, ?_⟩
            rw [hdrawable]
            exact hrest

/-- The walk comes to each window that shows something, as far as it goes. -/
theorem exists_levelsAbove {steps : Nat} (hk : k < steps) (hp : p ∈ l.toBox)
    (h : t.Rises (k + 1) (l.drawable, p) (a, q)) :
    ∃ above, (t.levelsAbove steps l)[k]? = some above ∧ above.drawable = a := by
  induction steps generalizing l k p with
  | zero => cases hk
  | succ steps ih =>
    cases h with
    | @step _ c _ _ hparent hrest =>
      obtain ⟨next, hl, -⟩ := levelAbove_of_inParent hp hparent
      obtain ⟨hdrawable, hc⟩ := mem_of_inParent hl hp hparent
      rw [levelsAbove, hl, Option.elim_some]
      cases k with
      | zero =>
        cases hrest
        exact ⟨next, rfl, hdrawable⟩
      | succ k =>
        apply ih (Nat.lt_of_succ_lt_succ hk) hc
        rw [hdrawable]
        exact hrest

theorem length_levelsAbove_le (t : ResourceTable) (steps : Nat) (l : LevelRect) :
    (t.levelsAbove steps l).length ≤ steps := by
  induction steps generalizing l with
  | zero => exact Nat.le_refl 0
  | succ steps ih =>
    rw [levelsAbove]
    cases t.levelAbove l with
    | none => exact Nat.zero_le _
    | some above => exact Nat.succ_le_succ (ih above)

variable {x y : Int16} {width height : UInt16}

theorem mem_leafRect : p ∈ (leafRect w x y width height).toBox ↔
    p ∈ (⟨x, y, width, height⟩ : RegionRect) :=
  Iff.rfl

theorem mem_drawnLevels (h : (t.drawnLevels w x y width height)[k]? = some l) :
    q ∈ l.toBox ↔ ∃ p ∈ (⟨x, y, width, height⟩ : RegionRect), t.Rises k (w, p) (l.drawable, q) := by
  cases k with
  | zero =>
    cases h
    constructor
    · intro hq
      exact ⟨q, hq, .start⟩
    · rintro ⟨p, hp, hrise⟩
      cases hrise
      exact hp
  | succ k => exact mem_levelsAbove h

theorem exists_drawnLevels (hk : k ≤ ANCESTOR_WALK_MAX_DEPTH)
    (hp : p ∈ (⟨x, y, width, height⟩ : RegionRect)) (h : t.Rises k (w, p) (a, q)) :
    ∃ l, (t.drawnLevels w x y width height)[k]? = some l ∧ l.drawable = a := by
  cases k with
  | zero =>
    cases h
    exact ⟨_, rfl, rfl⟩
  | succ k => exact exists_levelsAbove hk (mem_leafRect.mpr hp) h

theorem le_of_drawnLevels (h : (t.drawnLevels w x y width height)[k]? = some l) :
    k ≤ ANCESTOR_WALK_MAX_DEPTH := by
  have hk := (List.getElem?_eq_some_iff.mp h).1
  exact Nat.le_trans (Nat.le_of_lt_succ hk) (length_levelsAbove_le ..)

/-- The levels of a rectangle that is not empty are not empty. -/
theorem corner_mem_drawnLevels (hw : width ≠ 0) (hh : height ≠ 0)
    (h : l ∈ t.drawnLevels w x y width height) : (l.rx, l.ry) ∈ l.toBox := by
  have hpos : 0 < l.rw ∧ 0 < l.rh := by
    rcases List.mem_cons.mp h with rfl | h
    · have hw : width.toNat ≠ 0 := fun h0 => hw (UInt16.toNat.inj h0)
      have hh : height.toNat ≠ 0 := fun h0 => hh (UInt16.toNat.inj h0)
      simp only [leafRect]
      omega
    · obtain ⟨below, hbelow⟩ := exists_levelAbove h
      obtain ⟨-, hrw, hrh, -⟩ := levelAbove_eq_some hbelow
      exact ⟨hrw, hrh⟩
  simp only [Box.mem_iff, LevelRect.toBox]
  omega

/-! ## One place above -/

theorem InParent.atDepth {c d : ResourceId × Point} {n : Nat} (h : t.TreeWellFormed)
    (hcd : t.InParent c d) (hdepth : t.links.AtDepth ROOT_WINDOW c.1 n) :
    ∃ m, n = m + 1 ∧ t.links.AtDepth ROOT_WINDOW d.1 m := by
  obtain ⟨win, hwin, hproper, rfl, -⟩ := hcd
  have hparent : t.links.parent c.1 = some win.parent := parentOf_of_get hwin
  refine hdepth.parent ?_ hparent
  intro hroot
  rw [hroot, h.root_parent] at hparent
  exact hproper ((Option.some.inj hparent).symm.trans hroot.symm)

theorem Rises.atDepth {c d : ResourceId × Point} {n : Nat} (h : t.TreeWellFormed)
    (hcd : t.Rises k c d) (hdepth : t.links.AtDepth ROOT_WINDOW c.1 n) :
    ∃ m, n = m + k ∧ t.links.AtDepth ROOT_WINDOW d.1 m := by
  induction hcd generalizing n with
  | start => exact ⟨n, rfl, hdepth⟩
  | step hparent _ ih =>
    obtain ⟨m, rfl, hm⟩ := hparent.atDepth h hdepth
    obtain ⟨m', rfl, hm'⟩ := ih hm
    exact ⟨m', by omega, hm'⟩

/-- A window is above another in one way. -/
theorem Rises.levels_unique {k' : Nat} {p' q' : Point} (h : t.TreeWellFormed)
    (hw : t.windows[w]? ≠ none) (hr : t.Rises k (w, p) (a, q))
    (hr' : t.Rises k' (w, p') (a, q')) : k = k' := by
  obtain ⟨n, hn⟩ := h.rooted (present_iff.mpr hw)
  obtain ⟨m, hm, hdepth⟩ := hr.atDepth h hn
  obtain ⟨m', hm', hdepth'⟩ := hr'.atDepth h hn
  have := hdepth.unique hdepth'
  omega

theorem Rises.injective {c d c' d' : ResourceId × Point} (hr : t.Rises k c d)
    (hr' : t.Rises k c' d') (hc : c.1 = c'.1) (hd : d.2 = d'.2) : c.2 = c'.2 := by
  induction hr generalizing c' with
  | start =>
    cases hr'
    exact hd
  | step hparent _ ih =>
    cases hr' with
    | step hparent' hrest' =>
      obtain ⟨win, hwin, -, rfl, -⟩ := hparent
      obtain ⟨win', hwin', -, rfl, -⟩ := hparent'
      rw [hc] at hwin
      cases hwin.symm.trans hwin'
      have hsame := ih hrest' rfl hd
      simp only [Prod.mk.injEq] at hsame
      apply Prod.ext <;> omega

end ResourceTable

/-! ## What is recorded -/

/-- One rectangle that denotes the points, or none when there are no points. -/
def ExactlyOne (V : Point → Prop) : List RegionRect → Prop
  | [] => ∀ q, ¬ V q
  | [rect] => (∃ q, V q) ∧ ∀ q, q ∈ rect ↔ V q
  | _ => False

/-- Every damage object gets the visible part of the rectangle as one rectangle. -/
structure RecordsVisible (s s' : ServerState) (w : ResourceId) (r : RegionRect) : Prop where
  objects : ∀ id, s'.damageContent id = none ↔ s.damageContent id = none
  recorded : ∀ id a rects, s.damageContent id = some (a, rects) →
    ∃ more, s'.damageContent id = some (a, rects ++ more) ∧
      ExactlyOne (s.resources.VisibleIn w r a) more

/-- The recorded rectangle denotes points of its level exactly if it is not saturated and they
are all points of the level. -/
theorem LevelRect.saturated_exact_iff {l : LevelRect} {V : Point → Prop} (hfits : l.Fits)
    (hcorner : (l.rx, l.ry) ∈ l.toBox) (hV : ∀ q, V q → q ∈ l.toBox) :
    ((∃ q, V q) ∧ ∀ q, q ∈ l.saturated ↔ V q) ↔
      (l.rx ≤ 32767 ∧ l.ry ≤ 32767) ∧ ∀ q ∈ l.toBox, V q := by
  obtain ⟨hl, ht, ⟨hw, _⟩, hh, _⟩ := hfits
  have hx := saturateI16_toInt hl
  have hy := saturateI16_toInt ht
  have hw := saturateU16_toNat hw
  have hh := saturateU16_toNat hh
  have hmem : ∀ q : Point, q ∈ l.saturated ↔ (min l.rx 32767 ≤ q.1 ∧ q.1 < min l.rx 32767 + l.rw) ∧
      min l.ry 32767 ≤ q.2 ∧ q.2 < min l.ry 32767 + l.rh := by
    intro q
    rw [RegionRect.mem_iff]
    simp only [saturated, RegionRect.left, RegionRect.right, RegionRect.top, RegionRect.bottom]
    omega
  simp only [Box.mem_iff, toBox] at hcorner hV ⊢
  constructor
  · rintro ⟨-, hsat⟩
    have hstart := hV _ ((hsat (min l.rx 32767, min l.ry 32767)).mp ((hmem _).mpr (by omega)))
    refine ⟨by omega, fun q hq => (hsat q).mp ((hmem q).mpr (by omega))⟩
  · rintro ⟨hsmall, hall⟩
    refine ⟨⟨_, hall (l.rx, l.ry) hcorner⟩, fun q => ⟨fun hq => hall q ?_, fun hq => ?_⟩⟩
    · have := (hmem q).mp hq
      omega
    · have := hV q hq
      exact (hmem q).mpr (by omega)

namespace ServerState

variable {s : ServerState} {t : ResourceTable} {w a : ResourceId} {x y : Int16}
  {width height : UInt16} {l : LevelRect} {p q : Point} {k : Nat}

/-- One level has the drawable. -/
theorem recordedRects_eq {levels : List LevelRect} (hnodup : (levels.map (·.drawable)).Nodup)
    (h : l ∈ levels) : recordedRects levels l.drawable = [l.saturated] := by
  induction levels with
  | nil => cases h
  | cons first rest ih =>
    obtain ⟨hfirst, hrest⟩ := List.nodup_cons.mp hnodup
    rcases List.mem_cons.mp h with rfl | h
    · have hnone : rest.filter (·.drawable = l.drawable) = [] := by
        refine List.filter_eq_nil_iff.mpr fun l' hl' => ?_
        simpa using fun heq => hfirst (List.mem_map.mpr ⟨l', hl', heq⟩)
      simp [recordedRects, hnone]
    · have hne : first.drawable ≠ l.drawable := fun heq =>
        hfirst (List.mem_map.mpr ⟨l, h, heq.symm⟩)
      rw [← ih hrest h]
      simp [recordedRects, hne]

theorem recordedRects_eq_nil {levels : List LevelRect} (h : ∀ l ∈ levels, l.drawable ≠ a) :
    recordedRects levels a = [] := by
  unfold recordedRects
  rw [List.filter_eq_nil_iff.mpr, List.map_nil]
  intro l hl
  simpa using h l hl

/-- A level of the walk has a corner that comes from the rectangle. -/
theorem exists_rises (hwidth : width ≠ 0) (hheight : height ≠ 0)
    (h : (t.drawnLevels w x y width height)[k]? = some l) :
    ∃ p ∈ (⟨x, y, width, height⟩ : RegionRect),
      t.Rises k (w, p) (l.drawable, (l.rx, l.ry)) :=
  (ResourceTable.mem_drawnLevels h).mp
    (ResourceTable.corner_mem_drawnLevels hwidth hheight (List.mem_of_getElem? h))

/-- The windows on the way up differ. -/
theorem nodup_drawnLevels (h : t.TreeWellFormed) (hw : t.windows[w]? ≠ none) (hwidth : width ≠ 0)
    (hheight : height ≠ 0) :
    ((t.drawnLevels w x y width height).map (·.drawable)).Nodup := by
  rw [List.Nodup, List.pairwise_map, List.pairwise_iff_getElem]
  intro i j hi hj hij heq
  obtain ⟨p, -, hrise⟩ := exists_rises hwidth hheight (List.getElem?_eq_getElem hi)
  obtain ⟨p', -, hrise'⟩ := exists_rises hwidth hheight (List.getElem?_eq_getElem hj)
  rw [← heq] at hrise'
  exact absurd (hrise.levels_unique h hw hrise') (Nat.ne_of_lt hij)

/-- What shows through to the window of a level is in the level. -/
theorem mem_of_rises (h : t.TreeWellFormed) (hw : t.windows[w]? ≠ none) (hwidth : width ≠ 0)
    (hheight : height ≠ 0) (hl : (t.drawnLevels w x y width height)[k]? = some l) {k' : Nat}
    (hp : p ∈ (⟨x, y, width, height⟩ : RegionRect)) (hrise : t.Rises k' (w, p) (l.drawable, q)) :
    k' = k ∧ q ∈ l.toBox := by
  obtain ⟨p', -, hrise'⟩ := exists_rises hwidth hheight hl
  cases hrise.levels_unique h hw hrise'
  exact ⟨rfl, (ResourceTable.mem_drawnLevels hl).mpr ⟨p, hp, hrise⟩⟩

theorem exactlyOne_level (h : t.TreeWellFormed) (hw : t.windows[w]? ≠ none)
    (hwidth : width ≠ 0) (hheight : height ≠ 0)
    (hl : (t.drawnLevels w x y width height)[k]? = some l) :
    ExactlyOne (t.VisibleIn w ⟨x, y, width, height⟩ l.drawable) [l.saturated] ↔
      t.Contained w ⟨x, y, width, height⟩ l.drawable := by
  have hmem := List.mem_of_getElem? hl
  have hcorner := ResourceTable.corner_mem_drawnLevels hwidth hheight hmem
  have hlevel : ∀ q, q ∈ l.toBox ↔ _ := fun q => ResourceTable.mem_drawnLevels hl
  have hvisible : ∀ q, t.VisibleIn w ⟨x, y, width, height⟩ l.drawable q → q ∈ l.toBox := by
    rintro q ⟨p, k', hp, -, hrise⟩
    exact (mem_of_rises h hw hwidth hheight hl hp hrise).2
  have hfits := ResourceTable.fits_of_mem_drawnLevels hmem
  rw [ExactlyOne, LevelRect.saturated_exact_iff hfits hcorner hvisible]
  constructor
  · rintro ⟨⟨hx, hy⟩, hall⟩
    refine ⟨fun k' _ p hp q hrise => ?_, fun k' _ hsome => ?_, fun k' hk p hp q hrise => ?_⟩
    · obtain ⟨rfl, hq⟩ := mem_of_rises h hw hwidth hheight hl hp hrise
      obtain ⟨p', k, hp', hin, hrise'⟩ := hall q hq
      cases hrise.levels_unique h hw hrise'
      cases hrise.injective hrise' rfl rfl
      exact hin
    · obtain ⟨p, hp, q, hrise⟩ := hsome
      obtain ⟨rfl, -⟩ := mem_of_rises h hw hwidth hheight hl hp hrise
      obtain ⟨p', hp', hrise'⟩ := exists_rises hwidth hheight hl
      exact ⟨p', hp', _, hrise', hx, hy⟩
    · obtain ⟨rfl, -⟩ := mem_of_rises h hw hwidth hheight hl hp hrise
      exact absurd (ResourceTable.le_of_drawnLevels hl) (Nat.not_le.mpr hk)
  · intro hcontained
    have hk := ResourceTable.le_of_drawnLevels hl
    constructor
    · obtain ⟨p, hp, hrise⟩ := exists_rises hwidth hheight hl
      obtain ⟨p', hp', q, hrise', hx, hy⟩ := hcontained.corner k hk ⟨p, hp, _, hrise⟩
      have hq := (hlevel q).mpr ⟨p', hp', hrise'⟩
      simp only [Box.mem_iff, LevelRect.toBox] at hq
      omega
    · intro q hq
      obtain ⟨p, hp, hrise⟩ := (hlevel q).mp hq
      exact ⟨p, k, hp, hcontained.inside k hk p hp q hrise, hrise⟩

theorem exactlyOne_nil
    (hnone : ∀ l ∈ t.drawnLevels w x y width height, l.drawable ≠ a) :
    ExactlyOne (t.VisibleIn w ⟨x, y, width, height⟩ a) [] ↔
      t.Contained w ⟨x, y, width, height⟩ a := by
  have hfar : ∀ k p q, p ∈ (⟨x, y, width, height⟩ : RegionRect) → t.Rises k (w, p) (a, q) →
      k > ANCESTOR_WALK_MAX_DEPTH := by
    intro k p q hp hrise
    by_contra hk
    obtain ⟨l, hl, hdrawable⟩ :=
      ResourceTable.exists_drawnLevels (Nat.le_of_not_lt hk) hp hrise
    exact hnone l (List.mem_of_getElem? hl) hdrawable
  constructor
  · intro hempty
    refine ⟨fun k hk p hp q hrise => ?_, ?_, fun k _ p hp q hrise hin => ?_⟩
    · exact absurd (hfar k p q hp hrise) (Nat.not_lt.mpr hk)
    · rintro k hk ⟨p, hp, q, hrise⟩
      exact absurd (hfar k p q hp hrise) (Nat.not_lt.mpr hk)
    · exact hempty q ⟨p, k, hp, hin, hrise⟩
  · rintro hcontained q ⟨p, k, hp, hin, hrise⟩
    exact hcontained.near k (hfar k p q hp hrise) p hp q hrise hin

/-- The condition for one object. -/
theorem exactlyOne_iff (h : t.TreeWellFormed) (hw : t.windows[w]? ≠ none) (hwidth : width ≠ 0)
    (hheight : height ≠ 0) (a : ResourceId) :
    ExactlyOne (t.VisibleIn w ⟨x, y, width, height⟩ a)
        (recordedRects (t.drawnLevels w x y width height) a) ↔
      t.Contained w ⟨x, y, width, height⟩ a := by
  by_cases hlevel : ∃ l ∈ t.drawnLevels w x y width height, l.drawable = a
  · obtain ⟨l, hl, rfl⟩ := hlevel
    obtain ⟨k, hk⟩ := List.mem_iff_getElem?.mp hl
    rw [recordedRects_eq (nodup_drawnLevels h hw hwidth hheight) hl]
    exact exactlyOne_level h hw hwidth hheight hk
  · have hnone : ∀ l ∈ t.drawnLevels w x y width height, l.drawable ≠ a :=
      fun l hl heq => hlevel ⟨l, hl, heq⟩
    rw [recordedRects_eq_nil hnone]
    exact exactlyOne_nil hnone

/-- A rectangle without points shows nothing. -/
theorem exactlyOne_empty {r : RegionRect} (hr : ∀ p, p ∉ r) (a : ResourceId) :
    ExactlyOne (t.VisibleIn w r a) [] ↔ t.Contained w r a := by
  refine iff_of_true ?_ ⟨fun k _ p hp => absurd hp (hr p), ?_, fun k _ p hp => absurd hp (hr p)⟩
  · rintro q ⟨p, -, hp, -⟩
    exact hr p hp
  · rintro k - ⟨p, hp, -⟩
    exact absurd hp (hr p)

theorem recordsVisible_iff {s' : ServerState} {r : RegionRect}
    {rects : ResourceId → List RegionRect}
    (h : ∀ id, s'.damageContent id = (s.damageContent id).map (appendRects rects)) :
    RecordsVisible s s' w r ↔ ∀ id a old, s.damageContent id = some (a, old) →
      ExactlyOne (s.resources.VisibleIn w r a) (rects a) := by
  constructor
  · intro hrecords id a old hid
    obtain ⟨more, hmore, hone⟩ := hrecords.recorded id a old hid
    rw [h, hid, Option.map_some, appendRects, Option.some.injEq, Prod.mk.injEq] at hmore
    rwa [List.append_cancel_left hmore.2]
  · intro hall
    refine ⟨fun id => ?_, fun id a old hid => ⟨rects a, ?_, hall id a old hid⟩⟩
    · rw [h, Option.map_eq_none_iff]
    · rw [h, hid]
      rfl

/-- Drawing damages what is visible exactly if, for each damage object, the rectangle does not
stick out of its window where the windows above would show it, and the rest of the condition
on its place holds. -/
theorem accumulateDamage_visible_iff (s : ServerState) (h : s.resources.TreeWellFormed)
    (hw : s.resources.windows[w]? ≠ none) (x y : Int16) (width height : UInt16) :
    RecordsVisible s (s.accumulateDamageToState w x y width height).1 w ⟨x, y, width, height⟩ ↔
      ∀ id a rects, s.damageContent id = some (a, rects) →
        s.resources.Contained w ⟨x, y, width, height⟩ a := by
  by_cases hempty : width = 0 ∨ height = 0
  · have hleaf : leafRect w x y width height ∈ s.resources.drawnLevels w x y width height :=
      List.mem_cons_self
    have hnone : ∀ p, p ∉ (⟨x, y, width, height⟩ : RegionRect) := fun p hp =>
      ResourceTable.not_mem_drawnLevels_of_empty hempty hleaf (ResourceTable.mem_leafRect.mpr hp)
    have hcontent : ∀ id, s.damageContent id =
        (s.damageContent id).map (appendRects (recordedRects [])) := by
      intro id
      rw [appendRects_recordedRects_nil, Option.map_id']
    rw [accumulateDamageToState, if_pos hempty, recordsVisible_iff hcontent]
    exact forall₄_congr fun _ a _ _ => exactlyOne_empty hnone a
  · obtain ⟨hwidth, hheight⟩ := not_or.mp hempty
    rw [recordsVisible_iff fun id => accumulateDamageToState_content hwidth hheight]
    exact forall₄_congr fun _ a _ _ => exactlyOne_iff h hw hwidth hheight a

/-- A window of ten by ten on the root, with a damage object. -/
def watchedWindow : ServerState :=
  { ServerState.new with
    resources := ServerState.new.resources.createWindow 1
      { CreateWindowRequest.default with
        window := 0x200000
        parent := ROOT_WINDOW
        width := 10
        height := 10 }
    damageObjects := (∅ : ResourceMap DamageObject).insert 0x200001
      { owner := 1
        drawable := 0x200000
        level := REPORT_RAW_RECTANGLES
        rects := []
        pendingNotifyFired := false
        lastReportedGeometry := none } }

theorem watchedWindow_wellFormed : watchedWindow.resources.TreeWellFormed :=
  treeWellFormed_new.createWindow 1 (by decide) (by decide)

theorem watchedWindow_inside {p : Point} : watchedWindow.resources.Inside 0x200000 p ↔
    (0 ≤ p.1 ∧ p.1 < 10) ∧ 0 ≤ p.2 ∧ p.2 < 10 := by
  obtain ⟨win, hwin, hwidth, hheight⟩ : ∃ win,
      watchedWindow.resources.windows[(0x200000 : UInt32)]? = some win ∧
        win.width = 10 ∧ win.height = 10 := ⟨_, rfl, rfl, rfl⟩
  rw [ResourceTable.inside_iff hwin, hwidth, hheight]
  rfl

theorem watchedWindow_content {id a : ResourceId} {rects : List RegionRect}
    (h : watchedWindow.damageContent id = some (a, rects)) : a = 0x200000 := by
  rw [damageContent, watchedWindow] at h
  dsimp only at h
  rw [ResourceMap.get_insert] at h
  split at h
  · cases h
    rfl
  · cases h

/-- Drawing inside of a window damages the window. -/
theorem contained_self {r : RegionRect} (h : t.TreeWellFormed) (hw : t.windows[w]? ≠ none)
    (hin : ∀ p ∈ r, t.Inside w p) : t.Contained w r w := by
  refine ⟨fun _ _ p hp _ _ => hin p hp, ?_, fun k hk p _ q hrise => ?_⟩
  · rintro k - ⟨p, hp, q, hrise⟩
    cases hrise.levels_unique h hw (.start (c := (w, p)))
    have hleft := r.left_bounds
    have htop := r.top_bounds
    have hcorner : (r.left, r.top) ∈ r := by
      rw [RegionRect.mem_iff] at hp ⊢
      dsimp only
      omega
    exact ⟨_, hcorner, _, .start, hleft.2, htop.2⟩
  · cases hrise.levels_unique h hw (.start (c := (w, p)))
    cases hk

/-- The rectangle is inside the window. -/
theorem accumulateDamage_visible_drawn :
    RecordsVisible watchedWindow (watchedWindow.accumulateDamageToState 0x200000 2 3 4 5).1
      0x200000 ⟨2, 3, 4, 5⟩ := by
  have hpresent : watchedWindow.resources.windows[(0x200000 : UInt32)]? ≠ none := by decide
  refine (accumulateDamage_visible_iff watchedWindow watchedWindow_wellFormed hpresent 2 3 4
    5).mpr fun id a rects hid => ?_
  rw [watchedWindow_content hid]
  refine contained_self watchedWindow_wellFormed hpresent fun p hp => ?_
  have hp := RegionRect.mem_iff.mp hp
  have hleft : RegionRect.left ⟨2, 3, 4, 5⟩ = 2 := rfl
  have hright : RegionRect.right ⟨2, 3, 4, 5⟩ = 6 := rfl
  have htop : RegionRect.top ⟨2, 3, 4, 5⟩ = 3 := rfl
  have hbottom : RegionRect.bottom ⟨2, 3, 4, 5⟩ = 8 := rfl
  exact watchedWindow_inside.mpr (by omega)

/-- An image that is wider and higher than the window is recorded in full. -/
theorem overhang_recorded :
    watchedWindow.resources.TreeWellFormed ∧
      ¬ RecordsVisible watchedWindow (watchedWindow.accumulateDamageToState 0x200000 0 0 20 20).1
        0x200000 ⟨0, 0, 20, 20⟩ := by
  refine ⟨watchedWindow_wellFormed, fun hrecords => ?_⟩
  have hid : watchedWindow.damageContent 0x200001 = some (0x200000, []) := by decide
  have hone := (recordsVisible_iff fun id =>
    accumulateDamageToState_content (by decide) (by decide)).mp hrecords 0x200001 _ _ hid
  have hcontained := (exactlyOne_iff watchedWindow_wellFormed (by decide) (by decide) (by decide)
    _).mp hone
  have hin := hcontained.inside 0 (by decide) (15, 15) (by decide) (15, 15) .start
  have := watchedWindow_inside.mp hin
  omega

end ServerState

end X12

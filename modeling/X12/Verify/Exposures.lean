import X12.Core.Exposures
import X12.Lib.Boxes
import X12.Verify.MapState

/-! # Exposed descendants

The visible part of a window is cut by the rectangles of all its ancestors. The
walk over the descendants cuts each of them with the exposed rectangle only,
which is the same thing as long as no exposed part sticks out of an ancestor. -/

namespace X12

open Boxes Forest

/-- The rectangle of a window at a position. -/
def boxAt (w : Window) (x y : Int) : Box Int :=
  ⟨x, x + w.width.toNat, y, y + w.height.toNat⟩

/-- The report of a part of a window at `(x, y)`. -/
def exposedEntry (window : ResourceId) (x y : Int) (part : Box Int) : ExposedRect where
  window := window
  x := offsetOrZero (part.x₀ - x)
  y := offsetOrZero (part.y₀ - y)
  width := extentOrZero (part.x₁ - part.x₀)
  height := extentOrZero (part.y₁ - part.y₀)

/-- The rectangle that a report stands for, when its window is at `(x, y)`. -/
def ExposedRect.at (r : ExposedRect) (x y : Int) : Box Int :=
  ⟨x + r.x.toInt, x + r.x.toInt + r.width.toNat, y + r.y.toInt, y + r.y.toInt + r.height.toNat⟩

namespace ResourceTable

variable {t : ResourceTable} {e : Box Int} {top p d : ResourceId} {x y : Int} {fuel n : Nat}

/-- What one child contributes. -/
def exposedChild (t : ResourceTable) (e : Box Int)
    (below : ResourceId → Int → Int → List ExposedRect) (x y : Int) (child : ResourceId) :
    List ExposedRect :=
  match t.windows[child]? with
  | none => []
  | some w =>
    let cx := x + w.x.toInt
    let cy := y + w.y.toInt
    if w.mapState ≠ .Unmapped ∧ (e.inter (boxAt w cx cy)).Proper then
      exposedEntry child cx cy (e.inter (boxAt w cx cy)) :: below child cx cy
    else []

/-- The walk without its accumulator. -/
def exposedIn (t : ResourceTable) (e : Box Int) :
    Nat → ResourceId → Int → Int → List ExposedRect
  | 0, _, _, _ => []
  | fuel + 1, p, x, y => (t.childrenOf p).flatMap (t.exposedChild e (exposedIn t e fuel) x y)

theorem toNat_extentOrZero {v : Int} (hpos : 0 ≤ v) (hle : v ≤ 65535) :
    (extentOrZero v).toNat = v.toNat := by
  rw [extentOrZero, if_pos ⟨hpos, hle⟩]
  exact UInt16.toNat_ofNat_of_lt (by rw [UInt16.size]; omega)

theorem extentOrZero_pos {v : Int} (hpos : 0 < v) (hle : v ≤ 65535) : extentOrZero v > 0 := by
  rw [gt_iff_lt, UInt16.lt_iff_toNat_lt, toNat_extentOrZero (by omega) hle, UInt16.toNat_zero]
  omega

/-- A child at `(cx, cy)` is left out with everything below it when no part of it
is exposed, and otherwise listed first. -/
theorem exposedStep_eq (w : Window) (child : ResourceId) (cx cy : Int)
    (below : List ExposedRect → List ExposedRect) (out : List ExposedRect) :
    (let cr := cx + w.width.toNat
      let cb := cy + w.height.toNat
      let ix := max e.x₀ cx
      let iy := max e.y₀ cy
      let ir := min e.x₁ cr
      let ib := min e.y₁ cb
      if ir ≤ ix || ib ≤ iy then out
      else
        let localX := offsetOrZero (ix - cx)
        let localY := offsetOrZero (iy - cy)
        let localW := extentOrZero (ir - ix)
        let localH := extentOrZero (ib - iy)
        let out :=
          if localW > 0 && localH > 0 then out ++ [⟨child, localX, localY, localW, localH⟩]
          else out
        below out) =
      if (e.inter (boxAt w cx cy)).Proper then
        below (out ++ [exposedEntry child cx cy (e.inter (boxAt w cx cy))])
      else out := by
  have hw := w.width.toNat_lt
  have hh := w.height.toNat_lt
  by_cases hproper : (e.inter (boxAt w cx cy)).Proper
  · rw [if_pos hproper]
    obtain ⟨hx, hy⟩ := hproper
    simp only [boxAt, Box.inter] at hx hy
    have hwidth := extentOrZero_pos (Int.sub_pos_of_lt hx) (by omega)
    have hheight := extentOrZero_pos (Int.sub_pos_of_lt hy) (by omega)
    have hon : (decide (min e.x₁ (cx + w.width.toNat) ≤ max e.x₀ cx) ||
        decide (min e.y₁ (cy + w.height.toNat) ≤ max e.y₀ cy)) = false := by
      rw [decide_eq_false (not_le.mpr hx), decide_eq_false (not_le.mpr hy)]
      rfl
    dsimp only
    rw [hon, if_neg Bool.false_ne_true, decide_eq_true hwidth, decide_eq_true hheight]
    rfl
  · rw [if_neg hproper]
    refine if_pos ?_
    rw [Bool.or_eq_true]
    by_cases hx : min e.x₁ (cx + w.width.toNat) ≤ max e.x₀ cx
    · exact .inl (decide_eq_true hx)
    · refine .inr (decide_eq_true (not_lt.mp fun hy => hproper ⟨not_le.mp hx, hy⟩))

theorem descendantsInExposedAreaInner_eq (out : List ExposedRect) :
    t.descendantsInExposedAreaInner e.x₀ e.y₀ e.x₁ e.y₁ fuel p x y out =
      out ++ t.exposedIn e fuel p x y := by
  induction fuel generalizing p x y out with
  | zero => exact (List.append_nil out).symm
  | succ fuel ih =>
    rw [descendantsInExposedAreaInner, exposedIn, childrenOf]
    cases t.windows[p]? with
    | none => exact (List.append_nil out).symm
    | some parent =>
      rw [Option.elim_some, List.flatMap_def, ← List.foldl_append_eq_append]
      dsimp only
      congr 1
      funext out child
      unfold exposedChild
      cases t.windows[child]? with
      | none => exact (List.append_nil out).symm
      | some w =>
        dsimp only
        by_cases hmapped : w.mapState = .Unmapped
        · rw [if_pos hmapped, if_neg (not_and_of_not_left _ (not_not.mpr hmapped)),
            List.append_nil]
        · rw [if_neg hmapped]
          refine (exposedStep_eq w child _ _ _ out).trans ?_
          by_cases hproper : (e.inter (boxAt w (x + w.x.toInt) (y + w.y.toInt))).Proper
          · rw [if_pos hproper, if_pos ⟨hmapped, hproper⟩, ih, List.append_assoc]
            rfl
          · rw [if_neg hproper, if_neg (not_and_of_not_right _ hproper), List.append_nil]

/-! ## Chains of mapped windows -/

/-- `d` lies at `(x, y)` in the coordinates of `top`, at the end of a chain of
mapped windows below `top` that have the listed rectangles, that of `d` first. -/
inductive MappedChain (t : ResourceTable) (top : ResourceId) :
    ResourceId → Int → Int → List (Box Int) → Prop
  | top : MappedChain t top top 0 0 []
  | step {p d : ResourceId} {x y : Int} {boxes : List (Box Int)} {w : Window}
      (chain : MappedChain t top p x y boxes) (listed : d ∈ t.childrenOf p)
      (record : t.windows[d]? = some w) (mapped : w.mapState ≠ .Unmapped) :
      MappedChain t top d (x + w.x.toInt) (y + w.y.toInt)
        (boxAt w (x + w.x.toInt) (y + w.y.toInt) :: boxes)

variable {boxes boxes' : List (Box Int)} {box : Box Int} {x' y' : Int} {r : ExposedRect}

theorem MappedChain.links_below (h : t.MappedChain top d x y boxes) : t.links.Below top d := by
  induction h with
  | top => exact .refl
  | step _ listed _ _ ih => exact ih.tail (child_of_mem_childrenOf listed)

theorem MappedChain.atDepth (h : t.MappedChain top d x y boxes) (hwf : t.TreeWellFormed)
    (htop : t.links.AtDepth ROOT_WINDOW top n) :
    t.links.AtDepth ROOT_WINDOW d (n + boxes.length) := by
  induction h with
  | top => exact htop
  | step _ listed _ _ ih => exact hwf.child_atDepth ih (child_of_mem_childrenOf listed)

/-- In a tree there is one chain down to a window. -/
theorem MappedChain.unique (h : t.MappedChain top d x y boxes)
    (h' : t.MappedChain top d x' y' boxes') (hwf : t.TreeWellFormed) :
    x = x' ∧ y = y' ∧ boxes = boxes' := by
  induction h generalizing x' y' boxes' with
  | top =>
    cases h' with
    | top => exact ⟨rfl, rfl, rfl⟩
    | step chain listed =>
      exact absurd chain.links_below (hwf.not_below_child (child_of_mem_childrenOf listed))
  | step chain listed record _ ih =>
    have hchild := child_of_mem_childrenOf listed
    cases h' with
    | top => exact absurd chain.links_below (hwf.not_below_child hchild)
    | step chain' listed' record' _ =>
      have hparent := (hwf.child_iff.mp hchild).2
      have hparent' := (hwf.child_iff.mp (child_of_mem_childrenOf listed')).2
      obtain rfl := Option.some.inj (hparent.symm.trans hparent')
      obtain rfl := Option.some.inj (record.symm.trans record')
      obtain ⟨rfl, rfl, rfl⟩ := ih chain'
      exact ⟨rfl, rfl, rfl⟩

/-! ## What the walk lists -/

theorem mem_exposedChild {below : ResourceId → Int → Int → List ExposedRect} {w : Window}
    (record : t.windows[d]? = some w) (mapped : w.mapState ≠ .Unmapped)
    (hmeets : (e.inter (boxAt w (x + w.x.toInt) (y + w.y.toInt))).Proper) :
    r ∈ t.exposedChild e below x y d ↔
      r = exposedEntry d (x + w.x.toInt) (y + w.y.toInt)
          (e.inter (boxAt w (x + w.x.toInt) (y + w.y.toInt))) ∨
        r ∈ below d (x + w.x.toInt) (y + w.y.toInt) := by
  rw [exposedChild, record]
  dsimp only
  rw [if_pos ⟨mapped, hmeets⟩, List.mem_cons]

theorem exists_of_mem_exposedChild {below : ResourceId → Int → Int → List ExposedRect}
    (h : r ∈ t.exposedChild e below x y d) :
    ∃ w, t.windows[d]? = some w ∧ w.mapState ≠ .Unmapped ∧
      (e.inter (boxAt w (x + w.x.toInt) (y + w.y.toInt))).Proper := by
  unfold exposedChild at h
  split at h
  · exact nomatch h
  next w hw =>
  dsimp only at h
  split at h
  · next hexposed => exact ⟨w, hw, hexposed.1, hexposed.2⟩
  · exact nomatch h

/-- The walk comes to the end of every chain whose rectangles meet the exposed
one. -/
theorem mem_exposedIn_of_chain (hchain : t.MappedChain top p x y boxes)
    (hmeets : ∀ b ∈ boxes, (e.inter b).Proper) (hfuel : boxes.length ≤ fuel)
    (hr : r ∈ t.exposedIn e (fuel - boxes.length) p x y) : r ∈ t.exposedIn e fuel top 0 0 := by
  induction hchain with
  | top => exact hr
  | @step p d x y boxes w chain listed record mapped ih =>
    rw [List.forall_mem_cons] at hmeets
    rw [List.length_cons] at hfuel hr
    refine ih hmeets.2 (by omega) ?_
    rw [show fuel - boxes.length = (fuel - (boxes.length + 1)) + 1 by omega, exposedIn]
    refine List.mem_flatMap.mpr ⟨d, listed, ?_⟩
    exact (mem_exposedChild record mapped hmeets.1).mpr (.inr hr)

theorem exposedEntry_mem (hwf : t.TreeWellFormed) (hchain : t.MappedChain top d x y (box :: boxes))
    (hmeets : ∀ b ∈ box :: boxes, (e.inter b).Proper) :
    exposedEntry d x y (e.inter box) ∈ t.exposedIn e t.windows.size top 0 0 := by
  cases hchain with
  | @step p _ px py _ w chain listed record mapped =>
    rw [List.forall_mem_cons] at hmeets
    have hlength : boxes.length < t.windows.size := by
      obtain ⟨n, hn⟩ := hwf.rooted (child_of_mem_childrenOf listed).1
      have htop : ∃ m, t.links.AtDepth ROOT_WINDOW top m := by
        rcases Relation.ReflTransGen.cases_head chain.links_below with rfl | ⟨c, hc, -⟩
        · exact ⟨n, hn⟩
        · exact hwf.rooted hc.1
      obtain ⟨m, hm⟩ := htop
      have := hwf.depth_lt (chain.atDepth hwf hm)
      omega
    refine mem_exposedIn_of_chain chain hmeets.2 hlength.le ?_
    rw [show t.windows.size - boxes.length = (t.windows.size - (boxes.length + 1)) + 1 by omega,
      exposedIn]
    refine List.mem_flatMap.mpr ⟨d, listed, ?_⟩
    exact (mem_exposedChild record mapped hmeets.1).mpr (.inl rfl)

/-- Everything listed is at the end of such a chain. -/
theorem chain_of_mem_exposedIn (hchain : t.MappedChain top p x y boxes)
    (hmeets : ∀ b ∈ boxes, (e.inter b).Proper) (hr : r ∈ t.exposedIn e fuel p x y) :
    ∃ x' y' box boxes', t.MappedChain top r.window x' y' (box :: boxes') ∧
      (∀ b ∈ box :: boxes', (e.inter b).Proper) ∧
        r = exposedEntry r.window x' y' (e.inter box) := by
  induction fuel generalizing p x y boxes with
  | zero => exact nomatch hr
  | succ fuel ih =>
    rw [exposedIn] at hr
    obtain ⟨d, listed, hr⟩ := List.mem_flatMap.mp hr
    obtain ⟨w, record, mapped, hexposed⟩ := exists_of_mem_exposedChild hr
    have hnext := hchain.step listed record mapped
    have hmeets' : ∀ b ∈ _ :: boxes, (e.inter b).Proper :=
      List.forall_mem_cons.mpr ⟨hexposed, hmeets⟩
    rcases (mem_exposedChild record mapped hexposed).mp hr with rfl | hr
    · exact ⟨_, _, _, _, hnext, hmeets', rfl⟩
    · exact ih hnext hmeets' hr

theorem below_of_mem_exposedIn (hr : r ∈ t.exposedIn e fuel p x y) :
    ∃ c, t.links.Child p c ∧ t.links.Below c r.window := by
  induction fuel generalizing p x y with
  | zero => exact nomatch hr
  | succ fuel ih =>
    rw [exposedIn] at hr
    obtain ⟨d, listed, hr⟩ := List.mem_flatMap.mp hr
    obtain ⟨w, record, mapped, hexposed⟩ := exists_of_mem_exposedChild hr
    refine ⟨d, child_of_mem_childrenOf listed, ?_⟩
    rcases (mem_exposedChild record mapped hexposed).mp hr with rfl | hr
    · exact .refl
    · obtain ⟨c, hc, hbelow⟩ := ih hr
      exact .head hc hbelow

/-- No window is listed twice. -/
theorem nodup_exposedIn (hwf : t.TreeWellFormed) :
    ((t.exposedIn e fuel p x y).map (·.window)).Nodup := by
  induction fuel generalizing p x y with
  | zero => exact List.nodup_nil
  | succ fuel ih =>
    have hbelow : ∀ {d}, ∀ window ∈ (t.exposedChild e (t.exposedIn e fuel) x y d).map (·.window),
        t.links.Below d window := by
      intro d window hwindow
      obtain ⟨r, hr, rfl⟩ := List.mem_map.mp hwindow
      obtain ⟨w, record, mapped, hexposed⟩ := exists_of_mem_exposedChild hr
      rcases (mem_exposedChild record mapped hexposed).mp hr with rfl | hr
      · exact .refl
      · obtain ⟨c, hc, hbelow⟩ := below_of_mem_exposedIn hr
        exact .head hc hbelow
    rw [exposedIn, List.map_flatMap, List.nodup_flatMap]
    constructor
    · intro d _
      unfold exposedChild
      split
      · exact List.nodup_nil
      dsimp only
      split
      · rw [List.map_cons, List.nodup_cons]
        refine ⟨fun hmem => ?_, ih⟩
        obtain ⟨r, hr, hrd⟩ := List.mem_map.mp hmem
        obtain ⟨c, hc, hbelow⟩ := below_of_mem_exposedIn hr
        rw [show r.window = d from hrd] at hbelow
        exact hwf.not_below_child hc hbelow
      · exact List.nodup_nil
    · by_cases hpresent : t.links.Present p
      · refine (hwf.nodup_children hpresent).pairwise_of_forall_ne fun a ha b hb hne => ?_
        intro window hwa hwb
        exact hne (hwf.below_sibling ⟨hpresent, ha⟩ ⟨hpresent, hb⟩ (hbelow _ hwa) (hbelow _ hwb))
      · rw [childrenOf_of_absent (not_not.mp fun h => hpresent (present_iff.mpr h))]
        exact .nil

/-! ## Visible parts -/

theorem MappedChain.exists_boxAt (h : t.MappedChain top d x y (box :: boxes)) :
    ∃ w, box = boxAt w x y := by
  cases h with
  | @step _ _ _ _ _ w => exact ⟨w, rfl⟩

theorem toInt_offsetOrZero {v : Int} (h : 0 ≤ v) :
    (offsetOrZero v).toInt = if v ≤ 32767 then v else 0 := by
  unfold offsetOrZero
  by_cases hv : v ≤ 32767
  · rw [if_pos ⟨by omega, hv⟩, if_pos hv]
    exact Int16.toInt_ofInt_of_le (by omega) (by omega)
  · rw [if_neg fun hin => hv hin.2, if_neg hv]
    rfl

/-- The sizes of a reported part are exact; its offsets are as long as they fit. -/
theorem at_exposedEntry_iff {w : Window} (hproper : (e.inter (boxAt w x y)).Proper) {part : Box Int}
    (hpart : part.Within (e.inter (boxAt w x y))) :
    (exposedEntry d x y (e.inter (boxAt w x y))).at x y = part ↔
      part = e.inter (boxAt w x y) ∧ (e.inter (boxAt w x y)).x₀ - x ≤ 32767 ∧
        (e.inter (boxAt w x y)).y₀ - y ≤ 32767 := by
  have hw := w.width.toNat_lt
  have hh := w.height.toNat_lt
  have hin := Box.inter_within_right e (boxAt w x y)
  generalize e.inter (boxAt w x y) = whole at hproper hpart hin
  obtain ⟨hl, hr, ht, hb⟩ := hin
  obtain ⟨hx, hy⟩ := hproper
  simp only [boxAt] at hl hr ht hb
  have hwidth := toNat_extentOrZero (v := whole.x₁ - whole.x₀) (by omega) (by omega)
  have hheight := toNat_extentOrZero (v := whole.y₁ - whole.y₀) (by omega) (by omega)
  have hleft := toInt_offsetOrZero (v := whole.x₀ - x) (by omega)
  have htop := toInt_offsetOrZero (v := whole.y₀ - y) (by omega)
  obtain ⟨px₀, px₁, py₀, py₁⟩ := part
  obtain ⟨wx₀, wx₁, wy₀, wy₁⟩ := whole
  obtain ⟨hpl, hpr, hpt, hpb⟩ := hpart
  simp only [ExposedRect.at, exposedEntry, Box.mk.injEq] at *
  rw [hwidth, hheight, hleft, htop]
  constructor
  · rintro ⟨h₁, h₂, h₃, h₄⟩
    split at h₁ <;> split at h₃ <;> omega
  · rintro ⟨⟨rfl, rfl, rfl, rfl⟩, hfitx, hfity⟩
    rw [if_pos hfitx, if_pos hfity]
    omega

/-- Each window with a visible part is reported once, and with that part. -/
structure ExposesExactly (t : ResourceTable) (top : ResourceId) (e : Box Int)
    (out : List ExposedRect) : Prop where
  once : ∀ {d x y box boxes}, t.MappedChain top d x y (box :: boxes) →
    (Box.cutBy boxes (e.inter box)).Proper → (out.map (·.window)).count d = 1
  only : ∀ r ∈ out, ∃ x y box boxes, t.MappedChain top r.window x y (box :: boxes) ∧
    (Box.cutBy boxes (e.inter box)).Proper ∧ r.at x y = Box.cutBy boxes (e.inter box)

/-- Where the exposed rectangle meets a window and all its ancestors below
`top`, its part in the window lies inside these ancestors and starts at offsets
that a report can express. -/
def ExposedInside (t : ResourceTable) (top : ResourceId) (e : Box Int) : Prop :=
  ∀ {d x y box boxes}, t.MappedChain top d x y (box :: boxes) →
    (∀ b ∈ box :: boxes, (e.inter b).Proper) →
      (∀ b ∈ boxes, (e.inter box).Within b) ∧ (e.inter box).x₀ - x ≤ 32767 ∧
        (e.inter box).y₀ - y ≤ 32767

theorem meets_of_visible (h : (Box.cutBy boxes (e.inter box)).Proper) :
    ∀ b ∈ box :: boxes, (e.inter b).Proper := by
  have hpart := Box.cutBy_within boxes (e.inter box)
  intro b hb
  refine Box.Within.proper ((hpart.trans (Box.inter_within e box)).inter ?_) h
  rcases List.mem_cons.mp hb with rfl | hb
  · exact hpart.trans (Box.inter_within_right e b)
  · exact Box.cutBy_within_of_mem hb

theorem exposedIn_exact_iff (hwf : t.TreeWellFormed) :
    t.ExposesExactly top e (t.exposedIn e t.windows.size top 0 0) ↔ t.ExposedInside top e := by
  constructor
  · intro hexact d x y box boxes hchain hmeets
    obtain ⟨x', y', box', boxes', hchain', -, hat⟩ :=
      hexact.only _ (exposedEntry_mem hwf hchain hmeets)
    obtain ⟨rfl, rfl, hboxes⟩ := hchain.unique hchain' hwf
    obtain ⟨rfl, rfl⟩ := List.cons.inj hboxes
    obtain ⟨w, rfl⟩ := hchain.exists_boxAt
    have hproper := hmeets _ List.mem_cons_self
    obtain ⟨hpart, hfit⟩ := (at_exposedEntry_iff hproper (Box.cutBy_within boxes _)).mp hat
    refine ⟨fun b hb => ?_, hfit⟩
    rw [← hpart]
    exact Box.cutBy_within_of_mem hb
  · intro hinside
    refine ⟨fun {d x y box boxes} hchain hvisible => ?_, fun r hr => ?_⟩
    · have hmem := exposedEntry_mem hwf hchain (meets_of_visible hvisible)
      exact List.count_eq_one_of_mem (nodup_exposedIn hwf) (List.mem_map.mpr ⟨_, hmem, rfl⟩)
    · obtain ⟨x, y, box, boxes, hchain, hmeets, hr⟩ :=
        chain_of_mem_exposedIn .top (fun _ hb => nomatch hb) hr
      obtain ⟨hwithin, hfit⟩ := hinside hchain hmeets
      have hproper := hmeets _ List.mem_cons_self
      obtain ⟨w, rfl⟩ := hchain.exists_boxAt
      refine ⟨x, y, _, boxes, hchain, ?_, ?_⟩
      · rw [Box.cutBy_eq_of_within hwithin]
        exact hproper
      · rw [hr]
        exact (at_exposedEntry_iff hproper (Box.cutBy_within boxes _)).mpr
          ⟨Box.cutBy_eq_of_within hwithin, hfit⟩

/-- The rectangle of an expose event. -/
def exposedBox (ex ey : Int16) (ew eh : UInt16) : Box Int :=
  ⟨ex.toInt, ex.toInt + ew.toNat, ey.toInt, ey.toInt + eh.toNat⟩

/-- The reported parts are the visible ones if and only if no exposed part sticks
out of an ancestor or begins too far from its window's corner. -/
theorem descendantsInExposedArea_exact_iff (hwf : t.TreeWellFormed) (ex ey : Int16)
    (ew eh : UInt16) :
    t.ExposesExactly top (exposedBox ex ey ew eh) (t.descendantsInExposedArea top ex ey ew eh) ↔
      t.ExposedInside top (exposedBox ex ey ew eh) := by
  have hout : t.descendantsInExposedArea top ex ey ew eh =
      t.exposedIn (exposedBox ex ey ew eh) t.windows.size top 0 0 :=
    (@descendantsInExposedAreaInner_eq t (exposedBox ex ey ew eh) top 0 0 _ []).trans
      (List.nil_append _)
  rw [hout]
  exact exposedIn_exact_iff hwf

/-- A window with a small child that a larger grandchild sticks out of, all
mapped. -/
def overhangTable : ResourceTable :=
  let t := default.createWindow 1
    { childRequest 0x200000 ROOT_WINDOW with width := 100, height := 100 }
  let t := t.createWindow 1 { childRequest 0x200001 0x200000 with width := 10, height := 10 }
  let t := t.createWindow 1
    { childRequest 0x200002 0x200001 with x := 5, y := 5, width := 20, height := 20 }
  (((t.mapWindow 0x200000).1.mapWindow 0x200001).1.mapWindow 0x200002).1

theorem treeWellFormed_overhangTable : overhangTable.TreeWellFormed := by
  refine TreeWellFormed.mapWindow (TreeWellFormed.mapWindow (TreeWellFormed.mapWindow ?_ _) _) _
  refine TreeWellFormed.createWindow ?_ 1 (by decide) (by decide)
  refine TreeWellFormed.createWindow ?_ 1 (by decide) (by decide)
  exact TreeWellFormed.createWindow treeWellFormed_default 1 (by decide) (by decide)

theorem descendantsInExposedArea_exact_iff_overhang :
    overhangTable.ExposesExactly 0x200000 (exposedBox 0 0 5 5)
        (overhangTable.descendantsInExposedArea 0x200000 0 0 5 5) ↔
      overhangTable.ExposedInside 0x200000 (exposedBox 0 0 5 5) :=
  descendantsInExposedArea_exact_iff treeWellFormed_overhangTable 0 0 5 5

theorem exists_record {t : ResourceTable} {id : ResourceId} {x y : Int16} {width height : UInt16}
    (h : t.windows[id]?.map (fun w => (w.mapState, w.x, w.y, w.width, w.height)) =
      some (.Viewable, x, y, width, height)) :
    ∃ w, t.windows[id]? = some w ∧ w.mapState ≠ .Unmapped ∧ w.x = x ∧ w.y = y ∧
      w.width = width ∧ w.height = height := by
  obtain ⟨w, hw, hfields⟩ := Option.map_eq_some_iff.mp h
  simp only [Prod.mk.injEq] at hfields
  obtain ⟨hmap, hrest⟩ := hfields
  exact ⟨w, hw, by rw [hmap]; exact nofun, hrest⟩

/-- The grandchild is reported in full where only a corner of it is visible. -/
theorem overhang_reported :
    ¬ overhangTable.ExposesExactly 0x200000 (exposedBox 0 0 100 100)
      (overhangTable.descendantsInExposedArea 0x200000 0 0 100 100) := by
  have hout : overhangTable.descendantsInExposedArea 0x200000 0 0 100 100 =
      [⟨0x200001, 0, 0, 10, 10⟩, ⟨0x200002, 0, 0, 20, 20⟩] := by
    decide
  rw [hout]
  intro h
  obtain ⟨w, hw, hwmapped, hwx, hwy, hww, hwh⟩ :=
    @exists_record overhangTable 0x200001 0 0 10 10 (by decide)
  obtain ⟨v, hv, hvmapped, hvx, hvy, hvw, hvh⟩ :=
    @exists_record overhangTable 0x200002 5 5 20 20 (by decide)
  have hchain := ((@MappedChain.top overhangTable 0x200000).step
    (by decide) hw hwmapped).step (by decide) hv hvmapped
  obtain ⟨x, y, box, boxes, hchain', -, hat⟩ := h.only ⟨0x200002, 0, 0, 20, 20⟩ (by decide)
  obtain ⟨rfl, rfl, hboxes⟩ := hchain.unique hchain' treeWellFormed_overhangTable
  obtain ⟨rfl, rfl⟩ := List.cons.inj hboxes
  simp only [boxAt, hwx, hwy, hww, hwh, hvx, hvy, hvw, hvh] at hat
  revert hat
  decide

end ResourceTable

end X12

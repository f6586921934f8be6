import X12.Core.CopyArea
import X12.Verify.Damage

/-! # The geometry of CopyArea

The pieces of a copy are the cut of the available rectangle by the clip
rectangles and the children, less the pieces whose origin does not fit its
fields. A copy that stays within the coordinates of the protocol loses none. -/

namespace X12

open Boxes (Box)

/-! ## Conversions -/

theorem i16TryFrom_eq_some {v : Int} {x : Int16} : i16TryFrom v = some x ↔ x.toInt = v := by
  have := x.le_toInt
  have := x.toInt_lt
  simp only [i16TryFrom, Option.ite_none_right_eq_some, Option.some.injEq]
  constructor
  · rintro ⟨hv, rfl⟩
    exact Int16.toInt_ofInt_of_le hv.1 (by omega)
  · rintro rfl
    exact ⟨by omega, Int16.ofInt_toInt x⟩

theorem u16TryFrom_eq_some {v : Int} {n : UInt16} : u16TryFrom v = some n ↔ (n.toNat : Int) = v := by
  have := n.toNat_lt
  simp only [u16TryFrom, Option.ite_none_right_eq_some, Option.some.injEq]
  constructor
  · rintro ⟨hv, rfl⟩
    rw [UInt16.toNat_ofNat', Nat.mod_eq_of_lt (by omega)]
    omega
  · rintro rfl
    exact ⟨by omega, by rw [Int.toNat_natCast, UInt16.ofNat_toNat]⟩

theorem exists_i16TryFrom {v : Int} (h : -32768 ≤ v ∧ v ≤ 32767) : ∃ x, i16TryFrom v = some x :=
  ⟨_, if_pos h⟩

theorem exists_u16TryFrom {v : Int} (h : 0 ≤ v ∧ v ≤ 65535) : ∃ n, u16TryFrom v = some n :=
  ⟨_, if_pos h⟩

theorem mkSubRect_eq_some {x y w h : Int} {r : RegionRect} :
    mkSubRect x y w h = some r ↔ r.toBox = ⟨x, x + w, y, y + h⟩ := by
  simp only [mkSubRect, Option.bind_eq_bind, Option.bind_eq_some_iff, i16TryFrom_eq_some,
    u16TryFrom_eq_some, Option.pure_def, Option.some.injEq]
  constructor
  · rintro ⟨x', rfl, y', rfl, w', rfl, h', rfl, rfl⟩
    rfl
  · intro hbox
    simp only [RegionRect.toBox, RegionRect.left, RegionRect.right, RegionRect.top,
      RegionRect.bottom, Box.mk.injEq] at hbox
    exact ⟨r.x, by omega, r.y, by omega, r.width, by omega, r.height, by omega, rfl⟩

/-! ## The cut -/

/-- The origin of a box fits the fields of a piece. -/
def OriginFits (b : Box Int) : Prop :=
  b.x₀ ≤ 32767 ∧ b.y₀ ≤ 32767

instance : DecidablePred OriginFits := fun _ => inferInstanceAs (Decidable (_ ∧ _))

/-- The piece for a box, unless its origin does not fit. -/
def pieceOf (b : Box Int) : Option RegionRect :=
  mkSubRect b.x₀ b.y₀ (b.x₁ - b.x₀) (b.y₁ - b.y₀)

/-- A box whose edges are no further apart than those of a rectangle, and whose
origin is not too small. -/
structure Narrow (b : Box Int) : Prop where
  left : -32768 ≤ b.x₀
  top : -32768 ≤ b.y₀
  width : b.x₀ ≤ b.x₁ ∧ b.x₁ ≤ b.x₀ + 65535
  height : b.y₀ ≤ b.y₁ ∧ b.y₁ ≤ b.y₀ + 65535

theorem RegionRect.narrow (r : RegionRect) : Narrow r.toBox :=
  ⟨r.left_bounds.1, r.top_bounds.1, r.right_bounds, r.bottom_bounds⟩

theorem RegionRect.not_isEmpty_iff {r : RegionRect} :
    r.isEmpty = false ↔ ¬ (r.width = 0 ∨ r.height = 0) := by
  rw [isEmpty, Bool.or_eq_false_iff, beq_eq_false_iff_ne, beq_eq_false_iff_ne, not_or]

theorem RegionRect.originFits (r : RegionRect) : OriginFits r.toBox :=
  ⟨r.left_bounds.2, r.top_bounds.2⟩

theorem pieceOf_eq_some {b : Box Int} {r : RegionRect} : pieceOf b = some r ↔ r.toBox = b := by
  have hx : b.x₀ + (b.x₁ - b.x₀) = b.x₁ := by omega
  have hy : b.y₀ + (b.y₁ - b.y₀) = b.y₁ := by omega
  rw [pieceOf, mkSubRect_eq_some, hx, hy]

theorem pieceOf_toBox (b : Box Int) (h : Narrow b) :
    (pieceOf b).toList.map RegionRect.toBox = if OriginFits b then [b] else [] := by
  split
  · next hfits =>
    obtain ⟨hl, ht, hw, hh⟩ := h
    obtain ⟨x, hx⟩ := exists_i16TryFrom ⟨hl, hfits.1⟩
    obtain ⟨y, hy⟩ := exists_i16TryFrom ⟨ht, hfits.2⟩
    obtain ⟨width, hw⟩ := exists_u16TryFrom (v := b.x₁ - b.x₀) (by omega)
    obtain ⟨height, hh⟩ := exists_u16TryFrom (v := b.y₁ - b.y₀) (by omega)
    have hpiece : pieceOf b = some ⟨x, y, width, height⟩ := by
      rw [pieceOf, mkSubRect, hx, hy, hw, hh]
      rfl
    rw [hpiece, Option.toList_some, List.map_singleton, pieceOf_eq_some.mp hpiece]
  · next hfits =>
    cases hpiece : pieceOf b with
    | none => rfl
    | some r => exact absurd (pieceOf_eq_some.mp hpiece ▸ r.originFits) hfits

/-- The pieces around a hole are the strips whose origins fit. -/
theorem subtractSubRect_toBox (outer inner : RegionRect) :
    (subtractSubRect outer inner).map RegionRect.toBox =
      (Box.cutOut inner.toBox outer.toBox).filter OriginFits := by
  have hstrip (c : Prop) [Decidable c] (b : Box Int) (h : c → Narrow b) :
      (if c then (pieceOf b).toList else []).map RegionRect.toBox =
        (if c then [b] else []).filter OriginFits := by
    split
    · next hc => rw [pieceOf_toBox b (h hc), List.filter_singleton]; simp
    · rfl
  obtain ⟨hl, ht, hw, hh⟩ := outer.narrow
  unfold subtractSubRect Box.cutOut
  simp only [max_comm inner.left, max_comm inner.top, min_comm inner.right, min_comm inner.bottom]
  by_cases hproper : (outer.toBox.inter inner.toBox).Proper
  · have hcross : ¬ (max outer.left inner.left ≥ min outer.right inner.right ∨
        max outer.top inner.top ≥ min outer.bottom inner.bottom) := by
      rw [not_or, not_le, not_le]
      exact hproper
    rw [if_neg hcross, if_pos hproper]
    simp only [RegionRect.toBox] at hl ht hw hh
    simp only [List.map_append, List.filter_append, Box.strips, Box.inter, RegionRect.toBox]
    congr 1
    · congr 1
      · congr 1
        · exact hstrip _ ⟨outer.left, outer.right, outer.top, max outer.top inner.top⟩
            fun hc => ⟨hl, ht, hw, by dsimp only; omega⟩
        · exact hstrip _ ⟨outer.left, outer.right, min outer.bottom inner.bottom, outer.bottom⟩
            fun hc => ⟨hl, by dsimp only; omega, hw, by dsimp only; omega⟩
      · exact hstrip _ ⟨outer.left, max outer.left inner.left, max outer.top inner.top,
          min outer.bottom inner.bottom⟩
          fun hc => ⟨hl, by dsimp only; omega, by dsimp only; omega, by dsimp only; omega⟩
    · exact hstrip _ ⟨min outer.right inner.right, outer.right, max outer.top inner.top,
        min outer.bottom inner.bottom⟩
        fun hc => ⟨by dsimp only; omega, by dsimp only; omega, by dsimp only; omega,
          by dsimp only; omega⟩
  · have hcross : max outer.left inner.left ≥ min outer.right inner.right ∨
        max outer.top inner.top ≥ min outer.bottom inner.bottom := by
      by_contra hcross
      rw [not_or, not_le, not_le] at hcross
      exact hproper hcross
    rw [if_pos hcross, if_neg hproper, List.map_singleton, List.filter_singleton,
      decide_eq_true outer.originFits]
    rfl

/-- A dropped piece would only have been cut into pieces that are dropped too. -/
theorem flatMap_subtractSubRect_toBox {rects : List RegionRect} {boxes : List (Box Int)}
    (hole : RegionRect) (h : rects.map RegionRect.toBox = boxes.filter OriginFits) :
    (rects.flatMap (subtractSubRect · hole)).map RegionRect.toBox =
      (boxes.flatMap (Box.cutOut hole.toBox)).filter OriginFits := by
  have hdropped (b : Box Int) (hb : ¬ OriginFits b) :
      (Box.cutOut hole.toBox b).filter OriginFits = [] := by
    refine List.filter_eq_nil_iff.mpr fun s hs hfits => hb ?_
    have horigin := Box.cutOut_origin hs
    have hfits : OriginFits s := of_decide_eq_true hfits
    exact ⟨horigin.1.trans hfits.1, horigin.2.trans hfits.2⟩
  have hboxes : (boxes.flatMap (Box.cutOut hole.toBox)).filter OriginFits =
      (boxes.filter OriginFits).flatMap fun b =>
        (Box.cutOut hole.toBox b).filter OriginFits := by
    clear h
    induction boxes with
    | nil => rfl
    | cons b boxes ih =>
      rw [List.flatMap_cons, List.filter_append, ih]
      by_cases hb : OriginFits b
      · simp only [List.filter_cons, hb, decide_true, if_true, List.flatMap_cons]
      · simp only [List.filter_cons, hb, decide_false, Bool.false_eq_true, if_false,
          hdropped b hb, List.nil_append]
  rw [hboxes, ← h, List.map_flatMap, List.flatMap_map]
  exact List.flatMap_congr fun r _ => subtractSubRect_toBox r hole

theorem foldl_subtractSubRect_toBox {rects : List RegionRect} {boxes : List (Box Int)}
    (holes : List RegionRect) (h : rects.map RegionRect.toBox = boxes.filter OriginFits) :
    (holes.foldl (fun current child => current.flatMap (subtractSubRect · child)) rects).map
        RegionRect.toBox =
      (Boxes.cutOutAll boxes (holes.map RegionRect.toBox)).filter OriginFits := by
  induction holes generalizing rects boxes with
  | nil => exact h
  | cons hole holes ih => exact ih (flatMap_subtractSubRect_toBox hole h)

/-- The common part of two rectangles always fits its fields. -/
theorem intersectSubRects_eq (a b : RegionRect) : intersectSubRects a b = intersectRect a b := by
  unfold intersectSubRects
  dsimp only
  split
  · next hcross => rw [intersectRect, if_pos hcross]
  · next hcross =>
    cases h : intersectRect a b with
    | none =>
      rw [intersectRect, ite_eq_left_iff] at h
      cases h hcross
    | some r =>
      have hr := (intersectRect_eq_some h).1
      simp only [RegionRect.toBox, Box.inter, Box.mk.injEq] at hr
      obtain ⟨hl, hr, ht, hb⟩ := hr
      have hx : i16TryFrom (max a.left b.left) = some r.x := i16TryFrom_eq_some.mpr hl
      have hy : i16TryFrom (max a.top b.top) = some r.y := i16TryFrom_eq_some.mpr ht
      have hw : u16TryFrom (min a.right b.right - max a.left b.left) = some r.width := by
        rw [u16TryFrom_eq_some, ← hr, ← hl]
        simp only [RegionRect.left, RegionRect.right]
        omega
      have hh : u16TryFrom (min a.bottom b.bottom - max a.top b.top) = some r.height := by
        rw [u16TryFrom_eq_some, ← hb, ← ht]
        simp only [RegionRect.top, RegionRect.bottom]
        omega
      rw [hx, hy, hw, hh]
      rfl

theorem filterMap_intersectSubRects_toBox (whole : RegionRect) (clips : List RegionRect) :
    (clips.filterMap (intersectSubRects whole)).map RegionRect.toBox =
      whole.toBox.common (clips.map RegionRect.toBox) := by
  rw [List.map_filterMap, Box.common, List.filterMap_map]
  refine List.filterMap_congr fun c _ => ?_
  rw [intersectSubRects_eq, Function.comp_apply]
  cases h : intersectRect whole c with
  | none =>
    rw [Option.map_none, if_neg]
    intro hproper
    obtain ⟨p, hp⟩ := hproper.exists_mem
    exact intersectRect_eq_none h p (Box.mem_inter.mp hp)
  | some r =>
    obtain ⟨hr, hproper⟩ := intersectRect_eq_some h
    rw [Option.map_some, hr, if_pos (hr ▸ hproper)]

/-! ## The source -/

namespace CopyGeometry

variable {r : CopyGeometry} {p : Point}

def srcBox (r : CopyGeometry) : Box Int :=
  ⟨r.srcX.toInt, r.srcX.toInt + r.width.toNat, r.srcY.toInt, r.srcY.toInt + r.height.toNat⟩

def dstRect (r : CopyGeometry) : RegionRect := ⟨r.dstX, r.dstY, r.width, r.height⟩

/-- The pixel that is copied to a pixel of the destination. -/
def source (r : CopyGeometry) (p : Point) : Point :=
  (p.1 - r.dstX.toInt + r.srcX.toInt, p.2 - r.dstY.toInt + r.srcY.toInt)

/-- The place of a box of the source in the destination. -/
def toDst (r : CopyGeometry) (b : Box Int) : Box Int where
  x₀ := r.dstX.toInt + (b.x₀ - r.srcX.toInt)
  x₁ := r.dstX.toInt + (b.x₁ - r.srcX.toInt)
  y₀ := r.dstY.toInt + (b.y₀ - r.srcY.toInt)
  y₁ := r.dstY.toInt + (b.y₁ - r.srcY.toInt)

theorem mem_toDst {b : Box Int} : p ∈ r.toDst b ↔ r.source p ∈ b := by
  simp only [Box.mem_iff, toDst, source]
  omega

theorem toDst_srcBox : r.toDst r.srcBox = r.dstRect.toBox := by
  simp only [toDst, srcBox, dstRect, RegionRect.toBox, RegionRect.left, RegionRect.right,
    RegionRect.top, RegionRect.bottom, Box.mk.injEq]
  omega

theorem source_mem_srcBox : r.source p ∈ r.srcBox ↔ p ∈ r.dstRect := by
  rw [← mem_toDst, toDst_srcBox]
  exact Iff.rfl

/-- Every pixel that is asked for has coordinates of the protocol. -/
structure Fits (r : CopyGeometry) : Prop where
  right : r.dstX.toInt + r.width.toNat ≤ 32768
  bottom : r.dstY.toInt + r.height.toNat ≤ 32768

end CopyGeometry

theorem u16TryFrom_getD {v : Int} (h : 0 ≤ v ∧ v ≤ 65535) :
    (((u16TryFrom v).getD 0).toNat : Int) = v := by
  obtain ⟨n, hn⟩ := exists_u16TryFrom h
  rw [hn, Option.getD_some, u16TryFrom_eq_some.mp hn]

theorem i16TryFrom_getD {v : Int} (h : -32768 ≤ v ∧ v ≤ 32767) :
    ((i16TryFrom v).getD 0).toInt = v := by
  obtain ⟨x, hx⟩ := exists_i16TryFrom h
  rw [hx, Option.getD_some, i16TryFrom_eq_some.mp hx]

/-- The bounds of a drawable of a given size. -/
def boundsBox (size : UInt16 × UInt16) : Box Int := ⟨0, size.1.toNat, 0, size.2.toNat⟩

namespace ResourceTable

variable {t : ResourceTable} {src : ResourceId} {r g : CopyGeometry} {size : UInt16 × UInt16}

/-- A part of the source whose place in the destination fits is translated
exactly. -/
theorem toDst_toBox {b : Box Int} (hb : b.Within r.srcBox) (hx : b.x₀ ≤ b.x₁) (hy : b.y₀ ≤ b.y₁)
    (hfits : OriginFits (r.toDst b)) :
    (RegionRect.mk (saturateI16 (r.dstX.toInt + (b.x₀ - r.srcX.toInt)))
      (saturateI16 (r.dstY.toInt + (b.y₀ - r.srcY.toInt)))
      ((u16TryFrom (b.x₁ - b.x₀)).getD 0) ((u16TryFrom (b.y₁ - b.y₀)).getD 0)).toBox =
      r.toDst b := by
  obtain ⟨hl, hr, ht, hb⟩ := hb
  obtain ⟨hfx, hfy⟩ := hfits
  have := r.dstX.le_toInt
  have := r.dstY.le_toInt
  have := r.width.toNat_lt
  have := r.height.toNat_lt
  simp only [CopyGeometry.srcBox] at hl hr ht hb
  simp only [CopyGeometry.toDst] at hfx hfy
  have hsx := saturateI16_toInt (v := r.dstX.toInt + (b.x₀ - r.srcX.toInt)) (by omega)
  have hsy := saturateI16_toInt (v := r.dstY.toInt + (b.y₀ - r.srcY.toInt)) (by omega)
  have hw := u16TryFrom_getD (v := b.x₁ - b.x₀) (by omega)
  have hh := u16TryFrom_getD (v := b.y₁ - b.y₀) (by omega)
  simp only [RegionRect.toBox, RegionRect.left, RegionRect.right, RegionRect.top, RegionRect.bottom,
    CopyGeometry.toDst, hsx, hsy, hw, hh, Box.mk.injEq]
  omega

/-- A part that starts inside the requested rectangle fits. -/
theorem originFits_toDst {b : Box Int} (hr : r.Fits) (hx : b.x₀ < r.srcBox.x₁)
    (hy : b.y₀ < r.srcBox.y₁) : OriginFits (r.toDst b) := by
  obtain ⟨hright, hbottom⟩ := hr
  simp only [CopyGeometry.srcBox] at hx hy
  simp only [OriginFits, CopyGeometry.toDst]
  omega

theorem proper_iff :
    (r.srcBox.inter (boundsBox size)).Proper ↔
      ¬ (min (r.srcX.toInt + r.width.toNat) (size.1.toNat : Int) ≤ max r.srcX.toInt 0 ∨
        min (r.srcY.toInt + r.height.toNat) (size.2.toNat : Int) ≤ max r.srcY.toInt 0) := by
  rw [not_or, not_le, not_le]
  exact Iff.rfl

/-- The missing rectangles are what is left of the request outside of the
bounds. -/
theorem copyAreaSourceSplit_missing (hsize : t.drawableSize src = some size) (hr : r.Fits) :
    (t.copyAreaSourceSplit src r).2.map RegionRect.toBox =
      (Box.cutOut (boundsBox size) r.srcBox).map r.toDst := by
  obtain ⟨sw, sh⟩ := size
  have hstrip (c : Prop) [Decidable c] (b : Box Int) (h : c → b.Within r.srcBox ∧
      b.x₀ < b.x₁ ∧ b.y₀ < b.y₁) :
      (if c then [RegionRect.mk (saturateI16 (r.dstX.toInt + (b.x₀ - r.srcX.toInt)))
        (saturateI16 (r.dstY.toInt + (b.y₀ - r.srcY.toInt)))
        ((u16TryFrom (b.x₁ - b.x₀)).getD 0) ((u16TryFrom (b.y₁ - b.y₀)).getD 0)] else []).map
          RegionRect.toBox = (if c then [b] else []).map r.toDst := by
    split
    · next hc =>
      obtain ⟨hb, hx, hy⟩ := h hc
      have hfits := originFits_toDst hr (hx.trans_le hb.right) (hy.trans_le hb.bottom)
      rw [List.map_singleton, List.map_singleton, toDst_toBox hb hx.le hy.le hfits]
    · rfl
  have hwithin := Box.inter_within r.srcBox (boundsBox (sw, sh))
  unfold copyAreaSourceSplit Box.cutOut
  rw [hsize]
  dsimp only
  by_cases hproper : (r.srcBox.inter (boundsBox (sw, sh))).Proper
  · rw [if_pos hproper, if_neg (proper_iff.mp hproper)]
    obtain ⟨hx, hy⟩ := hproper
    obtain ⟨hl, hright, ht, hb⟩ := hwithin
    simp only [Box.strips, List.map_append]
    congr 1
    · congr 1
      · congr 1
        · exact hstrip _ { r.srcBox with y₁ := (r.srcBox.inter (boundsBox (sw, sh))).y₀ }
            fun hc => ⟨⟨le_rfl, le_rfl, le_rfl, hy.le.trans hb⟩, hl.trans_lt (hx.trans_le hright), hc⟩
        · exact hstrip _ { r.srcBox with y₀ := (r.srcBox.inter (boundsBox (sw, sh))).y₁ }
            fun hc => ⟨⟨le_rfl, le_rfl, ht.trans hy.le, le_rfl⟩, hl.trans_lt (hx.trans_le hright), hc⟩
      · exact hstrip _ { r.srcBox.inter (boundsBox (sw, sh)) with
            x₀ := r.srcBox.x₀, x₁ := (r.srcBox.inter (boundsBox (sw, sh))).x₀ }
          fun hc => ⟨⟨le_rfl, hx.le.trans hright, ht, hb⟩, hc, hy⟩
    · exact hstrip _ { r.srcBox.inter (boundsBox (sw, sh)) with
          x₀ := (r.srcBox.inter (boundsBox (sw, sh))).x₁, x₁ := r.srcBox.x₁ }
        fun hc => ⟨⟨hl.trans hx.le, le_rfl, ht, hb⟩, hc, hy⟩
  · have houtside := not_not.mp (mt proper_iff.mpr hproper)
    rw [if_neg hproper, if_pos houtside, List.map_singleton, List.map_singleton]
    have hfits : OriginFits (r.toDst r.srcBox) := by
      rw [CopyGeometry.toDst_srcBox]
      exact r.dstRect.originFits
    have hself : r.srcBox.Within r.srcBox := ⟨le_rfl, le_rfl, le_rfl, le_rfl⟩
    have hbox := toDst_toBox hself (Int.le_add_of_nonneg_right (Int.natCast_nonneg _))
      (Int.le_add_of_nonneg_right (Int.natCast_nonneg _)) hfits
    simp only [CopyGeometry.srcBox] at hbox ⊢
    rw [hbox]

theorem copyAreaSourceSplit_none (hsize : t.drawableSize src = some size)
    (h : ¬ (r.srcBox.inter (boundsBox size)).Proper) : (t.copyAreaSourceSplit src r).1 = none := by
  unfold copyAreaSourceSplit
  rw [hsize]
  dsimp only
  rw [if_pos (not_not.mp (mt proper_iff.mpr h))]

/-- The available part is the common part of the request and the bounds. -/
theorem copyAreaSourceSplit_srcBox (hsize : t.drawableSize src = some size)
    (h : (r.srcBox.inter (boundsBox size)).Proper) :
    ∃ g, (t.copyAreaSourceSplit src r).1 = some g ∧
      g.srcBox = r.srcBox.inter (boundsBox size) ∧
      (r.Fits → g.dstRect.toBox = r.toDst (r.srcBox.inter (boundsBox size))) := by
  obtain ⟨sw, sh⟩ := size
  unfold copyAreaSourceSplit
  rw [hsize]
  dsimp only
  rw [if_neg (proper_iff.mp h)]
  refine ⟨_, rfl, ?_, fun hr => ?_⟩
  · obtain ⟨hx, hy⟩ := h
    have := r.srcX.le_toInt
    have := r.srcX.toInt_lt
    have := r.srcY.le_toInt
    have := r.srcY.toInt_lt
    have := r.width.toNat_lt
    have := r.height.toNat_lt
    simp only [CopyGeometry.srcBox, Box.inter, boundsBox] at hx hy ⊢
    have hsx := i16TryFrom_getD (v := max r.srcX.toInt 0) (by omega)
    have hsy := i16TryFrom_getD (v := max r.srcY.toInt 0) (by omega)
    have hw := u16TryFrom_getD
      (v := min (r.srcX.toInt + r.width.toNat) (sw.toNat : Int) - max r.srcX.toInt 0) (by omega)
    have hh := u16TryFrom_getD
      (v := min (r.srcY.toInt + r.height.toNat) (sh.toNat : Int) - max r.srcY.toInt 0) (by omega)
    rw [hsx, hsy, hw, hh]
    simp only [Box.mk.injEq, true_and]
    omega
  · have hwithin := Box.inter_within r.srcBox (boundsBox (sw, sh))
    have hbox := toDst_toBox hwithin h.1.le h.2.le
      (originFits_toDst hr (h.1.trans_le hwithin.right) (h.2.trans_le hwithin.bottom))
    simp only [CopyGeometry.srcBox, Box.inter, boundsBox] at hbox ⊢
    exact hbox

/-- The available part is not empty and starts inside the source. -/
theorem copyAreaSourceSplit_some (hsize : t.drawableSize src = some size)
    (h : (t.copyAreaSourceSplit src r).1 = some g) :
    ¬ (g.width = 0 ∨ g.height = 0) ∧ 0 ≤ g.srcX.toInt ∧ 0 ≤ g.srcY.toInt ∧
      (r.Fits → g.dstRect.toBox = r.toDst (r.srcBox.inter (boundsBox size))) := by
  by_cases hproper : (r.srcBox.inter (boundsBox size)).Proper
  · obtain ⟨g', hg', hsrc, hdst⟩ := copyAreaSourceSplit_srcBox hsize hproper
    obtain rfl := Option.some.inj (h.symm.trans hg')
    rw [← hsrc] at hproper
    simp only [CopyGeometry.srcBox, Box.inter, boundsBox, Box.mk.injEq] at hsrc
    simp only [CopyGeometry.srcBox, Box.Proper] at hproper
    refine ⟨?_, by omega, by omega, hdst⟩
    rintro (hw | hh)
    · rw [hw] at hproper
      exact absurd hproper.1 (by simp)
    · rw [hh] at hproper
      exact absurd hproper.2 (by simp)
  · rw [copyAreaSourceSplit_none hsize hproper] at h
    cases h

end ResourceTable

/-! ## Clips and children -/

/-- A pixel lies in some clip rectangle, if there are any. -/
def Gc.InClip (g : Gc) (p : Point) : Prop :=
  ∀ rects, g.clipRectangles = some rects →
    ∃ r ∈ parseRectangles rects.rectangles, (p.1 - g.clipXOrigin.toInt, p.2 - g.clipYOrigin.toInt) ∈ r

/-- The clip rectangles keep coordinates of the protocol at the clip origin. -/
def Gc.ClipFits (g : Gc) : Prop :=
  ∀ rects, g.clipRectangles = some rects → ∀ r ∈ parseRectangles rects.rectangles,
    (-32768 ≤ r.x.toInt + g.clipXOrigin.toInt ∧ r.x.toInt + g.clipXOrigin.toInt ≤ 32767) ∧
    -32768 ≤ r.y.toInt + g.clipYOrigin.toInt ∧ r.y.toInt + g.clipYOrigin.toInt ≤ 32767

def PairwiseDisjoint (rects : List RegionRect) : Prop :=
  rects.Pairwise fun r s => ∀ p, p ∈ r → p ∉ s

def Gc.ClipDisjoint (g : Gc) : Prop :=
  ∀ rects, g.clipRectangles = some rects → PairwiseDisjoint (parseRectangles rects.rectangles)

theorem covers_iff_toBox {rects : List RegionRect} {p : Point} :
    Covers rects p ↔ ∃ b ∈ rects.map RegionRect.toBox, p ∈ b := by
  simp only [List.mem_map, exists_exists_and_eq_and]
  exact Iff.rfl

theorem pairwiseDisjoint_iff_toBox {rects : List RegionRect} :
    PairwiseDisjoint rects ↔
      (rects.map RegionRect.toBox).Pairwise fun b c => ∀ p, p ∈ b → p ∉ c := by
  rw [List.pairwise_map]
  exact Iff.rfl

/-- A clip rectangle at the clip origin. -/
theorem mem_clipRect {r : RegionRect} {x y : Int16} {p : Point}
    (hx : -32768 ≤ r.x.toInt + x.toInt ∧ r.x.toInt + x.toInt ≤ 32767)
    (hy : -32768 ≤ r.y.toInt + y.toInt ∧ r.y.toInt + y.toInt ≤ 32767) :
    p ∈ ({ r with x := saturatingAddI16 r.x x, y := saturatingAddI16 r.y y } : RegionRect) ↔
      (p.1 - x.toInt, p.2 - y.toInt) ∈ r := by
  have hx' := clampI16_toInt (r.x.toInt + x.toInt)
  have hy' := clampI16_toInt (r.y.toInt + y.toInt)
  simp only [RegionRect.mem_iff, RegionRect.left, RegionRect.right, RegionRect.top,
    RegionRect.bottom, saturatingAddI16]
  omega

theorem pairwiseDisjoint_gcClipRects {g : Gc} {rects : ClipRectangles}
    (hrects : g.clipRectangles = some rects) (hfits : g.ClipFits) (hdisjoint : g.ClipDisjoint) :
    PairwiseDisjoint (gcClipRects (g.clipXOrigin, g.clipYOrigin) rects) := by
  rw [PairwiseDisjoint, gcClipRects, List.pairwise_map]
  refine (hdisjoint rects hrects).imp_of_mem fun {r t} hr ht hapart p hpr hpt => ?_
  obtain ⟨hrx, hry⟩ := hfits rects hrects r hr
  obtain ⟨htx, hty⟩ := hfits rects hrects t ht
  exact hapart _ ((mem_clipRect hrx hry).mp hpr) ((mem_clipRect htx hty).mp hpt)

theorem covers_gcClipRects {g : Gc} {rects : ClipRectangles} {p : Point}
    (hrects : g.clipRectangles = some rects) (hfits : g.ClipFits) :
    Covers (gcClipRects (g.clipXOrigin, g.clipYOrigin) rects) p ↔ g.InClip p := by
  simp only [Covers, gcClipRects, List.mem_map, exists_exists_and_eq_and, Gc.InClip, hrects,
    Option.some.injEq, forall_eq']
  refine exists_congr fun r => and_congr_right fun hr => ?_
  obtain ⟨hx, hy⟩ := hfits rects hrects r hr
  exact mem_clipRect hx hy

/-- The parts of a rectangle that the clip of a draw state leaves. -/
def clipBoxes (clip : ClipState) (whole : RegionRect) : List (Box Int) :=
  match clip with
  | .Rectangles origin rects =>
    whole.toBox.common ((gcClipRects origin rects).map RegionRect.toBox)
  | _ => [whole.toBox]

theorem originFits_of_mem_clipBoxes {clip : ClipState} {whole : RegionRect} {b : Box Int}
    (h : b ∈ clipBoxes clip whole) : OriginFits b := by
  unfold clipBoxes at h
  split at h
  · simp only [Box.common, List.mem_filterMap, List.mem_map, Option.ite_none_right_eq_some,
      Option.some.injEq] at h
    obtain ⟨_, ⟨c, -, rfl⟩, -, rfl⟩ := h
    exact ⟨max_le whole.originFits.1 c.originFits.1, max_le whole.originFits.2 c.originFits.2⟩
  · rw [List.mem_singleton.mp h]
    exact whole.originFits

namespace ServerState

variable {s : ServerState} {dst : ResourceId} {st : DrawState} {g : Gc} {r : CopyGeometry}
  {p : Point}

/-- A pixel of the window lies under a child that takes it from the window. -/
def UnderChild (s : ServerState) (dst : ResourceId) (p : Point) : Prop :=
  ∃ w, s.resources.windows[dst]? = some w ∧ ∃ cid ∈ w.children, ∃ c,
    s.resources.windows[cid]? = some c ∧ c.windowClass = .InputOutput ∧ c.mapState = .Viewable ∧
    s.effectiveRedirectModeForWindow cid ≠ some .Manual ∧
    p ∈ (⟨c.x, c.y, c.width, c.height⟩ : RegionRect)

/-- The children that are cut out of a copy. -/
def holes (s : ServerState) (dst : ResourceId) (mode : SubwindowMode) : List RegionRect :=
  s.resources.windows[dst]?.elim [] fun w =>
    if mode = .ClipByChildren then s.childClipRects w else []

theorem covers_childClipRects {w : Window} :
    Covers (s.childClipRects w) p ↔ ∃ cid ∈ w.children, ∃ c,
      s.resources.windows[cid]? = some c ∧ c.windowClass = .InputOutput ∧
      c.mapState = .Viewable ∧ s.effectiveRedirectModeForWindow cid ≠ some .Manual ∧
      p ∈ (⟨c.x, c.y, c.width, c.height⟩ : RegionRect) := by
  simp only [Covers, childClipRects, List.mem_filterMap, Option.bind_eq_bind,
    Option.bind_eq_some_iff, Option.ite_none_right_eq_some, Option.some.injEq]
  constructor
  · rintro ⟨_, ⟨cid, hcid, c, hc, ⟨hclass, hmap, -, -, hmode⟩, rfl⟩, hp⟩
    exact ⟨cid, hcid, c, hc, hclass, hmap, hmode, hp⟩
  · rintro ⟨cid, hcid, c, hc, hclass, hmap, hmode, hp⟩
    -- A child with a pixel is not empty.
    have hsize := not_or.mp (RegionRect.not_isEmpty_iff.mp (isEmpty_of_mem hp))
    exact ⟨_, ⟨cid, hcid, c, hc, ⟨hclass, hmap, UInt16.pos_iff_ne_zero.mpr hsize.1,
      UInt16.pos_iff_ne_zero.mpr hsize.2, hmode⟩, rfl⟩, hp⟩

theorem covers_holes {mode : SubwindowMode} :
    Covers (s.holes dst mode) p ↔ mode = .ClipByChildren ∧ s.UnderChild dst p := by
  unfold holes UnderChild
  cases s.resources.windows[dst]? with
  | none => simp [not_covers_nil]
  | some w =>
    simp only [Option.elim_some, Option.some.injEq, exists_eq_left']
    by_cases hmode : mode = .ClipByChildren
    · rw [if_pos hmode, and_iff_right hmode, covers_childClipRects]
    · rw [if_neg hmode]
      exact iff_of_false not_covers_nil fun h => hmode h.1

/-- The pieces are the cut of the destination rectangle, less the boxes whose
origins do not fit. -/
theorem copyAreaEffectiveDstRects_toBox :
    (s.copyAreaEffectiveDstRects dst st r).map RegionRect.toBox =
      (Boxes.cutOutAll (clipBoxes st.clip r.dstRect)
        ((s.holes dst st.subwindowMode).map RegionRect.toBox)).filter OriginFits := by
  have hclipped : (match st.clip with
      | .Rectangles origin rects =>
        (gcClipRects origin rects).filterMap (intersectSubRects r.dstRect)
      | _ => [r.dstRect]).map RegionRect.toBox =
      (clipBoxes st.clip r.dstRect).filter OriginFits := by
    rw [List.filter_eq_self.mpr fun b hb => decide_eq_true (originFits_of_mem_clipBoxes hb)]
    unfold clipBoxes
    split
    · exact filterMap_intersectSubRects_toBox _ _
    · rfl
  unfold copyAreaEffectiveDstRects holes
  dsimp only
  cases s.resources.windows[dst]? with
  | none => exact hclipped
  | some w =>
    dsimp only [Option.elim_some]
    split
    · exact foldl_subtractSubRect_toBox _ hclipped
    · exact hclipped

/-- The clip of a graphics context, on the points of a rectangle. -/
theorem exists_mem_clipBoxes {gc : ResourceId} {whole : RegionRect}
    (hg : s.resources.gcs[gc]? = some g) (hst : s.resources.resolveDrawState gc = some st)
    (hfits : g.ClipFits) :
    (∃ b ∈ clipBoxes st.clip whole, p ∈ b) ↔ p ∈ whole ∧ g.InClip p := by
  rw [ResourceTable.resolveDrawState, hg, Option.map_some, Option.some.injEq] at hst
  rw [← hst]
  cases hrects : g.clipRectangles with
  | some rects =>
    simp only [clipBoxes, Box.exists_mem_common]
    rw [← covers_iff_toBox, covers_gcClipRects hrects hfits]
    exact Iff.rfl
  | none =>
    have hinclip : g.InClip p := fun rects h => nomatch hrects.symm.trans h
    have hnone {clip : ClipState} (h : ∀ origin rects, clip ≠ .Rectangles origin rects) :
        (∃ b ∈ clipBoxes clip whole, p ∈ b) ↔ p ∈ whole ∧ g.InClip p := by
      cases clip with
      | Rectangles origin rects => exact absurd rfl (h origin rects)
      | _ =>
        simp only [clipBoxes, List.mem_singleton, exists_eq_left, hinclip, and_true]
        exact Iff.rfl
    refine hnone fun origin rects => ?_
    cases g.clipPixmapHostXid with
    | none => exact nofun
    | some pixmap => exact nofun

theorem clipBoxes_disjoint {gc : ResourceId} {whole : RegionRect}
    (hg : s.resources.gcs[gc]? = some g) (hst : s.resources.resolveDrawState gc = some st)
    (hfits : g.ClipFits) (hdisjoint : g.ClipDisjoint) :
    (clipBoxes st.clip whole).Pairwise fun b c => ∀ p, p ∈ b → p ∉ c := by
  rw [ResourceTable.resolveDrawState, hg, Option.map_some, Option.some.injEq] at hst
  rw [← hst]
  cases hrects : g.clipRectangles with
  | some rects =>
    exact Box.common_disjoint
      (pairwiseDisjoint_iff_toBox.mp (pairwiseDisjoint_gcClipRects hrects hfits hdisjoint))
  | none =>
    cases g.clipPixmapHostXid with
    | none => exact List.pairwise_singleton _ _
    | some pixmap => exact List.pairwise_singleton _ _

end ServerState

/-! ## The copy -/

/-- The destination rectangles of the copies that are sent to the backend. -/
def CopyAreaOutcome.copied (out : CopyAreaOutcome) : List RegionRect :=
  out.calls.filterMap fun
    | .CopyArea _ _ geometry => some geometry.dstRect
    | .PaintWindowBackgroundRect _ _ => none

/-- The rectangle that an event names. -/
def CopyExposure.toBox : CopyExposure → Option (Box Int)
  | .NoExposure _ => none
  | .GraphicsExpose _ x y width height _ =>
    some ⟨x.toNat, x.toNat + width.toNat, y.toNat, y.toNat + height.toNat⟩

def ResourceTable.InBounds (t : ResourceTable) (src : ResourceId) (p : Point) : Prop :=
  ∃ size, t.drawableSize src = some size ∧ p ∈ boundsBox size

/-- What a CopyArea does with each pixel of the destination. -/
structure CopyAreaExact (s : ServerState) (client : ClientId) (request : CopyAreaRequest) (g : Gc)
    (out : CopyAreaOutcome) : Prop where
  copied : ∀ p, Covers out.copied p ↔
    p ∈ request.dstRect ∧ s.resources.InBounds request.src (request.source p) ∧ g.InClip p ∧
      ¬ (g.subwindowMode = .ClipByChildren ∧ s.UnderChild request.dst p)
  disjoint : g.ClipDisjoint → PairwiseDisjoint out.copied
  missing : ∀ p,
    Covers (s.resources.copyAreaSourceSplit request.src request.toCopyGeometry).2 p ↔
      p ∈ request.dstRect ∧ ¬ s.resources.InBounds request.src (request.source p)
  reported : g.graphicsExposures = true → s.clients.contains client = true →
    request.width ≠ 0 → request.height ≠ 0 →
    let missing := (s.resources.copyAreaSourceSplit request.src request.toCopyGeometry).2
    (∀ r ∈ missing, 0 ≤ r.left ∧ 0 ≤ r.top) →
      out.exposures.filterMap CopyExposure.toBox = missing.map RegionRect.toBox

section

variable {s : ServerState} {client : ClientId} {request : CopyAreaRequest} {g : Gc}
  {out : CopyAreaOutcome} {src dst : HostDrawableTarget} {size : UInt16 × UInt16} {p : Point}

theorem ResourceTable.drawableSize_of_hostDrawableTarget {t : ResourceTable} {id : ResourceId}
    (h : t.hostDrawableTarget id = some src) : ∃ size, t.drawableSize id = some size := by
  unfold hostDrawableTarget at h
  unfold drawableSize
  cases hw : t.windows[id]? with
  | some w => exact ⟨_, rfl⟩
  | none =>
    rw [hw] at h
    obtain ⟨pixmap, hp, -⟩ := Option.bind_eq_some_iff.mp h
    rw [hp]
    exact ⟨_, rfl⟩

/-- Each piece is one copy, and nothing else is. -/
theorem ServerState.copied_copyBetween {srcXid dstXid : Handle} {st : DrawState}
    (hst : s.resources.resolveDrawState request.gc = some st) :
    (s.copyBetween client request srcXid dstXid).copied =
      (s.resources.copyAreaSourceSplit request.src request.toCopyGeometry).1.elim [] fun r =>
        if r.width = 0 ∨ r.height = 0 then []
        else s.copyAreaEffectiveDstRects request.dst st r := by
  have hpainted (rects : List RegionRect) :
      (rects.map (BackendCall.PaintWindowBackgroundRect dstXid)).filterMap (fun
        | .CopyArea _ _ geometry => some geometry.dstRect
        | .PaintWindowBackgroundRect _ _ => none) = [] := by
    rw [List.filterMap_map]
    exact List.filterMap_eq_nil_iff.mpr fun _ _ => rfl
  have hcopies (r : CopyGeometry) (rects : List RegionRect) :
      (rects.map (copySubRect srcXid dstXid r)).filterMap (fun
        | .CopyArea _ _ geometry => some geometry.dstRect
        | .PaintWindowBackgroundRect _ _ => none) = rects := by
    rw [List.filterMap_map]
    exact List.filterMap_some
  unfold CopyAreaOutcome.copied copyBetween
  dsimp only
  rw [hst, Option.getD_some, List.filterMap_append, hpainted, List.append_nil]
  cases (s.resources.copyAreaSourceSplit request.src request.toCopyGeometry).1 with
  | none => rfl
  | some r => exact hcopies r _

theorem source_mem_boundsBox (hsize : s.resources.drawableSize request.src = some size) :
    s.resources.InBounds request.src (request.source p) ↔ request.source p ∈ boundsBox size := by
  simp only [ResourceTable.InBounds, hsize, Option.some.injEq, exists_eq_left']

theorem covers_missing (hsize : s.resources.drawableSize request.src = some size)
    (hfits : request.toCopyGeometry.Fits) :
    Covers (s.resources.copyAreaSourceSplit request.src request.toCopyGeometry).2 p ↔
      p ∈ request.dstRect ∧ ¬ s.resources.InBounds request.src (request.source p) := by
  rw [covers_iff_toBox, ResourceTable.copyAreaSourceSplit_missing hsize hfits,
    source_mem_boundsBox hsize, ← CopyGeometry.source_mem_srcBox, ← Box.exists_mem_cutOut]
  simp only [List.mem_map, exists_exists_and_eq_and, CopyGeometry.mem_toDst]

/-- The available part of the request is what its source covers. -/
theorem mem_available {r : CopyGeometry} (hsize : s.resources.drawableSize request.src = some size)
    (hr : r.dstRect.toBox = request.toDst (request.srcBox.inter (boundsBox size))) :
    p ∈ r.dstRect ↔
      p ∈ request.dstRect ∧ s.resources.InBounds request.src (request.source p) := by
  rw [← RegionRect.mem_toBox, hr, CopyGeometry.mem_toDst, Box.mem_inter,
    CopyGeometry.source_mem_srcBox, source_mem_boundsBox hsize]

/-- No pixel of the request is lost with a piece whose origin does not fit. -/
theorem originFits_of_mem {b : Box Int} (hfits : request.toCopyGeometry.Fits) (hb : p ∈ b)
    (hp : p ∈ request.dstRect) : OriginFits b := by
  obtain ⟨⟨-, hx⟩, -, hy⟩ := hp
  obtain ⟨⟨hbx, -⟩, hby, -⟩ := hb
  obtain ⟨hright, hbottom⟩ := hfits
  simp only [CopyGeometry.dstRect, RegionRect.toBox, RegionRect.right, RegionRect.bottom] at hx hy
  exact ⟨by omega, by omega⟩

theorem ServerState.covers_effective {r : CopyGeometry} {st : DrawState}
    (hg : s.resources.gcs[request.gc]? = some g)
    (hst : s.resources.resolveDrawState request.gc = some st)
    (hfits : request.toCopyGeometry.Fits) (hclip : g.ClipFits)
    (hwithin : p ∈ r.dstRect → p ∈ request.dstRect) :
    Covers (s.copyAreaEffectiveDstRects request.dst st r) p ↔
      p ∈ r.dstRect ∧ g.InClip p ∧
        ¬ (g.subwindowMode = .ClipByChildren ∧ s.UnderChild request.dst p) := by
  have hmode : st.subwindowMode = g.subwindowMode := by
    rw [ResourceTable.resolveDrawState, hg, Option.map_some, Option.some.injEq] at hst
    rw [← hst]
  have hholes : (∀ hole ∈ (s.holes request.dst st.subwindowMode).map RegionRect.toBox, p ∉ hole) ↔
      ¬ (g.subwindowMode = .ClipByChildren ∧ s.UnderChild request.dst p) := by
    rw [← hmode, ← covers_holes, covers_iff_toBox]
    simp only [not_exists, not_and]
  have hcut : (∃ b ∈ Boxes.cutOutAll (clipBoxes st.clip r.dstRect)
      ((s.holes request.dst st.subwindowMode).map RegionRect.toBox), p ∈ b) ↔
      p ∈ r.dstRect ∧ g.InClip p ∧
        ¬ (g.subwindowMode = .ClipByChildren ∧ s.UnderChild request.dst p) := by
    rw [Boxes.exists_mem_cutOutAll, exists_mem_clipBoxes hg hst hclip, hholes, and_assoc]
  rw [covers_iff_toBox, copyAreaEffectiveDstRects_toBox, ← hcut]
  constructor
  · rintro ⟨b, hb, hp⟩
    exact ⟨b, (List.mem_filter.mp hb).1, hp⟩
  · rintro ⟨b, hb, hp⟩
    have hrect := hwithin (hcut.mp ⟨b, hb, hp⟩).1
    exact ⟨b, List.mem_filter.mpr ⟨hb, decide_eq_true (originFits_of_mem hfits hp hrect)⟩, hp⟩

/-- The events name the missing rectangles one by one. -/
theorem ServerState.emitCopyExposures_toBox {dst : ResourceId} {missing : List RegionRect}
    (hclient : s.clients.contains client = true)
    (horigin : ∀ r ∈ missing, 0 ≤ r.left ∧ 0 ≤ r.top) :
    (s.emitCopyExposures client dst missing).filterMap CopyExposure.toBox =
      missing.map RegionRect.toBox := by
  have hrect (r : RegionRect) (hr : r ∈ missing) (count : UInt16) :
      (CopyExposure.GraphicsExpose dst ((u16TryFrom r.x.toInt).getD 0)
        ((u16TryFrom r.y.toInt).getD 0) r.width r.height count).toBox = some r.toBox := by
    have := r.left_bounds
    have := r.top_bounds
    obtain ⟨hx, hy⟩ := horigin r hr
    have hx' := u16TryFrom_getD (v := r.left) (by omega)
    have hy' := u16TryFrom_getD (v := r.top) (by omega)
    simp only [RegionRect.left, RegionRect.top] at hx' hy'
    simp only [CopyExposure.toBox, hx', hy']
    rfl
  have hzip : missing.zipIdx.filterMap (fun p => some p.1.toBox) =
      missing.map RegionRect.toBox := by
    rw [← congrArg (List.map RegionRect.toBox) (List.zipIdx_map_fst 0 missing), List.map_map,
      ← List.filterMap_eq_map]
    rfl
  unfold emitCopyExposures
  rw [hclient]
  cases hempty : missing.isEmpty with
  | true =>
    rw [List.isEmpty_iff.mp hempty]
    rfl
  | false =>
    simp only [Bool.not_true, Bool.false_eq_true, if_false, List.filterMap_map]
    rw [← hzip]
    refine List.filterMap_congr fun e he => ?_
    exact hrect e.1 (List.fst_mem_of_mem_zipIdx he) _

theorem ResourceTable.exists_gc_of_validate {t : ResourceTable} {drawable gc : ResourceId}
    (h : t.validateDrawableAndGc drawable gc = .ok ()) : ∃ g, t.gcs[gc]? = some g := by
  cases hg : t.gcs[gc]? with
  | some g => exact ⟨g, rfl⟩
  | none =>
    unfold validateDrawableAndGc at h
    rw [hg] at h
    dsimp only at h
    split at h <;> cases h

/-- Nothing is drawn for an empty request, nor without host drawables; else the
copy goes between these. -/
theorem ServerState.handleCopyArea_cases (h : s.handleCopyArea client request = .ok out) :
    (out = ⟨s, [], [], []⟩ ∧ (request.width = 0 ∨ request.height = 0 ∨
      s.resources.hostDrawableTarget request.src = none ∨
      s.resources.hostDrawableTarget request.dst = none)) ∨
    ∃ src dst st, s.resources.hostDrawableTarget request.src = some src ∧
      s.resources.hostDrawableTarget request.dst = some dst ∧
      s.resources.resolveDrawState request.gc = some st ∧
      out = s.copyBetween client request src.hostXid dst.hostXid := by
  unfold handleCopyArea at h
  by_cases hempty : request.width = 0 ∨ request.height = 0
  · rw [if_pos hempty, Except.ok.injEq] at h
    exact .inl ⟨h.symm, hempty.elim .inl fun hh => .inr (.inl hh)⟩
  · rw [if_neg hempty] at h
    cases hvsrc : s.resources.validateDrawableAndGc request.src request.gc with
    | error error =>
      rw [hvsrc] at h
      cases h
    | ok =>
      cases hvdst : s.resources.validateDrawableAndGc request.dst request.gc with
      | error error =>
        rw [hvsrc, hvdst] at h
        cases h
      | ok =>
        rw [hvsrc, hvdst] at h
        dsimp only at h
        obtain ⟨g, hg⟩ := ResourceTable.exists_gc_of_validate hvdst
        have hst : ∃ st, s.resources.resolveDrawState request.gc = some st := by
          rw [ResourceTable.resolveDrawState, hg]
          exact ⟨_, rfl⟩
        obtain ⟨st, hst⟩ := hst
        cases hsrc : s.resources.hostDrawableTarget request.src with
        | none =>
          rw [hsrc, Except.ok.injEq] at h
          exact .inl ⟨h.symm, .inr (.inr (.inl rfl))⟩
        | some src =>
          cases hdst : s.resources.hostDrawableTarget request.dst with
          | none =>
            rw [hsrc, hdst, Except.ok.injEq] at h
            exact .inl ⟨h.symm, .inr (.inr (.inr rfl))⟩
          | some dst =>
            rw [hsrc, hdst] at h
            dsimp only at h
            by_cases hdepth : src.depth ≠ dst.depth
            · rw [if_pos hdepth] at h
              cases h
            · rw [if_neg hdepth, Except.ok.injEq] at h
              exact .inr ⟨src, dst, st, rfl, rfl, hst, h.symm⟩

/-- CopyArea is exact: the copies cover just the pixels of the request that have
a source, lie in the clip and are not under a child, and the missing rectangles
just those that have no source. -/
theorem copyArea_exact (h : s.handleCopyArea client request = .ok out)
    (hg : s.resources.gcs[request.gc]? = some g)
    (hsrc : s.resources.hostDrawableTarget request.src = some src)
    (hdst : s.resources.hostDrawableTarget request.dst = some dst)
    (hfits : request.toCopyGeometry.Fits) (hclip : g.ClipFits) :
    CopyAreaExact s client request g out := by
  obtain ⟨size, hsize⟩ := ResourceTable.drawableSize_of_hostDrawableTarget hsrc
  rcases ServerState.handleCopyArea_cases h with
    ⟨rfl, hnothing⟩ | ⟨src', dst', st, hsrc', hdst', hst, rfl⟩
  · have hempty : request.width = 0 ∨ request.height = 0 := by
      rcases hnothing with hw | hh | hnone | hnone
      · exact .inl hw
      · exact .inr hh
      · exact nomatch hnone.symm.trans hsrc
      · exact nomatch hnone.symm.trans hdst
    have hnone (p : Point) : p ∉ request.dstRect := by
      intro hp
      have hfull := isEmpty_of_mem hp
      rw [RegionRect.isEmpty, Bool.or_eq_false_iff, beq_eq_false_iff_ne, beq_eq_false_iff_ne]
        at hfull
      exact hempty.elim hfull.1 hfull.2
    exact
      { copied := fun p => iff_of_false not_covers_nil fun hp => hnone p hp.1
        disjoint := fun _ => List.Pairwise.nil
        missing := fun p => covers_missing hsize hfits
        reported := fun _ _ hw hh => absurd hempty (not_or.mpr ⟨hw, hh⟩) }
  · refine ⟨fun p => ?_, fun hdisjoint => ?_, fun p => covers_missing hsize hfits, ?_⟩
    · rw [ServerState.copied_copyBetween hst]
      by_cases hproper : (request.srcBox.inter (boundsBox size)).Proper
      · obtain ⟨r, hr, -, -⟩ := ResourceTable.copyAreaSourceSplit_srcBox hsize hproper
        obtain ⟨hfull, -, -, hdstbox⟩ := ResourceTable.copyAreaSourceSplit_some hsize hr
        have hmem := mem_available (p := p) hsize (hdstbox hfits)
        rw [hr, Option.elim_some, if_neg hfull,
          ServerState.covers_effective hg hst hfits hclip fun hp => (hmem.mp hp).1, hmem, and_assoc]
      · rw [ResourceTable.copyAreaSourceSplit_none hsize hproper, Option.elim_none]
        refine iff_of_false not_covers_nil fun hmem => hproper ?_
        obtain ⟨hp, hin, -⟩ := hmem
        rw [source_mem_boundsBox hsize] at hin
        exact Box.Proper.of_mem
          (Box.mem_inter.mpr ⟨CopyGeometry.source_mem_srcBox.mpr hp, hin⟩)
    · rw [ServerState.copied_copyBetween hst]
      cases (s.resources.copyAreaSourceSplit request.src request.toCopyGeometry).1 with
      | none => exact List.Pairwise.nil
      | some r =>
        rw [Option.elim_some]
        split
        · exact List.Pairwise.nil
        · rw [pairwiseDisjoint_iff_toBox, ServerState.copyAreaEffectiveDstRects_toBox]
          exact (Boxes.cutOutAll_disjoint
            (ServerState.clipBoxes_disjoint hg hst hclip hdisjoint)).filter _
    · intro hexposures hclient _ _ missing horigin
      have hany : s.resources.gcs[request.gc]?.any (·.graphicsExposures) = true := by
        rw [hg, Option.any_some, hexposures]
      unfold ServerState.copyBetween
      dsimp only
      rw [if_pos hany]
      exact ServerState.emitCopyExposures_toBox hclient horigin

/-- Client 1 has a pixmap of 8 by 8 and a window of that size with a child of 4
by 4 in its middle, which it redirects manually. The second graphics context
has a clip rectangle twice. -/
def copyState : ServerState :=
  let s := (ServerState.new.connectClient 1).getD .new
  let clip : ClipRectangles := ⟨0, 0, 0, [1, 0, 1, 0, 2, 0, 2, 0, 1, 0, 1, 0, 2, 0, 2, 0]⟩
  { s with
    compositeRedirects := [((0x100003, false), ⟨.Manual, 1⟩)]
    resources := { s.resources with
      pixmaps := s.resources.pixmaps.insert 0x100001 ⟨0x100001, ROOT_WINDOW, 8, 8, 24, 1, some 1⟩
      windows := (s.resources.windows.insert 0x100002
        { Window.placeholder 0x100002 with
          children := [0x100003]
          width := 8
          height := 8
          mapState := .Viewable
          owner := 1
          hostXid := some 2 }).insert 0x100003
        { Window.placeholder 0x100003 with
          parent := 0x100002
          x := 2
          y := 2
          width := 4
          height := 4
          mapState := .Viewable
          owner := 1
          hostXid := some 3 }
      gcs := (s.resources.gcs.insert 0x100004 (.withDefaults 0x100004 0x100001 1)).insert 0x100005
        { Gc.withDefaults 0x100005 0x100001 1 with clipRectangles := some clip } } }

theorem copyArea_exact_pixmap :
    ∃ out, copyState.handleCopyArea 1 ⟨⟨-2, 0, 0, 0, 4, 4⟩, 0x100001, 0x100001, 0x100004⟩ =
        .ok out ∧
      CopyAreaExact copyState 1 ⟨⟨-2, 0, 0, 0, 4, 4⟩, 0x100001, 0x100001, 0x100004⟩
        (.withDefaults 0x100004 0x100001 1) out := by
  refine ⟨_, rfl, ?_⟩
  exact copyArea_exact rfl rfl rfl rfl ⟨by decide, by decide⟩ fun rects h => nomatch h

/-- A manually redirected child is copied over, and pixels that lie in two clip
rectangles are copied twice. -/
theorem copyArea_covers_child :
    (∃ out, copyState.handleCopyArea 1 ⟨⟨0, 0, 0, 0, 8, 8⟩, 0x100001, 0x100002, 0x100004⟩ =
        .ok out ∧
      (copyState.resources.gcs[(0x100004 : ResourceId)]?.any
        (·.subwindowMode = .ClipByChildren)) = true ∧
      (copyState.resources.windows[(0x100003 : ResourceId)]?.any fun c =>
        c.parent = 0x100002 && c.windowClass = .InputOutput && c.mapState = .Viewable &&
          decide ((3, 3) ∈ (⟨c.x, c.y, c.width, c.height⟩ : RegionRect))) = true ∧
      Covers out.copied (3, 3)) ∧
    ∃ out, copyState.handleCopyArea 1 ⟨⟨0, 0, 0, 0, 8, 8⟩, 0x100001, 0x100001, 0x100005⟩ =
        .ok out ∧ ¬ PairwiseDisjoint out.copied := by
  refine ⟨⟨_, rfl, rfl, rfl, by decide⟩, _, rfl, fun hdisjoint => ?_⟩
  have hcopied := (List.pairwise_cons.mp hdisjoint).1 _ (.head _) (2, 2)
  exact hcopied (by decide) (by decide)

end

end X12

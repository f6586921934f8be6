import X12.Core.Raster
import X12.Lib.EvenOdd
import X12.Verify.Bresenham
import Mathlib.Data.List.Zip
import Mathlib.Data.Rat.Floor
import Mathlib.Tactic.FieldSimp

/-! # Polygons are filled by the even-odd rule

A row of a polygon is the spans between the crossings of its edges. A crossing is rounded to
the column on the side of the first vertex of its edge, so the direction of the edge shows in
the columns that it crosses in their inside. -/

namespace X12

/-! ## Crossings -/

/-- The edge crosses the row. Its upper end does not count. -/
def Crosses (y : Int) (e : Point × Point) : Prop :=
  min e.1.2 e.2.2 ≤ y ∧ y < max e.1.2 e.2.2

/-- Where the edge crosses the row. -/
def crossingAt (y : Int) (e : Point × Point) : ℚ :=
  e.1.1 + (y - e.1.2) * (e.2.1 - e.1.1) / (e.2.2 - e.1.2)

/-- The edge crosses the row strictly between a column and the next. -/
def CrossesInside (x y : Int) (e : Point × Point) : Prop :=
  Crosses y e ∧ x < crossingAt y e ∧ crossingAt y e < x + 1

instance (y : Int) (e : Point × Point) : Decidable (Crosses y e) :=
  inferInstanceAs (Decidable (_ ∧ _))

instance (x y : Int) (e : Point × Point) : Decidable (CrossesInside x y e) :=
  inferInstanceAs (Decidable (_ ∧ _ ∧ _))

section

variable {x y : Int} {e : Point × Point}

theorem tdiv_le_iff_of_nonneg {n d k : Int} (hd : 0 < d) (hn : 0 ≤ n) :
    n.tdiv d ≤ k ↔ n < (k + 1) * d := by
  rw [Int.tdiv_eq_ediv_of_nonneg hn, ← Int.lt_add_one_iff, Int.ediv_lt_iff_lt_mul hd]

theorem tdiv_le_iff_of_nonpos {n d k : Int} (hd : 0 < d) (hn : n ≤ 0) :
    n.tdiv d ≤ k ↔ n ≤ k * d := by
  rw [← neg_neg n, Int.neg_tdiv, Int.tdiv_eq_ediv_of_nonneg (by omega), neg_neg, neg_le,
    Int.le_ediv_iff_mul_le hd, neg_mul, neg_le_neg_iff]

/-- The way along a crossing edge, up to the row, as a part of the way to its end. -/
theorem Crosses.fraction (h : Crosses y e) : ∃ t d : Int, 0 < d ∧ 0 ≤ t ∧ t ≤ d ∧
    edgeCrossing y e = some (e.1.1 + (t * (e.2.1 - e.1.1)).tdiv d) ∧
    crossingAt y e = e.1.1 + (t * (e.2.1 - e.1.1) : Int) / (d : ℚ) := by
  obtain ⟨⟨x0, y0⟩, x1, y1⟩ := e
  obtain ⟨hlow, hhigh⟩ : min y0 y1 ≤ y ∧ y < max y0 y1 := h
  rcases lt_or_ge y0 y1 with hup | hdown
  · refine ⟨y - y0, y1 - y0, by omega, by omega, by omega, ?_, ?_⟩
    · rw [edgeCrossing, if_pos hup]
      exact if_neg (by omega)
    · rw [crossingAt]
      push_cast
      rfl
  · refine ⟨y0 - y, y0 - y1, by omega, by omega, by omega, ?_, ?_⟩
    · rw [edgeCrossing, if_neg hdown.not_gt, ← neg_sub y, ← neg_sub y1, neg_mul, Int.neg_tdiv,
        Int.tdiv_neg, neg_neg]
      exact if_neg (by omega)
    · rw [crossingAt, ← neg_div_neg_eq]
      push_cast
      ring

theorem edgeCrossing_eq_none (h : ¬ Crosses y e) : edgeCrossing y e = none := by
  obtain ⟨⟨x0, y0⟩, x1, y1⟩ := e
  have h : ¬ (min y0 y1 ≤ y ∧ y < max y0 y1) := h
  rw [edgeCrossing]
  rcases lt_or_ge y0 y1 with hup | hdown
  · rw [if_pos hup]
    exact if_pos (by omega)
  · rw [if_neg hdown.not_gt]
    exact if_pos (by omega)

/-- The crossing is rounded down if the edge leads to the right, and up if it leads to the
left. -/
theorem Crosses.edgeCrossing (h : Crosses y e) : ∃ c, edgeCrossing y e = some c ∧
    ∀ k, c ≤ k ↔ if e.1.1 ≤ e.2.1 then crossingAt y e < k + 1 else crossingAt y e ≤ k := by
  obtain ⟨t, d, hd, ht, -, hcrossing, hat⟩ := h.fraction
  refine ⟨_, hcrossing, fun k => ?_⟩
  have hd' : (0 : ℚ) < d := Int.cast_pos.mpr hd
  rw [hat, ← le_sub_iff_add_le']
  split
  · next hright =>
    rw [tdiv_le_iff_of_nonneg hd (mul_nonneg ht (by omega)), ← lt_sub_iff_add_lt',
      div_lt_iff₀ hd', ← @Int.cast_lt ℚ]
    push_cast
    rw [show (k : ℚ) - e.1.1 + 1 = k + 1 - e.1.1 by ring]
  · next hleft =>
    rw [tdiv_le_iff_of_nonpos hd (mul_nonpos_of_nonneg_of_nonpos ht (by omega)),
      ← le_sub_iff_add_le', div_le_iff₀ hd', ← @Int.cast_le ℚ]
    push_cast
    rfl

theorem Crosses.le_crossingAt {low : Int} (h : Crosses y e) (h₀ : low ≤ e.1.1)
    (h₁ : low ≤ e.2.1) : low ≤ crossingAt y e := by
  obtain ⟨t, d, hd, ht, htd, -, hat⟩ := h.fraction
  rw [hat, ← sub_le_iff_le_add', le_div_iff₀ (Int.cast_pos.mpr hd)]
  exact_mod_cast show (low - e.1.1) * d ≤ t * (e.2.1 - e.1.1) by
    have hleft := mul_nonneg (sub_nonneg.mpr htd) (sub_nonneg.mpr h₀)
    have hright := mul_nonneg ht (sub_nonneg.mpr h₁)
    linarith

theorem Crosses.crossingAt_le {high : Int} (h : Crosses y e) (h₀ : e.1.1 ≤ high)
    (h₁ : e.2.1 ≤ high) : crossingAt y e ≤ high := by
  obtain ⟨t, d, hd, ht, htd, -, hat⟩ := h.fraction
  rw [hat, ← le_sub_iff_add_le', div_le_iff₀ (Int.cast_pos.mpr hd)]
  exact_mod_cast show t * (e.2.1 - e.1.1) ≤ (high - e.1.1) * d by
    have hleft := mul_nonneg (sub_nonneg.mpr htd) (sub_nonneg.mpr h₀)
    have hright := mul_nonneg ht (sub_nonneg.mpr h₁)
    linarith

theorem crosses_swap : Crosses y e.swap ↔ Crosses y e := by
  rw [Crosses, Crosses, Prod.fst_swap, Prod.snd_swap, min_comm, max_comm]

theorem Crosses.crossingAt_swap (h : Crosses y e) : crossingAt y e.swap = crossingAt y e := by
  obtain ⟨hlow, hhigh⟩ := h
  have hne : (e.2.2 : ℚ) - e.1.2 ≠ 0 := sub_ne_zero.mpr (Int.cast_injective.ne (by omega))
  have hne' : (e.1.2 : ℚ) - e.2.2 ≠ 0 := sub_ne_zero.mpr (Int.cast_injective.ne (by omega))
  rw [crossingAt, crossingAt, Prod.fst_swap, Prod.snd_swap]
  field_simp
  ring

theorem crossesInside_swap : CrossesInside x y e.swap ↔ CrossesInside x y e := by
  rw [CrossesInside, CrossesInside, crosses_swap]
  exact and_congr_right fun h => by rw [h.crossingAt_swap]

/-! ## Crossings up to a column -/

/-- The crossing of the edge is at the column or before it. -/
def crossedBy (x y : Int) (e : Point × Point) : Bool :=
  ((edgeCrossing y e).map fun c => decide (c ≤ x)).getD false

theorem crossedBy_iff : crossedBy x y e = true ↔
    Crosses y e ∧ if e.1.1 ≤ e.2.1 then crossingAt y e < x + 1 else crossingAt y e ≤ x := by
  by_cases h : Crosses y e
  · obtain ⟨c, hcrossing, hle⟩ := h.edgeCrossing
    rw [crossedBy, hcrossing, and_iff_right h, ← hle]
    exact decide_eq_true_iff
  · rw [crossedBy, edgeCrossing_eq_none h]
    exact iff_of_false Bool.false_ne_true fun hboth => h hboth.1

/-- The direction of an edge shows in the columns that it crosses inside. -/
theorem crossedBy_swap (x y : Int) (e : Point × Point) :
    decide (CrossesInside x y e) = (crossedBy x y e != crossedBy x y e.swap) := by
  rw [Bool.eq_iff_iff, decide_eq_true_iff, bne_iff_ne, Ne, Bool.eq_iff_iff, crossedBy_iff,
    crossedBy_iff, crosses_swap]
  by_cases h : Crosses y e
  · have hlt (hle : crossingAt y e ≤ x) : crossingAt y e < x + 1 := hle.trans_lt (lt_add_one _)
    rw [CrossesInside, h.crossingAt_swap, and_iff_right h, and_iff_right h, and_iff_right h,
      ← not_le, Prod.fst_swap, Prod.snd_swap]
    rcases lt_trichotomy e.1.1 e.2.1 with hright | hstraight | hleft
    · rw [if_pos hright.le, if_neg hright.not_ge]
      tauto
    · have hlow := h.le_crossingAt le_rfl hstraight.le
      have hhigh := h.crossingAt_le le_rfl hstraight.ge
      rw [if_pos hstraight.le, if_pos hstraight.ge]
      refine iff_of_false ?_ (not_not_intro Iff.rfl)
      rw [le_antisymm hhigh hlow]
      rintro ⟨hgt, hlt⟩
      exact hgt (Int.cast_le.mpr (Int.lt_add_one_iff.mp (by exact_mod_cast hlt)))
    · rw [if_neg hleft.not_ge, if_pos hleft.le]
      tauto
  · simp [CrossesInside, h]

theorem Crosses.crossedBy (h : Crosses y e) (hle : crossingAt y e ≤ x) : crossedBy x y e := by
  refine crossedBy_iff.mpr ⟨h, ?_⟩
  split
  · exact hle.trans_lt (lt_add_one _)
  · exact hle

theorem not_crossedBy (hle : x + 1 ≤ crossingAt y e) : ¬ crossedBy x y e := by
  rw [crossedBy_iff]
  rintro ⟨-, hbefore⟩
  split at hbefore <;> linarith

/-! ## Edges -/

variable {verts : List Point}

/-- Every row is crossed by an even number of edges. -/
theorem even_countP_crosses (verts : List Point) (y : Int) :
    Even ((polygonEdges verts).countP fun e => decide (Crosses y e)) := by
  refine Eq.subst (motive := Even) (List.countP_congr fun e _ => ?_)
    (EvenOdd.even_changes (fun v : Point => decide (v.2 ≤ y)) verts)
  rw [bne_iff_ne, decide_eq_true_iff, Ne, decide_eq_decide, Crosses]
  omega

theorem countP_rowCrossings (verts : List Point) (x y : Int) :
    (rowCrossings verts y).countP (· ≤ x) = (polygonEdges verts).countP (crossedBy x y) := by
  rw [rowCrossings, (List.perm_insertionSort _ _).countP_eq, List.countP_filterMap]
  rfl

theorem length_rowCrossings (verts : List Point) (y : Int) : (rowCrossings verts y).length =
    (polygonEdges verts).countP fun e => decide (Crosses y e) := by
  rw [rowCrossings, List.length_insertionSort, List.length_filterMap_eq_countP]
  refine List.countP_congr fun e _ => ?_
  rw [decide_eq_true_iff]
  by_cases h : Crosses y e
  · obtain ⟨c, hcrossing, -⟩ := h.edgeCrossing
    rw [hcrossing]
    exact iff_of_true rfl h
  · rw [edgeCrossing_eq_none h]
    exact iff_of_false Bool.false_ne_true h

theorem sorted_rowCrossings (verts : List Point) (y : Int) :
    (rowCrossings verts y).Pairwise (· ≤ ·) :=
  List.pairwise_insertionSort _ _

theorem polygonEdges_rotate (verts : List Point) (k : Nat) :
    polygonEdges (verts.rotate k) = (polygonEdges verts).rotate k := by
  rw [polygonEdges, List.rotate_rotate, add_comm, ← List.rotate_rotate]
  exact (List.zipWith_rotate_distrib Prod.mk _ _ k (List.length_rotate _ _).symm).symm

/-- Backwards, the edges are turned around. -/
theorem polygonEdges_reverse_perm (verts : List Point) :
    (polygonEdges verts.reverse).Perm ((polygonEdges verts).map Prod.swap) := by
  cases verts with
  | nil => exact .nil
  | cons a rest =>
    have hedges (v : Point) (vs : List Point) :
        polygonEdges (v :: vs) = (v :: vs).zip (vs ++ [v]) := by
      rw [polygonEdges, List.rotate_cons_succ, List.rotate_zero]
    have hrotate : (a :: rest).reverse = (a :: rest.reverse).rotate 1 := by
      rw [List.reverse_cons, List.rotate_cons_succ, List.rotate_zero]
    have hreverse : polygonEdges (a :: rest.reverse) = ((rest ++ [a]).zip (a :: rest)).reverse := by
      rw [hedges, List.zip, List.reverse_zipWith (by simp), List.reverse_append,
        List.reverse_singleton, List.singleton_append, List.reverse_cons]
    rw [hrotate, polygonEdges_rotate, hreverse, hedges a rest, List.zip_swap]
    exact (List.rotate_perm _ 1).trans (List.reverse_perm _)

/-! ## Spans -/

/-- The rectangle of a span of columns. -/
def spanRect (y : Int) (s : Int × Int) : Rectangle16 where
  x := clampI16 s.1
  y := clampI16 y
  width := UInt16.ofNat (min (s.2 - s.1) 65535).toNat
  height := 1

theorem rowSpans_eq (y : Int) (l : List Int) :
    rowSpans y l = ((EvenOdd.spans l).filter fun s => s.2 > s.1).map (spanRect y) := by
  induction l using EvenOdd.spans.induct with
  | case1 | case2 => rfl
  | case3 a b rest ih =>
    rw [rowSpans, EvenOdd.spans, ih]
    split
    · next hlt =>
      rw [List.filter_cons, if_pos (decide_eq_true hlt)]
      rfl
    · next hle => rw [List.filter_cons, if_neg (by simpa using hle)]

/-- The rectangle of a span on the screen has the points of the span. -/
theorem mem_spanRect {s : Int × Int} {p : Point} (hy : -32768 ≤ y ∧ y ≤ 32767)
    (h₁ : -32768 ≤ s.1) (h₂ : s.2 ≤ 32767) (hlt : s.1 < s.2) :
    p ∈ spanRect y s ↔ (s.1 ≤ p.1 ∧ p.1 < s.2) ∧ p.2 = y := by
  have hx' := clampI16_toInt s.1
  have hy' := clampI16_toInt y
  have hwidth : (UInt16.ofNat (min (s.2 - s.1) 65535).toNat).toNat = (s.2 - s.1).toNat := by
    rw [UInt16.toNat_ofNat', Nat.mod_eq_of_lt (by omega)]
    omega
  rw [RegionRect.mem_iff]
  simp only [RegionRect.left, RegionRect.right, RegionRect.top, RegionRect.bottom, spanRect, hx',
    hy', hwidth, UInt16.toNat_one]
  omega

/-! ## Rows -/

theorem mem_polygonEdges (he : e ∈ polygonEdges verts) : e.1 ∈ verts ∧ e.2 ∈ verts := by
  obtain ⟨hfirst, hsecond⟩ := List.of_mem_zip (a := e.1) (b := e.2) he
  exact ⟨hfirst, List.mem_rotate.mp hsecond⟩

theorem mem_intRange {first last i : Int} : i ∈ intRange first last ↔ first ≤ i ∧ i < last := by
  rw [intRange, List.mem_map]
  constructor
  · rintro ⟨n, hn, rfl⟩
    have hn := List.mem_range.mp hn
    omega
  · rintro ⟨hfirst, hlast⟩
    exact ⟨(i - first).toNat, List.mem_range.mpr (by omega), by omega⟩

theorem mem_rowCrossings {c : Int} :
    c ∈ rowCrossings verts y ↔ ∃ e ∈ polygonEdges verts, edgeCrossing y e = some c := by
  rw [rowCrossings, List.mem_insertionSort, List.mem_filterMap]

/-- The crossings of vertices of 16 bits have 16 bits. -/
theorem rowCrossings_inI16 (hverts : ∀ v ∈ verts, InI16 v) {c : Int}
    (hc : c ∈ rowCrossings verts y) : -32768 ≤ c ∧ c ≤ 32767 := by
  obtain ⟨e, he, hcrossing⟩ := mem_rowCrossings.mp hc
  obtain ⟨hfirst, hsecond⟩ := mem_polygonEdges he
  obtain ⟨⟨hlow₁, hhigh₁⟩, -⟩ := hverts _ hfirst
  obtain ⟨⟨hlow₂, hhigh₂⟩, -⟩ := hverts _ hsecond
  by_cases h : Crosses y e
  · obtain ⟨c', hcrossing', hle⟩ := h.edgeCrossing
    cases hcrossing.symm.trans hcrossing'
    have hlow := h.le_crossingAt hlow₁ hlow₂
    have hhigh := h.crossingAt_le hhigh₁ hhigh₂
    push_cast at hlow hhigh
    constructor
    · by_contra hlt
      have hbefore := (hle (-32769)).mp (by omega)
      push_cast at hbefore
      split at hbefore <;> linarith
    · refine (hle 32767).mpr ?_
      push_cast
      split <;> linarith
  · rw [edgeCrossing_eq_none h] at hcrossing
    cases hcrossing

theorem mem_polygonRows : y ∈ polygonRows verts ↔ (∃ v ∈ verts, v.2 ≤ y) ∧ ∃ v ∈ verts, y ≤ v.2 := by
  rw [polygonRows]
  split
  · next yMin yMax hmin hmax =>
    obtain ⟨hmin, hleast⟩ := List.min?_eq_some_iff.mp hmin
    obtain ⟨hmax, hgreatest⟩ := List.max?_eq_some_iff.mp hmax
    obtain ⟨low, hlow, rfl⟩ := List.mem_map.mp hmin
    obtain ⟨high, hhigh, rfl⟩ := List.mem_map.mp hmax
    rw [mem_intRange, Int.lt_add_one_iff]
    constructor
    · exact fun hy => ⟨⟨low, hlow, hy.1⟩, high, hhigh, hy.2⟩
    · rintro ⟨⟨v, hv, hle⟩, w, hw, hge⟩
      exact ⟨(hleast _ (List.mem_map_of_mem hv)).trans hle,
        hge.trans (hgreatest _ (List.mem_map_of_mem hw))⟩
  · next hnone =>
    cases verts with
    | nil => simp
    | cons v verts => exact absurd rfl (hnone _ _ rfl)

theorem mem_polygonRows_of_crosses (he : e ∈ polygonEdges verts) (h : Crosses y e) :
    y ∈ polygonRows verts := by
  obtain ⟨hfirst, hsecond⟩ := mem_polygonEdges he
  obtain ⟨hlow, hhigh⟩ := h
  rw [mem_polygonRows]
  rcases le_total e.1.2 e.2.2 with hle | hle
  · exact ⟨⟨_, hfirst, by omega⟩, _, hsecond, by omega⟩
  · exact ⟨⟨_, hsecond, by omega⟩, _, hfirst, by omega⟩

theorem inI16_of_mem_polygonRows (hverts : ∀ v ∈ verts, InI16 v) (hy : y ∈ polygonRows verts) :
    -32768 ≤ y ∧ y ≤ 32767 := by
  obtain ⟨⟨low, hlow, hle⟩, high, hhigh, hge⟩ := mem_polygonRows.mp hy
  exact ⟨(hverts low hlow).2.1.trans hle, hge.trans (hverts high hhigh).2.2⟩

/-- The spans of a row are the columns after an odd number of crossings. -/
theorem covers_rowSpans (hverts : ∀ v ∈ verts, InI16 v) (hy : -32768 ≤ y ∧ y ≤ 32767)
    {p : Point} : Covers (rowSpans y (rowCrossings verts y)) p ↔
      p.2 = y ∧ Odd ((polygonEdges verts).countP (crossedBy p.1 y)) := by
  rw [← countP_rowCrossings, ← EvenOdd.exists_mem_spans_iff (sorted_rowCrossings verts y)
    (length_rowCrossings verts y ▸ even_countP_crosses verts y), rowSpans_eq]
  have hmem {s : Int × Int} (hs : s ∈ EvenOdd.spans (rowCrossings verts y)) (hlt : s.1 < s.2) :
      p ∈ spanRect y s ↔ (s.1 ≤ p.1 ∧ p.1 < s.2) ∧ p.2 = y := by
    obtain ⟨hfirst, hsecond⟩ := EvenOdd.mem_of_mem_spans hs
    exact mem_spanRect hy (rowCrossings_inI16 hverts hfirst).1
      (rowCrossings_inI16 hverts hsecond).2 hlt
  constructor
  · rintro ⟨r, hr, hp⟩
    obtain ⟨s, hs, rfl⟩ := List.mem_map.mp hr
    obtain ⟨hs, hlt⟩ := List.mem_filter.mp hs
    obtain ⟨hcolumn, hrow⟩ := (hmem hs (of_decide_eq_true hlt)).mp hp
    exact ⟨hrow, s, hs, hcolumn⟩
  · rintro ⟨hrow, s, hs, hcolumn⟩
    have hlt : s.1 < s.2 := hcolumn.1.trans_lt hcolumn.2
    exact ⟨_, List.mem_map_of_mem (List.mem_filter.mpr ⟨hs, decide_eq_true hlt⟩),
      (hmem hs hlt).mpr ⟨hcolumn, hrow⟩⟩

/-- The pixel is one of the polygon's. -/
def Filled (verts : List Point) (p : Point) : Prop :=
  Covers (scanlineFillPolygon verts []) p

instance (verts : List Point) (p : Point) : Decidable (Filled verts p) :=
  inferInstanceAs (Decidable (Covers _ p))

/-- A pixel is filled if an odd number of edges cross its row at its column or before. -/
theorem filled_iff (hverts : ∀ v ∈ verts, InI16 v) {p : Point} :
    Filled verts p ↔
      3 ≤ verts.length ∧ Odd ((polygonEdges verts).countP (crossedBy p.1 p.2)) := by
  rw [Filled, scanlineFillPolygon]
  split
  · next hshort => exact iff_of_false (fun h => by obtain ⟨r, hr, -⟩ := h; cases hr) (by omega)
  next hlong =>
  rw [and_iff_right (by omega), List.nil_append]
  constructor
  · rintro ⟨r, hr, hp⟩
    obtain ⟨y, hy, hr⟩ := List.mem_flatMap.mp hr
    obtain ⟨rfl, hodd⟩ :=
      (covers_rowSpans hverts (inI16_of_mem_polygonRows hverts hy)).mp ⟨r, hr, hp⟩
    exact hodd
  · intro hodd
    obtain ⟨e, he, hcrossed⟩ := List.countP_pos_iff.mp hodd.pos
    have hy := mem_polygonRows_of_crosses he (crossedBy_iff.mp hcrossed).1
    obtain ⟨r, hr, hp⟩ :=
      (covers_rowSpans hverts (inI16_of_mem_polygonRows hverts hy)).mpr ⟨rfl, hodd⟩
    exact ⟨r, List.mem_flatMap.mpr ⟨_, hy, hr⟩, hp⟩

/-! ## Pixels are emitted once -/

/-- No pixel is in two of the rectangles. -/
def PixelsOnce (rects : List Rectangle16) : Prop :=
  rects.Pairwise fun r r' => ∀ p, ¬ (p ∈ r ∧ p ∈ r')

theorem spans_disjoint (hverts : ∀ v ∈ verts, InI16 v) (hy : -32768 ≤ y ∧ y ≤ 32767) :
    PixelsOnce (rowSpans y (rowCrossings verts y)) := by
  have hmem {s : Int × Int} {p : Point} (hs : s ∈ (EvenOdd.spans (rowCrossings verts y)).filter
      fun s => s.2 > s.1) : p ∈ spanRect y s ↔ (s.1 ≤ p.1 ∧ p.1 < s.2) ∧ p.2 = y := by
    obtain ⟨hs, hlt⟩ := List.mem_filter.mp hs
    obtain ⟨hfirst, hsecond⟩ := EvenOdd.mem_of_mem_spans hs
    exact mem_spanRect hy (rowCrossings_inI16 hverts hfirst).1
      (rowCrossings_inI16 hverts hsecond).2 (of_decide_eq_true hlt)
  rw [PixelsOnce, rowSpans_eq, List.pairwise_map]
  refine ((EvenOdd.spans_pairwise (sorted_rowCrossings verts y)).filter _).imp_of_mem ?_
  rintro s t hs ht hle p ⟨hp, hp'⟩
  obtain ⟨⟨-, hbefore⟩, -⟩ := (hmem hs).mp hp
  obtain ⟨⟨hafter, -⟩, -⟩ := (hmem ht).mp hp'
  omega

theorem pairwise_intRange (first last : Int) : (intRange first last).Pairwise (· < ·) := by
  rw [intRange, List.pairwise_map]
  exact List.pairwise_lt_range.imp fun h => by omega

theorem scanlineFillPolygon_disjoint (hverts : ∀ v ∈ verts, InI16 v) :
    PixelsOnce (scanlineFillPolygon verts []) := by
  rw [PixelsOnce, scanlineFillPolygon]
  split
  · exact .nil
  rw [List.nil_append, List.pairwise_flatMap]
  refine ⟨fun y hy => spans_disjoint hverts (inI16_of_mem_polygonRows hverts hy), ?_⟩
  have hrows : (polygonRows verts).Pairwise (· < ·) := by
    rw [polygonRows]
    split
    · exact pairwise_intRange _ _
    · exact .nil
  refine hrows.imp_of_mem ?_
  rintro y y' hy hy' hlt r hr r' hr' p ⟨hp, hp'⟩
  have hrow := (covers_rowSpans hverts (inI16_of_mem_polygonRows hverts hy)).mp ⟨r, hr, hp⟩
  have hrow' := (covers_rowSpans hverts (inI16_of_mem_polygonRows hverts hy')).mp ⟨r', hr', hp'⟩
  omega

/-! ## The other way around -/

theorem countP_reverse (verts : List Point) (x y : Int) :
    (polygonEdges verts.reverse).countP (crossedBy x y) =
      (polygonEdges verts).countP fun e => crossedBy x y e.swap := by
  rw [(polygonEdges_reverse_perm verts).countP_eq, List.countP_map]
  rfl

/-- Of a list of at most two vertices, each edge comes in both directions. -/
theorem even_crossesInside_of_short (hshort : verts.length < 3) (x y : Int) :
    Even ((polygonEdges verts).countP fun e => decide (CrossesInside x y e)) := by
  match verts, hshort with
  | [], _ => exact Even.zero
  | [u], _ =>
    have hlevel : ¬ CrossesInside x y (u, u) := by
      rintro ⟨⟨hlow, hhigh⟩, -⟩
      rw [min_self] at hlow
      rw [max_self] at hhigh
      exact hlow.not_gt hhigh
    simp [polygonEdges, hlevel]
  | [u, v], _ =>
    have hswap : CrossesInside x y (v, u) ↔ CrossesInside x y (u, v) :=
      crossesInside_swap (e := (u, v))
    by_cases h : CrossesInside x y (u, v)
    · simp [polygonEdges, hswap, h]
    · simp [polygonEdges, hswap, h]

theorem filled_reverse_iff (hverts : ∀ v ∈ verts, InI16 v) :
    (∀ p, Filled verts.reverse p ↔ Filled verts p) ↔
      ∀ x y, Even ((polygonEdges verts).countP fun e => decide (CrossesInside x y e)) := by
  have hreverse : ∀ v ∈ verts.reverse, InI16 v := fun v hv => hverts v (List.mem_reverse.mp hv)
  have hparity (x y : Int) := EvenOdd.odd_iff_odd_iff_even (l := polygonEdges verts)
    fun e _ => crossedBy_swap x y e
  by_cases hlong : 3 ≤ verts.length
  · simp only [filled_iff hverts, filled_iff hreverse,
      List.length_reverse, and_iff_right hlong, countP_reverse, ← hparity]
    exact ⟨fun h x y => (h (x, y)).symm, fun h p => (h p.1 p.2).symm⟩
  · refine iff_of_true (fun p => ?_) fun x y => even_crossesInside_of_short (by omega) x y
    simp only [filled_iff hverts, filled_iff hreverse,
      List.length_reverse, hlong, false_and]

/-! ## A shared edge -/

variable {left right : List Point} {lefts rights : List (Point × Point)}

/-- Two polygons share an edge, each going along it in its own direction. In the rows of the
edge, the other edges of the polygons lie on different sides of it. -/
structure ShareEdge (e : Point × Point) (left right : List Point)
    (lefts rights : List (Point × Point)) : Prop where
  left_long : 3 ≤ left.length
  right_long : 3 ≤ right.length
  left_edges : (polygonEdges left).Perm (e :: lefts)
  right_edges : (polygonEdges right).Perm (e.swap :: rights)
  on_left : ∀ y, Crosses y e → ∀ f ∈ lefts, Crosses y f → crossingAt y f ≤ crossingAt y e
  on_right : ∀ y, Crosses y e → ∀ f ∈ rights, Crosses y f → crossingAt y e ≤ crossingAt y f

/-- The column lies between the other edges of two polygons. -/
def Between (lefts rights : List (Point × Point)) (x y : Int) : Prop :=
  (∀ f ∈ lefts, Crosses y f → crossingAt y f ≤ x) ∧
    ∀ f ∈ rights, Crosses y f → x + 1 ≤ crossingAt y f

/-- Along the edge no pixel is filled for both polygons, and none that lies between their other
edges for neither of them. -/
def Seamless (e : Point × Point) (left right : List Point) (lefts rights : List (Point × Point)) :
    Prop :=
  ∀ x y, Crosses y e →
    ¬ (Filled left (x, y) ∧ Filled right (x, y)) ∧
      (Between lefts rights x y → Filled left (x, y) ∨ Filled right (x, y))

/-- The edge crosses the column inside, from the right to the left. -/
def RunsLeft (x y : Int) (f : Point × Point) : Prop :=
  CrossesInside x y f ∧ f.2.1 < f.1.1

/-- The edge crosses the column inside, from the left to the right. -/
def RunsRight (x y : Int) (f : Point × Point) : Prop :=
  CrossesInside x y f ∧ f.1.1 < f.2.1

instance (x y : Int) (f : Point × Point) : Decidable (RunsLeft x y f) :=
  inferInstanceAs (Decidable (_ ∧ _))

instance (x y : Int) (f : Point × Point) : Decidable (RunsRight x y f) :=
  inferInstanceAs (Decidable (_ ∧ _))

theorem runsRight_swap {f : Point × Point} : RunsRight x y f.swap ↔ RunsLeft x y f := by
  rw [RunsRight, RunsLeft, crossesInside_swap]
  rfl

/-- In a column that it crosses inside an edge has a direction. -/
theorem CrossesInside.ne (h : CrossesInside x y e) : e.1.1 ≠ e.2.1 := by
  intro hstraight
  have hlow := h.1.le_crossingAt le_rfl hstraight.le
  have hhigh := h.1.crossingAt_le le_rfl hstraight.ge
  obtain ⟨-, hgt, hlt⟩ := h
  rw [le_antisymm hhigh hlow] at hgt hlt
  have hgt : x < e.1.1 := by exact_mod_cast hgt
  have hlt : e.1.1 < x + 1 := by exact_mod_cast hlt
  omega

namespace ShareEdge

theorem le_of_left (h : ShareEdge e left right lefts rights) (hcross : Crosses y e)
    {f : Point × Point} (hf : f ∈ polygonEdges left) (hf' : Crosses y f) :
    crossingAt y f ≤ crossingAt y e := by
  rcases List.mem_cons.mp (h.left_edges.mem_iff.mp hf) with rfl | hf
  · exact le_rfl
  · exact h.on_left y hcross f hf hf'

theorem le_of_right (h : ShareEdge e left right lefts rights) (hcross : Crosses y e)
    {f : Point × Point} (hf : f ∈ polygonEdges right) (hf' : Crosses y f) :
    crossingAt y e ≤ crossingAt y f := by
  rcases List.mem_cons.mp (h.right_edges.mem_iff.mp hf) with rfl | hf
  · exact hcross.crossingAt_swap.ge
  · exact h.on_right y hcross f hf hf'

/-- Where the shared edge crosses a column inside, the left polygon has the pixel if an odd
number of its edges lead to the left there: their crossings alone are rounded past it. -/
theorem odd_left_iff (h : ShareEdge e left right lefts rights) (hinside : CrossesInside x y e) :
    Odd ((polygonEdges left).countP (crossedBy x y)) ↔
      Odd ((polygonEdges left).countP fun f => decide (RunsLeft x y f)) := by
  have hparity : (Odd ((polygonEdges left).countP (crossedBy x y)) ↔
      Odd ((polygonEdges left).countP fun f => decide (Crosses y f))) ↔
        Even ((polygonEdges left).countP fun f => decide (RunsLeft x y f)) := by
    refine EvenOdd.odd_iff_odd_iff_even fun f hf => ?_
    rw [Bool.eq_iff_iff, decide_eq_true_iff, bne_iff_ne, Ne, Bool.eq_iff_iff, decide_eq_true_iff,
      crossedBy_iff, RunsLeft, CrossesInside]
    by_cases hf' : Crosses y f
    · have hlt : crossingAt y f < x + 1 := (h.le_of_left hinside.1 hf hf').trans_lt hinside.2.2
      rw [and_iff_right hf', and_iff_right hf', iff_true_right hf']
      split
      · next hle => exact iff_of_false (fun hleft => hleft.2.not_ge hle) (not_not_intro hlt)
      · next hleft =>
        rw [not_le]
        exact ⟨fun hinside => hinside.1.1, fun hgt => ⟨⟨hgt, hlt⟩, not_le.mp hleft⟩⟩
    · simp [hf']
  rw [← Nat.not_even_iff_odd (n := (polygonEdges left).countP fun f => decide (RunsLeft x y f)),
    ← hparity, iff_false_right (Nat.not_odd_iff_even.mpr (even_countP_crosses left y)), not_not]

theorem odd_right_iff (h : ShareEdge e left right lefts rights) (hinside : CrossesInside x y e) :
    Odd ((polygonEdges right).countP (crossedBy x y)) ↔
      Odd ((polygonEdges right).countP fun f => decide (RunsRight x y f)) := by
  refine iff_of_eq (congrArg Odd (List.countP_congr fun f hf => ?_))
  rw [crossedBy_iff, decide_eq_true_iff, RunsRight]
  constructor
  · rintro ⟨hf', hbefore⟩
    have hgt := hinside.2.1.trans_le (h.le_of_right hinside.1 hf hf')
    split at hbefore
    · next hle =>
      have hf : CrossesInside x y f := ⟨hf', hgt, hbefore⟩
      exact ⟨hf, lt_of_le_of_ne hle hf.ne⟩
    · exact absurd hbefore hgt.not_ge
  · rintro ⟨⟨hf', -, hlt⟩, hright⟩
    exact ⟨hf', by rwa [if_pos hright.le]⟩

/-- Right of the edge is only the right polygon. -/
theorem right_of (h : ShareEdge e left right lefts rights) (hcross : Crosses y e)
    (hx : crossingAt y e ≤ x) : ¬ Odd ((polygonEdges left).countP (crossedBy x y)) ∧
      (Between lefts rights x y → Odd ((polygonEdges right).countP (crossedBy x y))) := by
  constructor
  · have hall : (polygonEdges left).countP (crossedBy x y) =
        (polygonEdges left).countP fun f => decide (Crosses y f) := by
      refine List.countP_congr fun f hf => ?_
      rw [decide_eq_true_iff]
      exact ⟨fun hf' => (crossedBy_iff.mp hf').1,
        fun hf' => hf'.crossedBy ((h.le_of_left hcross hf hf').trans hx)⟩
    rw [hall, Nat.not_odd_iff_even]
    exact even_countP_crosses left y
  · rintro ⟨-, hrights⟩
    have hnone : rights.countP (crossedBy x y) = 0 := List.countP_eq_zero.mpr fun f hf hf' =>
      not_crossedBy (hrights f hf (crossedBy_iff.mp hf').1) hf'
    rw [h.right_edges.countP_eq, List.countP_cons_of_pos, hnone]
    · exact odd_one
    · exact (crosses_swap.mpr hcross).crossedBy (hcross.crossingAt_swap.le.trans hx)

/-- Left of the edge is only the left polygon. -/
theorem left_of (h : ShareEdge e left right lefts rights) (hcross : Crosses y e)
    (hx : x + 1 ≤ crossingAt y e) : ¬ Odd ((polygonEdges right).countP (crossedBy x y)) ∧
      (Between lefts rights x y → Odd ((polygonEdges left).countP (crossedBy x y))) := by
  constructor
  · have hnone : (polygonEdges right).countP (crossedBy x y) = 0 :=
      List.countP_eq_zero.mpr fun f hf hf' =>
        not_crossedBy (hx.trans (h.le_of_right hcross hf (crossedBy_iff.mp hf').1)) hf'
    rw [hnone]
    exact Nat.not_odd_zero
  · rintro ⟨hlefts, -⟩
    have hall : lefts.countP (crossedBy x y) = lefts.countP fun f => decide (Crosses y f) := by
      refine List.countP_congr fun f hf => ?_
      rw [decide_eq_true_iff]
      exact ⟨fun hf' => (crossedBy_iff.mp hf').1, fun hf' => hf'.crossedBy (hlefts f hf hf')⟩
    have heven := even_countP_crosses left y
    rw [h.left_edges.countP_eq, List.countP_cons, if_pos (decide_eq_true hcross),
      Nat.even_add_one, Nat.not_even_iff_odd] at heven
    rwa [h.left_edges.countP_eq, List.countP_cons_of_neg (not_crossedBy hx), hall]

/-- Between the other edges, a column that the edge crosses inside is filled for both polygons
or for none. -/
theorem between_inside (h : ShareEdge e left right lefts rights) (hinside : CrossesInside x y e)
    (hbetween : Between lefts rights x y) :
    Odd ((polygonEdges left).countP (crossedBy x y)) ↔
      Odd ((polygonEdges right).countP (crossedBy x y)) := by
  have hlefts : lefts.countP (fun f => decide (RunsLeft x y f)) = 0 := by
    refine List.countP_eq_zero.mpr fun f hf hf' => ?_
    obtain ⟨⟨hcross, hgt, -⟩, -⟩ := of_decide_eq_true hf'
    exact (hbetween.1 f hf hcross).not_gt hgt
  have hrights : rights.countP (fun f => decide (RunsRight x y f)) = 0 := by
    refine List.countP_eq_zero.mpr fun f hf hf' => ?_
    obtain ⟨⟨hcross, -, hlt⟩, -⟩ := of_decide_eq_true hf'
    exact (hbetween.2 f hf hcross).not_gt hlt
  rw [h.odd_left_iff hinside, h.odd_right_iff hinside, h.left_edges.countP_eq,
    h.right_edges.countP_eq, List.countP_cons, List.countP_cons, hlefts, hrights]
  simp only [runsRight_swap]

theorem seamless_iff (h : ShareEdge e left right lefts rights) (hleft : ∀ v ∈ left, InI16 v)
    (hright : ∀ v ∈ right, InI16 v) : Seamless e left right lefts rights ↔
      ∀ x y, CrossesInside x y e → ¬ Between lefts rights x y ∧
        ¬ (Odd ((polygonEdges left).countP fun f => decide (RunsLeft x y f)) ∧
          Odd ((polygonEdges right).countP fun f => decide (RunsRight x y f))) := by
  simp only [Seamless, filled_iff hleft, filled_iff hright,
    and_iff_right h.left_long, and_iff_right h.right_long]
  constructor
  · intro hseam x y hinside
    obtain ⟨hdisjoint, hgap⟩ := hseam x y hinside.1
    rw [h.odd_left_iff hinside, h.odd_right_iff hinside] at hdisjoint
    refine ⟨fun hbetween => ?_, hdisjoint⟩
    have hsame := h.between_inside hinside hbetween
    have hfilled := hgap hbetween
    rw [h.odd_left_iff hinside, h.odd_right_iff hinside] at hsame hfilled
    tauto
  · intro hcond x y hcross
    by_cases hright : crossingAt y e ≤ x
    · obtain ⟨hnot, hfilled⟩ := h.right_of hcross hright
      exact ⟨fun hboth => hnot hboth.1, fun hbetween => .inr (hfilled hbetween)⟩
    by_cases hleft : x + 1 ≤ crossingAt y e
    · obtain ⟨hnot, hfilled⟩ := h.left_of hcross hleft
      exact ⟨fun hboth => hnot hboth.2, fun hbetween => .inl (hfilled hbetween)⟩
    have hinside : CrossesInside x y e := ⟨hcross, not_le.mp hright, not_le.mp hleft⟩
    obtain ⟨hbetween, hodd⟩ := hcond x y hinside
    rw [h.odd_left_iff hinside, h.odd_right_iff hinside]
    exact ⟨hodd, fun h => absurd h hbetween⟩

end ShareEdge

theorem filled_rotate (hverts : ∀ v ∈ verts, InI16 v) (k : Nat) (p : Point) :
    Filled (verts.rotate k) p ↔ Filled verts p := by
  have hrotate : ∀ v ∈ verts.rotate k, InI16 v := fun v hv => hverts v (List.mem_rotate.mp hv)
  rw [filled_iff hrotate, filled_iff hverts, List.length_rotate, polygonEdges_rotate,
    (List.rotate_perm _ k).countP_eq]

end

/-- The vertices of a polygon, by their coordinates. -/
def pointsOf (verts : List (Int16 × Int16)) : List Point :=
  verts.map fun v => (v.1.toInt, v.2.toInt)

theorem inI16_of_mem_pointsOf {verts : List (Int16 × Int16)} : ∀ v ∈ pointsOf verts, InI16 v := by
  intro v hv
  obtain ⟨w, -, rfl⟩ := List.mem_map.mp hv
  exact inI16_toInt w.1 w.2

/-- The fill does not depend on where the list of the vertices starts, and no pixel is emitted
twice. Backwards it is the same exactly if an even number of edges cross inside every column of
every row. An edge that two polygons share is seamless exactly if no column that it crosses
inside lies between their other edges, and none is crossed inside by an odd number of edges of
the left one that lead left and an odd number of the right one that lead right. -/
theorem scanlineFillPolygon_evenOdd (verts : List (Int16 × Int16)) :
    (∀ k p, Filled (pointsOf (verts.rotate k)) p ↔ Filled (pointsOf verts) p) ∧
      PixelsOnce (scanlineFillPolygon (pointsOf verts) []) ∧
      ((∀ p, Filled (pointsOf verts.reverse) p ↔ Filled (pointsOf verts) p) ↔
        ∀ x y, Even ((polygonEdges (pointsOf verts)).countP fun e =>
          decide (CrossesInside x y e))) ∧
      ∀ other e lefts rights, ShareEdge e (pointsOf verts) (pointsOf other) lefts rights →
        (Seamless e (pointsOf verts) (pointsOf other) lefts rights ↔
          ∀ x y, CrossesInside x y e → ¬ Between lefts rights x y ∧
            ¬ (Odd ((polygonEdges (pointsOf verts)).countP fun f => decide (RunsLeft x y f)) ∧
              Odd ((polygonEdges (pointsOf other)).countP fun f =>
                decide (RunsRight x y f)))) := by
  have hverts : ∀ v ∈ pointsOf verts, InI16 v := inI16_of_mem_pointsOf
  refine ⟨fun k p => ?_, scanlineFillPolygon_disjoint hverts, ?_, ?_⟩
  · rw [pointsOf, List.map_rotate]
    exact filled_rotate hverts k p
  · rw [pointsOf, List.map_reverse]
    exact filled_reverse_iff hverts
  · exact fun other e lefts rights h => h.seamless_iff hverts inI16_of_mem_pointsOf

/-- The half of a rectangle of two rows that lies below its diagonal. -/
def lowerHalf (n : Int16) : List (Int16 × Int16) :=
  [(0, 0), (n, 2), (0, 2)]

/-- The half above it. -/
def upperHalf (n : Int16) : List (Int16 × Int16) :=
  [(n, 2), (0, 0), (n, 0)]

def diagonal (n : Int) : Point × Point :=
  ((0, 0), (n, 2))

/-- The sides of the lower half without the diagonal. -/
def lowerSides (n : Int) : List (Point × Point) :=
  [((n, 2), (0, 2)), ((0, 2), (0, 0))]

/-- The sides of the upper half without the diagonal. -/
def upperSides (n : Int) : List (Point × Point) :=
  [((0, 0), (n, 0)), ((n, 0), (n, 2))]

theorem not_crosses_flat (a b c y : Int) : ¬ Crosses y ((a, c), (b, c)) := by
  simp only [Crosses, min_self, max_self]
  omega

theorem crossingAt_diagonal (n y : Int) : crossingAt y (diagonal n) = y * n / 2 := by
  simp [crossingAt, diagonal]

/-- The two halves share the diagonal. -/
theorem shareEdge_halves {n : Int16} (hn : 0 ≤ n.toInt) :
    ShareEdge (diagonal n.toInt) (pointsOf (lowerHalf n)) (pointsOf (upperHalf n))
      (lowerSides n.toInt) (upperSides n.toInt) := by
  have hn : (0 : ℚ) ≤ n.toInt := by exact_mod_cast hn
  have hrows {y : Int} (hcross : Crosses y (diagonal n.toInt)) : (0 : ℚ) ≤ y ∧ (y : ℚ) ≤ 2 := by
    obtain ⟨hlow, hhigh⟩ : (0 : Int) ≤ y ∧ y < 2 := hcross
    exact ⟨by exact_mod_cast hlow, by exact_mod_cast hhigh.le⟩
  refine ⟨le_rfl, le_rfl, .refl _, .refl _, fun y hcross f hf hf' => ?_,
    fun y hcross f hf hf' => ?_⟩
  · obtain ⟨hlow, -⟩ := hrows hcross
    rw [crossingAt_diagonal]
    rcases List.mem_pair.mp hf with rfl | rfl
    · exact absurd hf' (not_crosses_flat _ _ _ _)
    · have hside : crossingAt y ((0, 2), (0, 0)) = 0 := by simp [crossingAt]
      rw [hside]
      exact div_nonneg (mul_nonneg hlow hn) zero_le_two
  · obtain ⟨-, hhigh⟩ := hrows hcross
    rw [crossingAt_diagonal]
    rcases List.mem_pair.mp hf with rfl | rfl
    · exact absurd hf' (not_crosses_flat _ _ _ _)
    · simp only [crossingAt]
      push_cast
      linarith [mul_nonneg (sub_nonneg.mpr hhigh) hn]

/-- The diagonal of the square crosses its rows at whole columns, and is seamless. In the
rectangle that is three wide it crosses the second column inside, and neither half has it. -/
theorem scanlineFillPolygon_evenOdd_halves :
    (ShareEdge (diagonal 2) (pointsOf (lowerHalf 2)) (pointsOf (upperHalf 2)) (lowerSides 2)
        (upperSides 2) ∧
      Seamless (diagonal 2) (pointsOf (lowerHalf 2)) (pointsOf (upperHalf 2)) (lowerSides 2)
        (upperSides 2)) ∧
    ShareEdge (diagonal 3) (pointsOf (lowerHalf 3)) (pointsOf (upperHalf 3)) (lowerSides 3)
        (upperSides 3) ∧
      ¬ Seamless (diagonal 3) (pointsOf (lowerHalf 3)) (pointsOf (upperHalf 3)) (lowerSides 3)
        (upperSides 3) := by
  have hsquare : ShareEdge (diagonal 2) (pointsOf (lowerHalf 2)) (pointsOf (upperHalf 2))
      (lowerSides 2) (upperSides 2) := shareEdge_halves (n := 2) (by decide)
  have hwide : ShareEdge (diagonal 3) (pointsOf (lowerHalf 3)) (pointsOf (upperHalf 3))
      (lowerSides 3) (upperSides 3) := shareEdge_halves (n := 3) (by decide)
  refine ⟨⟨hsquare, ?_⟩, hwide, fun hseam => ?_⟩
  · refine ((scanlineFillPolygon_evenOdd _).2.2.2 _ _ _ _ hsquare).mpr fun x y hinside => ?_
    obtain ⟨-, hgt, hlt⟩ := hinside
    have hat : crossingAt y (diagonal 2) = y := by simp [crossingAt_diagonal]
    rw [hat] at hgt hlt
    have hgt : x < y := by exact_mod_cast hgt
    have hlt : y < x + 1 := by exact_mod_cast hlt
    omega
  · have hinside : CrossesInside 1 1 (diagonal 3) := by
      rw [CrossesInside, crossingAt_diagonal]
      norm_num [Crosses, diagonal]
    have hbetween : Between (lowerSides 3) (upperSides 3) 1 1 := by
      norm_num [Between, lowerSides, upperSides, not_crosses_flat, crossingAt]
    exact (((scanlineFillPolygon_evenOdd _).2.2.2 _ _ _ _ hwide).mp hseam 1 1 hinside).1 hbetween

/-- The slanted edge of the triangle crosses the row inside the second column. Down the edge
the pixel is left out, and up the edge it is filled. -/
theorem scanlineFillPolygon_reverse :
    ¬ Filled (pointsOf [(0, 0), (3, 2), (0, 2)]) (1, 1) ∧
      Filled (pointsOf [(0, 0), (3, 2), (0, 2)].reverse) (1, 1) := by
  decide

end X12

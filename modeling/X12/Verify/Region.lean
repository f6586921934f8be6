import X12.Core.Region
import Mathlib.Tactic.Tauto

/-! # The region algebra is exact

Every operation is the box algebra of `Boxes` on unclamped edges followed by
a conversion to wire fields, and inside the coordinate domain the conversion
loses and adds no point. -/

namespace X12

open Boxes (Box)

/-! ## Clamping -/

theorem clampI16_toInt (v : Int) : (clampI16 v).toInt = max (-32768) (min v 32767) := by
  rw [clampI16, Int16.toInt_ofInt_of_le] <;> omega

theorem clampU16_toNat (v : Int) : ((clampU16 v).toNat : Int) = max 0 (min v 65535) := by
  rw [clampU16, UInt16.toNat_ofNat', Nat.mod_eq_of_lt (by omega)]
  omega

theorem clampI16_self (x : Int16) : clampI16 x.toInt = x := by
  have := x.toInt_lt
  have := x.le_toInt
  apply Int16.toInt.inj
  rw [clampI16_toInt]
  omega

theorem clampU16_self (n : UInt16) : clampU16 n.toNat = n := by
  have := n.toNat_lt
  apply UInt16.toNat.inj
  have := clampU16_toNat n.toNat
  omega

namespace RegionRect

theorem left_bounds (r : RegionRect) : -32768 ≤ r.left ∧ r.left ≤ 32767 := by
  have := r.x.toInt_lt
  have := r.x.le_toInt
  unfold left
  omega

theorem top_bounds (r : RegionRect) : -32768 ≤ r.top ∧ r.top ≤ 32767 := by
  have := r.y.toInt_lt
  have := r.y.le_toInt
  unfold top
  omega

theorem right_bounds (r : RegionRect) : r.left ≤ r.right ∧ r.right ≤ r.left + 65535 := by
  have := r.width.toNat_lt
  unfold left right
  omega

theorem bottom_bounds (r : RegionRect) : r.top ≤ r.bottom ∧ r.bottom ≤ r.top + 65535 := by
  have := r.height.toNat_lt
  unfold top bottom
  omega

theorem mem_iff {r : RegionRect} {p : Point} :
    p ∈ r ↔ (r.left ≤ p.1 ∧ p.1 < r.right) ∧ r.top ≤ p.2 ∧ p.2 < r.bottom := Iff.rfl

theorem mem_toBox {r : RegionRect} {p : Point} : p ∈ r.toBox ↔ p ∈ r := Iff.rfl

theorem isEmpty_eq_false_iff {r : RegionRect} : r.isEmpty = false ↔ r.toBox.Proper := by
  have hw : r.width = 0 ↔ r.width.toNat = 0 := by
    rw [← UInt16.toNat_inj]; rfl
  have hh : r.height = 0 ↔ r.height.toNat = 0 := by
    rw [← UInt16.toNat_inj]; rfl
  simp only [isEmpty, Bool.or_eq_false_iff, beq_eq_false_iff_ne, ne_eq, hw, hh, Box.Proper,
    toBox, left, right, top, bottom]
  omega

/-- The rectangle pushed for the edges of a box. -/
def ofBox (b : Box Int) : RegionRect :=
  .ofEdges b.x₀ b.x₁ b.y₀ b.y₁

theorem ofBox_isEmpty {b : Box Int} (h : b.Proper) : (ofBox b).isEmpty = false := by
  obtain ⟨hx, hy⟩ := h
  have hw := clampU16_toNat (b.x₁ - b.x₀)
  have hh := clampU16_toNat (b.y₁ - b.y₀)
  rw [isEmpty_eq_false_iff]
  simp only [Box.Proper, toBox, ofBox, ofEdges, left, right, top, bottom]
  omega

/-- Inside the domain clamping neither loses nor adds a point: a field is cut
off only where the rectangle reaches past 32767. -/
theorem mem_ofBox {b : Box Int} {p : Point} (hp : InDomain p)
    (hx : -32768 ≤ b.x₀) (hy : -32768 ≤ b.y₀) : p ∈ ofBox b ↔ p ∈ b := by
  obtain ⟨⟨_, _⟩, _, _⟩ := hp
  have hcx := clampI16_toInt b.x₀
  have hcy := clampI16_toInt b.y₀
  have hw := clampU16_toNat (b.x₁ - b.x₀)
  have hh := clampU16_toNat (b.y₁ - b.y₀)
  rw [mem_iff, Box.mem_iff]
  simp only [ofBox, ofEdges, left, right, top, bottom]
  omega

end RegionRect

theorem covers_map_ofBox {boxes : List (Box Int)} {p : Point} (hp : InDomain p)
    (h : ∀ b ∈ boxes, -32768 ≤ b.x₀ ∧ -32768 ≤ b.y₀) :
    Covers (boxes.map .ofBox) p ↔ ∃ b ∈ boxes, p ∈ b := by
  simp only [Covers, List.mem_map]
  constructor
  · rintro ⟨_, ⟨b, hb, rfl⟩, hmem⟩
    exact ⟨b, hb, (RegionRect.mem_ofBox hp (h b hb).1 (h b hb).2).mp hmem⟩
  · rintro ⟨b, hb, hmem⟩
    exact ⟨_, ⟨b, hb, rfl⟩, (RegionRect.mem_ofBox hp (h b hb).1 (h b hb).2).mpr hmem⟩

/-! ## Normalization is the sweep -/

/-- The edges of the rectangles that normalization keeps. -/
def keptBoxes (rects : List RegionRect) : List (Box Int) :=
  (rects.filter fun r => !r.isEmpty).map RegionRect.toBox

theorem mem_keptBoxes {rects : List RegionRect} {b : Box Int} :
    b ∈ keptBoxes rects ↔ ∃ r ∈ rects, r.isEmpty = false ∧ b = r.toBox := by
  simp only [keptBoxes, List.mem_map, List.mem_filter, Bool.not_eq_true']
  constructor
  · rintro ⟨r, ⟨hr, he⟩, rfl⟩
    exact ⟨r, hr, he, rfl⟩
  · rintro ⟨r, hr, he, rfl⟩
    exact ⟨r, ⟨hr, he⟩, rfl⟩

theorem bandSpans_eq (rects : List RegionRect) (band : Int × Int) :
    bandSpans rects band = Boxes.bandSpans (rects.map RegionRect.toBox) band := by
  simp only [bandSpans, Boxes.bandSpans, List.filterMap_map]
  rfl

theorem pushSpans_eq (band current : Int × Int) (spans : List (Int × Int)) :
    pushSpans band current spans =
      (Boxes.mergeFrom current spans).map fun s => .ofBox ⟨s.1, s.2, band.1, band.2⟩ := by
  induction spans generalizing current with
  | nil => rfl
  | cons span rest ih =>
    unfold pushSpans Boxes.mergeFrom
    split
    · exact ih _
    · rw [List.map_cons, ih]
      rfl

theorem bandRects_eq {rects : List RegionRect} {band : Int × Int} (hband : band.1 < band.2) :
    bandRects rects band =
      (Boxes.mergeSpans (Boxes.bandSpans (rects.map RegionRect.toBox) band)).map
        fun s => .ofBox ⟨s.1, s.2, band.1, band.2⟩ := by
  rw [bandRects, if_neg (not_le.mpr hband), bandSpans_eq, Boxes.mergeSpans]
  split
  · next h => rw [h]; rfl
  · next h => rw [h]; exact pushSpans_eq _ _ _

theorem rowEdges_map_toBox (rects : List RegionRect) :
    Boxes.rowEdges (rects.map RegionRect.toBox) =
      ((rects.flatMap fun r => [r.top, r.bottom]).insertionSort (· ≤ ·)).destutter (· ≠ ·) := by
  rw [Boxes.rowEdges, List.flatMap_map]
  rfl

/-- Normalization sweeps the non-empty rectangles and clamps the result. -/
theorem normalizeRegionRects_eq (rects : List RegionRect) :
    normalizeRegionRects rects = (Boxes.sweep (keptBoxes rects)).map .ofBox := by
  unfold normalizeRegionRects
  simp only [List.isEmpty_iff]
  split
  · next h => rw [keptBoxes, h]; rfl
  · rw [Boxes.sweep, List.map_flatMap]
    rw [keptBoxes, ← rowEdges_map_toBox]
    refine List.flatMap_congr fun band hband => ?_
    rw [bandRects_eq (Boxes.bands_nonempty (Boxes.rowEdges_sorted _) band hband), List.map_map]
    rfl

theorem isEmpty_of_mem {r : RegionRect} {p : Point} (h : p ∈ r) : r.isEmpty = false :=
  RegionRect.isEmpty_eq_false_iff.mpr (Box.Proper.of_mem h)

/-- Dropping the empty rectangles drops no point. -/
theorem exists_mem_keptBoxes {rects : List RegionRect} {p : Point} :
    (∃ b ∈ keptBoxes rects, p ∈ b) ↔ Covers rects p := by
  constructor
  · rintro ⟨b, hb, hp⟩
    obtain ⟨r, hr, -, rfl⟩ := mem_keptBoxes.mp hb
    exact ⟨r, hr, hp⟩
  · rintro ⟨r, hr, hp⟩
    exact ⟨r.toBox, mem_keptBoxes.mpr ⟨r, hr, isEmpty_of_mem hp, rfl⟩, hp⟩

theorem sweep_keptBoxes_edges {rects : List RegionRect} :
    ∀ b ∈ Boxes.sweep (keptBoxes rects), -32768 ≤ b.x₀ ∧ -32768 ≤ b.y₀ := by
  intro b hb
  obtain ⟨⟨c, hc, hx⟩, d, hd, hy⟩ := Boxes.sweep_edges hb
  obtain ⟨r, -, -, rfl⟩ := mem_keptBoxes.mp hc
  obtain ⟨t, -, -, rfl⟩ := mem_keptBoxes.mp hd
  refine ⟨hx ▸ r.left_bounds.1, ?_⟩
  have := t.top_bounds
  have := t.bottom_bounds
  rcases hy with hy | hy <;> simp only [hy, RegionRect.toBox] <;> omega

theorem covers_normalizeRegionRects {rects : List RegionRect} {p : Point} (hp : InDomain p) :
    Covers (normalizeRegionRects rects) p ↔ Covers rects p := by
  rw [normalizeRegionRects_eq, covers_map_ofBox hp sweep_keptBoxes_edges,
    Boxes.exists_mem_sweep, exists_mem_keptBoxes]

/-- No two rectangles of a region share the point. -/
def DisjointAt (rects : List RegionRect) (p : Point) : Prop :=
  rects.Pairwise fun r s => ¬ (p ∈ r ∧ p ∈ s)

theorem normalizeRegionRects_disjointAt {rects : List RegionRect} {p : Point} (hp : InDomain p) :
    DisjointAt (normalizeRegionRects rects) p := by
  rw [normalizeRegionRects_eq, DisjointAt, List.pairwise_map]
  refine (Boxes.sweep_disjoint (keptBoxes rects)).imp_of_mem fun {b c} hb hc hdisj ⟨hpb, hpc⟩ => ?_
  obtain ⟨hbx, hby⟩ := sweep_keptBoxes_edges b hb
  obtain ⟨hcx, hcy⟩ := sweep_keptBoxes_edges c hc
  exact hdisj p ⟨(RegionRect.mem_ofBox hp hbx hby).mp hpb, (RegionRect.mem_ofBox hp hcx hcy).mp hpc⟩

theorem normalizeRegionRects_nonempty {rects : List RegionRect} :
    ∀ r ∈ normalizeRegionRects rects, r.isEmpty = false := by
  rw [normalizeRegionRects_eq]
  intro r hr
  obtain ⟨b, hb, rfl⟩ := List.mem_map.mp hr
  refine RegionRect.ofBox_isEmpty (Boxes.sweep_proper (fun c hc => ?_) b hb)
  obtain ⟨t, -, he, rfl⟩ := mem_keptBoxes.mp hc
  exact RegionRect.isEmpty_eq_false_iff.mp he

theorem exists_covers_iff {rects : List RegionRect} :
    (∃ p, Covers rects p) ↔ ∃ r ∈ rects, r.isEmpty = false := by
  constructor
  · rintro ⟨p, r, hr, hp⟩
    exact ⟨r, hr, isEmpty_of_mem hp⟩
  · rintro ⟨r, hr, hempty⟩
    obtain ⟨p, hp⟩ := (RegionRect.isEmpty_eq_false_iff.mp hempty).exists_mem
    exact ⟨p, r, hr, hp⟩

/-- Normalizing leaves nothing of a region only when the region has no point,
wherever its rectangles lie. -/
theorem normalizeRegionRects_ne_nil_iff {rects : List RegionRect} :
    normalizeRegionRects rects ≠ [] ↔ ∃ p, Covers rects p := by
  have hproper : ∀ b ∈ Boxes.sweep (keptBoxes rects), b.Proper := by
    refine Boxes.sweep_proper fun c hc => ?_
    obtain ⟨r, -, he, rfl⟩ := mem_keptBoxes.mp hc
    exact RegionRect.isEmpty_eq_false_iff.mp he
  rw [normalizeRegionRects_eq, ne_eq, List.map_eq_nil_iff]
  constructor
  · intro h
    obtain ⟨b, hb⟩ := List.exists_mem_of_ne_nil _ h
    obtain ⟨p, hp⟩ := (hproper b hb).exists_mem
    exact ⟨p, exists_mem_keptBoxes.mp (Boxes.exists_mem_sweep.mp ⟨b, hb, hp⟩)⟩
  · rintro ⟨p, hp⟩
    obtain ⟨b, hb, -⟩ := Boxes.exists_mem_sweep.mpr (exists_mem_keptBoxes.mpr hp)
    exact List.ne_nil_of_mem hb

/-! ## Intersection -/

/-- The common part of two rectangles fits their fields: nothing is clamped. -/
theorem intersectRect_eq_some {a b r : RegionRect} (h : intersectRect a b = some r) :
    r.toBox = a.toBox.inter b.toBox ∧ r.toBox.Proper := by
  simp only [intersectRect, Option.ite_none_left_eq_some, Option.some.injEq] at h
  obtain ⟨hproper, rfl⟩ := h
  have := a.left_bounds
  have := a.right_bounds
  have := a.top_bounds
  have := a.bottom_bounds
  have := b.left_bounds
  have := b.top_bounds
  have hx := clampI16_toInt (max a.left b.left)
  have hy := clampI16_toInt (max a.top b.top)
  have hw := clampU16_toNat (min a.right b.right - max a.left b.left)
  have hh := clampU16_toNat (min a.bottom b.bottom - max a.top b.top)
  have heq : (RegionRect.ofEdges (max a.left b.left) (min a.right b.right)
      (max a.top b.top) (min a.bottom b.bottom)).toBox = a.toBox.inter b.toBox := by
    simp only [RegionRect.ofEdges, RegionRect.toBox, Box.inter, Box.mk.injEq]
    refine ⟨?_, ?_, ?_, ?_⟩ <;>
      simp only [RegionRect.left, RegionRect.right, RegionRect.top, RegionRect.bottom] at * <;>
      omega
  refine ⟨heq, heq ▸ ?_⟩
  simp only [Box.Proper, Box.inter, RegionRect.toBox]
  omega

theorem intersectRect_eq_none {a b : RegionRect} (h : intersectRect a b = none) (p : Point) :
    ¬ (p ∈ a ∧ p ∈ b) := by
  simp only [intersectRect, ite_eq_left_iff, reduceCtorEq, imp_false, not_not] at h
  rintro ⟨⟨ha₁, ha₂⟩, hb₁, hb₂⟩
  simp only [RegionRect.toBox] at *
  omega

theorem mem_intersectRect {a b : RegionRect} {p : Point} :
    (∃ r, intersectRect a b = some r ∧ p ∈ r) ↔ p ∈ a ∧ p ∈ b := by
  constructor
  · rintro ⟨r, hr, hp⟩
    rw [← RegionRect.mem_toBox, (intersectRect_eq_some hr).1] at hp
    exact Box.mem_inter.mp hp
  · intro hp
    cases h : intersectRect a b with
    | none => exact absurd hp (intersectRect_eq_none h p)
    | some r =>
      refine ⟨r, rfl, ?_⟩
      rw [← RegionRect.mem_toBox, (intersectRect_eq_some h).1]
      exact Box.mem_inter.mpr hp

theorem covers_intersectRegions {a b : List RegionRect} {p : Point} (hp : InDomain p) :
    Covers (intersectRegions a b) p ↔ Covers a p ∧ Covers b p := by
  rw [intersectRegions, covers_normalizeRegionRects hp]
  simp only [Covers, List.mem_flatMap, List.mem_filterMap]
  constructor
  · rintro ⟨r, ⟨ar, har, br, hbr, hr⟩, hpr⟩
    obtain ⟨hpa, hpb⟩ := mem_intersectRect.mp ⟨r, hr, hpr⟩
    exact ⟨⟨ar, har, hpa⟩, br, hbr, hpb⟩
  · rintro ⟨⟨ar, har, hpa⟩, br, hbr, hpb⟩
    obtain ⟨r, hr, hpr⟩ := mem_intersectRect.mpr ⟨hpa, hpb⟩
    exact ⟨r, ⟨ar, har, br, hbr, hr⟩, hpr⟩

/-! ## Subtraction -/

theorem strips_toBox (a i : RegionRect) :
    a.toBox.strips i.toBox =
      (if a.top < i.top then [⟨a.left, a.right, a.top, i.top⟩] else []) ++
      (if i.bottom < a.bottom then [⟨a.left, a.right, i.bottom, a.bottom⟩] else []) ++
      (if a.left < i.left then [⟨a.left, i.left, i.top, i.bottom⟩] else []) ++
      (if i.right < a.right then [⟨i.right, a.right, i.top, i.bottom⟩] else []) := rfl

/-- The pieces are the strips around the common part. -/
theorem subtractRect_eq {a b i : RegionRect} (h : intersectRect a b = some i) :
    subtractRect a b = (a.toBox.strips i.toBox).map .ofBox := by
  have hx (r : RegionRect) : clampI16 r.left = r.x := clampI16_self r.x
  have hy (r : RegionRect) : clampI16 r.top = r.y := clampI16_self r.y
  have hw (r : RegionRect) : clampU16 (r.right - r.left) = r.width := by
    have : r.right - r.left = r.width.toNat := by unfold RegionRect.right RegionRect.left; omega
    rw [this, clampU16_self]
  have hh (r : RegionRect) : clampU16 (r.bottom - r.top) = r.height := by
    have : r.bottom - r.top = r.height.toNat := by unfold RegionRect.bottom RegionRect.top; omega
    rw [this, clampU16_self]
  simp only [subtractRect, h, strips_toBox, List.map_append, apply_ite (List.map RegionRect.ofBox),
    List.map_cons, List.map_nil, RegionRect.ofBox, RegionRect.ofEdges, hx, hy, hw, hh]

theorem covers_subtractRect {a b : RegionRect} {p : Point} (hp : InDomain p) :
    Covers (subtractRect a b) p ↔ p ∈ a ∧ p ∉ b := by
  cases h : intersectRect a b with
  | none =>
    have hnot := intersectRect_eq_none h p
    simp only [subtractRect, h, Covers, List.mem_singleton, exists_eq_left]
    tauto
  | some i =>
    obtain ⟨hi, hproper⟩ := intersectRect_eq_some h
    have hedges : ∀ s ∈ a.toBox.strips i.toBox, -32768 ≤ s.x₀ ∧ -32768 ≤ s.y₀ := by
      have := a.left_bounds
      have := a.top_bounds
      have := i.left_bounds
      have := i.right_bounds
      have := i.top_bounds
      have := i.bottom_bounds
      intro s hs
      simp only [strips_toBox, List.mem_append, List.mem_ite_nil_right, List.mem_singleton] at hs
      rcases hs with ((⟨-, rfl⟩ | ⟨-, rfl⟩) | ⟨-, rfl⟩) | ⟨-, rfl⟩ <;> simp only <;> omega
    have hwithin : i.toBox.Within a.toBox := hi ▸ Box.inter_within _ _
    rw [subtractRect_eq h, covers_map_ofBox hp hedges, Box.exists_mem_strips hwithin hproper, hi,
      Box.mem_inter]
    simp only [RegionRect.mem_toBox]
    tauto

theorem covers_flatMap_subtractRect {l : List RegionRect} {s : RegionRect} {p : Point}
    (hp : InDomain p) : Covers (l.flatMap (subtractRect · s)) p ↔ Covers l p ∧ p ∉ s := by
  constructor
  · rintro ⟨r, hr, hpr⟩
    obtain ⟨a, ha, hra⟩ := List.mem_flatMap.mp hr
    obtain ⟨hpa, hps⟩ := (covers_subtractRect hp).mp ⟨r, hra, hpr⟩
    exact ⟨⟨a, ha, hpa⟩, hps⟩
  · rintro ⟨⟨a, ha, hpa⟩, hps⟩
    obtain ⟨r, hr, hpr⟩ := (covers_subtractRect hp).mpr ⟨hpa, hps⟩
    exact ⟨r, List.mem_flatMap.mpr ⟨a, ha, hr⟩, hpr⟩

theorem covers_cons {r : RegionRect} {l : List RegionRect} {p : Point} :
    Covers (r :: l) p ↔ p ∈ r ∨ Covers l p := by
  simp [Covers]

theorem covers_append {a b : List RegionRect} {p : Point} :
    Covers (a ++ b) p ↔ Covers a p ∨ Covers b p := by
  simp only [Covers, List.mem_append, or_and_right, exists_or]

theorem not_covers_nil {p : Point} : ¬ Covers [] p := by
  simp [Covers]

theorem covers_subtractRegions {a b : List RegionRect} {p : Point} (hp : InDomain p) :
    Covers (subtractRegions a b) p ↔ Covers a p ∧ ¬ Covers b p := by
  rw [subtractRegions, covers_normalizeRegionRects hp]
  induction b generalizing a with
  | nil => simp [not_covers_nil]
  | cons s b ih =>
    rw [List.foldl_cons, ih, covers_flatMap_subtractRect hp, covers_cons]
    tauto

/-! ## Union -/

theorem covers_uncoveredPieces {pieces l : List RegionRect} {p : Point} (hp : InDomain p) :
    Covers (uncoveredPieces pieces l) p ↔ Covers pieces p ∧ ¬ Covers l p := by
  induction l generalizing pieces with
  | nil => simp [uncoveredPieces, not_covers_nil]
  | cons existing rest ih =>
    have hcut := covers_flatMap_subtractRect (l := pieces) (s := existing) hp
    simp only [uncoveredPieces, List.isEmpty_iff]
    split
    · -- the early exit: every point of the pieces was already covered
      next hnil =>
      rw [hnil] at hcut ⊢
      rw [covers_cons]
      have := not_covers_nil (p := p)
      tauto
    · rw [ih, hcut, covers_cons]
      tauto

theorem covers_unionRegions {a b : List RegionRect} {p : Point} (hp : InDomain p) :
    Covers (unionRegions a b) p ↔ Covers a p ∨ Covers b p := by
  rw [unionRegions, covers_normalizeRegionRects hp]
  induction b generalizing a with
  | nil => simp [not_covers_nil]
  | cons s b ih =>
    rw [List.foldl_cons, ih, covers_append, covers_uncoveredPieces hp, covers_cons, covers_cons]
    have := not_covers_nil (p := p)
    tauto

/-! ## The algebra as a whole -/

/-- What a region operation promises for the set it denotes: it covers exactly
those points of the domain, no point twice, with no empty rectangle. -/
structure Denotes (rects : List RegionRect) (points : Point → Prop) : Prop where
  covers : ∀ p, InDomain p → (Covers rects p ↔ points p)
  disjoint : ∀ p, InDomain p → DisjointAt rects p
  nonempty : ∀ r ∈ rects, r.isEmpty = false

theorem Denotes.of_normalize {rects : List RegionRect} {points : Point → Prop}
    (h : ∀ p, InDomain p → (Covers (normalizeRegionRects rects) p ↔ points p)) :
    Denotes (normalizeRegionRects rects) points :=
  ⟨h, fun _ hp => normalizeRegionRects_disjointAt hp, normalizeRegionRects_nonempty⟩

/-- The region algebra is exact. -/
theorem region_algebra_exact (a b : List RegionRect) :
    Denotes (unionRegions a b) (fun p => Covers a p ∨ Covers b p) ∧
    Denotes (intersectRegions a b) (fun p => Covers a p ∧ Covers b p) ∧
    Denotes (subtractRegions a b) (fun p => Covers a p ∧ ¬ Covers b p) ∧
    Denotes (normalizeRegionRects a) (Covers a) :=
  ⟨.of_normalize fun _ => covers_unionRegions, .of_normalize fun _ => covers_intersectRegions,
    .of_normalize fun _ => covers_subtractRegions,
    .of_normalize fun _ => covers_normalizeRegionRects⟩

/-! ## SHAPE operators -/

namespace Shape

/-- The operators the SHAPE protocol defines. -/
inductive Op where
  | set | union | intersect | subtract | invert
  deriving DecidableEq, Repr

def Op.code : Op → UInt8
  | .set => OP_SET
  | .union => OP_UNION
  | .intersect => OP_INTERSECT
  | .subtract => OP_SUBTRACT
  | .invert => OP_INVERT

/-- The protocol's meaning of an operator at one point, from whether the
current and the source region hold it. -/
def Op.combines : Op → Prop → Prop → Prop
  | .set, _, source => source
  | .union, current, source => current ∨ source
  | .intersect, current, source => current ∧ source
  | .subtract, current, source => current ∧ ¬ source
  | .invert, current, source => source ∧ ¬ current

/-- An operator does at every point of the domain what the protocol says. -/
def Op.Exact (op : Op) (current source : List RegionRect) : Prop :=
  ∀ p, InDomain p →
    (Covers (applyShapeOp current source op.code) p ↔
      op.combines (Covers current p) (Covers source p))

variable (current source : List RegionRect)

theorem Op.Exact.of_ne_invert {op : Op} (h : op ≠ .invert) : op.Exact current source := by
  intro p hp
  cases op with
  | set => exact covers_normalizeRegionRects hp
  | union => exact covers_unionRegions hp
  | intersect => exact covers_intersectRegions hp
  | subtract => exact covers_subtractRegions hp
  | invert => exact absurd rfl h

/-- Invert forgets the current region, so it is exact where there is nothing
to take away. -/
theorem applyShapeOp_exact_iff (op : Op) :
    op.Exact current source ↔
      (op = .invert → ∀ p, InDomain p → ¬ (Covers current p ∧ Covers source p)) := by
  constructor
  · rintro h rfl p hp ⟨hc, hs⟩
    have hcov : Covers (normalizeRegionRects source) p :=
      (covers_normalizeRegionRects hp).mpr hs
    exact ((h p hp).mp hcov).2 hc
  · intro h
    by_cases hop : op = .invert
    · subst hop
      intro p hp
      have hnorm : Covers (normalizeRegionRects source) p ↔ Covers source p :=
        covers_normalizeRegionRects hp
      refine hnorm.trans ⟨fun hs => ⟨hs, fun hc => h rfl p hp ⟨hc, hs⟩⟩, And.left⟩
    · exact .of_ne_invert current source hop

theorem applyShapeOp_invert_not_exact :
    ¬ Op.invert.Exact [⟨0, 0, 1, 1⟩] [⟨0, 0, 1, 1⟩] := by
  intro h
  have := (h (0, 0) (by decide)).mp (by decide)
  exact this.2 (by decide)

end Shape

end X12

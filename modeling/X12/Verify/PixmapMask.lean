import X12.Core.Raster
import X12.Lib.Bits
import X12.Lib.MaximalRuns
import X12.Verify.PolygonFill

/-! # Masks are rasterised to the runs of their bits

A rectangle of a paint may reach past the columns and rows that a rectangle can start at. As
long as no run starts there the rectangles are the runs, and otherwise they are elsewhere. -/

namespace X12

open Boxes (Box)
open MaximalRuns (IsRuns Scanned Starts)

/-! ## The mask -/

namespace ClipMask

variable {mask : ClipMask} {mx my : Int}

/-- The bit of a pixel is set. A mask of depth 8 has a byte for it. -/
def BitSet (mask : ClipMask) (mx my : Nat) : Prop :=
  mask.maskDepth = 1 ∧
      Bits.bitAt mask.maskBytes (8 * (my * mask.maskRowStride.toNat) + mx) = true ∨
    mask.maskDepth = 8 ∧ mask.maskBytes.getD (my * mask.maskRowStride.toNat + mx) 0 ≠ 0

instance (mask : ClipMask) (mx my : Nat) : Decidable (mask.BitSet mx my) :=
  inferInstanceAs (Decidable (_ ∨ _))

/-- The pixel lies inside the mask, and its bit is set. -/
def Has (mask : ClipMask) (mx my : Int) : Prop :=
  (0 ≤ mx ∧ mx < mask.maskWidth.toNat) ∧ (0 ≤ my ∧ my < mask.maskHeight.toNat) ∧
    mask.BitSet mx.toNat my.toNat

instance (mask : ClipMask) (mx my : Int) : Decidable (mask.Has mx my) :=
  inferInstanceAs (Decidable (_ ∧ _))

theorem any_getElem? {bytes : List UInt8} {i : Nat} {p : UInt8 → Bool} (h : p 0 = false) :
    bytes[i]?.any p = p (bytes.getD i 0) := by
  rw [List.getD_eq_getElem?_getD]
  cases bytes[i]? with
  | none => exact h.symm
  | some b => rfl

theorem shiftRight_and_one (b : UInt8) {k : Nat} (hk : k < 8) :
    ((b >>> UInt8.ofNat k) &&& 1 != 0) = b.toNat.testBit k := by
  have hshift : ((b >>> UInt8.ofNat k) &&& 1).toNat = 1 &&& b.toNat >>> k := by
    rw [UInt8.toNat_and, UInt8.toNat_shiftRight, UInt8.toNat_ofNat', Nat.and_comm,
      Nat.mod_eq_of_lt (show k % 2 ^ 8 < 8 by omega), Nat.mod_eq_of_lt (by omega)]
    rfl
  rw [Nat.testBit, ← hshift, Bool.eq_iff_iff, bne_iff_ne, bne_iff_ne, Ne, Ne,
    ← UInt8.toNat_inj]
  rfl

theorem pixelSet_iff : mask.pixelSet mx my = true ↔ mask.Has mx my := by
  rw [pixelSet]
  split
  · next hout =>
    refine iff_of_false Bool.false_ne_true fun hin => ?_
    obtain ⟨hx, hy, -⟩ := hin
    omega
  next hin =>
  rw [Has, and_iff_right (by omega), and_iff_right (by omega), BitSet]
  split
  · next hone =>
    have hcolumn : (8 * (my.toNat * mask.maskRowStride.toNat) + mx.toNat) / 8 =
        my.toNat * mask.maskRowStride.toNat + mx.toNat / 8 := by
      omega
    have hbit : (8 * (my.toNat * mask.maskRowStride.toNat) + mx.toNat) % 8 = mx.toNat % 8 := by
      omega
    have height : mask.maskDepth ≠ 8 := by
      rw [hone]
      decide
    have hlt : mx.toNat % 8 < 8 := Nat.mod_lt _ (by decide)
    rw [any_getElem? (p := fun b => (b >>> UInt8.ofNat (mx.toNat % 8)) &&& 1 != 0)
      ((shiftRight_and_one 0 hlt).trans (Nat.zero_testBit _)), shiftRight_and_one _ hlt,
      Bits.bitAt, hcolumn, hbit]
    simp [hone]
  · next hone =>
    split
    · next height => simp [any_getElem?, height]
    · next height => simp [hone, height]

end ClipMask

/-! ## Runs of a row -/

section

variable {set : Int → Bool} {rx0 rx1 dy : Int}

/-- The columns of a run. -/
def MaskRun.columns (run : MaskRun) : Int × Int := (run.start, run.stop)

/-- The box of a run, before its fields are cut. -/
def MaskRun.toBox (run : MaskRun) : Box Int :=
  ⟨run.start, run.stop, run.row, run.row + 1⟩

theorem intRange_succ {first last : Int} (h : first ≤ last) :
    intRange first (last + 1) = intRange first last ++ [last] := by
  obtain ⟨n, rfl⟩ := Int.le.dest h
  have hsize : (first + n + 1 - first).toNat = n + 1 := by omega
  have hsize' : (first + n - first).toNat = n := by omega
  rw [intRange, intRange, hsize, hsize', List.range_succ, List.map_append]
  rfl

/-- What has been scanned of a row up to a column. -/
def RowScanned (set : Int → Bool) (rx0 x dy : Int) (scan : Option Int × List MaskRun) : Prop :=
  Scanned set rx0 x scan.1 (scan.2.map MaskRun.columns) ∧ ∀ run ∈ scan.2, run.row = dy

theorem maskColumn_scanned {scan : Option Int × List MaskRun} {x : Int}
    (h : RowScanned set rx0 x dy scan) :
    RowScanned set rx0 (x + 1) dy (maskColumn set dy scan x) := by
  obtain ⟨opened, runs⟩ := scan
  obtain ⟨hscanned, hrow⟩ := h
  rw [maskColumn]
  cases hset : set x with
  | true =>
    cases opened with
    | none => exact ⟨hscanned.opens hset, hrow⟩
    | some s => exact ⟨hscanned.goes_on hset, hrow⟩
  | false =>
    cases opened with
    | none => exact ⟨hscanned.stays_idle hset, hrow⟩
    | some s =>
      refine ⟨?_, ?_⟩
      · rw [if_neg Bool.false_ne_true, List.map_append]
        exact hscanned.ends hset
      · intro run hrun
        rcases List.mem_append.mp hrun with hrun | hrun
        · exact hrow run hrun
        · rw [List.mem_singleton.mp hrun]

theorem foldl_scanned (set : Int → Bool) (rx0 dy : Int) (n : Nat) : RowScanned set rx0 (rx0 + n) dy
    ((intRange rx0 (rx0 + n)).foldl (maskColumn set dy) (none, [])) := by
  induction n with
  | zero =>
    rw [Int.natCast_zero, Int.add_zero, intRange, Int.sub_self]
    exact ⟨.start, fun run hrun => by cases hrun⟩
  | succ n ih =>
    rw [Int.natCast_succ, ← Int.add_assoc, intRange_succ (Int.le_add_of_nonneg_right
      (Int.natCast_nonneg n)), List.foldl_append]
    exact maskColumn_scanned ih

/-- The runs of a row are the maximal runs of its set columns. -/
theorem maskRow_isRuns (set : Int → Bool) (dy : Int) (hle : rx0 ≤ rx1) :
    IsRuns set rx0 rx1 ((maskRow set rx0 rx1 dy).map MaskRun.columns) ∧
      ∀ run ∈ maskRow set rx0 rx1 dy, run.row = dy := by
  obtain ⟨n, rfl⟩ := Int.le.dest hle
  obtain ⟨hscanned, hrow⟩ := foldl_scanned set rx0 dy n
  have hfinish := hscanned.finish
  rw [maskRow]
  split
  · next hopened =>
    rw [hopened] at hfinish
    exact ⟨hfinish, hrow⟩
  · next start hopened =>
    rw [hopened] at hfinish
    refine ⟨?_, ?_⟩
    · rw [List.map_append]
      exact hfinish
    · intro run hrun
      rcases List.mem_append.mp hrun with hrun | hrun
      · exact hrow run hrun
      · rw [List.mem_singleton.mp hrun]

/-- The columns of the runs of a row are the set ones. -/
theorem exists_maskRow_iff (set : Int → Bool) (dy : Int) (hle : rx0 ≤ rx1) {p : Point} :
    (∃ run ∈ maskRow set rx0 rx1 dy, p ∈ run.toBox) ↔
      (rx0 ≤ p.1 ∧ p.1 < rx1) ∧ p.2 = dy ∧ set p.1 = true := by
  obtain ⟨hruns, hrow⟩ := maskRow_isRuns set dy hle
  constructor
  · rintro ⟨run, hrun, hcolumn, hrow₁, hrow₂⟩
    have hcolumns := List.mem_map_of_mem (f := MaskRun.columns) hrun
    have hfirst := (hruns.starts _ hcolumns).1
    have hlast := (hruns.bounds _ hcolumns).2
    have hdy := hrow run hrun
    simp only [MaskRun.toBox, MaskRun.columns] at hcolumn hrow₁ hrow₂ hfirst hlast
    refine ⟨⟨by omega, by omega⟩, by omega, ?_⟩
    exact (hruns.mem_iff p.1 (by omega) (by omega)).mpr ⟨_, hcolumns, hcolumn⟩
  · rintro ⟨⟨hfirst, hlast⟩, hdy, hset⟩
    obtain ⟨columns, hcolumns, hcolumn⟩ := (hruns.mem_iff p.1 hfirst hlast).mp hset
    obtain ⟨run, hrun, rfl⟩ := List.mem_map.mp hcolumns
    have hrow := hrow run hrun
    exact ⟨run, hrun, hcolumn, by simp only [MaskRun.toBox]; omega,
      by simp only [MaskRun.toBox]; omega⟩

end

/-! ## Runs of all rows -/

section

variable {paintRects : List Rectangle16} {mask : ClipMask} {clipOrigin : Int16 × Int16}
  {r : Rectangle16} {run : MaskRun} {p : Point}

/-- The mask, moved to the origin of the clip, has the pixel set. -/
def Unmasked (mask : ClipMask) (clipOrigin : Int16 × Int16) (p : Point) : Prop :=
  mask.Has (p.1 - clipOrigin.1.toInt) (p.2 - clipOrigin.2.toInt)

instance (mask : ClipMask) (clipOrigin : Int16 × Int16) (p : Point) :
    Decidable (Unmasked mask clipOrigin p) :=
  inferInstanceAs (Decidable (mask.Has _ _))

/-- The set columns of a row. -/
def rowSet (mask : ClipMask) (clipOrigin : Int16 × Int16) (dy dx : Int) : Bool :=
  mask.pixelSet (dx - clipOrigin.1.toInt) (dy - clipOrigin.2.toInt)

theorem unmasked_iff :
    Unmasked mask clipOrigin p ↔ rowSet mask clipOrigin p.2 p.1 = true :=
  ClipMask.pixelSet_iff.symm

theorem left_le_right (r : RegionRect) : r.left ≤ r.right :=
  Int.le_add_of_nonneg_right (Int.natCast_nonneg _)

theorem mem_maskRuns : run ∈ maskRuns paintRects mask clipOrigin ↔
    ∃ r ∈ paintRects, (r.top ≤ run.row ∧ run.row < r.bottom) ∧
      run ∈ maskRow (rowSet mask clipOrigin run.row) r.left r.right run.row := by
  simp only [maskRuns, List.mem_flatMap, mem_intRange]
  constructor
  · rintro ⟨r, hr, dy, hdy, hrun⟩
    have hrow := (maskRow_isRuns _ _ (left_le_right r)).2 run hrun
    rw [hrow]
    exact ⟨r, hr, hdy, hrun⟩
  · rintro ⟨r, hr, hrow, hrun⟩
    exact ⟨r, hr, run.row, hrow, hrun⟩

/-- The runs are the set pixels of the rectangles. -/
theorem exists_maskRuns_iff : (∃ run ∈ maskRuns paintRects mask clipOrigin, p ∈ run.toBox) ↔
    Covers paintRects p ∧ Unmasked mask clipOrigin p := by
  constructor
  · rintro ⟨run, hrun, hp⟩
    obtain ⟨r, hr, hrow, hrun⟩ := mem_maskRuns.mp hrun
    obtain ⟨hcolumn, hdy, hset⟩ := (exists_maskRow_iff _ _ (left_le_right r)).mp ⟨run, hrun, hp⟩
    rw [← hdy] at hrow hset
    exact ⟨⟨r, hr, hcolumn, hrow⟩, unmasked_iff.mpr hset⟩
  · rintro ⟨⟨r, hr, hcolumn, hrow⟩, hset⟩
    obtain ⟨run, hrun, hp⟩ := (exists_maskRow_iff (rowSet mask clipOrigin p.2) p.2
      (left_le_right r)).mpr ⟨hcolumn, rfl, unmasked_iff.mp hset⟩
    have hdy := (maskRow_isRuns _ _ (left_le_right r)).2 run hrun
    refine ⟨run, mem_maskRuns.mpr ⟨r, hr, ?_, ?_⟩, hp⟩
    · rw [hdy]
      exact hrow
    · rw [hdy]
      exact hrun

/-- Of a rectangle, a set pixel without one on its left. -/
def StartsRun (mask : ClipMask) (clipOrigin : Int16 × Int16) (r : Rectangle16) (p : Point) : Prop :=
  p ∈ r ∧ Unmasked mask clipOrigin p ∧
    ¬ ((p.1 - 1, p.2) ∈ r ∧ Unmasked mask clipOrigin (p.1 - 1, p.2))

theorem starts_iff : StartsRun mask clipOrigin r p ↔
    Starts (rowSet mask clipOrigin p.2) r.left p.1 ∧ p.1 < r.right ∧
      (r.top ≤ p.2 ∧ p.2 < r.bottom) := by
  rw [StartsRun, RegionRect.mem_iff, RegionRect.mem_iff, unmasked_iff, unmasked_iff, Starts]
  cases rowSet mask clipOrigin p.2 (p.1 - 1) with
  | false =>
    simp only [Bool.false_eq_true, and_false, not_false_iff, and_true, or_true]
    tauto
  | true =>
    simp only [and_true, Bool.true_eq_false, or_false]
    constructor
    · rintro ⟨⟨⟨hleft, hright⟩, hrow⟩, hp, hstart⟩
      exact ⟨⟨hleft, hp, by omega⟩, hright, hrow⟩
    · rintro ⟨⟨hleft, hp, hstart⟩, hright, hrow⟩
      exact ⟨⟨⟨hleft, hright⟩, hrow⟩, hp, by omega⟩

/-- Every run starts at a set pixel without one on its left, within its rectangle. -/
theorem startsRun_of_mem (hrun : run ∈ maskRuns paintRects mask clipOrigin) :
    ∃ r ∈ paintRects, StartsRun mask clipOrigin r (run.start, run.row) ∧
      run.start < run.stop ∧ run.stop ≤ r.right := by
  obtain ⟨r, hr, hrow, hrun⟩ := mem_maskRuns.mp hrun
  have hruns := (maskRow_isRuns (rowSet mask clipOrigin run.row) run.row (left_le_right r)).1
  have hcolumns := List.mem_map_of_mem (f := MaskRun.columns) hrun
  obtain ⟨hproper, hright⟩ := hruns.bounds _ hcolumns
  have hstarts := hruns.starts _ hcolumns
  exact ⟨r, hr, starts_iff.mpr ⟨hstarts, hproper.trans_le hright, hrow⟩, hproper, hright⟩

theorem exists_of_startsRun (hr : r ∈ paintRects) (h : StartsRun mask clipOrigin r p) :
    ∃ run ∈ maskRuns paintRects mask clipOrigin, (run.start, run.row) = p := by
  obtain ⟨hstarts, hright, hrow⟩ := starts_iff.mp h
  obtain ⟨hruns, hrows⟩ :=
    maskRow_isRuns (rowSet mask clipOrigin p.2) p.2 (left_le_right r)
  obtain ⟨columns, hcolumns, hstart⟩ := hruns.exists_of_starts hstarts hright
  obtain ⟨run, hrun, rfl⟩ := List.mem_map.mp hcolumns
  have hdy := hrows run hrun
  refine ⟨run, mem_maskRuns.mpr ⟨r, hr, ?_⟩, Prod.ext hstart hdy⟩
  rw [hdy]
  exact ⟨hrow, hrun⟩

/-! ## The fields of the rectangles -/

/-- A column or a row that a rectangle can start at. -/
def MaskRun.Fits (run : MaskRun) : Prop :=
  run.start ≤ 32767 ∧ run.row ≤ 32767

/-- Cut to 16 bits, a number is the same or it is 65536 less. -/
theorem int16_ofInt {n : Int} (hlow : -32768 ≤ n) (hhigh : n ≤ 98303) :
    (Int16.ofInt n).toInt = if n ≤ 32767 then n else n - 65536 := by
  rw [Int16.toInt_ofInt, show Int16.size = 65536 from rfl, Int.bmod_def]
  split <;> split <;> omega

theorem uint16_ofInt {n : Int} (hlow : 0 ≤ n) (hhigh : n ≤ 65535) :
    ((UInt16.ofInt n).toNat : Int) = n := by
  rw [UInt16.ofInt, UInt16.toNat_ofNat', Int.emod_eq_of_lt hlow (by omega),
    Nat.mod_eq_of_lt (by omega), Int.toNat_of_nonneg hlow]

/-- The bounds of a run. -/
theorem bounds_of_mem (hrun : run ∈ maskRuns paintRects mask clipOrigin) :
    (-32768 ≤ run.start ∧ run.start ≤ 98303) ∧ (-32768 ≤ run.row ∧ run.row ≤ 98303) ∧
      0 < run.stop - run.start ∧ run.stop - run.start ≤ 65535 := by
  obtain ⟨r, -, ⟨hp, -⟩, hproper, hright⟩ := startsRun_of_mem hrun
  obtain ⟨⟨hleft, -⟩, htop, hbottom⟩ := RegionRect.mem_iff.mp hp
  have hx := r.left_bounds
  have hy := r.top_bounds
  have hwidth := r.right_bounds
  have hheight := r.bottom_bounds
  refine ⟨⟨?_, ?_⟩, ⟨?_, ?_⟩, ?_, ?_⟩ <;> omega

/-- The edges of the rectangle of a run. -/
theorem toBox_toRect_eq (hrun : run ∈ maskRuns paintRects mask clipOrigin) :
    run.toRect.toBox =
      let x := if run.start ≤ 32767 then run.start else run.start - 65536
      let y := if run.row ≤ 32767 then run.row else run.row - 65536
      ⟨x, x + (run.stop - run.start), y, y + 1⟩ := by
  obtain ⟨⟨hlow, hhigh⟩, ⟨htop, hbottom⟩, hproper, hwidth⟩ := bounds_of_mem hrun
  simp only [RegionRect.toBox, RegionRect.left, RegionRect.right, RegionRect.top,
    RegionRect.bottom, MaskRun.toRect, int16_ofInt hlow hhigh, int16_ofInt htop hbottom,
    uint16_ofInt hproper.le hwidth]
  rfl

theorem toBox_toRect (hrun : run ∈ maskRuns paintRects mask clipOrigin) :
    run.toRect.toBox = run.toBox ↔ run.Fits := by
  rw [toBox_toRect_eq hrun, MaskRun.toBox, Box.mk.injEq, MaskRun.Fits]
  constructor
  · rintro ⟨hx, -, hy, -⟩
    split at hx <;> split at hy <;> omega
  · rintro ⟨hx, hy⟩
    rw [if_pos hx, if_pos hy]
    exact ⟨rfl, by omega, rfl, rfl⟩

/-- The pixel that the rectangle of a run which does not fit starts at is not one of the
mask's: it is 65536 columns or rows from one of them. -/
theorem not_unmasked_of_not_fits (hrun : run ∈ maskRuns paintRects mask clipOrigin)
    (hfits : ¬ run.Fits) :
    ∃ p, p ∈ run.toRect ∧ ¬ Unmasked mask clipOrigin p := by
  obtain ⟨-, -, ⟨-, hset, -⟩, -, -⟩ := startsRun_of_mem hrun
  obtain ⟨⟨hleft, hright⟩, ⟨htop, hbottom⟩, -⟩ := hset
  have hwidth := mask.maskWidth.toNat_lt
  have hheight := mask.maskHeight.toNat_lt
  obtain ⟨-, -, hproper, -⟩ := bounds_of_mem hrun
  refine ⟨(if run.start ≤ 32767 then run.start else run.start - 65536,
    if run.row ≤ 32767 then run.row else run.row - 65536), ?_, ?_⟩
  · rw [← RegionRect.mem_toBox, toBox_toRect_eq hrun]
    exact ⟨⟨Int.le_refl _, by simp only; omega⟩, Int.le_refl _, by simp only; omega⟩
  · intro hset'
    obtain ⟨⟨hleft', -⟩, ⟨htop', -⟩, -⟩ := hset'
    rw [MaskRun.Fits] at hfits
    simp only at hleft hright htop hbottom hleft' htop'
    split at hleft' <;> split at htop' <;> omega

/-! ## The rectangles -/

/-- The rectangles have the pixels of the paint that the mask lets through. -/
def RasterExact (paintRects : List Rectangle16) (mask : ClipMask) (clipOrigin : Int16 × Int16) :
    Prop :=
  ∀ p, Covers (rasterizePixmapMaskToRects paintRects mask clipOrigin) p ↔
    Covers paintRects p ∧ Unmasked mask clipOrigin p

theorem rasterExact_iff : RasterExact paintRects mask clipOrigin ↔
    ∀ run ∈ maskRuns paintRects mask clipOrigin, run.Fits := by
  constructor
  · intro hexact run hrun
    by_contra hfits
    obtain ⟨p, hp, hmasked⟩ := not_unmasked_of_not_fits hrun hfits
    exact hmasked ((hexact p).mp ⟨_, List.mem_map_of_mem hrun, hp⟩).2
  · intro hfits p
    rw [← exists_maskRuns_iff, rasterizePixmapMaskToRects]
    constructor
    · rintro ⟨r, hr, hp⟩
      obtain ⟨run, hrun, rfl⟩ := List.mem_map.mp hr
      rw [← RegionRect.mem_toBox, (toBox_toRect hrun).mpr (hfits run hrun)] at hp
      exact ⟨run, hrun, hp⟩
    · rintro ⟨run, hrun, hp⟩
      refine ⟨_, List.mem_map_of_mem hrun, ?_⟩
      rwa [← RegionRect.mem_toBox, (toBox_toRect hrun).mpr (hfits run hrun)]

theorem fits_iff : (∀ run ∈ maskRuns paintRects mask clipOrigin, run.Fits) ↔
    ∀ r ∈ paintRects, ∀ p, StartsRun mask clipOrigin r p → p.1 ≤ 32767 ∧ p.2 ≤ 32767 := by
  constructor
  · intro hfits r hr p hstarts
    obtain ⟨run, hrun, rfl⟩ := exists_of_startsRun hr hstarts
    exact hfits run hrun
  · intro hstarts run hrun
    obtain ⟨r, hr, hrun, -⟩ := startsRun_of_mem hrun
    exact hstarts r hr _ hrun

/-- The runs of rectangles that share no pixel share none. -/
theorem maskRuns_disjoint (hdisjoint : PixelsOnce paintRects) :
    (maskRuns paintRects mask clipOrigin).Pairwise fun run run' =>
      ∀ p, ¬ (p ∈ run.toBox ∧ p ∈ run'.toBox) := by
  have hrow {r : Rectangle16} {dy : Int} {run : MaskRun} {p : Point}
      (hrun : run ∈ maskRow (rowSet mask clipOrigin dy) r.left r.right dy) (hp : p ∈ run.toBox) :
      (r.left ≤ p.1 ∧ p.1 < r.right) ∧ p.2 = dy := by
    obtain ⟨hcolumn, hdy, -⟩ :=
      (exists_maskRow_iff _ _ (left_le_right r)).mp ⟨run, hrun, hp⟩
    exact ⟨hcolumn, hdy⟩
  refine List.pairwise_flatMap.mpr ⟨fun r _ => List.pairwise_flatMap.mpr ⟨fun dy _ => ?_, ?_⟩, ?_⟩
  · have happart := (maskRow_isRuns (rowSet mask clipOrigin dy) dy (left_le_right r)).1.apart
    refine (List.pairwise_map.mp happart).imp fun {run run'} hle p hboth => ?_
    obtain ⟨⟨⟨-, hbefore⟩, -⟩, ⟨⟨hafter, -⟩, -⟩⟩ := hboth
    exact absurd (hafter.trans_lt hbefore) (Int.not_lt.mpr hle)
  · refine (pairwise_intRange _ _).imp fun {dy dy'} hlt run hrun run' hrun' p hboth => ?_
    have hdy := (hrow hrun hboth.1).2
    have hdy' := (hrow hrun' hboth.2).2
    omega
  · refine List.Pairwise.imp (fun {r r'} hdisjoint run hrun run' hrun' p hboth => ?_) hdisjoint
    obtain ⟨dy, hdy, hrun⟩ := List.mem_flatMap.mp hrun
    obtain ⟨dy', hdy', hrun'⟩ := List.mem_flatMap.mp hrun'
    obtain ⟨hcolumn, rfl⟩ := hrow hrun hboth.1
    obtain ⟨hcolumn', rfl⟩ := hrow hrun' hboth.2
    exact hdisjoint p ⟨⟨hcolumn, mem_intRange.mp hdy⟩, hcolumn', mem_intRange.mp hdy'⟩

theorem rasterize_disjoint (hdisjoint : PixelsOnce paintRects)
    (hfits : ∀ run ∈ maskRuns paintRects mask clipOrigin, run.Fits) :
    PixelsOnce (rasterizePixmapMaskToRects paintRects mask clipOrigin) := by
  refine List.pairwise_map.mpr ((maskRuns_disjoint hdisjoint).imp_of_mem ?_)
  intro run run' hrun hrun' hboth p hp
  rw [← RegionRect.mem_toBox, ← RegionRect.mem_toBox, (toBox_toRect hrun).mpr (hfits run hrun),
    (toBox_toRect hrun').mpr (hfits run' hrun')] at hp
  exact hboth p hp

/-! ## Rectangles clipped to an image -/

theorem toBox_clipped {x1 y1 x2 y2 : Int} (hx : 0 ≤ x1 ∧ x1 ≤ 32767) (hy : 0 ≤ y1 ∧ y1 ≤ 32767)
    (hwidth : 0 ≤ x2 - x1 ∧ x2 - x1 ≤ 65535) (hheight : 0 ≤ y2 - y1 ∧ y2 - y1 ≤ 65535) :
    RegionRect.toBox ⟨Int16.ofInt x1, Int16.ofInt y1, UInt16.ofInt (x2 - x1),
      UInt16.ofInt (y2 - y1)⟩ = ⟨x1, x2, y1, y2⟩ := by
  simp only [RegionRect.toBox, RegionRect.left, RegionRect.right, RegionRect.top,
    RegionRect.bottom, uint16_ofInt hwidth.1 hwidth.2, uint16_ofInt hheight.1 hheight.2]
  rw [int16_ofInt (by omega) (by omega), int16_ofInt (by omega) (by omega), if_pos hx.2,
    if_pos hy.2, add_sub_cancel, add_sub_cancel]

theorem clipRectToImage_eq (iw ih : Int) (r : Rectangle16) :
    (clipRectToImage iw ih r).map RegionRect.toBox =
      if (r.toBox.inter ⟨0, iw, 0, ih⟩).Proper then some (r.toBox.inter ⟨0, iw, 0, ih⟩)
      else none := by
  have hx := r.left_bounds
  have hy := r.top_bounds
  have hwidth := r.right_bounds
  have hheight := r.bottom_bounds
  have hproper : (r.toBox.inter ⟨0, iw, 0, ih⟩).Proper ↔
      ¬ (min r.right iw ≤ max r.left 0 ∨ min r.bottom ih ≤ max r.top 0) := by
    rw [not_or, not_le, not_le]
    exact Iff.rfl
  rw [clipRectToImage]
  split
  · next hempty => rw [if_neg fun h => hproper.mp h hempty, Option.map_none]
  · next hinside =>
    rw [if_pos (hproper.mpr hinside), Option.map_some, toBox_clipped ⟨by omega, by omega⟩
      ⟨by omega, by omega⟩ ⟨by omega, by omega⟩ ⟨by omega, by omega⟩]
    rfl

/-- Clipping is the intersection with the image, and nothing is cut off of a field. -/
theorem toBox_clipRectsToImage (rects : List Rectangle16) (iw ih : Int) :
    (clipRectsToImage rects iw ih).map RegionRect.toBox =
      (rects.map fun r => r.toBox.inter ⟨0, iw, 0, ih⟩).filter fun b => b.Proper := by
  rw [clipRectsToImage, List.map_filterMap, List.filter_map, ← List.filterMap_eq_map,
    ← List.filterMap_eq_filter, List.filterMap_filterMap]
  refine List.filterMap_congr fun r _ => ?_
  rw [clipRectToImage_eq]
  by_cases hproper : (r.toBox.inter ⟨0, iw, 0, ih⟩).Proper
  · simp [hproper]
  · simp [hproper, Option.guard]

end

/-- The rectangles are exactly the pixels of the paint that the mask lets through, each once if
each is painted once, and with no field cut off, if and only if no run of set pixels starts
right of column 32767 or below row 32767. Clipping rectangles to an image never cuts off a
field. -/
theorem rasterizePixmapMaskToRects_exact_iff (paintRects : List Rectangle16) (mask : ClipMask)
    (clipOrigin : Int16 × Int16) :
    ((RasterExact paintRects mask clipOrigin ∧
        (PixelsOnce paintRects →
          PixelsOnce (rasterizePixmapMaskToRects paintRects mask clipOrigin)) ∧
        ∀ run ∈ maskRuns paintRects mask clipOrigin, run.toRect.toBox = run.toBox) ↔
      ∀ r ∈ paintRects, ∀ p, StartsRun mask clipOrigin r p → p.1 ≤ 32767 ∧ p.2 ≤ 32767) ∧
    ∀ rects iw ih, (clipRectsToImage rects iw ih).map RegionRect.toBox =
      (rects.map fun r => r.toBox.inter ⟨0, iw, 0, ih⟩).filter fun b => b.Proper := by
  refine ⟨?_, toBox_clipRectsToImage⟩
  rw [rasterExact_iff, ← fits_iff]
  constructor
  · exact fun h => h.1
  · exact fun hfits => ⟨hfits, fun hdisjoint => rasterize_disjoint hdisjoint hfits,
      fun run hrun => (toBox_toRect hrun).mpr (hfits run hrun)⟩

/-- The second pixel of the paint is at column 32768, and its rectangle at column -32768. -/
theorem rasterizePixmapMaskToRects_wraps :
    let paintRects : List Rectangle16 := [⟨32767, 0, 2, 1⟩]
    let mask : ClipMask := ⟨[2], 2, 1, 1, 1⟩
    Covers paintRects (32768, 0) ∧ Unmasked mask (32767, 0) (32768, 0) ∧
      rasterizePixmapMaskToRects paintRects mask (32767, 0) = [⟨-32768, 0, 1, 1⟩] := by
  decide

end X12

import X12.Core.Bitmap
import X12.Verify.Region

/-! # Bitmaps as regions

Both loops cut a list into stretches, the pixels of a row and the rows of the
bitmap, and each pixel is counted in one run of one band. The fields of a
rectangle are narrowed at the end, which moves what lies at 32768 and beyond to
negative coordinates and nothing else. -/

namespace X12

open Stretches

variable {bytes row : List UInt8} {w h x y : Nat} {run next : UInt32 × UInt32}
  {band : Stretch (List (UInt32 × UInt32))}

/-- A run covers a column of its row. -/
def RunCovers (run : UInt32 × UInt32) (x : Nat) : Prop :=
  run.1.toNat ≤ x ∧ x < run.1.toNat + run.2.toNat

instance (run : UInt32 × UInt32) (x : Nat) : Decidable (RunCovers run x) :=
  inferInstanceAs (Decidable (_ ∧ _))

/-- The bands of a bitmap: they follow one another, the rectangles of one have the
same top and height and a clear pixel before the next, and two that touch have
different runs. -/
structure BandsExact (bytes : List UInt8) (w : Nat)
    (bands : List (Stretch (List (UInt32 × UInt32)))) : Prop where
  proper : ∀ band ∈ bands, band.value ≠ [] ∧ 0 < band.size
  ordered : bands.Pairwise fun band next => band.start + band.size ≤ next.start
  level : ∀ band ∈ bands, ∀ r ∈ bitmapBandRects band,
    r.y = Int16.ofNat band.start ∧ r.height = UInt16.ofNat band.size
  separated : ∀ band ∈ bands, band.value.Pairwise fun run next =>
    run.1.toNat + run.2.toNat < next.1.toNat ∧
      ∀ y, band.Covers y → bytes[y * w + (run.1.toNat + run.2.toNat)]? = some 0
  adjacent : ∀ band ∈ bands, ∀ next ∈ bands, band.start + band.size = next.start →
    band.value ≠ next.value

/-! ## Rows -/

theorem getElem?_bitmapRow (hx : x < w) : (bitmapRow bytes w y)[x]? = bytes[y * w + x]? := by
  rw [bitmapRow, List.getElem?_take_of_lt hx, List.getElem?_drop]

theorem length_bitmapRow_le : (bitmapRow bytes w y).length ≤ w :=
  List.length_take_le ..

section

variable (hlen : row.length ≤ 65535)

include hlen

/-- The numbers of a run are small enough for their type. -/
theorem toNat_run {s : Stretch UInt8}
    (hs : Maximal (· ≠ 0) (fun _ pixel => pixel ≠ 0) row s) :
    (UInt32.ofNat s.start).toNat = s.start ∧ (UInt32.ofNat s.size).toNat = s.size := by
  have hend := hs.end_le
  exact ⟨UInt32.toNat_ofNat_of_lt' (Nat.lt_of_le_of_lt (by omega) (by decide : 65535 < 2 ^ 32)),
    UInt32.toNat_ofNat_of_lt' (Nat.lt_of_le_of_lt (by omega) (by decide : 65535 < 2 ^ 32))⟩

theorem countP_rowRuns :
    (rowRuns row).countP (fun run => RunCovers run x) = if row[x]?.any (· ≠ 0) then 1 else 0 := by
  have hcut := stretchesFrom_cut (· ≠ 0) (fun _ pixel => pixel ≠ 0) row 0
  rw [← hcut.countP_covers (fun _ _ _ h => h) (Nat.zero_le x), rowRuns, List.countP_map]
  refine List.countP_congr fun s hs => ?_
  obtain ⟨hstart, hsize⟩ := toNat_run hlen (hcut.maximal hs)
  rw [Function.comp_apply, decide_eq_true_iff, decide_eq_true_iff, RunCovers, hstart, hsize]
  rfl

theorem end_le_of_mem_rowRuns (hrun : run ∈ rowRuns row) :
    run.1.toNat + run.2.toNat ≤ row.length := by
  have hcut := stretchesFrom_cut (· ≠ 0) (fun _ pixel => pixel ≠ 0) row 0
  obtain ⟨s, hs, rfl⟩ := List.mem_map.mp hrun
  obtain ⟨hstart, hsize⟩ := toNat_run hlen (hcut.maximal hs)
  rw [hstart, hsize]
  exact (hcut.maximal hs).end_le

/-- After a run there is a clear pixel before the next one. -/
theorem pairwise_rowRuns : (rowRuns row).Pairwise fun run next =>
    run.1.toNat + run.2.toNat < next.1.toNat ∧
      row[run.1.toNat + run.2.toNat]? = some 0 := by
  have hcut := stretchesFrom_cut (· ≠ 0) (fun _ pixel => pixel ≠ 0) row 0
  refine List.pairwise_map.mpr (hcut.pairwise.imp_of_mem fun {s t} hs ht hst => ?_)
  have hmax := hcut.maximal hs
  have hmax' := hcut.maximal ht
  obtain ⟨hstart, hsize⟩ := toNat_run hlen hmax
  rw [hstart, hsize, (toNat_run hlen hmax').1]
  have hkeep := hmax'.keep
  have hlt : s.start + s.size < t.start := by
    refine Nat.lt_of_le_of_ne hst fun heq => ?_
    have := hmax.same_eq_false hmax' heq
    rw [hkeep] at this
    cases this
  have hinside : s.start + s.size < row.length := by
    have hend := hmax'.end_le
    omega
  have hstop := hmax.stop (List.getElem?_eq_getElem hinside)
  refine ⟨hlt, ?_⟩
  rw [List.getElem?_eq_getElem hinside]
  simpa using hstop

end

/-! ## Bands -/

theorem getElem?_bitmapRowRuns {runs : List (UInt32 × UInt32)} :
    (bitmapRowRuns bytes w h)[y]? = some runs ↔ y < h ∧ runs = rowRuns (bitmapRow bytes w y) := by
  by_cases hy : y < h
  · simp [bitmapRowRuns, hy, eq_comm]
  · simp [bitmapRowRuns, hy]

section

variable (hband : band ∈ bitmapBands bytes w h)

theorem bitmapBands_cut (bytes : List UInt8) (w h : Nat) :
    Cut (fun runs => !runs.isEmpty) (fun runs next => next == runs) (bitmapRowRuns bytes w h) 0
      (bitmapBands bytes w h) :=
  stretchesFrom_cut ..

include hband

/-- All rows of a band have its runs. -/
theorem value_of_covers (hy : band.Covers y) :
    y < h ∧ band.value = rowRuns (bitmapRow bytes w y) := by
  obtain ⟨runs, hruns, hor⟩ := ((bitmapBands_cut bytes w h).maximal hband).covered hy
  have hvalue : runs = band.value := by
    rcases hor with heq | hsame
    · exact heq
    · exact eq_of_beq hsame
  exact getElem?_bitmapRowRuns.mp (hvalue ▸ hruns)

theorem band_end_le : band.start + band.size ≤ h := by
  have hend := ((bitmapBands_cut bytes w h).maximal hband).end_le
  rwa [bitmapRowRuns, List.length_map, List.length_range] at hend

theorem band_covers_start : band.Covers band.start :=
  ⟨Nat.le_refl _, Nat.lt_add_of_pos_right ((bitmapBands_cut bytes w h).maximal hband).pos⟩

end

/-- Narrowing the fields of a rectangle does not change which of the points below
32768 it contains. -/
theorem mem_narrowed {start size k : Nat} (hk : k < 32768) (hend : start + size ≤ 65535) :
    (Int16.ofNat start).toInt ≤ (k : Int) ∧
      (k : Int) < (Int16.ofNat start).toInt + (UInt16.ofNat size).toNat ↔
    start ≤ k ∧ k < start + size := by
  have hsize : (UInt16.ofNat size).toNat = size := UInt16.toNat_ofNat_of_lt' (by
    show size < 65536
    omega)
  have hstart : (Int16.ofNat start).toInt =
      if start < 32768 then (start : Int) else start - 65536 := by
    rw [Int16.toInt_ofNat', Int.bmod_def]
    simp only [Int16.size]
    split <;> split <;> omega
  rw [hstart, hsize]
  split <;> omega

/-- A band counts a pixel as often as its runs count the column, if it covers the row. -/
theorem countP_bitmapBandRects (hw : w ≤ 65535) (hh : h ≤ 65535)
    (hband : band ∈ bitmapBands bytes w h) (hx : x < 32768) (hy : y < 32768) :
    (bitmapBandRects band).countP (fun r => ((x, y) : Point) ∈ r) =
      if band.Covers y then (rowRuns (bitmapRow bytes w y)).countP (fun run => RunCovers run x)
      else 0 := by
  have hend := band_end_le hband
  have hmem : ∀ run ∈ band.value, (((x, y) : Point) ∈ (⟨Int16.ofNat run.1.toNat,
      Int16.ofNat band.start, UInt16.ofNat run.2.toNat, UInt16.ofNat band.size⟩ : RegionRect)) ↔
        RunCovers run x ∧ band.Covers y := fun run hrun => by
    have hrow := (value_of_covers hband (band_covers_start hband)).2
    have hrun_end := end_le_of_mem_rowRuns (Nat.le_trans length_bitmapRow_le hw) (hrow ▸ hrun)
    have hrow_len : (bitmapRow bytes w band.start).length ≤ w := length_bitmapRow_le
    rw [RegionRect.mem_iff]
    exact and_congr (mem_narrowed hx (by omega)) (mem_narrowed hy (by omega))
  rw [bitmapBandRects, List.countP_map]
  by_cases hcovers : band.Covers y
  · rw [if_pos hcovers, ← (value_of_covers hband hcovers).2]
    refine List.countP_congr fun run hrun => ?_
    simpa [hcovers] using hmem run hrun
  · rw [if_neg hcovers]
    refine List.countP_eq_zero.mpr fun run hrun => ?_
    simpa [hcovers] using hmem run hrun

theorem sum_map_ite {α : Type*} (p : α → Bool) (c : Nat) (l : List α) :
    (l.map fun a => if p a then c else 0).sum = l.countP p * c := by
  induction l with
  | nil => simp
  | cons a l ih =>
    rw [List.map_cons, List.sum_cons, ih, List.countP_cons]
    split <;> simp [Nat.add_mul, Nat.add_comm]

theorem countP_bitmapBands (hw : w ≤ 65535) (hh : h ≤ 65535) (hxw : x < w) (hyh : y < h)
    (hx : x < 32768) (hy : y < 32768) :
    ((bitmapBands bytes w h).flatMap bitmapBandRects).countP (fun r => ((x, y) : Point) ∈ r) =
      if bytes[y * w + x]?.any (· ≠ 0) then 1 else 0 := by
  have hcolumn : (rowRuns (bitmapRow bytes w y)).countP (fun run => RunCovers run x) =
      if bytes[y * w + x]?.any (· ≠ 0) then 1 else 0 := by
    rw [countP_rowRuns (Nat.le_trans length_bitmapRow_le hw), getElem?_bitmapRow hxw]
  have hrow : (bitmapBands bytes w h).countP (fun band => band.Covers y) =
      if rowRuns (bitmapRow bytes w y) = [] then 0 else 1 := by
    rw [(bitmapBands_cut bytes w h).countP_covers (fun runs next hkeep hsame => ?_)
      (Nat.zero_le y), getElem?_bitmapRowRuns.mpr ⟨hyh, rfl⟩]
    · simp
    · rwa [eq_of_beq hsame]
  have hterm : ∀ band ∈ bitmapBands bytes w h,
      (bitmapBandRects band).countP (fun r => ((x, y) : Point) ∈ r) =
        if decide (band.Covers y) = true then
          (rowRuns (bitmapRow bytes w y)).countP (fun run => RunCovers run x)
        else 0 := fun band hband => by
    rw [countP_bitmapBandRects hw hh hband hx hy]
    simp
  calc ((bitmapBands bytes w h).flatMap bitmapBandRects).countP (fun r => ((x, y) : Point) ∈ r)
      = (bitmapBands bytes w h).countP (fun band => band.Covers y) *
          (rowRuns (bitmapRow bytes w y)).countP (fun run => RunCovers run x) := by
        rw [List.countP_flatMap, ← sum_map_ite]
        exact congrArg List.sum (List.map_congr_left hterm)
    _ = if bytes[y * w + x]?.any (· ≠ 0) then 1 else 0 := by
        rw [hrow, ← hcolumn]
        split
        next hnil => simp [hnil]
        next => rw [Nat.one_mul]

theorem pairwise_band (hw : w ≤ 65535) (hband : band ∈ bitmapBands bytes w h)
    (hy : band.Covers y) : band.value.Pairwise fun run next =>
      run.1.toNat + run.2.toNat < next.1.toNat ∧
        bytes[y * w + (run.1.toNat + run.2.toNat)]? = some 0 := by
  rw [(value_of_covers hband hy).2]
  refine (pairwise_rowRuns (Nat.le_trans length_bitmapRow_le hw)).imp fun ⟨hlt, hclear⟩ => ?_
  have hinside := (List.getElem?_eq_some_iff.mp hclear).1
  rw [getElem?_bitmapRow (Nat.lt_of_lt_of_le hinside length_bitmapRow_le)] at hclear
  exact ⟨hlt, hclear⟩

theorem bandsExact_bitmapBands (hw : w ≤ 65535) :
    BandsExact bytes w (bitmapBands bytes w h) where
  proper band hband := by
    have hmax := (bitmapBands_cut bytes w h).maximal hband
    exact ⟨by simpa using hmax.keep, hmax.pos⟩
  ordered := (bitmapBands_cut bytes w h).pairwise
  level band _ r hr := by
    obtain ⟨run, -, rfl⟩ := List.mem_map.mp hr
    exact ⟨rfl, rfl⟩
  separated band hband := by
    refine List.pairwise_iff_getElem.mpr fun i j hi hj hij => ⟨?_, fun y hy => ?_⟩
    · have hstart := pairwise_band hw hband (band_covers_start hband)
      exact (List.pairwise_iff_getElem.mp hstart i j hi hj hij).1
    · exact (List.pairwise_iff_getElem.mp (pairwise_band hw hband hy) i j hi hj hij).2
  adjacent band hband next hnext htouch hvalue := by
    have hcut := bitmapBands_cut bytes w h
    have hdiffer := (hcut.maximal hband).same_eq_false (hcut.maximal hnext) htouch
    rw [hvalue, beq_self_eq_true] at hdiffer
    cases hdiffer

/-- Each pixel below 32768 is in one rectangle if its byte is not 0 and else in none,
and the rectangles form bands. -/
theorem bitmapToYxBandedRects_exact (bytes : List UInt8) (width height : UInt32)
    (hw : width.toNat ≤ 65535) (hh : height.toNat ≤ 65535)
    (hlen : width.toNat * height.toNat ≤ bytes.length) :
    (∀ (x y : Nat) (b : UInt8), x < width.toNat → y < height.toNat → x < 32768 → y < 32768 →
      bytes[y * width.toNat + x]? = some b →
      (b ≠ 0 ↔ (bitmapToYxBandedRects bytes width height).countP
        (fun r => ((x, y) : Point) ∈ r) = 1) ∧
      (b = 0 ↔ (bitmapToYxBandedRects bytes width height).countP
        (fun r => ((x, y) : Point) ∈ r) = 0)) ∧
    ∃ bands, bitmapToYxBandedRects bytes width height = bands.flatMap bitmapBandRects ∧
      BandsExact bytes width.toNat bands := by
  rw [bitmapToYxBandedRects]
  by_cases hempty : width.toNat = 0 ∨ height.toNat = 0
  · rw [if_pos (by omega)]
    refine ⟨fun x y b hxw hyh => ?_, [], rfl, nofun, .nil, nofun, nofun, nofun⟩
    omega
  · rw [if_neg (by omega)]
    refine ⟨fun x y b hxw hyh hx hy hb => ?_, _, rfl, bandsExact_bitmapBands hw⟩
    rw [countP_bitmapBands hw hh hxw hyh hx hy, hb]
    by_cases hzero : b = 0
    · simp [hzero]
    · simp [hzero]

/-- A cross of five pixels. -/
theorem bitmapToYxBandedRects_exact_cross :
    (∀ (x y : Nat) (b : UInt8), x < 3 → y < 3 → x < 32768 → y < 32768 →
      [0, 1, 0, 1, 1, 1, 0, 1, 0][y * 3 + x]? = some b →
      (b ≠ 0 ↔ (bitmapToYxBandedRects [0, 1, 0, 1, 1, 1, 0, 1, 0] 3 3).countP
        (fun r => ((x, y) : Point) ∈ r) = 1) ∧
      (b = 0 ↔ (bitmapToYxBandedRects [0, 1, 0, 1, 1, 1, 0, 1, 0] 3 3).countP
        (fun r => ((x, y) : Point) ∈ r) = 0)) ∧
    ∃ bands, bitmapToYxBandedRects [0, 1, 0, 1, 1, 1, 0, 1, 0] 3 3 =
        bands.flatMap bitmapBandRects ∧
      BandsExact [0, 1, 0, 1, 1, 1, 0, 1, 0] 3 bands :=
  bitmapToYxBandedRects_exact [0, 1, 0, 1, 1, 1, 0, 1, 0] 3 3 (by decide) (by decide) (by decide)

example : bitmapToYxBandedRects [0, 1, 0, 1, 1, 1, 0, 1, 0] 3 3 =
    [⟨1, 0, 1, 1⟩, ⟨0, 1, 3, 1⟩, ⟨1, 2, 1, 1⟩] := by
  decide +kernel

end X12

import X12.Verify.Xybitmap

/-! # Regions of shared images

The pixels of a region are those of the image in the segment. The bytes that are checked
are those of its rows; a region without pixels has no bytes, and its rows are checked. -/

namespace X12

open Bits

/-- The arguments of `extractShmZpixmapRegion`. -/
structure ShmRegion where
  bytes : List UInt8
  offset : UInt32
  totalWidth : UInt16
  totalHeight : UInt16
  srcX : Int16
  srcY : Int16
  srcWidth : UInt16
  srcHeight : UInt16
  depth : UInt8

namespace ShmRegion

def extract (r : ShmRegion) : Option Cow :=
  extractShmZpixmapRegion r.bytes r.offset r.totalWidth r.totalHeight r.srcX r.srcY r.srcWidth
    r.srcHeight r.depth

variable (r : ShmRegion)

def left : Nat := r.srcX.toInt.toNat

def top : Nat := r.srcY.toInt.toNat

def totalStride : Nat := zpixmapStride r.totalWidth r.depth

def srcStride : Nat := zpixmapStride r.srcWidth r.depth

/-- Where a row of the image starts in the segment. -/
def imageRow (y : Nat) : Nat := r.offset.toNat + y * r.totalStride

def srcXBytes : Nat := r.left * bitsPerPixel r.depth / 8

def rowBytes : Nat := divCeil (r.srcWidth.toNat * bitsPerPixel r.depth) 8

/-- The first pixel of a row starts a byte. -/
def Aligned : Prop := 8 ∣ r.srcX.toInt * bitsPerPixel r.depth

/-- The region lies in the image. -/
structure InImage : Prop where
  left : 0 ≤ r.srcX.toInt
  top : 0 ≤ r.srcY.toInt
  right : r.srcX.toInt + r.srcWidth.toNat ≤ r.totalWidth.toNat
  bottom : r.srcY.toInt + r.srcHeight.toNat ≤ r.totalHeight.toNat

/-- The last byte of every pixel lies in the segment. -/
def PixelsFit : Prop :=
  ∀ x < r.srcWidth.toNat, ∀ y < r.srcHeight.toNat,
    r.imageRow (r.top + y) +
      ((r.left + x) * bitsPerPixel r.depth + (bitsPerPixel r.depth - 1)) / 8 < r.bytes.length

/-- Where the bytes of a row of the region start. -/
def rowStart (y : Nat) : Nat := r.imageRow (r.top + y) + r.srcXBytes

/-- The whole image is wanted, and its rows are not padded. -/
def fullFrame : Bool :=
  shmFullFrame r.totalWidth r.totalHeight r.left r.top r.srcWidth r.srcHeight r.srcStride r.rowBytes

/-- The offsets that are computed lie in the segment. -/
def OffsetsFit : Prop :=
  if r.fullFrame then r.offset.toNat + r.srcStride * r.srcHeight.toNat ≤ r.bytes.length
  else ∀ y < r.srcHeight.toNat, r.rowStart y + r.rowBytes ≤ r.bytes.length

/-- The slow path. -/
def rows : Option (List UInt8) :=
  extractShmRows r.bytes r.offset.toNat r.totalStride r.srcStride r.srcXBytes r.rowBytes r.top
    r.srcHeight

variable {r}

/-! ## Sizes -/

theorem pixels_le_rowBytes : r.srcWidth.toNat * bitsPerPixel r.depth ≤ 8 * r.rowBytes := by
  rw [rowBytes, Nat.mul_comm 8]
  exact le_divCeil_mul (by decide)

theorem rowBytes_lt_pixels : 8 * r.rowBytes ≤ r.srcWidth.toNat * bitsPerPixel r.depth + 7 := by
  rw [rowBytes, divCeil]
  split <;> omega

theorem rowBytes_le_srcStride : r.rowBytes ≤ r.srcStride := by
  have hpixels := pixels_le_stride r.srcWidth r.depth
  have hrow := r.rowBytes_lt_pixels
  rw [srcStride]
  omega

theorem shmRowBytes_eq (hdepth : r.depth ∈ zpixmapDepths) :
    shmRowBytes r.srcWidth r.depth = some r.rowBytes := by
  have hwidth := r.srcWidth.toNat_lt
  have hword : divCeil (r.srcWidth.toNat * 32) 8 = r.srcWidth.toNat * 4 := by
    rw [divCeil]
    split <;> omega
  have hmul : checkedMul r.srcWidth.toNat 4 = some (divCeil (r.srcWidth.toNat * 32) 8) := by
    rw [hword]
    refine checkedMul_eq ?_
    rw [USIZE_MAX]
    omega
  rw [rowBytes]
  generalize r.depth = depth at hdepth
  simp only [zpixmapDepths, List.mem_cons, List.not_mem_nil, or_false] at hdepth
  rcases hdepth with rfl | rfl | rfl | rfl | rfl
  · change some (divCeil _ 8) = some (divCeil (_ * 1) 8)
    rw [Nat.mul_one]
  · change some (divCeil _ 2) = some (divCeil (_ * 4) 8)
    rw [divCeil, divCeil]
    congr 1
    split <;> split <;> omega
  · change some _ = some (divCeil (_ * 8) 8)
    rw [divCeil]
    congr 1
    split <;> omega
  · exact hmul
  · exact hmul

/-- The pixels left of the region fill whole bytes. -/
theorem Aligned.left_mul (h : r.Aligned) (hin : r.InImage) :
    8 * r.srcXBytes = r.left * bitsPerPixel r.depth := by
  have hleft : (r.left : Int) = r.srcX.toInt := Int.toNat_of_nonneg hin.left
  rw [Aligned, ← hleft] at h
  have h : 8 ∣ r.left * bitsPerPixel r.depth := Int.natCast_dvd_natCast.mp h
  exact Nat.mul_div_cancel' h

theorem shmSrcXBytes_eq (hdepth : r.depth ∈ zpixmapDepths) (h : r.Aligned) (hin : r.InImage) :
    shmSrcXBytes r.left r.depth = some r.srcXBytes := by
  have haligned := h.left_mul hin
  have hleft : r.left ≤ 65536 := by
    have hright := hin.right
    have hwidth := r.totalWidth.toNat_lt
    rw [left]
    omega
  have hmul : checkedMul r.left 4 = some (r.left * 4) := by
    refine checkedMul_eq ?_
    rw [USIZE_MAX]
    omega
  rw [srcXBytes] at haligned ⊢
  generalize r.depth = depth at hdepth haligned
  simp only [zpixmapDepths, List.mem_cons, List.not_mem_nil, or_false] at hdepth
  rcases hdepth with rfl | rfl | rfl | rfl | rfl
  · change 8 * (r.left * 1 / 8) = r.left * 1 at haligned
    change (if r.left % 8 ≠ 0 then none else some (r.left / 8)) = some (r.left * 1 / 8)
    rw [if_neg (by omega), Nat.mul_one]
  · change 8 * (r.left * 4 / 8) = r.left * 4 at haligned
    change (if r.left % 2 ≠ 0 then none else some (r.left / 2)) = some (r.left * 4 / 8)
    rw [if_neg (by omega)]
    congr 1
    omega
  · change some r.left = some (r.left * 8 / 8)
    rw [Nat.mul_div_cancel _ (by decide)]
  · refine hmul.trans (congrArg some ?_)
    change r.left * 4 = r.left * 32 / 8
    omega
  · refine hmul.trans (congrArg some ?_)
    change r.left * 4 = r.left * 32 / 8
    omega

/-! ## The slow path -/

/-- A row of the region, with its padding. -/
def outRow (r : ShmRegion) (y : Nat) : List UInt8 :=
  (r.bytes.drop (r.rowStart y)).take r.rowBytes ++ List.replicate (r.srcStride - r.rowBytes) 0

/-- A loop that appends and gives up where a check fails. -/
theorem foldlM_append {α : Type} {check : α → Prop} [DecidablePred check]
    {piece : α → List UInt8} {step : List UInt8 → α → Option (List UInt8)} {js : List α}
    (hstep : ∀ j ∈ js, ∀ out, step out j = if check j then some (out ++ piece j) else none)
    (out : List UInt8) :
    js.foldlM step out = if ∀ j ∈ js, check j then some (out ++ js.flatMap piece) else none := by
  induction js generalizing out with
  | nil => simp
  | cons j js ih =>
    have ih := ih fun j hj => hstep j (List.mem_cons_of_mem _ hj)
    rw [List.foldlM_cons, hstep j List.mem_cons_self]
    by_cases hj : check j
    · rw [if_pos hj, Option.bind_eq_bind, Option.bind_some, ih, List.flatMap_cons, List.append_assoc]
      simp only [List.forall_mem_cons, hj, true_and]
    · rw [if_neg hj, if_neg fun hall => hj (hall j List.mem_cons_self)]
      rfl

/-- Nothing overflows: the segment ends are less than 2 ^ 35. -/
theorem rowStart_le (hdepth : r.depth ∈ zpixmapDepths) (hin : r.InImage) {y : Nat}
    (hy : y < r.srcHeight.toNat) :
    (r.top + y) * r.totalStride ≤ 2 ^ 34 ∧ r.srcXBytes ≤ 2 ^ 18 ∧ r.rowBytes ≤ 2 ^ 18 := by
  have htop : r.top + y ≤ 65536 := by
    have htop := hin.top
    have hbottom := hin.bottom
    have hheight := r.totalHeight.toNat_lt
    rw [top]
    omega
  have hbits := (bitsPerPixel_bounds r.depth hdepth).2
  have hleft : r.left ≤ 65536 := by
    have hright := hin.right
    have hwidth := r.totalWidth.toNat_lt
    rw [left]
    omega
  refine ⟨?_, ?_, ?_⟩
  · exact Nat.le_trans (Nat.mul_le_mul htop (zpixmapStride_le r.totalWidth hdepth)) (by decide)
  · have hmul : r.left * bitsPerPixel r.depth ≤ 65536 * 32 := Nat.mul_le_mul hleft hbits
    rw [srcXBytes]
    omega
  · exact Nat.le_trans rowBytes_le_srcStride (zpixmapStride_le r.srcWidth hdepth)

theorem extractShmRow_eq (hdepth : r.depth ∈ zpixmapDepths) (hin : r.InImage) {y : Nat}
    (hy : y < r.srcHeight.toNat) (out : List UInt8) :
    extractShmRow r.bytes r.offset.toNat r.totalStride r.srcStride r.srcXBytes r.rowBytes r.top out
        y =
      if r.rowStart y + r.rowBytes ≤ r.bytes.length then some (out ++ r.outRow y) else none := by
  obtain ⟨hoffset, hleft, hsize⟩ := rowStart_le hdepth hin hy
  have hbase := r.offset.toNat_lt
  have hfits {a b : Nat} (h : a + b ≤ 2 ^ 36) : checkedAdd a b = some (a + b) :=
    checkedAdd_eq (Nat.le_trans h (by decide))
  have hmul : checkedMul (r.top + y) r.totalStride = some ((r.top + y) * r.totalStride) :=
    checkedMul_eq (Nat.le_trans hoffset (by decide))
  have hrow : r.top + y ≤ 2 ^ 36 := by
    have htop := hin.top
    have hbottom := hin.bottom
    have hheight := r.totalHeight.toNat_lt
    rw [top]
    omega
  rw [extractShmRow, hfits hrow]
  simp only [Option.bind_eq_bind, Option.bind_some, hmul]
  rw [hfits (by omega), Option.bind_some, hfits (by omega), Option.bind_some, hfits (by omega),
    Option.bind_some, Nat.add_sub_cancel_left, ← ite_not]
  simp only [Nat.not_lt]
  rw [outRow, ← List.append_assoc]
  rfl

theorem rows_eq (hdepth : r.depth ∈ zpixmapDepths) (hin : r.InImage) :
    r.rows = if ∀ y ∈ List.range r.srcHeight.toNat, r.rowStart y + r.rowBytes ≤ r.bytes.length then
        some ((List.range r.srcHeight.toNat).flatMap r.outRow)
      else none :=
  foldlM_append (fun _ hy out => extractShmRow_eq hdepth hin (List.mem_range.mp hy) out) []

/-! ## The region -/

theorem not_neg_iff : ¬ (r.srcX < 0 ∨ r.srcY < 0) ↔ 0 ≤ r.srcX.toInt ∧ 0 ≤ r.srcY.toInt := by
  rw [not_or, Int16.lt_iff_toInt_lt, Int16.lt_iff_toInt_lt, Int.not_lt, Int.not_lt]
  rfl

theorem checkedAddU32_eq (v : Int16) (size : UInt16) :
    checkedAddU32 v.toInt.toNat size.toNat = some (v.toInt.toNat + size.toNat) := by
  have hpos := v.toInt_lt
  have hsize := size.toNat_lt
  refine if_pos ?_
  rw [U32_MAX]
  omega

theorem extract_of_not_inImage (h : ¬ r.InImage) : r.extract = none := by
  rw [extract, extractShmZpixmapRegion]
  split
  · rfl
  next hneg =>
  obtain ⟨hx, hy⟩ := not_neg_iff.mp hneg
  dsimp only
  rw [checkedAddU32_eq, checkedAddU32_eq]
  simp only [Option.bind_eq_bind, Option.bind_some]
  rw [if_pos]
  by_contra hinside
  exact h ⟨hx, hy, by omega, by omega⟩

theorem extract_eq (hdepth : r.depth ∈ zpixmapDepths) (haligned : r.Aligned) (hin : r.InImage) :
    r.extract =
      if r.fullFrame then
        if r.bytes.length < r.offset.toNat + r.srcStride * r.srcHeight.toNat then none
        else some (.Borrowed
          ((r.bytes.drop r.offset.toNat).take (r.srcStride * r.srcHeight.toNat)))
      else Cow.Owned <$> r.rows := by
  obtain ⟨hleft, htop, hright, hbottom⟩ := id hin
  have hbase := r.offset.toNat_lt
  have hrow : r.rowBytes ≤ zpixmapStride r.srcWidth r.depth := r.rowBytes_le_srcStride
  have hx : shmSrcXBytes r.srcX.toInt.toNat r.depth = _ := shmSrcXBytes_eq hdepth haligned hin
  have hsize : r.srcStride * r.srcHeight.toNat ≤ 2 ^ 34 := by
    have hheight := r.srcHeight.toNat_lt
    exact Nat.le_trans (Nat.mul_le_mul (zpixmapStride_le r.srcWidth hdepth)
      (by omega : r.srcHeight.toNat ≤ 65536)) (by decide)
  have hmul : checkedMul (zpixmapStride r.srcWidth r.depth) r.srcHeight.toNat =
      some (r.srcStride * r.srcHeight.toNat) :=
    checkedMul_eq (Nat.le_trans hsize (by decide))
  have hadd : checkedAdd r.offset.toNat (r.srcStride * r.srcHeight.toNat) =
      some (r.offset.toNat + r.srcStride * r.srcHeight.toNat) :=
    checkedAdd_eq (by rw [USIZE_MAX]; omega)
  rw [extract, extractShmZpixmapRegion, if_neg (not_neg_iff.mpr ⟨hleft, htop⟩)]
  dsimp only
  rw [checkedAddU32_eq, checkedAddU32_eq]
  simp only [Option.bind_eq_bind, Option.bind_some]
  rw [if_neg (by omega), zpixmapRowStride_eq hdepth, zpixmapRowStride_eq hdepth, hx,
    shmRowBytes_eq hdepth]
  simp only [Option.bind_some]
  rw [if_neg (Nat.not_lt.mpr hrow), hmul]
  simp only [Option.bind_some]
  rw [hadd]
  simp only [Option.bind_some, Nat.add_sub_cancel_left]
  rw [Option.map_eq_map, Option.map_eq_bind]
  rfl

/-! ## The fast path -/

theorem flatMap_take_drop (l : List UInt8) (size n : Nat) :
    (List.range n).flatMap (fun y => (l.drop (y * size)).take size) = l.take (n * size) := by
  induction n with
  | zero => rw [Nat.zero_mul, List.take_zero, List.range_zero, List.flatMap_nil]
  | succ n ih =>
    rw [List.range_succ, List.flatMap_append, List.flatMap_singleton, ih, Nat.add_mul, Nat.one_mul,
      List.take_add]

theorem fullFrame_rowStart (hfull : r.fullFrame = true) (y : Nat) :
    r.rowStart y = r.offset.toNat + y * r.srcStride := by
  obtain ⟨hleft, htop, hwidth, -, -⟩ := of_decide_eq_true hfull
  rw [rowStart, imageRow, srcXBytes, hleft, htop, totalStride, srcStride, hwidth, Nat.zero_mul,
    Nat.zero_add, Nat.zero_div, Nat.add_zero]

theorem fullFrame_rowBytes (hfull : r.fullFrame = true) : r.rowBytes = r.srcStride :=
  (of_decide_eq_true hfull).2.2.2.2

/-- The rows of the whole image lie in the segment if its end does. -/
theorem fullFrame_rows_fit (hfull : r.fullFrame = true)
    (hfit : r.offset.toNat + r.srcStride * r.srcHeight.toNat ≤ r.bytes.length) {y : Nat}
    (hy : y < r.srcHeight.toNat) : r.rowStart y + r.rowBytes ≤ r.bytes.length := by
  have hle : (y + 1) * r.srcStride ≤ r.srcHeight.toNat * r.srcStride := Nat.mul_le_mul_right _ hy
  rw [Nat.add_mul, Nat.one_mul] at hle
  rw [Nat.mul_comm] at hfit
  rw [fullFrame_rowStart hfull, fullFrame_rowBytes hfull]
  omega

/-- The whole image is its rows. -/
theorem rows_of_fullFrame (hdepth : r.depth ∈ zpixmapDepths) (hin : r.InImage)
    (hfull : r.fullFrame = true)
    (hfit : r.offset.toNat + r.srcStride * r.srcHeight.toNat ≤ r.bytes.length) :
    r.rows = some ((r.bytes.drop r.offset.toNat).take (r.srcStride * r.srcHeight.toNat)) := by
  have hrow : r.outRow = fun y => ((r.bytes.drop r.offset.toNat).drop (y * r.srcStride)).take
      r.srcStride := by
    funext y
    rw [outRow, fullFrame_rowStart hfull, fullFrame_rowBytes hfull, Nat.sub_self,
      List.replicate_zero, List.append_nil, List.drop_drop]
  rw [rows_eq hdepth hin, if_pos fun y hy => fullFrame_rows_fit hfull hfit (List.mem_range.mp hy),
    hrow, flatMap_take_drop, Nat.mul_comm]

/-! ## Pixels -/

/-- The region, row by row. -/
theorem rows_of_extract (hdepth : r.depth ∈ zpixmapDepths) (haligned : r.Aligned) {out : Cow}
    (h : r.extract = some out) : r.InImage ∧ r.rows = some out.bytes := by
  by_cases hin : r.InImage
  · rw [extract_eq hdepth haligned hin] at h
    refine ⟨hin, ?_⟩
    split at h
    · next hfull =>
      split at h
      · cases h
      · next hfit =>
        cases h
        exact rows_of_fullFrame hdepth hin hfull (Nat.not_lt.mp hfit)
    · obtain ⟨bytes, hrows, rfl⟩ := Option.map_eq_some_iff.mp h
      exact hrows
  · rw [extract_of_not_inImage hin] at h
    cases h

theorem length_outRow {y : Nat} (hfit : r.rowStart y + r.rowBytes ≤ r.bytes.length) :
    (r.outRow y).length = r.srcStride := by
  have hle := r.rowBytes_le_srcStride
  rw [outRow, List.length_append, List.length_take, List.length_drop, List.length_replicate]
  omega

/-- A bit of a row of the region is one of the image. -/
theorem bitAt_outRow {y i : Nat} (hfit : r.rowStart y + r.rowBytes ≤ r.bytes.length)
    (hi : i < 8 * r.rowBytes) : bitAt (r.outRow y) i = bitAt r.bytes (8 * r.rowStart y + i) := by
  have hlength : ((r.bytes.drop (r.rowStart y)).take r.rowBytes).length = r.rowBytes := by
    rw [List.length_take, List.length_drop]
    omega
  rw [outRow, bitAt_append, hlength, if_pos hi, bitAt_take hi, bitAt_drop]

/-- What the region has to be. -/
structure Copied (r : ShmRegion) (out : List UInt8) : Prop where
  length : out.length = r.srcHeight.toNat * r.srcStride
  pixels : ∀ x < r.srcWidth.toNat, ∀ y < r.srcHeight.toNat,
    readZpixmapPixel out (y * r.srcStride) r.depth x =
      readZpixmapPixel r.bytes (r.imageRow (r.top + y)) r.depth (r.left + x)

theorem Copied.of_rows (hdepth : r.depth ∈ zpixmapDepths) (haligned : r.Aligned) (hin : r.InImage)
    {out : List UInt8} (h : r.rows = some out) : r.Copied out := by
  rw [rows_eq hdepth hin] at h
  split at h
  · next hall =>
    cases h
    have hall : ∀ y < r.srcHeight.toNat, r.rowStart y + r.rowBytes ≤ r.bytes.length :=
      fun y hy => hall y (List.mem_range.mpr hy)
    have hsize : ∀ y < r.srcHeight.toNat, (r.outRow y).length = r.srcStride :=
      fun y hy => length_outRow (hall y hy)
    refine ⟨length_rows hsize, fun x hx y hy => ?_⟩
    · refine UInt32.toNat_inj.mp (Nat.eq_of_testBit_eq fun k => ?_)
      rw [readZpixmapPixel_testBit hdepth, readZpixmapPixel_testBit hdepth]
      by_cases hk : k < bitsPerPixel r.depth
      · have hpixels := r.pixels_le_rowBytes
        have hfit := pixel_le_stride hx r.depth
        have hstride : r.srcStride = zpixmapStride r.srcWidth r.depth := rfl
        have hx : (x + 1) * bitsPerPixel r.depth ≤ r.srcWidth.toNat * bitsPerPixel r.depth :=
          Nat.mul_le_mul_right _ hx
        rw [Nat.add_mul, Nat.one_mul] at hx
        have hleft := haligned.left_mul hin
        rw [Nat.add_assoc, bitAt_rows hy (by omega) hsize, bitAt_outRow (hall y hy) (by omega),
          rowStart, Nat.add_mul]
        congr 2
        omega
      · rw [decide_eq_false hk, Bool.false_and, Bool.false_and]
  · cases h

/-! ## What has to be in the segment -/

/-- The pixels of a row with pixels end where its bytes do. -/
theorem lastPixel (haligned : r.Aligned) (hin : r.InImage) (hdepth : r.depth ∈ zpixmapDepths)
    (hwidth : 0 < r.srcWidth.toNat) :
    ((r.left + (r.srcWidth.toNat - 1)) * bitsPerPixel r.depth + (bitsPerPixel r.depth - 1)) / 8 + 1 =
      r.srcXBytes + r.rowBytes := by
  have hbits := (bitsPerPixel_bounds r.depth hdepth).1
  have hleft := haligned.left_mul hin
  have hlow := r.pixels_le_rowBytes
  have hhigh := r.rowBytes_lt_pixels
  obtain ⟨w, hw⟩ := Nat.exists_eq_add_of_lt hwidth
  rw [Nat.zero_add] at hw
  rw [hw, Nat.add_mul, Nat.one_mul] at hlow hhigh
  rw [hw, Nat.add_sub_cancel, Nat.add_mul, ← hleft]
  omega

theorem pixelsFit_iff (hdepth : r.depth ∈ zpixmapDepths) (haligned : r.Aligned) (hin : r.InImage)
    (hwidth : 0 < r.srcWidth.toNat) :
    r.PixelsFit ↔ ∀ y < r.srcHeight.toNat, r.rowStart y + r.rowBytes ≤ r.bytes.length := by
  have hlast := lastPixel haligned hin hdepth hwidth
  constructor
  · intro h y hy
    have hlt := h (r.srcWidth.toNat - 1) (by omega) y hy
    rw [rowStart]
    omega
  · intro h x hx y hy
    have hend := h y hy
    have hle : (r.left + x) * bitsPerPixel r.depth ≤
        (r.left + (r.srcWidth.toNat - 1)) * bitsPerPixel r.depth :=
      Nat.mul_le_mul_right _ (by omega)
    have hdiv := Nat.div_le_div_right (c := 8) (Nat.add_le_add_right hle (bitsPerPixel r.depth - 1))
    rw [rowStart] at hend
    omega

theorem isSome_extract_iff (hdepth : r.depth ∈ zpixmapDepths) (haligned : r.Aligned) :
    r.extract.isSome = true ↔ r.InImage ∧ r.OffsetsFit := by
  by_cases hin : r.InImage
  · rw [extract_eq hdepth haligned hin, OffsetsFit, and_iff_right hin]
    split
    · split
      · next hlt => exact iff_of_false Bool.false_ne_true (Nat.not_le.mpr hlt)
      · next hle => exact iff_of_true rfl (Nat.not_lt.mp hle)
    · rw [Option.map_eq_map, Option.isSome_map, rows_eq hdepth hin]
      simp only [List.mem_range]
      split
      · next hall => exact iff_of_true rfl hall
      · next hall => exact iff_of_false Bool.false_ne_true hall
  · rw [extract_of_not_inImage hin]
    exact iff_of_false Bool.false_ne_true fun h => hin h.1

/-- The offsets of a region with pixels are those of its pixels. -/
theorem offsetsFit_iff (hdepth : r.depth ∈ zpixmapDepths) (haligned : r.Aligned) (hin : r.InImage)
    (hwidth : 0 < r.srcWidth.toNat) (hheight : 0 < r.srcHeight.toNat) :
    r.OffsetsFit ↔ r.PixelsFit := by
  rw [pixelsFit_iff hdepth haligned hin hwidth, OffsetsFit]
  split
  · next hfull =>
    refine ⟨fun hfit y => fullFrame_rows_fit hfull hfit, fun hall => ?_⟩
    have hlast := hall (r.srcHeight.toNat - 1) (by omega)
    obtain ⟨h, hh⟩ := Nat.exists_eq_add_of_lt hheight
    rw [Nat.zero_add] at hh
    rw [fullFrame_rowStart hfull, fullFrame_rowBytes hfull, hh, Nat.add_sub_cancel] at hlast
    rw [hh, Nat.mul_comm, Nat.add_mul, Nat.one_mul]
    omega
  · rfl

/-- The region has the pixels of the image, on both paths, where its offsets lie in the
segment. -/
theorem extract_exact (hdepth : r.depth ∈ zpixmapDepths) (haligned : r.Aligned) :
    (r.extract.isSome = true ↔ r.InImage ∧ r.OffsetsFit) ∧
    (r.InImage → 0 < r.srcWidth.toNat → 0 < r.srcHeight.toNat → (r.OffsetsFit ↔ r.PixelsFit)) ∧
    (∀ out, r.extract = some out → r.Copied out.bytes) ∧
    ∀ out, r.extract = some (.Borrowed out) → r.rows = some out := by
  refine ⟨isSome_extract_iff hdepth haligned, offsetsFit_iff hdepth haligned, fun out hout => ?_,
    fun out hout => (rows_of_extract hdepth haligned hout).2⟩
  obtain ⟨hin, hrows⟩ := rows_of_extract hdepth haligned hout
  exact .of_rows hdepth haligned hin hrows

/-- Two rows of two pixels, the second of which are wanted. -/
def secondColumn : ShmRegion :=
  { bytes := (List.range 20).map UInt8.ofNat
    offset := 4
    totalWidth := 2
    totalHeight := 2
    srcX := 1
    srcY := 0
    srcWidth := 1
    srcHeight := 2
    depth := 32 }

theorem extract_exact_secondColumn :
    secondColumn.extract = some (.Owned [8, 9, 10, 11, 16, 17, 18, 19]) ∧
      secondColumn.Copied [8, 9, 10, 11, 16, 17, 18, 19] :=
  ⟨by decide, (extract_exact (r := secondColumn) (by decide) ⟨4, rfl⟩).2.2.1
    (.Owned [8, 9, 10, 11, 16, 17, 18, 19]) (by decide)⟩

/-- No pixels are wanted, of an image of which only the first row is in the segment. -/
def emptyColumn : ShmRegion :=
  { secondColumn with srcWidth := 0, srcHeight := 1, srcY := 1, bytes := List.replicate 12 0 }

/-- The region lies in the image, and there is no byte that it needs. -/
theorem emptyColumn_refused :
    emptyColumn.depth ∈ zpixmapDepths ∧ emptyColumn.Aligned ∧ emptyColumn.InImage ∧
      emptyColumn.PixelsFit ∧ emptyColumn.extract = none := by
  refine ⟨by decide, ⟨4, rfl⟩, ⟨by decide, by decide, by decide, by decide⟩, fun x hx => ?_,
    by decide⟩
  cases hx

end ShmRegion

end X12

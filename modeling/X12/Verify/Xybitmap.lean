import X12.Verify.Zpixmap

/-! # XYBitmap expansion

Every bit of the bitmap becomes a pixel, the foreground or the background, and the padding
of the rows is zero. -/

namespace X12

open Bits

/-! ## Bitmaps -/

/-- The bytes of a row of a bitmap, with its padding. -/
def xybitmapStride (width : UInt16) (leftPad : UInt8) : Nat :=
  divCeil (width.toNat + leftPad.toNat) 32 * 4

/-- The bit of a pixel of a bitmap. -/
def xybitmapPixel (data : List UInt8) (width : UInt16) (leftPad : UInt8) (x y : Nat) : Bool :=
  bitAt data (8 * (y * xybitmapStride width leftPad) + (leftPad.toNat + x))

/-- The low bits of a value, as many as the depth has. -/
def lowBits (depth : UInt8) (value : UInt32) : UInt32 :=
  UInt32.ofNat (value.toNat % 2 ^ depth.toNat)

/-- What the bits of a bitmap become. -/
def expandedPixel (data : List UInt8) (width : UInt16) (leftPad depth : UInt8) (fg bg : UInt32)
    (x y : Nat) : UInt32 :=
  lowBits depth (if xybitmapPixel data width leftPad x y then fg else bg)

/-- The image of a bitmap. -/
structure Expansion (data : List UInt8) (width height : UInt16) (leftPad depth : UInt8)
    (fg bg : UInt32) (out : List UInt8) : Prop where
  length : out.length = zpixmapStride width depth * height.toNat
  pixels : ∀ x < width.toNat, ∀ y < height.toNat,
    readZpixmapPixel out (y * zpixmapStride width depth) depth x =
      expandedPixel data width leftPad depth fg bg x y
  padding : ∀ y < height.toNat, ∀ i, width.toNat * bitsPerPixel depth ≤ i →
    i < 8 * zpixmapStride width depth → bitAt out (8 * (y * zpixmapStride width depth) + i) = false

/-! ## The mask of a depth -/

theorem toNat_depthPlaneMask (depth : UInt8) :
    (depthPlaneMask depth).toNat = 2 ^ min depth.toNat 32 - 1 := by
  rw [depthPlaneMask]
  by_cases hdepth : 32 ≤ depth
  · have hle : 32 ≤ depth.toNat := UInt8.le_iff_toNat_le.mp hdepth
    rw [if_pos hdepth, Nat.min_eq_right hle]
    rfl
  · have hlt : depth.toNat < 32 := Nat.lt_of_not_le fun h => hdepth (UInt8.le_iff_toNat_le.mpr h)
    have hshift : ((1 : UInt32) <<< depth.toUInt32).toNat = 2 ^ depth.toNat := by
      rw [UInt32.toNat_shiftLeft, UInt8.toNat_toUInt32, Nat.mod_eq_of_lt hlt,
        Nat.shiftLeft_eq, show (1 : UInt32).toNat = 1 from rfl, Nat.one_mul]
      exact Nat.mod_eq_of_lt (Nat.pow_lt_pow_right (by decide) hlt)
    have hone : (1 : UInt32) ≤ 1 <<< depth.toUInt32 := by
      rw [UInt32.le_iff_toNat_le, hshift]
      exact Nat.one_le_two_pow
    rw [if_neg hdepth, UInt32.toNat_sub_of_le _ _ hone, hshift, Nat.min_eq_left (by omega)]
    rfl

/-- The mask of a depth keeps the low bits. -/
theorem and_depthPlaneMask (depth : UInt8) (value : UInt32) :
    value &&& depthPlaneMask depth = lowBits depth value := by
  refine UInt32.toNat_inj.mp (Nat.eq_of_testBit_eq fun k => ?_)
  have hvalue : value.toNat % 2 ^ depth.toNat < 2 ^ 32 :=
    Nat.lt_of_le_of_lt (Nat.mod_le ..) value.toNat_lt
  rw [UInt32.toNat_and, toNat_depthPlaneMask, lowBits, UInt32.toNat_ofNat_of_lt' hvalue,
    Nat.testBit_and, Nat.testBit_two_pow_sub_one, Nat.testBit_mod_two_pow, Bool.and_comm]
  by_cases hk : k < 32
  · congr 1
    rw [decide_eq_decide]
    omega
  · have hzero : value.toNat.testBit k = false := Nat.testBit_lt_two_pow
      (Nat.lt_of_lt_of_le value.toNat_lt (Nat.pow_le_pow_right (by decide) (Nat.le_of_not_lt hk)))
    rw [hzero, Bool.and_false, Bool.and_false]

/-! ## Reading the bitmap -/

variable {data : List UInt8} {width height : UInt16} {leftPad depth : UInt8} {fg bg : UInt32}

theorem xybitmapBit_eq {srcRow : List UInt8} {i : Nat} (h : i < 8 * srcRow.length) :
    xybitmapBit srcRow i = .ok (bitAt srcRow i) := by
  have hbyte : i / 8 < srcRow.length := by omega
  have hshift : (UInt8.ofNat (i % 8)).toNat % 8 = i % 8 := by
    rw [UInt8.toNat_ofNat']
    omega
  have hbit (byte : UInt8) : decide ((byte >>> UInt8.ofNat (i % 8)) &&& 1 ≠ 0) =
      byte.toNat.testBit (i % 8) := by
    rw [Nat.testBit_eq_decide_div_mod_eq, decide_eq_decide, ← Nat.mod_two_ne_zero, not_iff_not,
      ← UInt8.toNat_inj, UInt8.toNat_and, UInt8.toNat_shiftRight, hshift,
      Nat.shiftRight_eq_div_pow]
    change _ &&& 1 = 0 ↔ _
    rw [Nat.and_one_is_mod]
  rw [xybitmapBit, indexByte, if_pos hbyte]
  exact congrArg Except.ok (hbit _)

/-- A row of the bitmap. -/
theorem byteRange_row {stride y : Nat} (h : stride * height.toNat ≤ data.length)
    (hy : y < height.toNat) :
    ∃ srcRow, byteRange data (y * stride) ((y + 1) * stride) = .ok srcRow ∧
      srcRow.length = stride ∧
      ∀ i < 8 * stride, bitAt srcRow i = bitAt data (8 * (y * stride) + i) := by
  have hle : (y + 1) * stride ≤ stride * height.toNat := by
    rw [Nat.mul_comm stride]
    exact Nat.mul_le_mul_right _ hy
  rw [Nat.add_mul, Nat.one_mul] at hle ⊢
  refine ⟨(data.drop (y * stride)).take stride, ?_, ?_, fun i hi => ?_⟩
  · rw [byteRange, if_pos ⟨by omega, by omega⟩, Nat.add_sub_cancel_left]
  · rw [List.length_take, List.length_drop]
    omega
  · rw [bitAt_take hi, bitAt_drop]

/-- The bits of a row are within it. -/
theorem bit_lt_stride (leftPad : UInt8) {x : Nat} (hx : x < width.toNat) :
    leftPad.toNat + x < 8 * xybitmapStride width leftPad := by
  have hle := le_divCeil_mul (a := width.toNat + leftPad.toNat) (by decide : 0 < 32)
  rw [xybitmapStride]
  omega

/-! ## Sizes -/

theorem xybitmapStride_le (width : UInt16) (leftPad : UInt8) :
    xybitmapStride width leftPad ≤ 65536 := by
  have hwidth := width.toNat_lt
  have hpad := leftPad.toNat_lt
  have hle := divCeil_mul_le (width.toNat + leftPad.toNat) 32
  rw [xybitmapStride]
  omega

theorem zpixmapStride_le (width : UInt16) (hdepth : depth ∈ zpixmapDepths) :
    zpixmapStride width depth ≤ 2 ^ 18 := by
  have hwidth := width.toNat_lt
  have hbits := (bitsPerPixel_bounds depth hdepth).2
  have hrow : width.toNat * bitsPerPixel depth ≤ 65535 * 32 := Nat.mul_le_mul (by omega) hbits
  have hle := divCeil_mul_le (width.toNat * bitsPerPixel depth) 32
  rw [zpixmapStride]
  omega

theorem image_le_max {stride : Nat} (height : UInt16) (hstride : stride ≤ 2 ^ 18) :
    stride * height.toNat ≤ USIZE_MAX := by
  have hheight := height.toNat_lt
  have hle : stride * height.toNat ≤ 2 ^ 18 * 65536 := Nat.mul_le_mul hstride (by omega)
  exact Nat.le_trans hle (by decide)

theorem bitsPerRow_eq :
    checkedAdd width.toNat leftPad.toNat = some (width.toNat + leftPad.toNat) := by
  have hwidth := width.toNat_lt
  have hpad := leftPad.toNat_lt
  refine checkedAdd_eq ?_
  rw [USIZE_MAX]
  omega

theorem srcRowStride_eq : checkedMul (divCeil (width.toNat + leftPad.toNat) 32) 4 =
    some (xybitmapStride width leftPad) :=
  checkedMul_eq (Nat.le_trans (xybitmapStride_le width leftPad) (by decide))

theorem srcLen_eq : checkedMul (xybitmapStride width leftPad) height.toNat =
    some (xybitmapStride width leftPad * height.toNat) :=
  checkedMul_eq
    (image_le_max height (Nat.le_trans (xybitmapStride_le width leftPad) (by decide)))

theorem dstLen_eq (hdepth : depth ∈ zpixmapDepths) :
    checkedMul (zpixmapStride width depth) height.toNat =
      some (zpixmapStride width depth * height.toNat) :=
  checkedMul_eq (image_le_max height (zpixmapStride_le width hdepth))

theorem xybitmapExpectedLen_eq : xybitmapExpectedLen width height leftPad =
    some (xybitmapStride width leftPad * height.toNat) := by
  rw [xybitmapExpectedLen, bitsPerRow_eq]
  change (checkedMul _ _ >>= fun stride => _) = _
  rw [srcRowStride_eq]
  exact srcLen_eq

/-! ## The loops -/

/-- The rows of an image. -/
theorem row_le_length {stride y : Nat} (hy : y < height.toNat) :
    (y + 1) * stride ≤ stride * height.toNat := by
  rw [Nat.mul_comm stride]
  exact Nat.mul_le_mul_right _ hy

theorem xybitmapTargetRow_paints {stride y : Nat} {bytes : List UInt8}
    (hdepth : depth ∈ zpixmapDepths) (hstride : stride = zpixmapStride width depth)
    (hlen : xybitmapStride width leftPad * height.toNat ≤ data.length) (hy : y < height.toNat)
    (hbytes : bytes.length = stride * height.toNat) :
    ∃ next, xybitmapTargetRow data (xybitmapStride width leftPad) width.toNat leftPad.toNat depth
        (fg &&& depthPlaneMask depth) (bg &&& depthPlaneMask depth) bytes y = .ok next ∧
      Paints (fun i => ∃ x ∈ List.range width.toNat, PixelBits (y * stride) depth x i)
        (pictureBits stride depth (expandedPixel data width leftPad depth fg bg)) bytes next := by
  subst hstride
  obtain ⟨srcRow, hrow, hsrc, hbits⟩ := byteRange_row hlen hy
  rw [xybitmapTargetRow, hrow]
  refine Paints.foldlM (fun x hx bytes hbytes => ?_) hbytes
  have hx : x < width.toNat := List.mem_range.mp hx
  have hbit := bit_lt_stride leftPad hx
  rw [xybitmapBit_eq (hsrc ▸ hbit), hbits _ hbit]
  refine writeZpixmapPixel_paints hdepth (zpixmapRowStride_eq hdepth) (pixel_le_stride hx depth)
    (hbytes ▸ row_le_length hy) fun k hk => ?_
  rw [pictureBits_pixel _ (pixel_le_stride hx depth) hk, expandedPixel, ← and_depthPlaneMask,
    xybitmapPixel]
  split <;> rfl

/-- The loop over the rows paints the pixels. -/
theorem xybitmapTargetRows_paints (hdepth : depth ∈ zpixmapDepths)
    (hlen : xybitmapStride width leftPad * height.toNat ≤ data.length) :
    ∃ out, (List.range height.toNat).foldlM (xybitmapTargetRow data (xybitmapStride width leftPad)
        width.toNat leftPad.toNat depth (fg &&& depthPlaneMask depth) (bg &&& depthPlaneMask depth))
        (List.replicate (zpixmapStride width depth * height.toNat) 0) = .ok out ∧
      Paints (fun i => ∃ y ∈ List.range height.toNat, ∃ x ∈ List.range width.toNat,
          PixelBits (y * zpixmapStride width depth) depth x i)
        (pictureBits (zpixmapStride width depth) depth
          (expandedPixel data width leftPad depth fg bg))
        (List.replicate (zpixmapStride width depth * height.toNat) 0) out :=
  Paints.foldlM
    (fun _ hy _ hbytes => xybitmapTargetRow_paints hdepth rfl hlen (List.mem_range.mp hy) hbytes)
    (List.length_replicate ..)

/-- The sizes are those of the images, and nothing overflows. -/
theorem xybitmapToTargetZpixmap_eq (hdepth : depth ∈ zpixmapDepths) :
    xybitmapToTargetZpixmap data width height leftPad depth fg bg =
      if data.length < xybitmapStride width leftPad * height.toNat then .ok none
      else some <$> (List.range height.toNat).foldlM
        (xybitmapTargetRow data (xybitmapStride width leftPad) width.toNat leftPad.toNat depth
          (fg &&& depthPlaneMask depth) (bg &&& depthPlaneMask depth))
        (List.replicate (zpixmapStride width depth * height.toNat) 0) := by
  rw [xybitmapToTargetZpixmap, bitsPerRow_eq]
  dsimp only
  rw [srcRowStride_eq]
  dsimp only
  rw [srcLen_eq]
  dsimp only
  rw [zpixmapRowStride_eq hdepth]
  dsimp only
  rw [dstLen_eq hdepth]
  dsimp only
  rw [bind_pure_comp]
  rfl

theorem mem_zpixmapDepths_one : (1 : UInt8) ∈ zpixmapDepths :=
  List.mem_cons_self

theorem xybitmapToZpixmap_eq :
    xybitmapToZpixmap data width height leftPad =
      if data.length < xybitmapStride width leftPad * height.toNat then .ok none
      else some <$> (List.range height.toNat).foldlM
        (xybitmapRow data (xybitmapStride width leftPad) (zpixmapStride width 1) width.toNat
          leftPad.toNat)
        (List.replicate (zpixmapStride width 1 * height.toNat) 0) := by
  rw [xybitmapToZpixmap, bitsPerRow_eq]
  dsimp only
  rw [srcRowStride_eq]
  dsimp only
  rw [srcLen_eq]
  dsimp only
  rw [zpixmapRowStride_eq mem_zpixmapDepths_one]
  dsimp only
  rw [dstLen_eq mem_zpixmapDepths_one]
  dsimp only
  rw [bind_pure_comp]
  rfl

/-! ## The image -/

theorem testBit_depthPlaneMask {k : Nat} (hdepth : depth ∈ zpixmapDepths)
    (hk : bitsPerPixel depth ≤ k) : (depthPlaneMask depth).toNat.testBit k = false := by
  have hmask : ∀ depth ∈ zpixmapDepths,
      (depthPlaneMask depth).toNat < 2 ^ bitsPerPixel depth :=
    forall_zpixmapDepths (by decide) (by decide) (by decide) (by decide) (by decide)
  exact Nat.testBit_lt_two_pow
    (Nat.lt_of_lt_of_le (hmask depth hdepth) (Nat.pow_le_pow_right (by decide) hk))

/-- A bit of the padding belongs to no pixel. -/
theorem not_pixelBits_of_padding {y y' x' i : Nat} (hx : x' < width.toNat)
    (hle : width.toNat * bitsPerPixel depth ≤ i) (hlt : i < 8 * zpixmapStride width depth) :
    ¬ PixelBits (y' * zpixmapStride width depth) depth x'
      (8 * (y * zpixmapStride width depth) + i) := by
  rintro ⟨hstart, hstop⟩
  have hfit := pixel_le_stride hx depth
  have hpixels : x' * bitsPerPixel depth + bitsPerPixel depth ≤ width.toNat * bitsPerPixel depth := by
    have hmul : (x' + 1) * bitsPerPixel depth ≤ width.toNat * bitsPerPixel depth :=
      Nat.mul_le_mul_right _ hx
    rwa [Nat.add_mul, Nat.one_mul] at hmul
  -- the bit is in the row of the pixel
  obtain ⟨a, ha⟩ := Nat.exists_eq_add_of_le (Nat.le_of_add_right_le hstart)
  have hrow := row_div_mod (y := y) hlt
  have hrow' := row_div_mod (y := y') (by omega : a < 8 * zpixmapStride width depth)
  rw [← ha, hrow.2] at hrow'
  omega

theorem Expansion.of_paints {out : List UInt8} (hdepth : depth ∈ zpixmapDepths)
    (h : Paints (fun i => ∃ y ∈ List.range height.toNat, ∃ x ∈ List.range width.toNat,
        PixelBits (y * zpixmapStride width depth) depth x i)
      (pictureBits (zpixmapStride width depth) depth
        (expandedPixel data width leftPad depth fg bg))
      (List.replicate (zpixmapStride width depth * height.toNat) 0) out) :
    Expansion data width height leftPad depth fg bg out where
  length := h.length.trans (List.length_replicate ..)
  pixels x hx y hy := by
    refine UInt32.toNat_inj.mp (Nat.eq_of_testBit_eq fun k => ?_)
    rw [readZpixmapPixel_testBit hdepth]
    by_cases hk : k < bitsPerPixel depth
    · rw [decide_eq_true hk, Bool.true_and, h.painted,
        pictureBits_pixel _ (pixel_le_stride hx depth) hk]
      exact ⟨y, List.mem_range.mpr hy, x, List.mem_range.mpr hx, by omega, by omega⟩
    · rw [decide_eq_false hk, Bool.false_and, expandedPixel, ← and_depthPlaneMask,
        UInt32.toNat_and, Nat.testBit_and, testBit_depthPlaneMask hdepth (Nat.not_lt.mp hk),
        Bool.and_false]
  padding y _ i hle hlt := by
    rw [h.kept, bitAt_replicate_zero]
    rintro ⟨y', -, x', hx', hbits⟩
    exact not_pixelBits_of_padding (List.mem_range.mp hx') hle hlt hbits

/-! ## Depth 1 -/

theorem pictureBits_bitmap {x y : Nat} (hx : x < width.toNat) :
    pictureBits (zpixmapStride width 1) 1 (expandedPixel data width leftPad 1 1 0)
      (8 * (y * zpixmapStride width 1) + x) = xybitmapPixel data width leftPad x y := by
  have hbit := pictureBits_pixel (k := 0) (y := y) (expandedPixel data width leftPad 1 1 0)
    (pixel_le_stride hx 1) Nat.zero_lt_one
  have hpos : 8 * (y * zpixmapStride width 1) + x * bitsPerPixel 1 + 0 =
      8 * (y * zpixmapStride width 1) + x := congrArg _ (Nat.mul_one x)
  rw [hpos] at hbit
  rw [hbit, expandedPixel]
  cases xybitmapPixel data width leftPad x y <;> rfl

/-- A bit of the bitmap that is set sets its pixel. -/
theorem setPixel_paints {bytes : List UInt8} {x : Nat} {bit : Bool} {picture : Nat → Bool}
    (hx : x < 8 * bytes.length) (hpicture : bit = true → picture x = true) :
    ∃ next, (if bit = true then
          updateByte bytes (x / 8) fun byte => byte ||| 1 <<< UInt8.ofNat (x % 8)
        else pure bytes) = .ok next ∧
      Paints (fun i => i = x ∧ bit = true) picture bytes next := by
  cases bit with
  | false => exact ⟨bytes, rfl, Paints.none.congr fun i => by simp⟩
  | true =>
    have hset (byte : UInt8) (k : Nat) (hk : k < 8) :=
      testBit_setBit byte 1 (Nat.mod_lt x (by decide : 0 < 8)) hk
    have hone (k : Nat) (hk : k < 1) : picture (x + k) = (1 : UInt32).toNat.testBit k := by
      obtain rfl : k = 0 := by omega
      exact hpicture rfl
    obtain ⟨next, hnext, hpaints⟩ := updateByte_paints (x / 8) (x % 8) 1
      (by omega : x / 8 < bytes.length) (by omega) (by omega) hset hone
    refine ⟨next, hnext, hpaints.congr fun i => ?_⟩
    rw [and_iff_left rfl]
    omega

theorem xybitmapRow_paints {stride y : Nat} {bytes : List UInt8}
    (hstride : stride = zpixmapStride width 1)
    (hlen : xybitmapStride width leftPad * height.toNat ≤ data.length) (hy : y < height.toNat)
    (hbytes : bytes.length = stride * height.toNat) :
    ∃ next, xybitmapRow data (xybitmapStride width leftPad) stride width.toNat leftPad.toNat bytes y =
        .ok next ∧
      Paints (fun i => 8 * (y * stride) ≤ i ∧ ∃ x ∈ List.range width.toNat,
          i - 8 * (y * stride) = x ∧ xybitmapPixel data width leftPad x y = true)
        (pictureBits stride 1 (expandedPixel data width leftPad 1 1 0)) bytes next := by
  have hfit : (y + 1) * stride ≤ bytes.length := hbytes ▸ row_le_length hy
  have hsize : (y + 1) * stride - y * stride = stride := by
    rw [Nat.add_mul, Nat.one_mul, Nat.add_sub_cancel_left]
  have hwidth : width.toNat * 1 ≤ 8 * stride := hstride ▸ pixels_le_stride width 1
  obtain ⟨srcRow, hrow, hsrc, hbits⟩ := byteRange_row hlen hy
  rw [xybitmapRow, hrow]
  change ∃ next, updateRange bytes (y * stride) ((y + 1) * stride) _ = _ ∧ _
  refine updateRange_paints (S := fun i => ∃ x ∈ List.range width.toNat,
    i = x ∧ xybitmapPixel data width leftPad x y = true)
    (Nat.mul_le_mul_right _ (Nat.le_add_right y 1)) hfit (fun i hi => ?_) fun range hrange => ?_
  · obtain ⟨x, hx, rfl, -⟩ := hi
    have hx := List.mem_range.mp hx
    omega
  · refine Paints.foldlM (fun x hx dstRow hdst => ?_) hrange
    have hx := List.mem_range.mp hx
    have hbit := bit_lt_stride leftPad hx
    rw [xybitmapBit_eq (hsrc ▸ hbit), hbits _ hbit]
    refine setPixel_paints (by omega) fun hset => ?_
    subst hstride
    rw [pictureBits_bitmap hx]
    exact hset

theorem xybitmapRows_paints (hlen : xybitmapStride width leftPad * height.toNat ≤ data.length) :
    ∃ out, (List.range height.toNat).foldlM (xybitmapRow data (xybitmapStride width leftPad)
        (zpixmapStride width 1) width.toNat leftPad.toNat)
        (List.replicate (zpixmapStride width 1 * height.toNat) 0) = .ok out ∧
      Paints (fun i => ∃ y ∈ List.range height.toNat, 8 * (y * zpixmapStride width 1) ≤ i ∧
          ∃ x ∈ List.range width.toNat, i - 8 * (y * zpixmapStride width 1) = x ∧
            xybitmapPixel data width leftPad x y = true)
        (pictureBits (zpixmapStride width 1) 1 (expandedPixel data width leftPad 1 1 0))
        (List.replicate (zpixmapStride width 1 * height.toNat) 0) out :=
  Paints.foldlM (fun _ hy _ hbytes => xybitmapRow_paints rfl hlen (List.mem_range.mp hy) hbytes)
    (List.length_replicate ..)

/-- Setting the ones is writing all pixels. -/
theorem xybitmapToZpixmap_eq_target :
    xybitmapToZpixmap data width height leftPad =
      xybitmapToTargetZpixmap data width height leftPad 1 1 0 := by
  rw [xybitmapToZpixmap_eq, xybitmapToTargetZpixmap_eq mem_zpixmapDepths_one]
  split
  · rfl
  next hlen =>
  obtain ⟨out, hout, hpaints⟩ := xybitmapRows_paints (Nat.not_lt.mp hlen)
  obtain ⟨all, hall, hpixels⟩ := @xybitmapTargetRows_paints data width height leftPad 1 1 0
    mem_zpixmapDepths_one (Nat.not_lt.mp hlen)
  have hsame : out = all := by
    refine Bits.ext (hpaints.length.trans hpixels.length.symm) fun i => ?_
    by_cases hset : ∃ y ∈ List.range height.toNat, 8 * (y * zpixmapStride width 1) ≤ i ∧
        ∃ x ∈ List.range width.toNat, i - 8 * (y * zpixmapStride width 1) = x ∧
          xybitmapPixel data width leftPad x y = true
    · obtain ⟨y, hy, hle, x, hx, hpos, -⟩ := id hset
      rw [hpaints.painted i hset, hpixels.painted i]
      refine ⟨y, hy, x, hx, ?_⟩
      change 8 * (y * zpixmapStride width 1) + x * 1 ≤ i ∧
        i < 8 * (y * zpixmapStride width 1) + x * 1 + 1
      omega
    · rw [hpaints.kept i hset, bitAt_replicate_zero]
      symm
      by_cases hpixel : ∃ y ∈ List.range height.toNat, ∃ x ∈ List.range width.toNat,
          PixelBits (y * zpixmapStride width 1) 1 x i
      · -- a pixel whose bit is not set
        rw [hpixels.painted i hpixel]
        obtain ⟨y, hy, x, hx, hstart, hstop⟩ := hpixel
        change 8 * (y * zpixmapStride width 1) + x * 1 ≤ i at hstart
        change i < 8 * (y * zpixmapStride width 1) + x * 1 + 1 at hstop
        obtain rfl : i = 8 * (y * zpixmapStride width 1) + x := by omega
        rw [pictureBits_bitmap (List.mem_range.mp hx)]
        exact Bool.eq_false_iff.mpr fun hbit =>
          hset ⟨y, hy, Nat.le_add_right _ _, x, hx, Nat.add_sub_cancel_left .., hbit⟩
      · rw [hpixels.kept i hpixel, bitAt_replicate_zero]
  rw [hout, hall, hsame]

/-- No index is out of bounds, and only data that is too short has no image. -/
theorem xybitmap_expands (data : List UInt8) (width height : UInt16) (leftPad : UInt8)
    (fg bg : UInt32) (hdepth : depth ∈ zpixmapDepths) :
    (xybitmapExpectedLen width height leftPad =
        some (xybitmapStride width leftPad * height.toNat) ∧
      if data.length < xybitmapStride width leftPad * height.toNat then
        xybitmapToTargetZpixmap data width height leftPad depth fg bg = .ok none
      else ∃ out, xybitmapToTargetZpixmap data width height leftPad depth fg bg = .ok (some out) ∧
        Expansion data width height leftPad depth fg bg out) ∧
    xybitmapToZpixmap data width height leftPad =
      xybitmapToTargetZpixmap data width height leftPad 1 1 0 := by
  refine ⟨⟨xybitmapExpectedLen_eq, ?_⟩, xybitmapToZpixmap_eq_target⟩
  rw [xybitmapToTargetZpixmap_eq hdepth]
  split
  · rfl
  · next hlen =>
    obtain ⟨out, hout, hpaints⟩ := xybitmapTargetRows_paints hdepth (Nat.not_lt.mp hlen)
    exact ⟨out, congrArg (some <$> ·) hout, .of_paints hdepth hpaints⟩

/-- The foreground loses the byte above the depth. -/
theorem xybitmap_expands_padded :
    ∃ out, xybitmapToTargetZpixmap [0b10100, 0, 0, 0, 0b01100, 0, 0, 0] 3 2 2 24 0xa50000ff
          0x8000ff00 = .ok (some out) ∧
      Expansion [0b10100, 0, 0, 0, 0b01100, 0, 0, 0] 3 2 2 24 0xa50000ff 0x8000ff00 out ∧
      readZpixmapPixel out 0 24 0 = 0xff ∧ readZpixmapPixel out 12 24 2 = 0xff00 := by
  obtain ⟨out, hout, himage⟩ := (@xybitmap_expands 24 [0b10100, 0, 0, 0, 0b01100, 0, 0, 0]
    3 2 2 0xa50000ff 0x8000ff00 (by decide)).1.2
  refine ⟨out, hout, himage, ?_, ?_⟩
  · exact himage.pixels 0 (by decide) 0 (by decide)
  · exact himage.pixels 2 (by decide) 1 (by decide)

end X12

import X12.Core.Zpixmap
import X12.Lib.Bits
import X12.Verify.ClientReader
import X12.Verify.Wire

/-! # Pixels of images

An image is the bits of its rows. Writing a pixel sets its bits and no others, so that a
loop over all pixels leaves the padding as it was. -/

namespace X12

open Bits

/-! ## Numbers -/

theorem checkedAdd_eq {a b : Nat} (h : a + b ≤ USIZE_MAX) : checkedAdd a b = some (a + b) :=
  if_pos h

theorem checkedMul_eq {a b : Nat} (h : a * b ≤ USIZE_MAX) : checkedMul a b = some (a * b) :=
  if_pos h

theorem divCeil_mul_le (a b : Nat) : divCeil a b * b ≤ a + b := by
  have hsplit := Nat.div_add_mod' a b
  rw [divCeil]
  split
  · omega
  · rw [Nat.add_mul, Nat.one_mul]
    omega

theorem le_divCeil_mul {a b : Nat} (hb : 0 < b) : a ≤ divCeil a b * b := by
  have hsplit := Nat.div_add_mod' a b
  have hrest := Nat.mod_lt a hb
  rw [divCeil]
  split
  · omega
  · rw [Nat.add_mul, Nat.one_mul]
    omega

/-! ## Pixels -/

/-- The depths that a ZPixmap image has. -/
def zpixmapDepths : List UInt8 := [1, 4, 8, 24, 32]

theorem forall_zpixmapDepths {p : UInt8 → Prop} (h₁ : p 1) (h₄ : p 4) (h₈ : p 8) (h₂₄ : p 24)
    (h₃₂ : p 32) : ∀ depth ∈ zpixmapDepths, p depth := by
  intro depth hdepth
  simp only [zpixmapDepths, List.mem_cons, List.not_mem_nil, or_false] at hdepth
  rcases hdepth with rfl | rfl | rfl | rfl | rfl
  · exact h₁
  · exact h₄
  · exact h₈
  · exact h₂₄
  · exact h₃₂

def bitsPerPixel (depth : UInt8) : Nat :=
  if depth = 24 then 32 else depth.toNat

/-- The bytes of a row, with its padding. -/
def zpixmapStride (width : UInt16) (depth : UInt8) : Nat :=
  divCeil (width.toNat * bitsPerPixel depth) 32 * 4

theorem zpixmapRowStride_eq {width : UInt16} {depth : UInt8} (hdepth : depth ∈ zpixmapDepths) :
    zpixmapRowStride width depth = some (zpixmapStride width depth) := by
  simp only [zpixmapDepths, List.mem_cons, List.not_mem_nil, or_false] at hdepth
  rcases hdepth with rfl | rfl | rfl | rfl | rfl
  · change some ((width.toNat + 31) / 32 * 4) = some (divCeil (width.toNat * 1) 32 * 4)
    rw [divCeil]
    split <;> (congr 1; omega)
  · change some ((width.toNat + 7) / 8 * 4) = some (divCeil (width.toNat * 4) 32 * 4)
    rw [divCeil]
    split <;> (congr 1; omega)
  · change some ((width.toNat + 3) / 4 * 4) = some (divCeil (width.toNat * 8) 32 * 4)
    rw [divCeil]
    split <;> (congr 1; omega)
  · change some (width.toNat * 4) = some (divCeil (width.toNat * 32) 32 * 4)
    rw [divCeil]
    split <;> (congr 1; omega)
  · change some (width.toNat * 4) = some (divCeil (width.toNat * 32) 32 * 4)
    rw [divCeil]
    split <;> (congr 1; omega)

/-- The pixels of a row are within it. -/
theorem pixels_le_stride (width : UInt16) (depth : UInt8) :
    width.toNat * bitsPerPixel depth ≤ 8 * zpixmapStride width depth := by
  have hle := le_divCeil_mul (a := width.toNat * bitsPerPixel depth) (by decide : 0 < 32)
  rw [zpixmapStride]
  omega

theorem pixel_le_stride {width : UInt16} {x : Nat} (hx : x < width.toNat) (depth : UInt8) :
    x * bitsPerPixel depth + bitsPerPixel depth ≤ 8 * zpixmapStride width depth := by
  have hle : (x + 1) * bitsPerPixel depth ≤ width.toNat * bitsPerPixel depth :=
    Nat.mul_le_mul_right _ hx
  rw [Nat.add_mul, Nat.one_mul] at hle
  exact Nat.le_trans hle (pixels_le_stride width depth)

theorem bitsPerPixel_bounds : ∀ depth ∈ zpixmapDepths,
    0 < bitsPerPixel depth ∧ bitsPerPixel depth ≤ 32 :=
  forall_zpixmapDepths (by decide) (by decide) (by decide) (by decide) (by decide)

/-- The pixel of a column of the row that starts at a byte. -/
def readZpixmapPixel (bytes : List UInt8) (rowStart : Nat) (depth : UInt8) (x : Nat) : UInt32 :=
  match depth with
  | 1 => ((bytes.getD (rowStart + x / 8) 0 >>> UInt8.ofNat (x % 8)) &&& 1).toUInt32
  | 4 =>
    let byte := bytes.getD (rowStart + x / 2) 0
    (if x % 2 = 0 then byte &&& 0x0f else byte >>> (4 : UInt8)).toUInt32
  | 8 => (bytes.getD (rowStart + x) 0).toUInt32
  | _ => u32Le bytes (rowStart + x * 4)

theorem testBit_add_mul {a b n k : Nat} (ha : a < 2 ^ n) :
    (a + 2 ^ n * b).testBit k = if k < n then a.testBit k else b.testBit (k - n) := by
  rw [Nat.add_comm, Nat.testBit_two_pow_mul_add b ha]

theorem testBit_readU16Le {bytes : List UInt8} {n k : Nat} (hk : k < 16) :
    (readU16Le bytes n).testBit k = bitAt bytes (8 * n + k) := by
  have hfirst : byteAt bytes n < 2 ^ 8 := (bytes.getD n 0).toNat_lt
  rw [readU16Le, testBit_add_mul hfirst]
  split
  · next hlow => exact (bitAt_byte hlow).symm
  · have hbit : 8 * n + k = 8 * (n + 1) + (k - 8) := by omega
    have hrest : k - 8 < 8 := by omega
    rw [hbit, bitAt_byte hrest]
    rfl

/-- A little-endian word has the bits of its bytes. -/
theorem testBit_u32Le (bytes : List UInt8) (n k : Nat) :
    (u32Le bytes n).toNat.testBit k = (decide (k < 32) && bitAt bytes (8 * n + k)) := by
  have hlow : readU16Le bytes n < 2 ^ 16 := Nat.lt_succ_of_le (readU16Le_le bytes n)
  rw [u32Le, UInt32.toNat_ofNat', Nat.testBit_mod_two_pow, readU32Le, testBit_add_mul hlow]
  by_cases hk : k < 32
  · rw [decide_eq_true hk, Bool.true_and, Bool.true_and]
    split
    · next hlow => exact testBit_readU16Le hlow
    · have hbit : 8 * n + k = 8 * (n + 2) + (k - 16) := by omega
      have hrest : k - 16 < 16 := by omega
      rw [hbit, testBit_readU16Le hrest]
  · rw [decide_eq_false hk, Bool.false_and, Bool.false_and]

/-- Some of the bits of a byte. -/
theorem testBit_part {bytes : List UInt8} {n shift size k : Nat} (h : shift + size ≤ 8) :
    ((bytes.getD n 0).toNat / 2 ^ shift % 2 ^ size).testBit k =
      (decide (k < size) && bitAt bytes (8 * n + (shift + k))) := by
  rw [Nat.testBit_mod_two_pow, Nat.testBit_div_two_pow]
  by_cases hk : k < size
  · rw [bitAt_byte (by omega : shift + k < 8), Nat.add_comm]
  · rw [decide_eq_false hk, Bool.false_and, Bool.false_and]

/-- Where a pixel of less than a byte is. -/
theorem readZpixmapPixel_part {bytes : List UInt8} {rowStart x k : Nat} {depth : UInt8}
    (n shift size : Nat) (hread : (readZpixmapPixel bytes rowStart depth x).toNat =
      (bytes.getD n 0).toNat / 2 ^ shift % 2 ^ size) (hfit : shift + size ≤ 8)
    (hpos : 8 * rowStart + x * size = 8 * n + shift) :
    (readZpixmapPixel bytes rowStart depth x).toNat.testBit k =
      (decide (k < size) && bitAt bytes (8 * rowStart + x * size + k)) := by
  rw [hread, testBit_part hfit, hpos, Nat.add_assoc]

theorem readZpixmapPixel_testBit {bytes : List UInt8} {rowStart x k : Nat} {depth : UInt8}
    (hdepth : depth ∈ zpixmapDepths) :
    (readZpixmapPixel bytes rowStart depth x).toNat.testBit k =
      (decide (k < bitsPerPixel depth) &&
        bitAt bytes (8 * rowStart + x * bitsPerPixel depth + k)) := by
  have hword : (u32Le bytes (rowStart + x * 4)).toNat.testBit k =
      (decide (k < 32) && bitAt bytes (8 * rowStart + x * 32 + k)) := by
    have hpos : 8 * (rowStart + x * 4) = 8 * rowStart + x * 32 := by omega
    rw [testBit_u32Le, hpos]
  simp only [zpixmapDepths, List.mem_cons, List.not_mem_nil, or_false] at hdepth
  rcases hdepth with rfl | rfl | rfl | rfl | rfl
  · refine readZpixmapPixel_part (rowStart + x / 8) (x % 8) 1 ?_ ?_ ?_
    · have hshift : (UInt8.ofNat (x % 8)).toNat % 8 = x % 8 := by
        rw [UInt8.toNat_ofNat']
        omega
      change (((bytes.getD (rowStart + x / 8) 0 >>> UInt8.ofNat (x % 8)) &&& 1).toUInt32).toNat = _
      rw [UInt8.toNat_toUInt32, UInt8.toNat_and, UInt8.toNat_shiftRight, hshift,
        Nat.shiftRight_eq_div_pow]
      exact Nat.and_one_is_mod _
    · omega
    · omega
  · by_cases hx : x % 2 = 0
    · refine readZpixmapPixel_part (rowStart + x / 2) 0 4 ?_ ?_ ?_
      · change (if x % 2 = 0 then _ else _ : UInt8).toUInt32.toNat = _
        rw [if_pos hx, UInt8.toNat_toUInt32, UInt8.toNat_and, Nat.pow_zero, Nat.div_one]
        exact Nat.and_two_pow_sub_one_eq_mod _ 4
      · omega
      · omega
    · refine readZpixmapPixel_part (rowStart + x / 2) 4 4 ?_ ?_ ?_
      · have hbyte := (bytes.getD (rowStart + x / 2) 0).toNat_lt
        change (if x % 2 = 0 then _ else _ : UInt8).toUInt32.toNat = _
        rw [if_neg hx, UInt8.toNat_toUInt32, UInt8.toNat_shiftRight]
        change _ >>> 4 = _
        rw [Nat.shiftRight_eq_div_pow]
        omega
      · omega
      · omega
  · refine readZpixmapPixel_part (rowStart + x) 0 8 ?_ ?_ ?_
    · have hbyte := (bytes.getD (rowStart + x) 0).toNat_lt
      change (bytes.getD (rowStart + x) 0).toUInt32.toNat = _
      rw [UInt8.toNat_toUInt32]
      omega
    · omega
    · omega
  · exact hword
  · exact hword

/-! ## Writing a pixel -/

/-- The bits of a pixel. -/
def PixelBits (rowStart : Nat) (depth : UInt8) (x i : Nat) : Prop :=
  8 * rowStart + x * bitsPerPixel depth ≤ i ∧
    i < 8 * rowStart + x * bitsPerPixel depth + bitsPerPixel depth

theorem updateByte_paints {bytes : List UInt8} {f : UInt8 → UInt8} {v start : Nat}
    {picture : Nat → Bool} (n shift size : Nat) (hn : n < bytes.length) (hfit : shift + size ≤ 8)
    (hstart : start = 8 * n + shift)
    (hset : ∀ byte : UInt8, ∀ k < 8, (f byte).toNat.testBit k =
      if shift ≤ k ∧ k < shift + size then v.testBit (k - shift) else byte.toNat.testBit k)
    (hpicture : ∀ k < size, picture (start + k) = v.testBit k) :
    ∃ next, updateByte bytes n f = .ok next ∧
      Paints (fun i => start ≤ i ∧ i < start + size) picture bytes next := by
  subst hstart
  refine ⟨bytes.modify n f, if_pos hn, List.length_modify .., fun i hi => ?_, fun i hi => ?_⟩
  · have hbyte : i / 8 = n := by omega
    have hbit : i % 8 = i - 8 * n := by omega
    have hpos : 8 * n + shift + (i - 8 * n - shift) = i := by omega
    have hvalue := hpicture (i - 8 * n - shift) (by omega)
    rw [hpos] at hvalue
    rw [bitAt_modify hn, if_pos hbyte, hset _ _ (Nat.mod_lt _ (by decide)), hbit,
      if_pos (by omega), hvalue]
  · rw [bitAt_modify hn]
    split
    · next hbyte =>
      rw [hset _ _ (Nat.mod_lt _ (by decide)), if_neg (by omega), bitAt, hbyte]
    · rfl

theorem testBit_not {byte : UInt8} {k : Nat} (hk : k < 8) :
    (~~~byte).toNat.testBit k = !byte.toNat.testBit k := by
  have hnot : (~~~byte).toNat = 2 ^ 8 - (byte.toNat + 1) := by
    rw [UInt8.toNat_not]
    change 256 - 1 - byte.toNat = 256 - (byte.toNat + 1)
    omega
  rw [hnot, Nat.testBit_two_pow_sub_succ byte.toNat_lt, decide_eq_true hk, Bool.true_and]

theorem and_one_ne_zero_iff {value : UInt32} : value &&& 1 ≠ 0 ↔ value.toNat.testBit 0 = true := by
  rw [Ne, ← UInt32.toNat_inj, UInt32.toNat_and]
  change ¬ value.toNat &&& 1 = 0 ↔ _
  rw [Nat.and_one_is_mod, Nat.testBit_zero, decide_eq_true_eq]
  omega

/-- Setting or clearing a bit of a byte. -/
theorem testBit_setBit (byte : UInt8) (value : UInt32) {b k : Nat} (hb : b < 8) (hk : k < 8) :
    (if value &&& 1 ≠ 0 then byte ||| 1 <<< UInt8.ofNat b
      else byte &&& ~~~(1 <<< UInt8.ofNat b)).toNat.testBit k =
    if b ≤ k ∧ k < b + 1 then value.toNat.testBit (k - b) else byte.toNat.testBit k := by
  have hmask : (1 <<< UInt8.ofNat b : UInt8).toNat = 2 ^ b := by
    have hall : ∀ b < 8, (1 <<< UInt8.ofNat b : UInt8).toNat = 2 ^ b := by decide
    exact hall b hb
  by_cases heq : k = b
  · subst heq
    rw [if_pos (by omega : k ≤ k ∧ k < k + 1), Nat.sub_self]
    split
    · next hset =>
      rw [UInt8.toNat_or, Nat.testBit_or, hmask, Nat.testBit_two_pow_self, Bool.or_true,
        and_one_ne_zero_iff.mp hset]
    · next hclear =>
      rw [UInt8.toNat_and, Nat.testBit_and, testBit_not hk, hmask, Nat.testBit_two_pow_self,
        Bool.not_true, Bool.and_false, Bool.eq_false_iff.mpr (mt and_one_ne_zero_iff.mpr hclear)]
  · rw [if_neg (by omega : ¬ (b ≤ k ∧ k < b + 1))]
    have hother : (2 ^ b).testBit k = false := Nat.testBit_two_pow_of_ne (Ne.symm heq)
    split
    · rw [UInt8.toNat_or, Nat.testBit_or, hmask, hother, Bool.or_false]
    · rw [UInt8.toNat_and, Nat.testBit_and, testBit_not hk, hmask, hother, Bool.not_false,
        Bool.and_true]

theorem testBit_nibble (value : UInt32) (k : Nat) : ((value &&& 0x0f).toUInt8).toNat.testBit k =
    (decide (k < 4) && value.toNat.testBit k) := by
  have hmask : (2 ^ 4 - 1).testBit k = decide (k < 4) := Nat.testBit_two_pow_sub_one ..
  rw [UInt32.toNat_toUInt8, UInt32.toNat_and, Nat.testBit_mod_two_pow, Nat.testBit_and]
  change (decide (k < 8) && (value.toNat.testBit k && (2 ^ 4 - 1).testBit k)) = _
  rw [hmask]
  by_cases h : k < 4
  · have h8 : k < 8 := by omega
    simp [h, h8]
  · simp [h]

/-- Replacing a half of a byte. -/
theorem testBit_setNibble (byte : UInt8) (value : UInt32) (x : Nat) {k : Nat} (hk : k < 8) :
    (if x % 2 = 0 then byte &&& 0xf0 ||| (value &&& 0x0f).toUInt8
      else byte &&& 0x0f ||| (value &&& 0x0f).toUInt8 <<< (4 : UInt8)).toNat.testBit k =
    if 4 * (x % 2) ≤ k ∧ k < 4 * (x % 2) + 4 then value.toNat.testBit (k - 4 * (x % 2))
    else byte.toNat.testBit k := by
  split
  · next hx =>
    have hhigh : ∀ k < 8, (0xf0 : UInt8).toNat.testBit k = decide (4 ≤ k) := by decide
    rw [hx, UInt8.toNat_or, UInt8.toNat_and, Nat.testBit_or, Nat.testBit_and, hhigh k hk,
      testBit_nibble]
    by_cases h : k < 4
    · have h4 : ¬ 4 ≤ k := by omega
      simp [h, h4]
    · have h4 : 4 ≤ k := by omega
      simp [h, h4]
  · next hx =>
    have hlow : ∀ k < 8, (0x0f : UInt8).toNat.testBit k = decide (k < 4) := by decide
    have hx : x % 2 = 1 := by omega
    have hshift (nibble : UInt8) : (nibble <<< (4 : UInt8)).toNat.testBit k =
        (decide (4 ≤ k) && nibble.toNat.testBit (k - 4)) := by
      rw [UInt8.toNat_shiftLeft, Nat.testBit_mod_two_pow, Nat.testBit_shiftLeft, decide_eq_true hk,
        Bool.true_and]
      rfl
    rw [hx, UInt8.toNat_or, UInt8.toNat_and, Nat.testBit_or, Nat.testBit_and, hlow k hk, hshift,
      testBit_nibble]
    by_cases h : k < 4
    · have h4 : ¬ 4 ≤ k := by omega
      simp [h, h4]
    · have h4 : 4 ≤ k := by omega
      have hrest : k - 4 < 4 := by omega
      simp [h, h4, hk, hrest]

/-- What is done to a range of the bytes paints it. -/
theorem updateRange_paints {bytes : List UInt8} {start stop : Nat} {S : Nat → Prop}
    {f : List UInt8 → Except Panic (List UInt8)} {picture : Nat → Bool} (hle : start ≤ stop)
    (hstop : stop ≤ bytes.length) (hS : ∀ i, S i → i < 8 * (stop - start))
    (hf : ∀ range : List UInt8, range.length = stop - start → ∃ next, f range = .ok next ∧
      Paints S (fun i => picture (8 * start + i)) range next) :
    ∃ next, updateRange bytes start stop f = .ok next ∧
      Paints (fun i => 8 * start ≤ i ∧ S (i - 8 * start)) picture bytes next := by
  have hrange : ((bytes.drop start).take (stop - start)).length = stop - start := by
    rw [List.length_take, List.length_drop]
    omega
  have hstart : (bytes.take start).length = start := by
    rw [List.length_take]
    omega
  obtain ⟨next, hnext, hpaints⟩ := hf _ hrange
  refine ⟨bytes.take start ++ next ++ bytes.drop stop, ?_, ?_⟩
  · rw [updateRange, byteRange, if_pos ⟨hle, hstop⟩]
    change (f _ >>= fun range => _) = _
    rw [hnext]
    rfl
  · have hslice := hpaints.slice (bytes.drop stop) hstart fun i hi => by
      rw [hrange]
      exact hS i hi
    have hsplit : bytes.take start ++ (bytes.drop start).take (stop - start) ++ bytes.drop stop =
        bytes := by
      have hdrop : bytes.drop stop = (bytes.drop start).drop (stop - start) := by
        rw [List.drop_drop, Nat.add_sub_cancel' hle]
      rw [hdrop, List.append_assoc, List.take_append_drop, List.take_append_drop]
    rwa [hsplit] at hslice

theorem u32LeBytes_paints {range : List UInt8} {value : UInt32} {picture : Nat → Bool}
    (hrange : range.length = 4) (hpicture : ∀ k < 32, picture k = value.toNat.testBit k) :
    Paints (fun i => i < 32) picture range (u32LeBytes value) := by
  refine ⟨hrange.symm, fun i hi => ?_, fun i hi => ?_⟩
  · have hbit := testBit_u32Le (u32LeBytes value) 0 i
    have hread := u32Le_u32LeBytes value []
    rw [List.append_nil] at hread
    rw [hread, decide_eq_true hi, Bool.true_and, Nat.mul_zero, Nat.zero_add] at hbit
    rw [hpicture i hi, hbit]
  · have hrange : 8 * range.length ≤ i := by omega
    have hwritten : 8 * (u32LeBytes value).length ≤ i := Nat.not_lt.mp hi
    rw [bitAt_of_length_le hrange, bitAt_of_length_le hwritten]

theorem updateWord_paints {bytes : List UInt8} {start : Nat} {value : UInt32}
    {picture : Nat → Bool} (hstop : start + 4 ≤ bytes.length)
    (hpicture : ∀ k < 32, picture (8 * start + k) = value.toNat.testBit k) :
    ∃ next, updateRange bytes start (start + 4) (fun _ => .ok (u32LeBytes value)) = .ok next ∧
      Paints (fun i => 8 * start ≤ i ∧ i < 8 * start + 32) picture bytes next := by
  have hrange (range : List UInt8) (hlen : range.length = start + 4 - start) : ∃ next,
      Except.ok (u32LeBytes value) = (.ok next : Except Panic (List UInt8)) ∧
      Paints (fun i => i < 32) (fun i => picture (8 * start + i)) range next :=
    ⟨_, rfl, u32LeBytes_paints (by omega) hpicture⟩
  obtain ⟨next, hnext, hpaints⟩ :=
    updateRange_paints (Nat.le_add_right start 4) hstop (by omega) hrange
  refine ⟨next, hnext, hpaints.congr fun i => ?_⟩
  omega

/-- A pixel is written within its bits. -/
theorem writeZpixmapPixel_paints {bytes : List UInt8} {width : UInt16} {depth : UInt8}
    {x y stride : Nat} {value : UInt32} {picture : Nat → Bool} (hdepth : depth ∈ zpixmapDepths)
    (hstride : zpixmapRowStride width depth = some stride)
    (hfit : x * bitsPerPixel depth + bitsPerPixel depth ≤ 8 * stride)
    (hrow : (y + 1) * stride ≤ bytes.length)
    (hpicture : ∀ k < bitsPerPixel depth,
      picture (8 * (y * stride) + x * bitsPerPixel depth + k) = value.toNat.testBit k) :
    ∃ next, writeZpixmapPixel bytes width.toNat depth x y value = .ok next ∧
      Paints (PixelBits (y * stride) depth x) picture bytes next := by
  rw [Nat.add_mul, Nat.one_mul] at hrow
  have hword (h32 : bitsPerPixel depth = 32) :
      ∃ next, updateRange bytes (y * stride + x * 4) (y * stride + x * 4 + 4)
          (fun _ => .ok (u32LeBytes value)) = .ok next ∧
        Paints (PixelBits (y * stride) depth x) picture bytes next := by
    rw [h32] at hfit hpicture
    have hpos : 8 * (y * stride + x * 4) = 8 * (y * stride) + x * 32 := by omega
    obtain ⟨next, hnext, hpaints⟩ := updateWord_paints
      (by omega : y * stride + x * 4 + 4 ≤ bytes.length) fun k hk => hpos ▸ hpicture k hk
    refine ⟨next, hnext, hpaints.congr fun i => ?_⟩
    rw [PixelBits, h32, hpos]
  simp only [zpixmapDepths, List.mem_cons, List.not_mem_nil, or_false] at hdepth
  rw [writeZpixmapPixel, UInt16.ofNat_toNat, hstride]
  rcases hdepth with rfl | rfl | rfl | rfl | rfl
  · change 8 * stride ≥ x * 1 + 1 at hfit
    exact updateByte_paints (y * stride + x / 8) (x % 8) 1 (by omega) (by omega)
      (by change _ + x * 1 = _; omega)
      (fun byte _ => testBit_setBit byte value (Nat.mod_lt x (by decide))) hpicture
  · change 8 * stride ≥ x * 4 + 4 at hfit
    exact updateByte_paints (y * stride + x / 2) (4 * (x % 2)) 4 (by omega) (by omega)
      (by change _ + x * 4 = _; omega) (fun byte _ => testBit_setNibble byte value x) hpicture
  · change 8 * stride ≥ x * 8 + 8 at hfit
    have hset (byte : UInt8) (k : Nat) (hk : k < 8) : (value.toUInt8).toNat.testBit k =
        if 0 ≤ k ∧ k < 0 + 8 then value.toNat.testBit (k - 0) else byte.toNat.testBit k := by
      rw [UInt32.toNat_toUInt8, Nat.testBit_mod_two_pow, decide_eq_true hk, Bool.true_and,
        if_pos (by omega), Nat.sub_zero]
    exact updateByte_paints (y * stride + x) 0 8 (by omega) (by omega)
      (by change _ + x * 8 = _; omega) hset hpicture
  · exact hword rfl
  · exact hword rfl

/-! ## Pictures -/

/-- The bits of an image with the given pixels. -/
def pictureBits (stride : Nat) (depth : UInt8) (pixel : Nat → Nat → UInt32) (i : Nat) : Bool :=
  let y := i / (8 * stride)
  let rest := i % (8 * stride)
  (pixel (rest / bitsPerPixel depth) y).toNat.testBit (rest % bitsPerPixel depth)

theorem row_div_mod {stride y a : Nat} (ha : a < 8 * stride) :
    (8 * (y * stride) + a) / (8 * stride) = y ∧ (8 * (y * stride) + a) % (8 * stride) = a := by
  have hpos : 8 * (y * stride) + a = a + y * (8 * stride) := by
    rw [Nat.add_comm, Nat.mul_left_comm]
  rw [hpos, Nat.add_mul_div_right _ _ (by omega), Nat.div_eq_of_lt ha, Nat.add_mul_mod_self_right,
    Nat.mod_eq_of_lt ha, Nat.zero_add]
  exact ⟨rfl, rfl⟩

theorem pictureBits_pixel {stride x y k : Nat} {depth : UInt8} (pixel : Nat → Nat → UInt32)
    (hfit : x * bitsPerPixel depth + bitsPerPixel depth ≤ 8 * stride)
    (hk : k < bitsPerPixel depth) :
    pictureBits stride depth pixel (8 * (y * stride) + x * bitsPerPixel depth + k) =
      (pixel x y).toNat.testBit k := by
  obtain ⟨hrow, hrest⟩ := row_div_mod (y := y)
    (by omega : x * bitsPerPixel depth + k < 8 * stride)
  have hdiv : (x * bitsPerPixel depth + k) / bitsPerPixel depth = x := by
    rw [Nat.add_comm, Nat.add_mul_div_right _ _ (by omega), Nat.div_eq_of_lt hk, Nat.zero_add]
  have hmod : (x * bitsPerPixel depth + k) % bitsPerPixel depth = k := by
    rw [Nat.add_comm, Nat.add_mul_mod_self_right, Nat.mod_eq_of_lt hk]
  rw [pictureBits, Nat.add_assoc, hrow, hrest]
  rw [hdiv, hmod]

end X12

import X12.Protocol.ReadRequest
import X12.Protocol.Replies

/-! # Fields on the wire

What is read from where a field has been written. -/

namespace X12

/-! ## Halves and words -/

theorem toNat_halves (v : UInt16) : v.toUInt8.toNat + 2 ^ 8 * (v >>> 8).toUInt8.toNat = v.toNat := by
  have := v.toNat_lt
  simp only [UInt16.toNat_toUInt8, UInt16.toNat_shiftRight, Nat.shiftRight_eq_div_pow,
    show (8 : UInt16).toNat % 16 = 8 from rfl]
  omega

theorem toNat_bytes (v : UInt32) :
    v.toUInt8.toNat + 2 ^ 8 * (v >>> 8).toUInt8.toNat +
      2 ^ 16 * ((v >>> 16).toUInt8.toNat + 2 ^ 8 * (v >>> 24).toUInt8.toNat) = v.toNat := by
  have := v.toNat_lt
  simp only [UInt32.toNat_toUInt8, UInt32.toNat_shiftRight, Nat.shiftRight_eq_div_pow,
    show (8 : UInt32).toNat % 32 = 8 from rfl, show (16 : UInt32).toNat % 32 = 16 from rfl,
    show (24 : UInt32).toNat % 32 = 24 from rfl]
  omega

/-- A word that would fit in a half has zeros above it. -/
theorem highBytes_eq_zero {v : UInt32} (h : v.toNat < 2 ^ 16) :
    (v >>> 16).toUInt8 = 0 ∧ (v >>> 24).toUInt8 = 0 := by
  have hvalue := toNat_bytes v
  rw [← UInt8.toNat_inj, ← UInt8.toNat_inj, UInt8.toNat_zero]
  omega

theorem readU16_writeU16 (order : ClientByteOrder) (v : UInt16) (rest : List UInt8) :
    readU16 order (writeU16 order v ++ rest) 0 = v.toNat := by
  cases order with
  | littleEndian => exact toNat_halves v
  | bigEndian => exact (Nat.add_comm ..).trans (toNat_halves v)

theorem readU32_writeU32 (order : ClientByteOrder) (v : UInt32) (rest : List UInt8) :
    readU32 order (writeU32 order v ++ rest) 0 = v.toNat := by
  have := toNat_bytes v
  cases order with
  | littleEndian => exact this
  | bigEndian =>
    simp only [writeU32, u32LeBytes, readU32, readU16, byteAt, List.reverse_cons, List.reverse_nil,
      List.nil_append, List.cons_append, List.getD_cons_zero, List.getD_cons_succ]
    omega

theorem u32Le_u32LeBytes (v : UInt32) (rest : List UInt8) : u32Le (u32LeBytes v ++ rest) 0 = v := by
  have hread : readU32Le (u32LeBytes v ++ rest) 0 = v.toNat :=
    readU32_writeU32 .littleEndian v rest
  rw [u32Le, hread, UInt32.ofNat_toNat]

theorem length_writeU16 (order : ClientByteOrder) (v : UInt16) : (writeU16 order v).length = 2 := by
  cases order <;> rfl

theorem length_writeU32 (order : ClientByteOrder) (v : UInt32) : (writeU32 order v).length = 4 := by
  cases order <;> rfl

/-! ## Reads -/

theorem byteAt_le (body : List UInt8) (i : Nat) : byteAt body i ≤ 255 :=
  Nat.le_of_lt_succ (body.getD i 0).toNat_lt

theorem readU16Le_le (body : List UInt8) (i : Nat) : readU16Le body i ≤ 65535 := by
  have := byteAt_le body i
  have := byteAt_le body (i + 1)
  unfold readU16Le
  omega

theorem toNat_u16Le (body : List UInt8) (i : Nat) :
    (UInt16.ofNat (readU16Le body i)).toNat = readU16Le body i := by
  have hle := readU16Le_le body i
  exact UInt16.toNat_ofNat_of_lt' (show _ < 65536 by omega)

theorem toNat_u32Le (body : List UInt8) (i : Nat) : (u32Le body i).toNat = readU32Le body i := by
  have hlow := readU16Le_le body i
  have hhigh := readU16Le_le body (i + 2)
  refine UInt32.toNat_ofNat_of_lt' ?_
  show _ + 2 ^ 16 * _ < 2 ^ 32
  omega

theorem byteAt_append (front rest : List UInt8) (i : Nat) :
    byteAt (front ++ rest) (front.length + i) = byteAt rest i := by
  rw [byteAt, byteAt, List.getD_eq_getElem?_getD, List.getD_eq_getElem?_getD,
    List.getElem?_append_right (Nat.le_add_right ..), Nat.add_sub_cancel_left]

/-- Zeros at the end of a list are what is read past it. -/
theorem byteAt_zeros (bytes : List UInt8) (k i : Nat) :
    byteAt (bytes ++ List.replicate k 0) i = byteAt bytes i := by
  rw [byteAt, byteAt, List.getD_eq_getElem?_getD, List.getD_eq_getElem?_getD,
    List.getElem?_append]
  split
  · rfl
  · next hi =>
    rw [List.getElem?_replicate, List.getElem?_eq_none (Nat.le_of_not_lt hi)]
    split
    · rfl
    · rfl

theorem byteAt_take (bytes : List UInt8) {size i : Nat} (h : i < size) :
    byteAt (bytes.take size) i = byteAt bytes i := by
  rw [byteAt, byteAt, List.getD_eq_getElem?_getD, List.getD_eq_getElem?_getD,
    List.getElem?_take_of_lt h]

/-! ## Slices -/

section

variable {order : ClientByteOrder} {bytes : List UInt8} {start size j : Nat}

theorem getElem?_slice (h : j < size) : ((bytes.drop start).take size)[j]? = bytes[start + j]? := by
  rw [List.getElem?_take_of_lt h, List.getElem?_drop]

theorem byteAt_drop (bytes : List UInt8) (start i : Nat) :
    byteAt (bytes.drop start) i = byteAt bytes (start + i) := by
  rw [byteAt, byteAt, List.getD_eq_getElem?_getD, List.getD_eq_getElem?_getD, List.getElem?_drop]

theorem u32Le_drop (bytes : List UInt8) (start i : Nat) :
    u32Le (bytes.drop start) i = u32Le bytes (start + i) := by
  simp only [u32Le, readU32Le, readU16Le, byteAt_drop, Nat.add_assoc]

theorem byteAt_slice (h : j < size) :
    byteAt ((bytes.drop start).take size) j = byteAt bytes (start + j) := by
  rw [byteAt, byteAt, List.getD_eq_getElem?_getD, List.getD_eq_getElem?_getD, getElem?_slice h]

theorem readU16Le_slice (h : j + 1 < size) :
    readU16Le ((bytes.drop start).take size) j = readU16Le bytes (start + j) := by
  rw [readU16Le, readU16Le, byteAt_slice (by omega), byteAt_slice h, Nat.add_assoc]

theorem u32Le_slice (h : j + 3 < size) :
    u32Le ((bytes.drop start).take size) j = u32Le bytes (start + j) := by
  rw [u32Le, u32Le, readU32Le, readU32Le, readU16Le_slice (by omega), readU16Le_slice h,
    Nat.add_assoc]

theorem readU16_slice (h : j + 1 < size) :
    readU16 order ((bytes.drop start).take size) j = readU16 order bytes (start + j) := by
  cases order with
  | littleEndian => exact readU16Le_slice h
  | bigEndian => rw [readU16, readU16, byteAt_slice (by omega), byteAt_slice h, Nat.add_assoc]

theorem readU32_slice (h : j + 3 < size) :
    readU32 order ((bytes.drop start).take size) j = readU32 order bytes (start + j) := by
  cases order with
  | littleEndian =>
    rw [readU32, readU32, readU32Le, readU32Le, readU16Le_slice (by omega), readU16Le_slice h,
      Nat.add_assoc]
  | bigEndian =>
    rw [readU32, readU32, readU16_slice (by omega), readU16_slice h, Nat.add_assoc]

theorem readU16_of_slice {v : UInt16} (h : (bytes.drop start).take 2 = writeU16 order v) :
    readU16 order bytes start = v.toNat := by
  have hread := readU16_writeU16 order v []
  rw [List.append_nil, ← h, readU16_slice (by omega)] at hread
  exact hread

theorem readU32_of_slice {v : UInt32} (h : (bytes.drop start).take 4 = writeU32 order v) :
    readU32 order bytes start = v.toNat := by
  have hread := readU32_writeU32 order v []
  rw [List.append_nil, ← h, readU32_slice (by omega)] at hread
  exact hread

end

end X12

import X12.Core.ValueLists
import X12.Lib.Packed
import X12.Verify.RequestLengths
import X12.Verify.Wire

/-! # Value lists are validated as they are parsed

The validator and the parser find the same value for each bit of the mask. The
mask of a graphics context is one bit short. -/

namespace X12

theorem lt_of_hasBit {mask : UInt32} {bit : Nat} (h : hasBit mask bit) : bit < 32 := by
  refine Nat.lt_of_not_le fun hle => ?_
  rw [hasBit, Nat.testBit_lt_two_pow] at h
  · cases h
  · exact Nat.lt_of_lt_of_le mask.toNat_lt (Nat.pow_le_pow_right (by decide) hle)

theorem getU32_eq_some_iff {bytes : List UInt8} {offset : Nat} {v : UInt32} :
    getU32 bytes offset = some v ↔ offset + 4 ≤ bytes.length ∧ u32Le bytes offset = v := by
  rw [getU32, Option.ite_none_right_eq_some, Option.some_inj]

/-- A half that is read as a word. -/
theorem getU16_eq_some_iff {bytes : List UInt8} {offset : Nat} {v : UInt32} :
    (getU16 bytes offset).map UInt16.toUInt32 = some v ↔
      offset + 2 ≤ bytes.length ∧ UInt32.ofNat (readU16Le bytes offset) = v := by
  have hvalue : (UInt16.ofNat (readU16Le bytes offset)).toUInt32 =
      UInt32.ofNat (readU16Le bytes offset) := by
    have hle := readU16Le_le bytes offset
    rw [← UInt32.toNat_inj, UInt16.toNat_toUInt32, toNat_u16Le,
      UInt32.toNat_ofNat_of_lt' (by show _ < 2 ^ 32; omega)]
  rw [getU16, ← hvalue]
  split
  · next hfits => exact Option.some_inj.trans (and_iff_right hfits).symm
  · next hshort => exact iff_of_false (fun h => by cases h) fun h => hshort h.1

/-! ## The two walks -/

/-- The value at a place of the list. -/
def valueAt (body : List UInt8) (valuesStart k : Nat) : Option UInt32 :=
  getU32 body (valuesStart + k * 4)

section

variable {body : List UInt8} {valuesStart : Nat} {mask : UInt32}

theorem valueAt_ends (body : List UInt8) (valuesStart : Nat) :
    Packed.Ends (valueAt body valuesStart) := by
  intro k l hkl hk
  rw [valueAt, getU32] at hk ⊢
  refine if_neg fun hfits => ?_
  rw [if_pos (by omega)] at hk
  cases hk

theorem validateValuesFrom_eq_walk (f : Nat → UInt32 → Option UInt32) (bits : List Nat) (k : Nat) :
    validateValuesFrom body valuesStart mask f bits k =
      Packed.walk (hasBit mask) (valueAt body valuesStart) f bits k := by
  induction bits generalizing k with
  | nil => rfl
  | cons bit bits ih =>
    rw [validateValuesFrom, Packed.walk, ih, ih, valueAt, getU32]
    split
    · by_cases hfits : valuesStart + k * 4 + 4 ≤ body.length
      · rw [if_pos hfits, if_neg (by omega)]
        dsimp only
        cases f bit (u32Le body (valuesStart + k * 4)) with
        | none => rfl
        | some bad => rfl
      · rw [if_neg hfits, if_pos (by omega)]
    · rfl

theorem getU32_drop (start i : Nat) (h : start ≤ body.length) :
    getU32 (body.drop start) i = getU32 body (start + i) := by
  rw [getU32, getU32, u32Le_drop, List.length_drop]
  exact if_congr (by omega) rfl rfl

theorem valueFrom_eq_walk (h : valuesStart ≤ body.length) (targetBit : Nat) (bits : List Nat)
    (k : Nat) :
    (ValueList.mk mask (body.drop valuesStart)).valueFrom targetBit bits (k * 4) =
      Packed.walk (hasBit mask) (valueAt body valuesStart)
        (fun bit v => if bit = targetBit then some v else none) bits k := by
  induction bits generalizing k with
  | nil => rfl
  | cons bit bits ih =>
    have hnext := ih (k + 1)
    rw [Nat.succ_mul] at hnext
    rw [ValueList.valueFrom, Packed.walk, ih, hnext, getU32_drop _ _ h, valueAt]
    split
    · cases getU32 body (valuesStart + k * 4) with
      | none => rfl
      | some v =>
        by_cases hbit : bit = targetBit
        · simp [hbit]
        · simp [hbit]
    · rfl

/-- The validator goes through the values of the set bits. -/
theorem validateValueList_eq (f : Nat → UInt32 → Option UInt32) :
    validateValueList body valuesStart mask f = (List.range 32).findSome? fun bit =>
      (Packed.value (hasBit mask) (valueAt body valuesStart) bit).bind (f bit) := by
  rw [validateValueList, validateValuesFrom_eq_walk]
  exact Packed.walk_eq_findSome? (valueAt_ends body valuesStart) f 32

/-- A validator for one bit finds its value. -/
theorem validateValueList_place (bit : Nat) :
    validateValueList body valuesStart mask (fun b v => if b = bit then some v else none) =
      Packed.value (hasBit mask) (valueAt body valuesStart) bit := by
  by_cases hbit : bit < 32
  · rw [validateValueList, validateValuesFrom_eq_walk]
    exact Packed.walk_place (valueAt_ends body valuesStart) hbit
  · -- the walk does not come to such a bit, and no mask has it
    have hvalue : Packed.value (hasBit mask) (valueAt body valuesStart) bit = none :=
      if_neg fun h => hbit (lt_of_hasBit h)
    rw [validateValueList_eq, hvalue]
    refine List.findSome?_eq_none_iff.mpr fun b hb => ?_
    have hne : b ≠ bit := fun h => hbit (h ▸ List.mem_range.mp hb)
    cases Packed.value (hasBit mask) (valueAt body valuesStart) b with
    | none => rfl
    | some v => exact if_neg hne

/-- And so does the parser. -/
theorem value_eq_validateValueList (h : valuesStart ≤ body.length) (bit : Nat) :
    (ValueList.mk mask (body.drop valuesStart)).value bit =
      validateValueList body valuesStart mask (fun b v => if b = bit then some v else none) := by
  rw [ValueList.value, validateValueList, validateValuesFrom_eq_walk, ← valueFrom_eq_walk h,
    Nat.zero_mul]

end

/-! ## Masks -/

theorem and_high_ne_zero_iff {m k w : Nat} (hm : m < 2 ^ w) (hk : k ≤ w) :
    m &&& (2 ^ w - (2 ^ k - 1 + 1)) ≠ 0 ↔ 2 ^ k ≤ m := by
  have hpos : 0 < 2 ^ k := Nat.two_pow_pos k
  have hle : 2 ^ k ≤ 2 ^ w := Nat.pow_le_pow_right (by decide) hk
  have hbit (i : Nat) : (m &&& (2 ^ w - (2 ^ k - 1 + 1))).testBit i =
      (m.testBit i && (decide (i < w) && !decide (i < k))) := by
    rw [Nat.testBit_and, Nat.testBit_two_pow_sub_succ (by omega), Nat.testBit_two_pow_sub_one]
  constructor
  · intro hne
    refine Nat.le_of_not_lt fun hlt => hne (Nat.eq_of_testBit_eq fun i => ?_)
    rw [hbit, Nat.zero_testBit]
    by_cases hi : i < k
    · simp [hi]
    · have hm : m < 2 ^ i := Nat.lt_of_lt_of_le hlt
        (Nat.pow_le_pow_right (by decide) (Nat.le_of_not_lt hi))
      rw [Nat.testBit_lt_two_pow hm, Bool.false_and]
  · intro hge hzero
    obtain ⟨i, hi, hset⟩ := Nat.exists_ge_and_testBit_of_ge_two_pow hge
    have hiw : i < w := (Nat.pow_lt_pow_iff_right (by decide)).mp
      (Nat.lt_of_le_of_lt (Nat.ge_two_pow_of_testBit hset) hm)
    have hand := hbit i
    rw [hzero, Nat.zero_testBit, hset] at hand
    simp at hand
    omega

theorem and_not_ne_zero_iff32 (mask : UInt32) {k : Nat} (hk : k ≤ 32) :
    mask &&& ~~~(UInt32.ofNat (2 ^ k - 1)) ≠ 0 ↔ 2 ^ k ≤ mask.toNat := by
  have hle : 2 ^ k ≤ 2 ^ 32 := Nat.pow_le_pow_right (by decide) hk
  have hvalue : (UInt32.ofNat (2 ^ k - 1)).toNat = 2 ^ k - 1 :=
    UInt32.toNat_ofNat_of_lt' (by show _ < 2 ^ 32; omega)
  rw [Ne, ← UInt32.toNat_inj, UInt32.toNat_and, UInt32.toNat_not, hvalue, Nat.sub_sub,
    Nat.add_comm 1]
  exact and_high_ne_zero_iff mask.toNat_lt hk

theorem and_not_ne_zero_iff16 (mask : UInt16) {k : Nat} (hk : k ≤ 16) :
    mask &&& ~~~(UInt16.ofNat (2 ^ k - 1)) ≠ 0 ↔ 2 ^ k ≤ mask.toNat := by
  have hle : 2 ^ k ≤ 2 ^ 16 := Nat.pow_le_pow_right (by decide) hk
  have hvalue : (UInt16.ofNat (2 ^ k - 1)).toNat = 2 ^ k - 1 :=
    UInt16.toNat_ofNat_of_lt' (by show _ < 2 ^ 16; omega)
  rw [Ne, ← UInt16.toNat_inj, UInt16.toNat_and, UInt16.toNat_not, hvalue, Nat.sub_sub,
    Nat.add_comm 1]
  exact and_high_ne_zero_iff mask.toNat_lt hk

/-- A bit from `k` on. -/
theorem hasBit_from_iff {mask : UInt32} {k : Nat} :
    (∃ bit, hasBit mask bit ∧ k ≤ bit) ↔ 2 ^ k ≤ mask.toNat := by
  constructor
  · intro ⟨bit, hbit, hk⟩
    exact Nat.le_trans (Nat.pow_le_pow_right (by decide) hk) (Nat.ge_two_pow_of_testBit hbit)
  · intro h
    obtain ⟨bit, hk, hbit⟩ := Nat.exists_ge_and_testBit_of_ge_two_pow h
    exact ⟨bit, hbit, hk⟩

/-! ## Requests with a mask -/

/-- The requests whose mask names window attributes, components of a
configuration or components of a graphics context. -/
inductive MaskRequest where
  | createWindow
  | changeWindowAttributes
  | configureWindow
  | createGC
  | changeGC
  | copyGC
  deriving DecidableEq, Repr

inductive ParsedRequest where
  | createWindow (request : CreateWindowRequest)
  | changeWindowAttributes (request : ChangeWindowAttributesRequest)
  | configureWindow (request : ConfigureWindowRequest) (valueMask : UInt16)
  | createGC (request : CreateGcRequest)
  | changeGC (request : GcChange)
  | copyGC (src dst : ResourceId) (valueMask : UInt32)

namespace MaskRequest

def opcode : MaskRequest → UInt8
  | createWindow => 1
  | changeWindowAttributes => 2
  | configureWindow => 12
  | createGC => 55
  | changeGC => 56
  | copyGC => 57

/-- The number of components that the protocol defines; their bits are the lowest ones. -/
def components : MaskRequest → Nat
  | createWindow | changeWindowAttributes => 15
  | configureWindow => 7
  | createGC | changeGC | copyGC => 23

/-- The mask of a request, if the body reaches to its end. -/
def mask (body : List UInt8) : MaskRequest → Option UInt32
  | createWindow => getU32 body 24
  | changeWindowAttributes => getU32 body 4
  | configureWindow => (getU16 body 4).map UInt16.toUInt32
  | createGC => getU32 body 8
  | changeGC => getU32 body 4
  | copyGC => getU32 body 8

/-- Where the values start. CopyGC takes them from another context. -/
def valuesStart : MaskRequest → Option Nat
  | createWindow => some 28
  | changeWindowAttributes => some 8
  | configureWindow => some 8
  | createGC => some 12
  | changeGC => some 8
  | copyGC => none

def validateBit : MaskRequest → Nat → UInt32 → Option UInt32
  | createWindow | changeWindowAttributes => cwValidateBit
  | configureWindow => cfgValidateBit
  | createGC | changeGC => gcValidateBit
  | copyGC => fun _ _ => none

/-- What the parser of a request returns, for the values that it is given. -/
def ofValues (headerData : UInt8) (body : List UInt8) (mask : UInt32)
    (value : Nat → Option UInt32) : MaskRequest → Option ParsedRequest
  | createWindow => (CreateWindowRequest.ofValues headerData body mask value).map .createWindow
  | changeWindowAttributes =>
    (ChangeWindowAttributesRequest.ofValues body mask value).map .changeWindowAttributes
  | configureWindow =>
    (getU32 body 0).map fun window => .configureWindow (.ofValues window value) mask.toUInt16
  | createGC => do
    return .createGC ⟨← getU32 body 0, ← getU32 body 4, .ofValues value⟩
  | changeGC => (getU32 body 0).map fun gc => .changeGC ⟨gc, .ofValues value⟩
  | copyGC => (copyGcRequest body).map fun (src, dst, _) => .copyGC src dst mask

def parse (headerData : UInt8) (body : List UInt8) : MaskRequest → Option ParsedRequest
  | createWindow => (createWindowRequest headerData body).map .createWindow
  | changeWindowAttributes => (changeWindowAttributesRequest body).map .changeWindowAttributes
  | configureWindow =>
    (configureWindowRequest body).map fun (request, mask) => .configureWindow request mask
  | createGC => (createGcRequest body).map .createGC
  | changeGC => (changeGcRequest body).map .changeGC
  | copyGC => (copyGcRequest body).map fun (src, dst, mask) => .copyGC src dst mask

/-- The value that the validator looks at for a bit. -/
def checkedValue (r : MaskRequest) (body : List UInt8) (bit : Nat) : Option UInt32 := do
  let mask ← r.mask body
  let start ← r.valuesStart
  validateValueList body start mask fun b v => if b = bit then some v else none

def HasBit (r : MaskRequest) (body : List UInt8) (bit : Nat) : Prop :=
  ∃ mask, r.mask body = some mask ∧ hasBit mask bit

end MaskRequest

theorem isSome_checkU32_iff (body : List UInt8) (offset : Nat) {k : Nat} (hk : k ≤ 32) :
    (checkU32 body offset (UInt32.ofNat (2 ^ k - 1))).isSome ↔
      ∃ mask, getU32 body offset = some mask ∧ 2 ^ k ≤ mask.toNat := by
  rw [checkU32, getU32]
  by_cases hfits : offset + 4 ≤ body.length
  · rw [if_neg (by omega), if_pos hfits]
    simp [and_not_ne_zero_iff32 _ hk]
  · rw [if_pos (by omega), if_neg hfits]
    simp

theorem isSome_checkU16_iff (body : List UInt8) (offset : Nat) {k : Nat} (hk : k ≤ 16) :
    (checkU16 body offset (UInt16.ofNat (2 ^ k - 1))).isSome ↔
      ∃ mask, (getU16 body offset).map UInt16.toUInt32 = some mask ∧ 2 ^ k ≤ mask.toNat := by
  rw [checkU16, getU16]
  by_cases hfits : offset + 2 ≤ body.length
  · rw [if_neg (by omega), if_pos hfits]
    simp [and_not_ne_zero_iff16 _ hk]
  · rw [if_pos (by omega), if_neg hfits]
    simp

namespace MaskRequest

/-- The number of bits that the validator lets pass. -/
def validBits : MaskRequest → Nat
  | createWindow | changeWindowAttributes => 15
  | configureWindow => 7
  | createGC | changeGC | copyGC => 22

/-- The mask is refused if it has a bit beyond those that pass. -/
theorem isSome_invalidValueMask_iff (r : MaskRequest) (body : List UInt8) :
    (invalidValueMask r.opcode body).isSome ↔
      ∃ mask, r.mask body = some mask ∧ 2 ^ r.validBits ≤ mask.toNat := by
  have hcw : CW_VALID = UInt32.ofNat (2 ^ 15 - 1) := by decide
  have hcfg : CFG_VALID = UInt16.ofNat (2 ^ 7 - 1) := by decide
  have hgc : GC_VALID = UInt32.ofNat (2 ^ 22 - 1) := by decide
  cases r with
  | createWindow =>
    show (checkU32 body 24 CW_VALID).isSome ↔ _
    rw [hcw, isSome_checkU32_iff body 24 (by decide)]
    rfl
  | changeWindowAttributes =>
    show (checkU32 body 4 CW_VALID).isSome ↔ _
    rw [hcw, isSome_checkU32_iff body 4 (by decide)]
    rfl
  | configureWindow =>
    show (checkU16 body 4 CFG_VALID).isSome ↔ _
    rw [hcfg, isSome_checkU16_iff body 4 (by decide)]
    rfl
  | createGC =>
    show (checkU32 body 8 GC_VALID).isSome ↔ _
    rw [hgc, isSome_checkU32_iff body 8 (by decide)]
    rfl
  | changeGC =>
    show (checkU32 body 4 GC_VALID).isSome ↔ _
    rw [hgc, isSome_checkU32_iff body 4 (by decide)]
    rfl
  | copyGC =>
    show (checkU32 body 8 GC_VALID).isSome ↔ _
    rw [hgc, isSome_checkU32_iff body 8 (by decide)]
    rfl

theorem exists_hasBit_iff (r : MaskRequest) (body : List UInt8) (k : Nat) :
    (∃ bit, r.HasBit body bit ∧ k ≤ bit) ↔
      ∃ mask, r.mask body = some mask ∧ 2 ^ k ≤ mask.toNat := by
  constructor
  · intro ⟨bit, ⟨mask, hmask, hbit⟩, hk⟩
    exact ⟨mask, hmask, hasBit_from_iff.mp ⟨bit, hbit, hk⟩⟩
  · intro ⟨mask, hmask, hle⟩
    obtain ⟨bit, hbit, hk⟩ := hasBit_from_iff.mpr hle
    exact ⟨bit, ⟨mask, hmask, hbit⟩, hk⟩

/-- The values that are looked at are those of the list. -/
theorem checkedValue_eq {r : MaskRequest} {body : List UInt8} {mask : UInt32} {start : Nat}
    (hmask : r.mask body = some mask) (hstart : r.valuesStart = some start) (bit : Nat) :
    r.checkedValue body bit = Packed.value (hasBit mask) (valueAt body start) bit := by
  rw [checkedValue, hmask, hstart]
  exact validateValueList_place bit

/-- A list whose mask is missing has no values. -/
theorem checkedValue_eq_none {r : MaskRequest} {body : List UInt8} (hmask : r.mask body = none)
    (bit : Nat) : r.checkedValue body bit = none := by
  rw [checkedValue, hmask]
  rfl

/-- The validator of a request walks through its list. -/
theorem invalidValue_eq_bind (r : MaskRequest) (headerData : UInt8) (body : List UInt8) :
    invalidValue r.opcode headerData body =
      (r.mask body).bind fun mask => r.valuesStart.bind fun start =>
        validateValueList body start mask r.validateBit := by
  have hword (offset : Nat) (f : UInt32 → Option UInt32) :
      (if offset + 4 ≤ body.length then f (u32Le body offset) else none) =
        (getU32 body offset).bind f := by
    rw [getU32]
    split
    · rfl
    · rfl
  cases r with
  | createWindow => exact hword 24 fun mask => validateValueList body 28 mask cwValidateBit
  | changeWindowAttributes =>
    exact hword 4 fun mask => validateValueList body 8 mask cwValidateBit
  | configureWindow =>
    show (if 4 + 2 ≤ body.length then _ else none) =
      ((getU16 body 4).map UInt16.toUInt32).bind _
    split
    · next hfits =>
      rw [getU16_eq_some_iff.mpr ⟨hfits, rfl⟩]
      rfl
    · next hshort =>
      rw [getU16, if_neg hshort]
      rfl
  | createGC => exact hword 8 fun mask => validateValueList body 12 mask gcValidateBit
  | changeGC => exact hword 4 fun mask => validateValueList body 8 mask gcValidateBit
  | copyGC =>
    show none = (getU32 body 8).bind fun _ => none
    cases getU32 body 8 <;> rfl

/-- The validator goes through the checked values, and takes the first that is bad. -/
theorem invalidValue_eq (r : MaskRequest) (headerData : UInt8) (body : List UInt8) :
    invalidValue r.opcode headerData body = (List.range 32).findSome? fun bit =>
      (r.checkedValue body bit).bind (r.validateBit bit) := by
  have hnone (hvalue : ∀ bit, r.checkedValue body bit = none) :
      (List.range 32).findSome? (fun bit => (r.checkedValue body bit).bind (r.validateBit bit)) =
        none :=
    List.findSome?_eq_none_iff.mpr fun bit _ => by
      rw [hvalue]
      rfl
  rw [invalidValue_eq_bind]
  cases hmask : r.mask body with
  | none => exact (hnone (checkedValue_eq_none hmask)).symm
  | some mask =>
    cases hstart : r.valuesStart with
    | none =>
      refine (hnone fun bit => ?_).symm
      rw [checkedValue, hmask, hstart]
      rfl
    | some start =>
      simp only [checkedValue_eq hmask hstart]
      exact validateValueList_eq r.validateBit

/-- The parser reads the checked values. -/
theorem value_eq_checkedValue {r : MaskRequest} {body : List UInt8} {mask : UInt32} {start : Nat}
    (hmask : r.mask body = some mask) (hstart : r.valuesStart = some start)
    (hle : start ≤ body.length) :
    (ValueList.mk mask (body.drop start)).value = r.checkedValue body := by
  funext bit
  rw [value_eq_validateValueList hle, checkedValue, hmask, hstart]
  rfl

theorem parse_eq {r : MaskRequest} (headerData : UInt8) {body : List UInt8} {mask : UInt32}
    (hmask : r.mask body = some mask)
    (hstart : ∀ start, r.valuesStart = some start → start ≤ body.length) :
    r.parse headerData body = r.ofValues headerData body mask (r.checkedValue body) := by
  have hvalue {start : Nat} (h : r.valuesStart = some start) :
      (ValueList.mk mask (body.drop start)).value = r.checkedValue body :=
    value_eq_checkedValue hmask h (hstart start h)
  have hfrom {start : Nat} (h : r.valuesStart = some start) :
      getFrom body start = some (body.drop start) := if_pos (hstart start h)
  cases r with
  | createWindow =>
    have hget : getU32 body 24 = some mask := hmask
    rw [parse, createWindowRequest, hget, hfrom rfl, ofValues, ← hvalue rfl]
    rfl
  | changeWindowAttributes =>
    have hget : getU32 body 4 = some mask := hmask
    rw [parse, changeWindowAttributesRequest, hget, hfrom rfl, ofValues, ← hvalue rfl]
    rfl
  | configureWindow =>
    obtain ⟨half, hget, rfl⟩ := Option.map_eq_some_iff.mp hmask
    rw [parse, configureWindowRequest, hget, hfrom rfl, ofValues, ← hvalue rfl]
    cases getU32 body 0 with
    | none => rfl
    | some window =>
      have hhalf : half.toUInt32.toUInt16 = half := UInt16.toUInt16_toUInt32 half
      rw [hhalf]
      rfl
  | createGC =>
    have hget : getU32 body 8 = some mask := hmask
    rw [parse, createGcRequest, hget, hfrom rfl, ofValues, ← hvalue rfl]
    cases getU32 body 0 with
    | none => rfl
    | some gc =>
      cases getU32 body 4 with
      | none => rfl
      | some drawable => rfl
  | changeGC =>
    have hget : getU32 body 4 = some mask := hmask
    rw [parse, changeGcRequest, hget, hfrom rfl, ofValues, ← hvalue rfl]
    cases getU32 body 0 with
    | none => rfl
    | some gc => rfl
  | copyGC =>
    obtain ⟨hfits, rfl⟩ := getU32_eq_some_iff.mp hmask
    rw [parse, ofValues, copyGcRequest, if_pos hfits]
    rfl

end MaskRequest

/-! ## Lengths -/

section

variable {overflowChecks : Bool} {headerData : UInt8} {body : FramedBody} {framing : Framing}

theorem units_of_gate {opcode : UInt8} {required : Nat}
    (h : coreLengthGates overflowChecks opcode headerData (body.lengthUnits framing) body.bytes =
      some true) (hrequired : exactRequiredLength opcode headerData body.bytes = some required) :
    body.units + 1 = required := by
  have hexact : validateExactRequestLength overflowChecks opcode headerData
      (body.lengthUnits framing) body.bytes = some true := by
    rw [coreLengthGates] at h
    split at h
    · exact h
    · cases h
  cases framing with
  | normal =>
    rw [FramedBody.lengthUnits, exact_normal, hrequired] at hexact
    simpa using hexact
  | extended =>
    rw [FramedBody.lengthUnits, exact_extended, hrequired] at hexact
    dsimp only at hexact
    split at hexact
    · cases hexact
    · simpa using hexact

/-- The required length counts the bits of the mask. -/
theorem MaskRequest.exactRequiredLength_of_mask {r : MaskRequest} {bytes : List UInt8}
    {mask : UInt32} {start : Nat} (headerData : UInt8) (hmask : r.mask bytes = some mask)
    (hstart : r.valuesStart = some start) :
    exactRequiredLength r.opcode headerData bytes =
      some (start / 4 + 1 + countOnes mask.toNat) := by
  have hword {offset fixed : Nat} (h : getU32 bytes offset = some mask) :
      (if offset + 4 ≤ bytes.length then some (fixed + countOnes (readU32Le bytes offset))
        else none) = some (fixed + countOnes mask.toNat) := by
    obtain ⟨hfits, rfl⟩ := getU32_eq_some_iff.mp h
    rw [if_pos hfits, toNat_u32Le]
  cases r with
  | createWindow =>
    cases hstart
    exact hword hmask
  | changeWindowAttributes =>
    cases hstart
    exact hword hmask
  | configureWindow =>
    cases hstart
    obtain ⟨hfits, rfl⟩ := getU16_eq_some_iff.mp hmask
    have hle := readU16Le_le bytes 4
    rw [UInt32.toNat_ofNat_of_lt' (by show _ < 2 ^ 32; omega)]
    exact if_pos hfits
  | createGC =>
    cases hstart
    exact hword hmask
  | changeGC =>
    cases hstart
    exact hword hmask
  | copyGC => cases hstart

/-- The values of a request that has passed the gates end with its body. -/
theorem MaskRequest.length_of_gate {r : MaskRequest} {mask : UInt32} {start : Nat}
    (h : coreLengthGates overflowChecks r.opcode headerData (body.lengthUnits framing)
      body.bytes = some true)
    (hmask : r.mask body.bytes = some mask) (hstart : r.valuesStart = some start) :
    body.bytes.length = start + 4 * countOnes mask.toNat := by
  have hunits := units_of_gate h (exactRequiredLength_of_mask headerData hmask hstart)
  have haligned := body.aligned
  have hstart4 : start % 4 = 0 := by cases r <;> cases hstart <;> rfl
  omega

end

/-! ## Agreement -/

namespace MaskRequest

section

variable (r : MaskRequest) (overflowChecks : Bool) (headerData : UInt8) (body : FramedBody)
  (framing : Framing)

/-- The request has passed the length gates and the mask is not refused. -/
def Accepted : Prop :=
  coreLengthGates overflowChecks r.opcode headerData (body.lengthUnits framing) body.bytes =
    some true ∧ invalidValueMask r.opcode body.bytes = none

/-- The validator of the mask, that of the values and the parser read one list. -/
structure Agrees : Prop where
  /-- A mask is refused for a bit without a component, and for no other reason. -/
  mask : (invalidValueMask r.opcode body.bytes).isSome ↔
    ∃ bit, r.HasBit body.bytes bit ∧ r.components ≤ bit
  /-- Each bit of an accepted mask has a value. -/
  complete : r.Accepted overflowChecks headerData body framing → r.valuesStart.isSome →
    ∀ bit, r.HasBit body.bytes bit → (r.checkedValue body.bytes bit).isSome
  /-- The validator goes through these values. -/
  validated : r.Accepted overflowChecks headerData body framing →
    invalidValue r.opcode headerData body.bytes = (List.range 32).findSome? fun bit =>
      (r.checkedValue body.bytes bit).bind (r.validateBit bit)
  /-- The parser gets them from the list, and no others. -/
  parsed : r.Accepted overflowChecks headerData body framing →
    ∀ mask, r.mask body.bytes = some mask →
      (∀ start, r.valuesStart = some start →
        (ValueList.mk mask (body.bytes.drop start)).value = r.checkedValue body.bytes) ∧
      r.parse headerData body.bytes =
        r.ofValues headerData body.bytes mask (r.checkedValue body.bytes)

/-- The highest component in the mask of a graphics context is the arc mode. -/
def ArcModeHighest : Prop :=
  r.components = 23 ∧ ∃ mask, r.mask body.bytes = some mask ∧ 2 ^ 22 ≤ mask.toNat ∧
    mask.toNat < 2 ^ 23

end

/-- A body with a mask reaches to the place where the values start. -/
theorem start_le_length {r : MaskRequest} {body : FramedBody} {mask : UInt32} {start : Nat}
    (hmask : r.mask body.bytes = some mask) (hstart : r.valuesStart = some start) :
    start ≤ body.bytes.length := by
  cases r with
  | createWindow =>
    cases hstart
    exact (getU32_eq_some_iff.mp hmask).1
  | changeWindowAttributes =>
    cases hstart
    exact (getU32_eq_some_iff.mp hmask).1
  | configureWindow =>
    -- two bytes of padding follow the mask, and bodies are whole units
    cases hstart
    have hfits := (getU16_eq_some_iff.mp hmask).1
    have haligned := body.aligned
    omega
  | createGC =>
    cases hstart
    exact (getU32_eq_some_iff.mp hmask).1
  | changeGC =>
    cases hstart
    exact (getU32_eq_some_iff.mp hmask).1
  | copyGC => cases hstart

theorem complete_of_gate {r : MaskRequest} {overflowChecks : Bool} {headerData : UInt8}
    {body : FramedBody} {framing : Framing}
    (h : coreLengthGates overflowChecks r.opcode headerData (body.lengthUnits framing)
      body.bytes = some true) (hvalues : r.valuesStart.isSome) {bit : Nat}
    (hbit : r.HasBit body.bytes bit) : (r.checkedValue body.bytes bit).isSome := by
  obtain ⟨start, hstart⟩ := Option.isSome_iff_exists.mp hvalues
  obtain ⟨mask, hmask, hbit⟩ := hbit
  have hlength := length_of_gate h hmask hstart
  have hposition : Packed.position (hasBit mask) bit < countOnes mask.toNat :=
    Packed.position_lt hbit (lt_of_hasBit hbit)
  rw [checkedValue_eq hmask hstart, Packed.value, if_pos hbit, valueAt, getU32,
    if_pos (by omega)]
  rfl

/-- The bits that do not pass are those without a component, but for the arc mode. -/
theorem exists_valid_iff {r : MaskRequest} {body : FramedBody} (h : ¬ r.ArcModeHighest body) :
    (∃ mask, r.mask body.bytes = some mask ∧ 2 ^ r.validBits ≤ mask.toNat) ↔
      ∃ mask, r.mask body.bytes = some mask ∧ 2 ^ r.components ≤ mask.toNat := by
  have hgc (hcomponents : r.components = 23) (hvalid : r.validBits = 22) :
      (∃ mask, r.mask body.bytes = some mask ∧ 2 ^ r.validBits ≤ mask.toNat) ↔
        ∃ mask, r.mask body.bytes = some mask ∧ 2 ^ r.components ≤ mask.toNat := by
    rw [hcomponents, hvalid]
    constructor
    · intro ⟨mask, hmask, hle⟩
      exact ⟨mask, hmask, Nat.le_of_not_lt fun hlt => h ⟨hcomponents, mask, hmask, hle, hlt⟩⟩
    · intro ⟨mask, hmask, hle⟩
      exact ⟨mask, hmask, by omega⟩
  cases r with
  | createWindow => exact Iff.rfl
  | changeWindowAttributes => exact Iff.rfl
  | configureWindow => exact Iff.rfl
  | createGC => exact hgc rfl rfl
  | changeGC => exact hgc rfl rfl
  | copyGC => exact hgc rfl rfl

/-- The arc mode alone is refused although it is a component. -/
theorem agrees_iff (r : MaskRequest) (overflowChecks : Bool) (headerData : UInt8)
    (body : FramedBody) (framing : Framing) :
    r.Agrees overflowChecks headerData body framing ↔ ¬ r.ArcModeHighest body := by
  constructor
  · intro h harc
    obtain ⟨hcomponents, mask, hmask, hlow, hhigh⟩ := harc
    have hvalid : r.validBits = 22 := by cases r <;> first | rfl | cases hcomponents
    have hrefused := (r.isSome_invalidValueMask_iff body.bytes).mpr
      ⟨mask, hmask, by rw [hvalid]; exact hlow⟩
    obtain ⟨mask', hmask', hbeyond⟩ :=
      (r.exists_hasBit_iff body.bytes r.components).mp (h.mask.mp hrefused)
    rw [hmask] at hmask'
    cases hmask'
    rw [hcomponents] at hbeyond
    exact Nat.not_le_of_lt hhigh hbeyond
  · intro h
    refine ⟨?_, ?_, ?_, ?_⟩
    · rw [isSome_invalidValueMask_iff, exists_hasBit_iff]
      exact exists_valid_iff h
    · exact fun haccepted hvalues bit hbit => complete_of_gate haccepted.1 hvalues hbit
    · exact fun _ => invalidValue_eq r headerData body.bytes
    · intro _ mask hmask
      have hstart (start : Nat) (h : r.valuesStart = some start) : start ≤ body.bytes.length :=
        start_le_length hmask h
      exact ⟨fun start h => value_eq_checkedValue hmask h (hstart start h),
        parse_eq headerData hmask hstart⟩

/-- ChangeGC for the arc mode alone, set to the pie slice. -/
def arcModeBody : FramedBody where
  bytes := [0x01, 0x00, 0x20, 0x00, 0x00, 0x00, 0x40, 0x00, 0x01, 0x00, 0x00, 0x00]
  units := 3
  aligned := rfl
  fits := by decide

/-- The mask is refused although the length is right, the validator has no
objection to the value and the parser knows the component. -/
theorem changeGC_arcMode_refused :
    coreLengthGates true 56 0 (arcModeBody.lengthUnits .normal) arcModeBody.bytes = some true ∧
      invalidValueMask 56 arcModeBody.bytes = some 0x400000 ∧
      invalidValue 56 0 arcModeBody.bytes = none ∧
      (changeGcRequest arcModeBody.bytes).map (·.attributes.arcMode) = some (some 1) ∧
      ¬ changeGC.Agrees true 0 arcModeBody .normal := by
  refine ⟨by decide, by decide, by decide, by decide, fun h => ?_⟩
  obtain ⟨bit, ⟨mask, hmask, hbit⟩, hbeyond⟩ := h.mask.mp rfl
  cases hmask
  have hge : 2 ^ 23 ≤ (u32Le arcModeBody.bytes 4).toNat := hasBit_from_iff.mp ⟨bit, hbit, hbeyond⟩
  revert hge
  decide

end MaskRequest

end X12

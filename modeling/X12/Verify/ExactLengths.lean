import X12.Protocol.ReadRequest
import X12.Verify.RequestLengths

/-! # The exact length gate

What a frame can hold bounds every length in the exact gate, so its arithmetic
leaves 32 bits in one place only: where the unit of an extended frame is added to
the sentinel. The other hole is a property whose size does not fit in 32 bits. -/

namespace X12

/-! ## Frames -/

/-- A body that is read in full is one that the length of its frame allows. -/
theorem readBody_bounds {opcode data : UInt8} {units bodyLen : Nat} {malformed : Bool}
    {stream body rest : List UInt8} {header : RequestHeader}
    (h : readBody opcode data units bodyLen malformed stream = .request header body rest) :
    (header.lengthUnits = u32Max ∧ body = []) ∨
      malformed = false ∧ header.lengthUnits = units ∧ body.length = bodyLen := by
  unfold readBody at h
  split at h
  · cases h
  next hlen =>
    split at h
    · cases h
      exact .inl ⟨rfl, rfl⟩
    next hformed =>
      cases h
      have hbody : (stream.take bodyLen).length = bodyLen :=
        List.length_take_of_le (Nat.le_of_not_lt hlen)
      exact .inr ⟨eq_false_of_ne_true hformed, rfl, hbody⟩

/-- A request that is not malformed has at most 2 ^ 20 bytes. -/
theorem readRequest_length {order : ClientByteOrder} {big : Bool} {stream body rest : List UInt8}
    {header : RequestHeader} (h : readRequest order big stream = .request header body rest) :
    body.length < 2 ^ 20 := by
  have hmax : maxRequestUnits big ≤ 2 ^ 18 := by
    cases big <;> decide
  have hbound {units bodyLen : Nat} {opcode data : UInt8} {malformed : Bool} {s : List UInt8}
      (hformed : malformed = false → bodyLen < 2 ^ 20)
      (h : readBody opcode data units bodyLen malformed s = .request header body rest) :
      body.length < 2 ^ 20 := by
    rcases readBody_bounds h with ⟨-, rfl⟩ | ⟨hmal, -, hlen⟩
    · exact Nat.two_pow_pos 20
    · exact hlen ▸ hformed hmal
  unfold readRequest at h
  simp only at h
  split at h
  · cases h
  split at h
  · split at h
    · cases h
    split at h
    · exact hbound (fun _ => Nat.two_pow_pos 20) h
    · refine hbound (fun hmal => ?_) h
      rw [decide_eq_false_iff_not] at hmal
      omega
  split at h
  · cases h
  · refine hbound (fun hmal => ?_) h
    rw [decide_eq_false_iff_not] at hmal
    omega

/-! ## Arithmetic -/

namespace Checked

theorem add_of_le {a b : Nat} (h : a + b ≤ u32Max) : add a b = some (a + b) := by
  rw [add, addU32, if_pos h]

theorem mul_of_le {a b : Nat} (h : a * b ≤ u32Max) : mul a b = some (a * b) :=
  if_pos h

theorem padUnits_eq {bytes : Nat} (h : bytes ≤ u32Max) :
    padUnits bytes = some (X12.padUnits bytes) := by
  unfold padUnits X12.padUnits
  split
  · rw [add_of_le (by omega), Option.some.injEq]
    omega
  · rw [Option.some.injEq]
    omega

theorem counted_eq {fixed content : Nat} (hfixed : fixed ≤ 8) (hcontent : content ≤ 2 ^ 30) :
    counted fixed content = some (some (fixed + content)) := by
  have hsum : fixed + content ≤ u32Max := by
    unfold u32Max
    omega
  rw [counted, add_of_le hsum]
  rfl

theorem padded_eq {fixed bytes : Nat} (hfixed : fixed ≤ 8) (hbytes : bytes ≤ u32Max) :
    padded fixed bytes = some (some (fixed + X12.padUnits bytes)) := by
  have hunits : X12.padUnits bytes ≤ 2 ^ 30 := by
    unfold X12.padUnits u32Max at *
    omega
  rw [padded, padUnits_eq hbytes]
  exact counted_eq hfixed hunits

theorem imageText_eq {body : List UInt8} {bytes : Nat} (hbody : body.length < 2 ^ 20)
    (hbytes : bytes ≤ 65535) : imageText body bytes = some (X12.imageText body bytes) := by
  have hpad : X12.padUnits bytes ≤ 65535 := padUnits_le hbytes
  have hle : bytes ≤ u32Max := Nat.le_trans hbytes (by decide)
  have hsum : 4 + X12.padUnits bytes ≤ u32Max := by
    unfold u32Max
    omega
  have hmod : body.length / 4 % 2 ^ 32 = body.length / 4 := Nat.mod_eq_of_lt (by omega)
  have hsub : sub (4 + X12.padUnits bytes) 1 = some (4 + X12.padUnits bytes - 1) :=
    if_pos (by omega)
  simp only [imageText, X12.imageText, padUnits_eq hle, add_of_le hsum, hsub, hmod,
    Option.bind_eq_bind, Option.bind_some, Option.pure_def]

theorem guarded_eq {c : Prop} [Decidable c] {checked : Option (Option Nat)} {length : Option Nat}
    (h : checked = some length) :
    (if c then checked else some none) = some (if c then length else none) := by
  split
  · exact h
  · rfl

/-- Nothing overflows on the way to the required length. -/
theorem exactRequiredLength_eq {opcode headerData : UInt8} {body : List UInt8}
    (hbody : body.length < 2 ^ 20) :
    exactRequiredLength opcode headerData body =
      some (X12.exactRequiredLength opcode headerData body) := by
  have hdata : headerData.toNat ≤ 255 := Nat.le_of_lt_succ headerData.toNat_lt
  have hcount (n : Nat) : countOnes n ≤ 2 ^ 30 := Nat.le_trans (countOnes_le n) (by decide)
  have hhalf (i : Nat) : readU16Le body i ≤ 2 ^ 30 :=
    Nat.le_trans (readU16Le_le body i) (by decide)
  have hhalf' (i : Nat) : readU16Le body i ≤ u32Max :=
    Nat.le_trans (readU16Le_le body i) (by decide)
  have hdata' : headerData.toNat ≤ u32Max := Nat.le_trans hdata (by decide)
  have htwice : 2 * headerData.toNat ≤ 65535 := by omega
  have htwice' : mul 2 headerData.toNat = some (2 * headerData.toNat) :=
    mul_of_le (Nat.le_trans htwice (by decide))
  unfold exactRequiredLength
  split
  case h_5 => -- ChangeProperty
    refine guarded_eq ?_
    by_cases hformat : byteAt body 12 ≠ 8 ∧ byteAt body 12 ≠ 16 ∧ byteAt body 12 ≠ 32
    · exact (if_pos hformat).trans (congrArg some (if_pos hformat).symm)
    · refine (if_neg hformat).trans (Eq.trans ?_ (congrArg some (if_neg hformat).symm))
      by_cases hle : readU32Le body 16 * (byteAt body 12 / 8) ≤ u32Max
      · rw [mul_of_le hle]
        refine (padded_eq (show 6 ≤ 8 by decide) hle).trans (congrArg some ?_)
        exact (if_neg (Nat.not_lt.mpr hle)).symm
      · rw [mul, if_neg hle]
        exact congrArg some (if_pos (Nat.lt_of_not_le hle)).symm
  case h_16 => -- ChangeKeyboardMapping
    have hkeysyms : headerData.toNat * byteAt body 1 ≤ 65535 :=
      mul_le_bytes hdata (byteAt_le body 1)
    refine guarded_eq ?_
    rw [mul_of_le (Nat.le_trans hkeysyms (by decide))]
    exact counted_eq (by decide) (Nat.le_trans hkeysyms (by decide))
  case h_20 => exact padded_eq (by decide) hdata'
  case h_21 =>
    rw [htwice']
    exact counted_eq (by decide) (Nat.le_trans htwice (by decide))
  case h_32 => exact guarded_eq (imageText_eq hbody (by omega))
  case h_33 =>
    rw [htwice']
    exact guarded_eq (imageText_eq hbody htwice)
  case h_34 => simp only [X12.exactRequiredLength, *]
  all_goals first
    | rfl
    | exact guarded_eq (counted_eq (by decide) (hcount _))
    | exact guarded_eq (counted_eq (by decide) (hhalf _))
    | exact guarded_eq (padded_eq (by decide) (hhalf' _))

theorem validateExactRequestLength_eq {opcode headerData : UInt8} {lengthUnits : Nat}
    {body : List UInt8} (hbody : body.length < 2 ^ 20) :
    validateExactRequestLength opcode headerData lengthUnits body =
      X12.validateExactRequestLength true opcode headerData lengthUnits body := by
  rw [validateExactRequestLength, X12.validateExactRequestLength, exactRequiredLength_eq hbody]
  cases X12.exactRequiredLength opcode headerData body with
  | none => rfl
  | some required =>
    simp only [Option.bind_eq_bind, Option.bind_some, add]
    split
    · cases addU32 true required 1 <;> rfl
    · rfl

end Checked

/-! ## The sentinel -/

/-- The fixed part and the item of a body whose shape is all that is checked. -/
def itemShape : UInt8 → Option (Nat × Nat)
  | 59 | 66 | 67 | 70 => some (8, 8)
  | 64 | 65 | 88 => some (8, 4)
  | 68 | 71 => some (8, 12)
  | 89 => some (4, 12)
  | _ => none

/-- The width of a character of an ImageText request. -/
def textWidth : UInt8 → Option Nat
  | 76 => some 1
  | 77 => some 2
  | _ => none

/-- No length is right for the body: it does not end with an item, or it does not
hold exactly the string. -/
def Misshapen (opcode headerData : UInt8) (body : List UInt8) : Prop :=
  (∃ fixed item, itemShape opcode = some (fixed, item) ∧
    ¬ (fixed ≤ body.length ∧ (body.length - fixed) % item = 0)) ∨
  ∃ width, textWidth opcode = some width ∧ 12 ≤ body.length ∧
    body.length / 4 ≠ 3 + padUnits (width * headerData.toNat)

theorem wholeItems_eq_max_iff {body : List UInt8} {fixed item : Nat} :
    wholeItems body fixed item = some u32Max ↔
      ¬ (fixed ≤ body.length ∧ (body.length - fixed) % item = 0) := by
  rw [wholeItems, Option.ite_none_left_eq_some]
  exact and_iff_left rfl

theorem imageText_eq_max_iff {body : List UInt8} {bytes : Nat} :
    imageText body bytes = some u32Max ↔ body.length / 4 ≠ 3 + padUnits bytes := by
  rw [imageText, Option.ite_none_left_eq_some, and_iff_left rfl]
  omega

theorem content_ne_max {fixed content : Nat} {c : Prop} [Decidable c] (hfixed : fixed ≤ 8)
    (hcontent : content ≤ 65535) :
    (if c then some (fixed + content) else none) ≠ some u32Max := by
  split
  · unfold u32Max
    simp
    omega
  · exact nofun

theorem exactRequiredLength_eq_max_iff {opcode headerData : UInt8} {body : List UInt8} :
    exactRequiredLength opcode headerData body = some u32Max ↔
      Misshapen opcode headerData body := by
  have hdata : headerData.toNat ≤ 255 := Nat.le_of_lt_succ headerData.toNat_lt
  have hnever {op : UInt8} (hitem : itemShape op = none) (htext : textWidth op = none)
      {length : Option Nat} (h : length ≠ some u32Max) :
      length = some u32Max ↔ Misshapen op headerData body := by
    refine iff_of_false h ?_
    rintro (⟨_, _, h, -⟩ | ⟨_, h, -⟩)
    · cases hitem.symm.trans h
    · cases htext.symm.trans h
  have hitems {op : UInt8} {fixed item : Nat} (hitem : itemShape op = some (fixed, item))
      (htext : textWidth op = none) :
      wholeItems body fixed item = some u32Max ↔ Misshapen op headerData body := by
    rw [wholeItems_eq_max_iff, Misshapen, hitem, htext]
    simp
  have htext {op : UInt8} {width : Nat} (hitem : itemShape op = none)
      (htext : textWidth op = some width) :
      (if 12 ≤ body.length then imageText body (width * headerData.toNat) else none) =
        some u32Max ↔ Misshapen op headerData body := by
    rw [Option.ite_none_right_eq_some, imageText_eq_max_iff, Misshapen, hitem, htext]
    simp
  unfold exactRequiredLength
  split
  case h_5 => -- ChangeProperty
    refine hnever rfl rfl fun h => ?_
    simp only [Option.ite_none_right_eq_some, Option.ite_none_left_eq_some,
      Option.some.injEq] at h
    obtain ⟨-, -, hbytes, h⟩ := h
    unfold u32Max padUnits at *
    omega
  case h_16 =>
    exact hnever rfl rfl (content_ne_max (by decide) (mul_le_bytes hdata (byteAt_le _ _)))
  case h_20 =>
    have hmap : 1 + padUnits headerData.toNat ≠ u32Max := by
      unfold u32Max padUnits
      omega
    exact hnever rfl rfl fun h => hmap (Option.some.inj h)
  case h_21 =>
    have hmap : 1 + 2 * headerData.toNat ≠ u32Max := by
      unfold u32Max
      omega
    exact hnever rfl rfl fun h => hmap (Option.some.inj h)
  case h_32 =>
    rw [← Nat.one_mul headerData.toNat]
    exact htext rfl rfl
  case h_33 => exact htext rfl rfl
  case h_34 =>
    refine hnever ?_ ?_ nofun
    · simp only [itemShape, *]
    · simp only [textWidth, *]
  all_goals first
    | exact hitems rfl rfl
    | exact hnever rfl rfl (content_ne_max (by decide) (countOnes_le _))
    | exact hnever rfl rfl (content_ne_max (by decide) (readU16Le_le _ _))
    | exact hnever rfl rfl (content_ne_max (by decide) (padUnits_le (readU16Le_le _ _)))

/-! ## The gate -/

def CHANGE_PROPERTY : UInt8 := 18

/-- The bytes of the value that a ChangeProperty request announces. -/
def valueBytes (body : List UInt8) : Nat :=
  readU32Le body 16 * (byteAt body 12 / 8)

/-- A ChangeProperty request in one of the formats. -/
def IsFormatted (opcode : UInt8) (body : List UInt8) : Prop :=
  opcode = CHANGE_PROPERTY ∧ byteAt body 12 ∈ [8, 16, 32]

/-- The gate overflows nowhere, and what it accepts holds the value it announces. -/
structure GateSound (opcode headerData : UInt8) (lengthUnits : Nat) (body : List UInt8) :
    Prop where
  total : Checked.validateExactRequestLength opcode headerData lengthUnits body ≠ none
  holds : IsFormatted opcode body → ∀ overflowChecks,
    validateExactRequestLength overflowChecks opcode headerData lengthUnits body = some true →
    20 + valueBytes body ≤ body.length

/-- No unit is added to the sentinel, and the value that a property request announces,
whose fixed part is there, has a size of 32 bits. -/
def GateSafe (opcode headerData : UInt8) (lengthUnits : Nat) (body : List UInt8) : Prop :=
  ¬ (lengthUnits * 4 = body.length + 8 ∧ Misshapen opcode headerData body) ∧
  (IsFormatted opcode body → 20 ≤ body.length ∧ valueBytes body < 2 ^ 32)

section
variable {opcode headerData : UInt8} {lengthUnits : Nat} {body : List UInt8}

theorem checked_eq_none_iff (hbody : body.length < 2 ^ 20) :
    Checked.validateExactRequestLength opcode headerData lengthUnits body = none ↔
      lengthUnits * 4 = body.length + 8 ∧ Misshapen opcode headerData body := by
  rw [Checked.validateExactRequestLength_eq hbody, ← exactRequiredLength_eq_max_iff,
    validateExactRequestLength]
  cases h : exactRequiredLength opcode headerData body with
  | none => simp
  | some required =>
    obtain ⟨-, -, -, hmax⟩ := exactRequiredLength_bounds h
    by_cases hframe : lengthUnits * 4 = body.length + 8
    · simp only [hframe, true_and, Option.map_eq_none_iff, addU32, if_true,
        Option.some.injEq, ite_eq_right_iff, reduceCtorEq, imp_false]
      omega
    · simp [hframe]

/-- What the gate asks of a ChangeProperty request in one of the formats. -/
theorem changeProperty_required (headerData : UInt8) (hformat : IsFormatted opcode body) :
    exactRequiredLength opcode headerData body =
      if 20 ≤ body.length ∧ valueBytes body < 2 ^ 32 then some (6 + padUnits (valueBytes body))
      else none := by
  obtain ⟨rfl, hformat⟩ := hformat
  have hknown : ¬ (byteAt body 12 ≠ 8 ∧ byteAt body 12 ≠ 16 ∧ byteAt body 12 ≠ 32) := by
    simp only [List.mem_cons, List.not_mem_nil, or_false] at hformat
    omega
  have hfits : u32Max < readU32Le body 16 * (byteAt body 12 / 8) ↔ ¬ valueBytes body < 2 ^ 32 := by
    unfold valueBytes u32Max
    omega
  show (if 20 ≤ body.length then if _ then none else if _ then none else _ else none) = _
  rw [if_neg hknown]
  by_cases hlen : 20 ≤ body.length
  · by_cases hvalue : valueBytes body < 2 ^ 32
    · rw [if_pos hlen, if_neg (hfits.not.mpr (not_not_intro hvalue)), if_pos ⟨hlen, hvalue⟩]
      rfl
    · rw [if_pos hlen, if_pos (hfits.mpr hvalue), if_neg fun h => hvalue h.2]
  · rw [if_neg hlen, if_neg fun h => hlen h.1]

/-- An accepted request in either framing has the units it needs. -/
theorem holds_of_accepted (hformat : IsFormatted opcode body) (hlen : 20 ≤ body.length)
    (hvalue : valueBytes body < 2 ^ 32)
    (hframe : lengthUnits * 4 = body.length + 4 ∨ lengthUnits * 4 = body.length + 8)
    {overflowChecks : Bool}
    (haccept : validateExactRequestLength overflowChecks opcode headerData lengthUnits body =
      some true) : 20 + valueBytes body ≤ body.length := by
  have hrequired := changeProperty_required headerData hformat
  rw [if_pos ⟨hlen, hvalue⟩] at hrequired
  have hsum : 6 + padUnits (valueBytes body) + 1 ≤ u32Max := by
    unfold padUnits u32Max
    omega
  have hpad : valueBytes body ≤ 4 * padUnits (valueBytes body) := by
    unfold padUnits
    omega
  rw [validateExactRequestLength, hrequired] at haccept
  simp only [addU32, if_pos hsum] at haccept
  split at haccept
  all_goals
    simp at haccept
    omega

/-- The exact gate is sound exactly where it is safe, for every request that can be read. -/
theorem gateSound_iff {order : ClientByteOrder} {big : Bool} {stream rest : List UInt8}
    {header : RequestHeader} (hread : readRequest order big stream = .request header body rest)
    (hframe : header.lengthUnits * 4 = body.length + 4 ∨
      header.lengthUnits * 4 = body.length + 8) :
    GateSound header.opcode header.data header.lengthUnits body ↔
      GateSafe header.opcode header.data header.lengthUnits body := by
  have hbody := readRequest_length hread
  constructor
  · rintro ⟨htotal, hholds⟩
    refine ⟨fun hsentinel => htotal ((checked_eq_none_iff hbody).mpr hsentinel),
      fun hformat => ?_⟩
    by_contra hsmall
    have hrequired := changeProperty_required header.data hformat
    rw [if_neg hsmall] at hrequired
    have haccept : validateExactRequestLength true header.opcode header.data header.lengthUnits
        body = some true := by
      rw [validateExactRequestLength, hrequired]
    have := hholds hformat true haccept
    omega
  · rintro ⟨hsentinel, hvalue⟩
    refine ⟨fun hnone => hsentinel ((checked_eq_none_iff hbody).mp hnone),
      fun hformat overflowChecks haccept => ?_⟩
    obtain ⟨hlen, hsize⟩ := hvalue hformat
    exact holds_of_accepted hformat hlen hsize hframe haccept

end

/-- A well-formed request: one byte of a value in a normal frame. -/
def oneByte : List UInt8 :=
  [18, 0, 7, 0] ++ List.replicate 12 0 ++ [8, 0, 0, 0] ++ [1, 0, 0, 0] ++ [65, 0, 0, 0]

theorem gateSound_iff_oneByte :
    GateSound 18 0 7 (oneByte.drop 4) ↔ GateSafe 18 0 7 (oneByte.drop 4) :=
  gateSound_iff (show readRequest .littleEndian false oneByte =
    .request ⟨18, 0, 7⟩ (oneByte.drop 4) [] by decide) (by decide)

/-- A SetClipRectangles request with half a rectangle, in an extended frame. -/
def halfRectangle : List UInt8 :=
  [59, 0, 0, 0, 5, 0, 0, 0] ++ List.replicate 12 0

/-- A ChangeProperty request that announces 2 ^ 30 words and holds none. -/
def emptyWords : List UInt8 :=
  [18, 0, 6, 0] ++ List.replicate 12 0 ++ [32, 0, 0, 0] ++ [0, 0, 0, 0x40]

/-- The sentinel is all ones and the extended frame adds one to it; a size of
2 ^ 32 bytes is no size. -/
theorem gate_unsound :
    (readRequest .littleEndian true halfRectangle =
        .request ⟨59, 0, 5⟩ (halfRectangle.drop 8) [] ∧
      5 * 4 = (halfRectangle.drop 8).length + 8 ∧
      Checked.validateExactRequestLength 59 0 5 (halfRectangle.drop 8) = none) ∧
    readRequest .littleEndian false emptyWords =
        .request ⟨18, 0, 6⟩ (emptyWords.drop 4) [] ∧
      6 * 4 = (emptyWords.drop 4).length + 4 ∧
      validateExactRequestLength true 18 0 6 (emptyWords.drop 4) = some true ∧
      ¬ 20 + valueBytes (emptyWords.drop 4) ≤ (emptyWords.drop 4).length := by
  decide

end X12

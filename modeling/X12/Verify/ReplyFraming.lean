import X12.Protocol.Setup
import X12.Verify.Replies
import X12.Verify.Wire

/-! # Reply framing

A client takes as many bytes for a reply as its length field says, and divides
them by the counts in it. Where these are not what has been written, it loses
its place in the stream. -/

namespace X12

open Layout (Field)
open Proto

/-! ## Fields that count -/

/-- A field that says how many items each of some groups has. The items of all
groups follow each other from `start` on. -/
structure CountField where
  field : Field
  offset : Nat
  groups : Nat
  start : Nat
  items : List (List UInt8)

/-- What a client reads in a field. -/
def readField (order : ClientByteOrder) (bytes : List UInt8) (offset : Nat) : Field → Nat
  | .half => readU16 order bytes offset
  | .word => readU32 order bytes offset
  | _ => byteAt bytes offset

/-- The length field of a reply, and the bytes that come before those it counts. -/
structure ReplyFrame where
  field : Field
  offset : Nat
  head : Nat

def coreFrame : ReplyFrame := ⟨CARD32, 4, 32⟩

def setupFrame : ReplyFrame := ⟨CARD16, 6, 8⟩

/-- The length field counts the bytes of the reply, and each count field the
items that follow. -/
structure Framed (order : ClientByteOrder) (frame : ReplyFrame) (counts : List CountField)
    (bytes : List UInt8) : Prop where
  length : bytes.length = frame.head + 4 * readField order bytes frame.offset frame.field
  counted : ∀ c ∈ counts, readField order bytes c.offset c.field * c.groups = c.items.length
  placed : ∀ c ∈ counts, c.items.flatten <+: bytes.drop c.start

/-- The bytes of a text, one by one. -/
def singles (text : List UInt8) : List (List UInt8) :=
  text.map fun b => [b]

/-- The length bytes of texts that follow each other from an offset on. -/
def textCounts : Nat → List (List UInt8) → List CountField
  | _, [] => []
  | offset, name :: names =>
    ⟨CARD8, offset, 1, offset + 1, singles name⟩ :: textCounts (offset + 1 + name.length) names

/-- The keysyms of one keycode. -/
def keycodeKeysyms (keysymsPerKeycode keycode : UInt8) : List UInt32 :=
  (keysymsForKeycode keycode).1 ::
    ((if keysymsPerKeycode > 1 then [(keysymsForKeycode keycode).2] else []) ++
      List.replicate (keysymsPerKeycode.toNat - 2) 0)

/-- The properties of a font, and the characters or the name behind them. -/
def fontProperties (metrics : FontMetrics) : CountField :=
  ⟨CARD16, 46, 1, 60, chunks 8 (metrics.properties.length / 8) metrics.properties⟩

/-- The count fields of a reply. -/
def CoreReply.counts (order : ClientByteOrder) : CoreReply → List CountField
  | queryTree _ _ children => [⟨CARD16, 16, 1, 32, children.map (writeU32 order)⟩]
  | getAtomName name => [⟨CARD16, 8, 1, 32, singles name⟩]
  | getProperty reply =>
    let unit := reply.format.toNat / 8
    [⟨CARD32, 16, 1, 32, chunks unit (reply.value.length / unit) reply.value⟩]
  | listProperties atoms => [⟨CARD16, 8, 1, 32, (atoms.take (2 ^ 16 - 1)).map u32LeBytes⟩]
  | queryColors pixels => [⟨CARD16, 8, 1, 32, pixels.map (writePixelColor order)⟩]
  | listExtensions names =>
    ⟨CARD8, 1, 1, 32, names.map fun name => UInt8.ofNat name.length :: name⟩ ::
      textCounts 32 names
  | getKeyboardMapping firstKeycode keycodeCount keysymsPerKeycode =>
    [⟨CARD8, 1, keycodeCount.toNat, 32,
      ((List.range keycodeCount.toNat).flatMap fun offset =>
        keycodeKeysyms keysymsPerKeycode (firstKeycode + UInt8.ofNat offset)).map
          (writeU32 order)⟩]
  | getKeyboardMappingFromKeysyms keysymsPerKeycode keysyms =>
    [⟨CARD8, 1, keysyms.length / keysymsPerKeycode.toNat, 32, keysyms.map (writeU32 order)⟩]
  | queryFont metrics =>
    [fontProperties metrics,
      ⟨CARD32, 56, 1, 60 + metrics.properties.length / 8 * 8,
        metrics.charInfos.map writeFullCharInfo⟩]
  | listFontsWithInfo metrics name _ =>
    [fontProperties metrics,
      ⟨CARD8, 1, 1, 60 + metrics.properties.length / 8 * 8, singles name⟩]
  | listFontsWithInfoTerminator => [⟨CARD16, 46, 1, 60, []⟩, ⟨CARD8, 1, 1, 60, []⟩]
  | listHosts => [⟨CARD16, 8, 1, 32, []⟩]
  | getPointerMapping => [⟨CARD8, 1, 1, 32, singles [1, 2, 3]⟩]
  | getModifierMapping => [⟨CARD8, 1, 8, 32, []⟩]
  | getModifierMappingWithKeycodes _ keycodes => [⟨CARD8, 1, 8, 32, singles keycodes⟩]
  | _ => []

/-- The arguments for which a reply is framed. -/
def CoreReply.FramedWhen (order : ClientByteOrder) : CoreReply → Prop
  | queryTree _ _ children => children.length < 2 ^ 16
  | getAtomName name => name.length < 2 ^ 16
  | getProperty reply =>
    reply.valueLen.toNat = reply.value.length / (reply.format.toNat / 8)
  | getImage request _ =>
    request.format = 2 ∨
      countOnes (request.planeMask &&& 0xFFFFFF).toNat * ((request.width.toNat + 31) / 32 * 4) *
        request.height.toNat < 2 ^ 32
  | queryColors pixels => pixels.length < 2 ^ 16
  | listExtensions names => names.length < 2 ^ 8 ∧ ∀ name ∈ names, name.length < 2 ^ 8
  | getKeyboardMapping _ keycodeCount keysymsPerKeycode =>
    keycodeCount = 0 ∨ order = .littleEndian ∧ keysymsPerKeycode ≠ 0
  | getKeyboardMappingFromKeysyms keysymsPerKeycode keysyms =>
    keysyms.length < 2 ^ 32 ∧ keysymsPerKeycode.toNat ∣ keysyms.length
  | queryFont metrics =>
    metrics.properties.length / 8 < 2 ^ 16 ∧
      7 + 2 * (metrics.properties.length / 8) + 3 * metrics.charInfos.length < 2 ^ 32
  | listFontsWithInfo metrics name _ =>
    metrics.properties.length / 8 < 2 ^ 16 ∧ name.length < 2 ^ 8
  | getModifierMappingWithKeycodes keycodesPerModifier keycodes =>
    keycodes.length = 8 * keycodesPerModifier.toNat
  | _ => True

/-- The fields of a setup reply that count. The text of a refusal is where it is written. -/
def setupFailedCounts (reason : List UInt8) : List CountField :=
  [⟨CARD8, 1, 1, 6, singles (reason.take 255)⟩]

def setupSuccessCounts (order : ClientByteOrder) (setup : SetupSuccess) : List CountField :=
  let formats := 40 + (padVec4 setup.vendor).length
  let screen := formats + 56
  let depths := screen + 40
  let rootVisual := writeVisual order setup.root.rootVisual 0
  let argbVisual := writeVisual order setup.root.argbVisual 0xff000000
  [⟨CARD16, 24, 1, 40, singles setup.vendor⟩,
    ⟨CARD8, 29, 1, formats, pixmapFormats.map writePixmapFormat⟩,
    ⟨CARD8, 28, 1, screen, [writeScreen order setup.root]⟩,
    ⟨CARD8, screen + 39, 1, depths,
      [writeDepth order 1 0, writeDepth order 4 0, writeDepth order 8 0,
        writeDepth order 24 1 ++ rootVisual, writeDepth order 32 1 ++ argbVisual]⟩,
    ⟨CARD16, depths + 2, 1, depths + 8, []⟩,
    ⟨CARD16, depths + 10, 1, depths + 16, []⟩,
    ⟨CARD16, depths + 18, 1, depths + 24, []⟩,
    ⟨CARD16, depths + 26, 1, depths + 32, [rootVisual]⟩,
    ⟨CARD16, depths + 58, 1, depths + 64, [argbVisual]⟩]

/-- What a client is sent as a reply. -/
inductive ServerReply where
  | core (reply : CoreReply)
  | setupFailed (reason : List UInt8)
  | setupSuccess (setup : SetupSuccess)

namespace ServerReply

/-- The bytes of a reply, if its writer does not fail. -/
def write (order : ClientByteOrder) (sequence : UInt16) : ServerReply → Option (List UInt8)
  | core reply => reply.write order sequence
  | setupFailed reason => some (writeSetupFailed order reason)
  | setupSuccess setup => writeSetupSuccess order setup

def frame : ServerReply → ReplyFrame
  | core _ => coreFrame
  | setupFailed _ | setupSuccess _ => setupFrame

def counts (order : ClientByteOrder) : ServerReply → List CountField
  | core reply => reply.counts order
  | setupFailed reason => setupFailedCounts reason
  | setupSuccess setup => setupSuccessCounts order setup

/-- The arguments for which a reply is framed. A refusal has no length field: the
first two bytes of its text have to be the length of the rest. -/
def FramedWhen (order : ClientByteOrder) : ServerReply → Prop
  | core reply => reply.FramedWhen order
  | setupFailed reason => readU16 order reason 0 = (min reason.length 255 + 1) / 4
  | setupSuccess setup => setup.vendor.length < 2 ^ 16

end ServerReply

/-! ## Reads -/

section

variable {order : ClientByteOrder} {bytes rest text : List UInt8} {counts : List CountField}
  {n k : Nat}

theorem flatten_singles (text : List UInt8) : (singles text).flatten = text := by
  induction text with
  | nil => rfl
  | cons b text ih => exact congrArg (b :: ·) ih

theorem length_singles (text : List UInt8) : (singles text).length = text.length :=
  List.length_map _

theorem length_chunks (size count : Nat) (bytes : List UInt8) :
    (chunks size count bytes).length = count := by
  induction count generalizing bytes with
  | zero => rfl
  | succ count ih => rw [chunks, List.length_cons, ih]

theorem flatten_chunks (size count : Nat) (bytes : List UInt8) :
    (chunks size count bytes).flatten = bytes.take (count * size) := by
  induction count generalizing bytes with
  | zero => rw [Nat.zero_mul, List.take_zero, chunks, List.flatten_nil]
  | succ count ih =>
    rw [chunks, List.flatten_cons, ih, ← List.take_add, Nat.succ_mul, Nat.add_comm]

theorem length_flatMap_of {α : Type} {f : α → List UInt8} (h : ∀ a, (f a).length = n)
    (as : List α) : (as.flatMap f).length = as.length * n := by
  simp [List.length_flatMap, h]

theorem length_padVec4 (bytes : List UInt8) :
    (padVec4 bytes).length = (bytes.length + 3) / 4 * 4 := by
  rw [padVec4, List.length_append, pad4, List.length_replicate]
  omega

/-- A core reply is framed if its length and its counts are right. -/
theorem framed_core_iff (units : UInt32) (size : Nat)
    (hunits : (bytes.drop 4).take 4 = writeU32 order units) (hsize : bytes.length = size)
    (hplaced : ∀ c ∈ counts, c.items.flatten <+: bytes.drop c.start) :
    Framed order coreFrame counts bytes ↔ size = 32 + 4 * units.toNat ∧
      ∀ c ∈ counts, readField order bytes c.offset c.field * c.groups = c.items.length := by
  have hread : readField order bytes 4 CARD32 = units.toNat := readU32_of_slice hunits
  constructor
  · intro h
    refine ⟨?_, h.counted⟩
    rw [← hread, ← hsize]
    exact h.length
  · intro ⟨hlength, hcounted⟩
    refine ⟨?_, hcounted, hplaced⟩
    rw [hsize, hlength, ← hread]
    rfl

theorem framed_empty_iff (units : UInt32) (size : Nat)
    (hunits : (bytes.drop 4).take 4 = writeU32 order units) (hsize : bytes.length = size) :
    Framed order coreFrame [] bytes ↔ size = 32 + 4 * units.toNat := by
  rw [framed_core_iff units _ hunits hsize (List.forall_mem_nil _)]
  simp

theorem framed_singleton_iff (units : UInt32) (size value : Nat) {count : CountField}
    (hunits : (bytes.drop 4).take 4 = writeU32 order units) (hsize : bytes.length = size)
    (hvalue : readField order bytes count.offset count.field = value)
    (hplaced : count.items.flatten <+: bytes.drop count.start) :
    Framed order coreFrame [count] bytes ↔
      size = 32 + 4 * units.toNat ∧ value * count.groups = count.items.length := by
  rw [framed_core_iff units _ hunits hsize (by simpa using hplaced)]
  simp [hvalue]

/-- The length of aligned bytes. -/
theorem eq_of_checkedUnits {units : UInt32} (h : checkedUnits n = some units) :
    n = 4 * units.toNat ∧ units.toNat < 2 ^ 16 := by
  rw [checkedUnits] at h
  split at h
  · next hn =>
    cases h
    rw [UInt32.toNat_ofNat_of_lt' (by show n / 4 < 2 ^ 32; omega)]
    omega
  · cases h

end

/-! ## Core replies -/

section

variable {order : ClientByteOrder} {sequence : UInt16}

theorem framed_queryTree (root parent : UInt32) (children : List UInt32) :
    Framed order coreFrame ((CoreReply.queryTree root parent children).counts order)
      (writeQueryTreeReply order sequence root parent children) ↔
      (CoreReply.queryTree root parent children).FramedWhen order := by
  have hsize := (writes_queryTree sequence root parent children).length_eq order
  have hcount : readU16 order (writeQueryTreeReply order sequence root parent children) 16 =
      (UInt16.ofNat children.length).toNat := readU16_of_slice (by cases order <;> rfl)
  refine Iff.trans (framed_singleton_iff (UInt32.ofNat children.length) _ _ ?_ hsize hcount ?_) ?_
  · cases order <;> rfl
  · rw [← List.flatMap_def]
    cases order <;> exact List.prefix_rfl
  · simp [CoreReply.layout, replyHead, Field.size, CoreReply.FramedWhen]
    omega

theorem framed_getAtomName {name : List UInt8} {units : UInt32}
    (h : checkedUnits (padVec4 name).length = some units) :
    Framed order coreFrame ((CoreReply.getAtomName name).counts order)
      (fixedReply order sequence 0 units ++ writeU16 order (UInt16.ofNat name.length) ++
        List.replicate 22 0 ++ padVec4 name) ↔
      (CoreReply.getAtomName name).FramedWhen order := by
  have hsize := (writes_getAtomName sequence name units).length_eq order
  have hpadded := (eq_of_checkedUnits h).1
  rw [length_padVec4] at hpadded
  refine Iff.trans (framed_singleton_iff units _ (UInt16.ofNat name.length).toNat ?_ hsize
    (readU16_of_slice ?_) ?_) ?_
  · cases order <;> rfl
  · cases order <;> rfl
  · rw [flatten_singles]
    cases order <;> exact List.prefix_append ..
  · simp [CoreReply.layout, paddingLayout, pad4, replyHead, Field.size, CoreReply.FramedWhen,
      length_singles]
    omega

theorem framed_getProperty {reply : GetPropertyReply}
    (h : (padVec4 reply.value).length / 4 < 2 ^ 32) :
    Framed order coreFrame ((CoreReply.getProperty reply).counts order)
      (fixedReply order sequence reply.format (UInt32.ofNat ((padVec4 reply.value).length / 4)) ++
        writeU32 order reply.type ++ writeU32 order reply.bytesAfter ++
        writeU32 order reply.valueLen ++ List.replicate 12 0 ++ padVec4 reply.value) ↔
      (CoreReply.getProperty reply).FramedWhen order := by
  refine Iff.trans (framed_singleton_iff (UInt32.ofNat ((padVec4 reply.value).length / 4))
    (32 + (padVec4 reply.value).length) reply.valueLen.toNat
    ?_ ?_ (readU32_of_slice ?_) ?_) ?_
  · cases order <;> rfl
  · cases order <;> exact List.length_append
  · cases order <;> rfl
  · have hbody : reply.value.take (reply.value.length / (reply.format.toNat / 8) *
        (reply.format.toNat / 8)) <+: padVec4 reply.value :=
      (List.take_prefix ..).trans (List.prefix_append ..)
    rw [flatten_chunks]
    cases order <;> exact hbody
  · rw [length_padVec4] at h ⊢
    simp [length_chunks, CoreReply.FramedWhen]
    omega

theorem framed_listProperties (atoms : List UInt32) :
    Framed order coreFrame ((CoreReply.listProperties atoms).counts order)
      (writeListPropertiesReply order sequence atoms) := by
  have hsize := (writes_listProperties sequence atoms).length_eq order
  have hcount : (if atoms.length < 2 ^ 16 then atoms.length else 2 ^ 16 - 1) =
      min atoms.length (2 ^ 16 - 1) := by
    split <;> omega
  simp only [writeListPropertiesReply, hcount] at hsize ⊢
  refine Iff.mpr (framed_singleton_iff (UInt32.ofNat (min atoms.length (2 ^ 16 - 1))) _
    (UInt16.ofNat (min atoms.length (2 ^ 16 - 1))).toNat ?_ hsize
    (readU16_of_slice ?_) ?_) ?_
  · cases order <;> rfl
  · cases order <;> rfl
  · have hatoms : (atoms.take (min atoms.length (2 ^ 16 - 1))).flatMap u32LeBytes =
        ((atoms.take (2 ^ 16 - 1)).map u32LeBytes).flatten := by
      rw [← List.flatMap_def, Nat.min_comm, ← List.take_eq_take_min]
    rw [← hatoms]
    cases order <;> exact List.prefix_rfl
  · simp [CoreReply.layout, replyHead, Field.size]
    omega

theorem framed_queryColors (pixels : List UInt32) :
    Framed order coreFrame ((CoreReply.queryColors pixels).counts order)
      (writeQueryColorsReply order sequence pixels) ↔
      (CoreReply.queryColors pixels).FramedWhen order := by
  have hcolors : (pixels.flatMap (writePixelColor order)).length = pixels.length * 8 :=
    length_flatMap_of (fun pixel => by cases order <;> rfl) pixels
  refine Iff.trans (framed_singleton_iff (UInt32.ofNat (pixels.length * 2))
    (32 + (pixels.flatMap (writePixelColor order)).length)
    (UInt16.ofNat pixels.length).toNat ?_ ?_ (readU16_of_slice ?_) ?_) ?_
  · cases order <;> rfl
  · cases order <;> exact List.length_append
  · cases order <;> rfl
  · rw [← List.flatMap_def]
    cases order <;> exact List.prefix_rfl
  · simp [hcolors, CoreReply.FramedWhen]
    omega

theorem saturatingMul_toNat (a b : UInt32) :
    (saturatingMul a b).toNat =
      if a.toNat * b.toNat < 2 ^ 32 then a.toNat * b.toNat else 2 ^ 32 - 1 := by
  rw [saturatingMul]
  split
  · next h => rw [UInt32.toNat_mul, Nat.mod_eq_of_lt h]
  · rfl

/-- A saturated size is odd; the others are whole strides. -/
theorem dataBytes_aligned_iff (request : GetImageRequest) :
    4 ∣ request.dataBytes.toNat ↔ request.format = 2 ∨
      countOnes (request.planeMask &&& 0xFFFFFF).toNat * ((request.width.toNat + 31) / 32 * 4) *
        request.height.toNat < 2 ^ 32 := by
  rw [GetImageRequest.dataBytes]
  split
  · next hz =>
    refine iff_of_true (Nat.dvd_of_mod_eq_zero ?_) (.inl hz)
    rw [UInt32.toNat_and]
    exact (Nat.and_mod_two_pow (n := 2)).trans (Nat.and_zero _)
  · next hz =>
    have hplanes : countOnes (request.planeMask &&& 0xFFFFFF).toNat ≤ 32 := List.countP_le_length
    have hwidth := request.width.toNat_lt
    have hstride : (UInt32.ofNat ((request.width.toNat + 31) / 32) * 4).toNat =
        (request.width.toNat + 31) / 32 * 4 := by
      rw [UInt32.toNat_mul, UInt32.toNat_ofNat']
      show (request.width.toNat + 31) / 32 % 2 ^ 32 * 4 % 2 ^ 32 = _
      omega
    have hrows : countOnes (request.planeMask &&& 0xFFFFFF).toNat *
        ((request.width.toNat + 31) / 32 * 4) < 2 ^ 32 := by
      have := Nat.mul_le_mul hplanes
        (show (request.width.toNat + 31) / 32 * 4 ≤ 8192 by omega)
      omega
    rw [or_iff_right hz, saturatingMul_toNat, saturatingMul_toNat, hstride,
      UInt32.toNat_ofNat_of_lt' (show _ < 2 ^ 32 by omega), if_pos hrows, UInt16.toNat_toUInt32]
    split
    · next hfits =>
      have hstrides : 4 ∣ (request.width.toNat + 31) / 32 * 4 := Nat.dvd_mul_left ..
      exact iff_of_true (Nat.dvd_mul_right_of_dvd (Nat.dvd_mul_left_of_dvd hstrides _) _) hfits
    · next hfits => exact iff_of_false (by decide) hfits

theorem framed_getImage (request : GetImageRequest) (visualId : UInt32) :
    Framed order coreFrame ((CoreReply.getImage request visualId).counts order)
      (writeGetImageReply order sequence request visualId) ↔
      (CoreReply.getImage request visualId).FramedWhen order := by
  have hsize := (writes_getImage sequence request visualId).length_eq order
  refine Iff.trans (framed_empty_iff (request.dataBytes / 4) _ ?_ hsize) ?_
  · cases order <;> rfl
  · rw [CoreReply.FramedWhen, ← dataBytes_aligned_iff]
    simp [CoreReply.layout, replyHead, Field.size]
    omega

theorem framed_getKeyboardMappingFromKeysyms (keysymsPerKeycode : UInt8) (keysyms : List UInt32) :
    Framed order coreFrame
      ((CoreReply.getKeyboardMappingFromKeysyms keysymsPerKeycode keysyms).counts order)
      (writeGetKeyboardMappingReplyFromKeysyms order sequence keysymsPerKeycode keysyms) ↔
      (CoreReply.getKeyboardMappingFromKeysyms keysymsPerKeycode keysyms).FramedWhen order := by
  have hkeysyms := length_flatMap_of (length_writeU32 order) keysyms
  refine Iff.trans (framed_singleton_iff (u32OrZero keysyms.length)
    (32 + (keysyms.flatMap (writeU32 order)).length) keysymsPerKeycode.toNat ?_ ?_ ?_ ?_) ?_
  · cases order <;> rfl
  · cases order <;> exact List.length_append
  · cases order <;> rfl
  · rw [← List.flatMap_def]
    cases order <;> exact List.prefix_rfl
  · rw [hkeysyms, CoreReply.FramedWhen, u32OrZero]
    split
    · next h =>
      rw [UInt32.toNat_ofNat_of_lt' h, List.length_map]
      rw [and_iff_right h, Nat.dvd_iff_div_mul_eq, Nat.mul_comm keysyms.length 4, and_iff_right rfl,
        Nat.mul_comm]
    · next h =>
      refine iff_of_false (fun hlength => ?_) (fun hfits => h hfits.1)
      have : keysyms.length * 4 = 0 := Nat.add_left_cancel hlength.1
      omega

theorem framed_getModifierMappingWithKeycodes (keycodesPerModifier : UInt8)
    (keycodes : List UInt8) :
    Framed order coreFrame
      ((CoreReply.getModifierMappingWithKeycodes keycodesPerModifier keycodes).counts order)
      (writeGetModifierMappingReplyWithKeycodes order sequence keycodesPerModifier keycodes) ↔
      (CoreReply.getModifierMappingWithKeycodes keycodesPerModifier keycodes).FramedWhen order := by
  refine Iff.trans (framed_singleton_iff (8 * keycodesPerModifier.toUInt32 / 4)
    (32 + keycodes.length) keycodesPerModifier.toNat
    ?_ ?_ ?_ ?_) ?_
  · cases order <;> rfl
  · cases order <;> exact List.length_append
  · cases order <;> rfl
  · rw [flatten_singles]
    cases order <;> exact List.prefix_rfl
  · have := keycodesPerModifier.toNat_lt
    simp [CoreReply.FramedWhen, length_singles]
    omega

/-! ### Texts one after the other -/

section

variable {bytes rest : List UInt8} {offset : Nat} {names : List (List UInt8)}

/-- What follows the first text. -/
theorem drop_firstText {name : List UInt8}
    (h : bytes.drop offset = UInt8.ofNat name.length :: (name ++ rest)) :
    bytes.drop (offset + 1 + name.length) = rest := by
  rw [Nat.add_assoc, ← List.drop_drop, h, Nat.add_comm 1, List.drop_succ_cons, List.drop_left]

theorem textCounts_counted (h : bytes.drop offset =
    (names.flatMap fun name => UInt8.ofNat name.length :: name) ++ rest) :
    (∀ c ∈ textCounts offset names,
      readField order bytes c.offset c.field * c.groups = c.items.length) ↔
      ∀ name ∈ names, name.length < 2 ^ 8 := by
  induction names generalizing offset with
  | nil => simp [textCounts]
  | cons name names ih =>
    rw [List.flatMap_cons, List.cons_append, List.cons_append, List.append_assoc] at h
    have hread : byteAt bytes offset = (UInt8.ofNat name.length).toNat := by
      rw [byteAt, ← Nat.add_zero offset, List.getD_eq_getElem?_getD, ← List.getElem?_drop, h]
      rfl
    rw [textCounts, List.forall_mem_cons, List.forall_mem_cons, ih (drop_firstText h)]
    simp [readField, hread, length_singles]

theorem textCounts_placed (h : bytes.drop offset =
    (names.flatMap fun name => UInt8.ofNat name.length :: name) ++ rest) :
    ∀ c ∈ textCounts offset names, c.items.flatten <+: bytes.drop c.start := by
  induction names generalizing offset with
  | nil => exact List.forall_mem_nil _
  | cons name names ih =>
    rw [List.flatMap_cons, List.cons_append, List.cons_append, List.append_assoc] at h
    rw [textCounts, List.forall_mem_cons]
    refine ⟨?_, ih (drop_firstText h)⟩
    rw [flatten_singles, ← List.drop_drop, h]
    exact List.prefix_append ..

end

theorem framed_listExtensions {names : List (List UInt8)} {units : UInt32}
    (h : checkedUnits (padVec4 (names.flatMap fun name =>
      UInt8.ofNat name.length :: name)).length = some units) :
    Framed order coreFrame ((CoreReply.listExtensions names).counts order)
      (fixedReply order sequence (UInt8.ofNat names.length) units ++ List.replicate 24 0 ++
        padVec4 (names.flatMap fun name => UInt8.ofNat name.length :: name)) ↔
      (CoreReply.listExtensions names).FramedWhen order := by
  have hpadded := (eq_of_checkedUnits h).1
  generalize hbytes : fixedReply order sequence (UInt8.ofNat names.length) units ++
    List.replicate 24 0 ++ padVec4 (names.flatMap fun name => UInt8.ofNat name.length :: name) =
    bytes
  have hunits : (bytes.drop 4).take 4 = writeU32 order units := by
    rw [← hbytes]
    cases order <;> rfl
  have hcount : byteAt bytes 1 = (UInt8.ofNat names.length).toNat := by
    rw [← hbytes]
    cases order <;> rfl
  have htexts : bytes.drop 32 =
      padVec4 (names.flatMap fun name => UInt8.ofNat name.length :: name) := by
    rw [← hbytes]
    cases order <;> rfl
  have hsize : bytes.length = 32 + 4 * units.toNat := by
    rw [← hpadded, ← hbytes]
    cases order <;> exact List.length_append
  rw [CoreReply.counts, framed_core_iff units _ hunits hsize]
  · rw [and_iff_right rfl, List.forall_mem_cons, textCounts_counted htexts, CoreReply.FramedWhen]
    simp [readField, hcount]
  · rw [List.forall_mem_cons]
    refine ⟨?_, textCounts_placed htexts⟩
    rw [← List.flatMap_def, htexts]
    exact List.prefix_append ..

/-! ### Keysyms -/

theorem length_keycodeKeysyms (keysymsPerKeycode keycode : UInt8) :
    (keycodeKeysyms keysymsPerKeycode keycode).length = max 1 keysymsPerKeycode.toNat := by
  rw [keycodeKeysyms]
  split
  · next h =>
    have : 1 < keysymsPerKeycode.toNat := UInt8.lt_iff_toNat_lt.mp h
    simp
    omega
  · next h =>
    have : ¬ 1 < keysymsPerKeycode.toNat := fun hlt => h (UInt8.lt_iff_toNat_lt.mpr hlt)
    simp
    omega

theorem flatMap_keycodeKeysyms (keysymsPerKeycode keycode : UInt8) :
    (keycodeKeysyms keysymsPerKeycode keycode).flatMap (writeU32 order) =
      writeKeycodeKeysyms order keysymsPerKeycode keycode := by
  rw [keycodeKeysyms, writeKeycodeKeysyms]
  split
  · simp
  · simp

theorem mul_max_one_iff {a k : Nat} : a * max 1 k = a * k ↔ a = 0 ∨ ¬ k = 0 := by
  cases k with
  | zero => simp
  | succ k =>
    rw [Nat.max_eq_right (Nat.succ_le_succ (Nat.zero_le k))]
    simp

/-- The bytes of a small number, read from the other end. -/
theorem readU32_bigEndian_of_slice {bytes : List UInt8} {start : Nat} {v : UInt32}
    (hv : v.toNat < 2 ^ 16) (h : (bytes.drop start).take 4 = u32LeBytes v) :
    2 ^ 16 ∣ readU32 .bigEndian bytes start := by
  have hread : readU32 .bigEndian (u32LeBytes v) 0 = readU32 .bigEndian bytes start := by
    rw [← h, readU32_slice (by omega), Nat.add_zero]
  rw [← hread]
  obtain ⟨hlow, hhigh⟩ := highBytes_eq_zero hv
  simp only [readU32, readU16, u32LeBytes, byteAt, List.getD_cons_zero, List.getD_cons_succ, hlow,
    hhigh]
  exact Nat.dvd_mul_right ..

theorem framed_getKeyboardMapping (firstKeycode keycodeCount keysymsPerKeycode : UInt8) :
    Framed order coreFrame
      ((CoreReply.getKeyboardMapping firstKeycode keycodeCount keysymsPerKeycode).counts order)
      (writeGetKeyboardMappingReply order sequence firstKeycode keycodeCount keysymsPerKeycode) ↔
      (CoreReply.getKeyboardMapping firstKeycode keycodeCount keysymsPerKeycode).FramedWhen
        order := by
  generalize hbytes : writeGetKeyboardMappingReply order sequence firstKeycode keycodeCount
    keysymsPerKeycode = bytes
  have hsize : bytes.length = 32 + keycodeCount.toNat * max 1 keysymsPerKeycode.toNat * 4 := by
    rw [← hbytes, (writes_getKeyboardMapping ..).length_eq]
    simp [CoreReply.layout, replyHead, Field.size]
    omega
  have hcount : readField order bytes 1 CARD8 = keysymsPerKeycode.toNat := by
    rw [← hbytes]
    cases order <;> rfl
  have hkeysyms : (((List.range keycodeCount.toNat).flatMap fun offset =>
      keycodeKeysyms keysymsPerKeycode (firstKeycode + UInt8.ofNat offset)).map
        (writeU32 order)).flatten <+: bytes.drop 32 := by
    rw [← List.flatMap_def, List.flatMap_assoc, ← hbytes]
    simp only [flatMap_keycodeKeysyms]
    cases order <;> exact List.prefix_rfl
  have hitems : (((List.range keycodeCount.toNat).flatMap fun offset =>
      keycodeKeysyms keysymsPerKeycode (firstKeycode + UInt8.ofNat offset)).map
        (writeU32 order)).length = keycodeCount.toNat * max 1 keysymsPerKeycode.toNat := by
    simp [List.length_flatMap, length_keycodeKeysyms]
  have hslice : (bytes.drop 4).take 4 =
      u32LeBytes (keycodeCount.toUInt32 * keysymsPerKeycode.toUInt32) := by
    rw [← hbytes]
    cases order <;> rfl
  have hle := keysymCount_le keycodeCount keysymsPerKeycode
  have hvalue := toNat_keysymCount keycodeCount keysymsPerKeycode
  cases order with
  | littleEndian =>
    refine Iff.trans (framed_singleton_iff _ _ _ hslice hsize hcount hkeysyms) ?_
    rw [hvalue, hitems, CoreReply.FramedWhen, ← UInt8.toNat_inj, Ne, ← UInt8.toNat_inj,
      UInt8.toNat_zero, and_iff_right rfl, ← mul_max_one_iff]
    show _ ∧ keysymsPerKeycode.toNat * keycodeCount.toNat = _ ↔ _
    rw [Nat.mul_comm keysymsPerKeycode.toNat]
    omega
  | bigEndian =>
    have hnone : (CoreReply.getKeyboardMapping firstKeycode keycodeCount
        keysymsPerKeycode).FramedWhen .bigEndian ↔ keycodeCount.toNat = 0 := by
      simp [CoreReply.FramedWhen, ← UInt8.toNat_inj]
    rw [hnone]
    constructor
    · intro h
      have hread : bytes.length = 32 + 4 * readU32 .bigEndian bytes 4 := h.length
      have hhigh := readU32_bigEndian_of_slice (by omega) hslice
      have hmax : keycodeCount.toNat * max 1 keysymsPerKeycode.toNat ≤ 255 * 255 :=
        Nat.mul_le_mul (by have := keycodeCount.toNat_lt; omega)
          (by have := keysymsPerKeycode.toNat_lt; omega)
      have hempty : keycodeCount.toNat * max 1 keysymsPerKeycode.toNat = 0 := by omega
      exact (Nat.mul_eq_zero.mp hempty).resolve_right (by omega)
    · intro h
      have hzero : keycodeCount.toUInt32 * keysymsPerKeycode.toUInt32 = 0 := by
        rw [← UInt32.toNat_inj, hvalue, h, Nat.zero_mul]
        rfl
      rw [hzero] at hslice
      refine Iff.mpr (framed_singleton_iff 0 _ _ hslice hsize hcount hkeysyms) ?_
      rw [hitems, h]
      simp

/-! ### Fonts -/

/-- A count that does not fit is written as zero. -/
theorem u32OrZero_eq_iff {n : Nat} : (u32OrZero n).toNat = n ↔ n < 2 ^ 32 := by
  rw [u32OrZero]
  split
  · next h => exact iff_of_true (UInt32.toNat_ofNat_of_lt' h) h
  · next h => exact iff_of_false (fun hzero => h (by rw [← hzero]; decide)) h

theorem u16OrZero_eq_iff {n : Nat} : (u16OrZero n).toNat = n ↔ n < 2 ^ 16 := by
  rw [u16OrZero]
  split
  · next h => exact iff_of_true (UInt16.toNat_ofNat_of_lt' h) h
  · next h => exact iff_of_false (fun hzero => h (by rw [← hzero]; decide)) h

theorem length_fixedReply (data : UInt8) (units : UInt32) :
    (fixedReply order sequence data units).length = 8 := by
  cases order <;> rfl

theorem length_writeFullCharInfo (info : CharInfo) : (writeFullCharInfo info).length = 12 :=
  rfl

theorem length_writeFontMetrics (metrics : FontMetrics) :
    (writeFontMetrics order metrics).length = 48 := by
  simp [writeFontMetrics, length_writeFullCharInfo, writeI16, length_writeU16]

/-- What both font replies are made of. -/
structure FontReply (order : ClientByteOrder) (metrics : FontMetrics) (data : UInt8)
    (units last : UInt32) (rest bytes : List UInt8) : Prop where
  units : (bytes.drop 4).take 4 = writeU32 order units
  data : readField order bytes 1 CARD8 = data.toNat
  propertyCount : readField order bytes 46 CARD16 =
    (u16OrZero (metrics.properties.length / 8)).toNat
  last : readField order bytes 56 CARD32 = last.toNat
  head : 60 ≤ bytes.length
  tail : bytes.drop 60 = metrics.properties.take (metrics.properties.length / 8 * 8) ++ rest

namespace FontReply

variable {metrics : FontMetrics} {data : UInt8} {units last : UInt32} {rest bytes : List UInt8}

theorem of_write (order : ClientByteOrder) (sequence : UInt16) (metrics : FontMetrics)
    (data : UInt8) (units last : UInt32) (rest : List UInt8) :
    FontReply order metrics data units last rest
      (fixedReply order sequence data units ++ writeFontMetrics order metrics ++
        writeU32 order last ++ metrics.properties.take (metrics.properties.length / 8 * 8) ++
        rest) where
  units := by cases order <;> rfl
  data := by cases order <;> rfl
  propertyCount := by
    refine readU16_of_slice ?_
    simp only [writeFontMetrics, List.append_assoc]
    cases order <;> rfl
  last := by
    refine readU32_of_slice ?_
    simp only [writeFontMetrics, List.append_assoc]
    cases order <;> rfl
  head := by
    simp [length_fixedReply, length_writeFontMetrics, length_writeU32]
    omega
  tail := by
    rw [List.append_assoc]
    exact List.drop_left' (by simp [length_fixedReply, length_writeFontMetrics, length_writeU32])

theorem length_properties (metrics : FontMetrics) :
    (metrics.properties.take (metrics.properties.length / 8 * 8)).length =
      metrics.properties.length / 8 * 8 :=
  List.length_take_of_le (Nat.div_mul_le_self ..)

theorem size (h : FontReply order metrics data units last rest bytes) :
    bytes.length = 60 + metrics.properties.length / 8 * 8 + rest.length := by
  have hdrop := congrArg List.length h.tail
  have hhead := h.head
  rw [List.length_drop, List.length_append, length_properties] at hdrop
  omega

theorem rest_eq (h : FontReply order metrics data units last rest bytes) :
    bytes.drop (60 + metrics.properties.length / 8 * 8) = rest := by
  rw [← List.drop_drop, h.tail, List.drop_left' (length_properties metrics)]

theorem properties_placed (h : FontReply order metrics data units last rest bytes) :
    (fontProperties metrics).items.flatten <+: bytes.drop 60 := by
  rw [h.tail, fontProperties, flatten_chunks]
  exact List.prefix_append ..

/-- The reply is framed if its length and the counts of the properties and of
what follows them are right. -/
theorem framed_iff_counted {count : CountField} {value : Nat}
    (h : FontReply order metrics data units last rest bytes)
    (hvalue : readField order bytes count.offset count.field = value)
    (hstart : count.start = 60 + metrics.properties.length / 8 * 8)
    (hplaced : count.items.flatten <+: rest) :
    Framed order coreFrame [fontProperties metrics, count] bytes ↔
      60 + metrics.properties.length / 8 * 8 + rest.length = 32 + 4 * units.toNat ∧
        metrics.properties.length / 8 < 2 ^ 16 ∧ value * count.groups = count.items.length := by
  rw [framed_core_iff units _ h.units h.size]
  · have hproperties : readField order bytes 46 CARD16 * 1 =
        (chunks 8 (metrics.properties.length / 8) metrics.properties).length ↔
        metrics.properties.length / 8 < 2 ^ 16 := by
      rw [h.propertyCount, length_chunks, Nat.mul_one, u16OrZero_eq_iff]
    rw [List.forall_mem_cons, List.forall_mem_singleton, hvalue]
    exact and_congr_right fun _ => and_congr_left fun _ => hproperties
  · rw [List.forall_mem_cons, List.forall_mem_singleton, hstart, h.rest_eq]
    exact ⟨h.properties_placed, hplaced⟩

end FontReply

theorem framed_queryFont (metrics : FontMetrics) :
    Framed order coreFrame ((CoreReply.queryFont metrics).counts order)
      (writeQueryFontReply order sequence metrics) ↔
      (CoreReply.queryFont metrics).FramedWhen order := by
  have hchars : (metrics.charInfos.flatMap writeFullCharInfo).length =
      metrics.charInfos.length * 12 :=
    length_flatMap_of length_writeFullCharInfo _
  have hreply := FontReply.of_write order sequence metrics 0
    (7 + 2 * u32OrZero (metrics.properties.length / 8) + 3 * u32OrZero metrics.charInfos.length)
    (u32OrZero metrics.charInfos.length) (metrics.charInfos.flatMap writeFullCharInfo)
  refine Iff.trans (hreply.framed_iff_counted hreply.last rfl ?_) ?_
  · have hitems : (metrics.charInfos.map writeFullCharInfo).flatten =
        metrics.charInfos.flatMap writeFullCharInfo := List.flatMap_def.symm
    exact hitems ▸ List.prefix_rfl
  · rw [hchars, CoreReply.FramedWhen, List.length_map, Nat.mul_one, u32OrZero_eq_iff]
    constructor
    · intro ⟨hlength, hn, hm⟩
      refine ⟨hn, ?_⟩
      have := (7 + 2 * u32OrZero (metrics.properties.length / 8) +
        3 * u32OrZero metrics.charInfos.length).toNat_lt
      omega
    · intro ⟨hn, hfits⟩
      have hm : metrics.charInfos.length < 2 ^ 32 := by omega
      have hn32 : metrics.properties.length / 8 < 2 ^ 32 := by omega
      refine ⟨?_, hn, hm⟩
      simp [u32OrZero_eq_iff.mpr hn32, u32OrZero_eq_iff.mpr hm]
      omega

theorem framed_listFontsWithInfo (metrics : FontMetrics) (name : List UInt8)
    (remaining : UInt32) :
    Framed order coreFrame ((CoreReply.listFontsWithInfo metrics name remaining).counts order)
      (writeListFontsWithInfoReply order sequence metrics name remaining) ↔
      (CoreReply.listFontsWithInfo metrics name remaining).FramedWhen order := by
  have hreply := FontReply.of_write order sequence metrics
    (if name.length < 2 ^ 8 then UInt8.ofNat name.length else 255)
    (u32OrZero ((28 + 8 * (metrics.properties.length / 8) + name.length +
      (pad4 name.length).length) / 4)) remaining (padVec4 name)
  have hname : (if name.length < 2 ^ 8 then UInt8.ofNat name.length else 255).toNat =
      name.length ↔ name.length < 2 ^ 8 := by
    split
    · next h => exact iff_of_true (UInt8.toNat_ofNat_of_lt' h) h
    · next h => exact iff_of_false (fun hfull => h (by rw [← hfull]; decide)) h
  rw [padVec4, ← List.append_assoc] at hreply
  refine Iff.trans (hreply.framed_iff_counted hreply.data rfl ?_) ?_
  · rw [flatten_singles]
    exact List.prefix_append ..
  · rw [length_singles, Nat.mul_one, hname, CoreReply.FramedWhen, List.length_append]
    refine and_iff_right_of_imp fun h => ?_
    obtain ⟨hn, hshort⟩ := h
    have hpad : (pad4 name.length).length = (4 - name.length % 4) % 4 := List.length_replicate
    rw [u32OrZero_eq_iff.mpr (by omega)]
    omega

/-! ### Every core reply -/

theorem CoreReply.length_of_write {reply : CoreReply} {bytes : List UInt8}
    (h : reply.write order sequence = some bytes) :
    bytes.length = (reply.layout.map Field.size).sum := by
  obtain ⟨writer, hwrite, hwrites⟩ | ⟨hnone, -⟩ := reply.written sequence
  · rw [hwrite, Option.some_inj] at h
    rw [← h, hwrites.length_eq]
  · rw [hnone] at h
    cases h

theorem take_fixedReply (data : UInt8) (units : UInt32) (rest : List UInt8) :
    ((fixedReply order sequence data units ++ rest).drop 4).take 4 = writeU32 order units := by
  cases order <;> rfl

/-- A reply without items to count, of a length that does not vary. -/
theorem framed_fixed {reply : CoreReply} {bytes : List UInt8}
    (h : reply.write order sequence = some bytes) (units : UInt32)
    (hunits : (bytes.drop 4).take 4 = writeU32 order units)
    (hsize : (reply.layout.map Field.size).sum = 32 + 4 * units.toNat) :
    Framed order coreFrame [] bytes ↔ True := by
  rw [framed_empty_iff units _ hunits (CoreReply.length_of_write h)]
  exact iff_true_intro hsize

theorem CoreReply.framed_iff_framedWhen {reply : CoreReply} {bytes : List UInt8}
    (h : reply.write order sequence = some bytes) :
    Framed order coreFrame (reply.counts order) bytes ↔ reply.FramedWhen order := by
  cases reply with
  | getWindowAttributes a =>
    refine framed_fixed h 3 ?_ rfl
    cases h
    simp only [writeGetWindowAttributesReply, List.append_assoc]
    exact take_fixedReply ..
  | getGeometry g =>
    refine framed_fixed h 0 ?_ rfl
    cases h
    cases order <;> rfl
  | queryTree root parent children =>
    cases h
    exact framed_queryTree root parent children
  | internAtom atom =>
    refine framed_fixed h 0 ?_ rfl
    cases h
    cases order <;> rfl
  | getAtomName name =>
    cases hunits : checkedUnits (padVec4 name).length with
    | none => simp [write, writeGetAtomNameReply, hunits] at h
    | some units =>
      simp only [write, writeGetAtomNameReply, hunits] at h
      cases h
      exact framed_getAtomName hunits
  | getProperty reply =>
    simp only [write, writeGetPropertyReply] at h
    split at h
    · next hfits =>
      cases h
      exact framed_getProperty hfits
    · cases h
  | listProperties atoms =>
    cases h
    exact iff_true_intro (framed_listProperties atoms)
  | getSelectionOwner owner =>
    refine framed_fixed h 0 ?_ rfl
    cases h
    cases order <;> rfl
  | grab status =>
    refine framed_fixed h 0 ?_ rfl
    cases h
    cases order <;> rfl
  | queryPointer reply =>
    refine framed_fixed h 0 ?_ rfl
    cases h
    cases order <;> rfl
  | translateCoordinates child dstX dstY =>
    refine framed_fixed h 0 ?_ rfl
    cases h
    cases order <;> rfl
  | getInputFocus focus revertTo =>
    refine framed_fixed h 0 ?_ rfl
    cases h
    cases order <;> rfl
  | queryKeymap =>
    refine framed_fixed h 2 ?_ rfl
    cases h
    cases order <;> rfl
  | allocColor color =>
    refine framed_fixed h 0 ?_ rfl
    cases h
    cases order <;> rfl
  | lookupColor color =>
    refine framed_fixed h 0 ?_ rfl
    cases h
    cases order <;> rfl
  | allocNamedColor color =>
    refine framed_fixed h 0 ?_ rfl
    cases h
    cases order <;> rfl
  | getImage request visualId =>
    cases h
    exact framed_getImage request visualId
  | queryColors pixels =>
    cases h
    exact framed_queryColors pixels
  | queryExtension present majorOpcode firstEvent firstError =>
    refine framed_fixed h 0 ?_ rfl
    cases h
    cases order <;> rfl
  | geQueryVersion =>
    refine framed_fixed h 0 ?_ rfl
    cases h
    cases order <;> rfl
  | bigRequestsEnable maxRequestLength =>
    refine framed_fixed h 0 ?_ rfl
    cases h
    cases order <;> rfl
  | listExtensions names =>
    cases hunits : checkedUnits
        (padVec4 (names.flatMap fun name => UInt8.ofNat name.length :: name)).length with
    | none => simp [write, writeListExtensionsReply, hunits] at h
    | some units =>
      simp only [write, writeListExtensionsReply, hunits] at h
      cases h
      exact framed_listExtensions hunits
  | getKeyboardMapping firstKeycode keycodeCount keysymsPerKeycode =>
    cases h
    exact framed_getKeyboardMapping firstKeycode keycodeCount keysymsPerKeycode
  | getKeyboardMappingFromKeysyms keysymsPerKeycode keysyms =>
    cases h
    exact framed_getKeyboardMappingFromKeysyms keysymsPerKeycode keysyms
  | queryFont metrics =>
    cases h
    exact framed_queryFont metrics
  | listFontsWithInfo metrics name remaining =>
    cases h
    exact framed_listFontsWithInfo metrics name remaining
  | listFontsWithInfoTerminator =>
    cases h
    refine iff_true_intro ?_
    refine Iff.mpr (framed_core_iff 7 60 ?_ ?_ ?_) ⟨rfl, ?_⟩
    · cases order <;> rfl
    · cases order <;> rfl
    · rw [counts, List.forall_mem_cons, List.forall_mem_singleton]
      exact ⟨List.nil_prefix, List.nil_prefix⟩
    · rw [counts, List.forall_mem_cons, List.forall_mem_singleton]
      refine ⟨?_, ?_⟩
      · cases order <;> rfl
      · cases order <;> rfl
  | queryTextExtents extents =>
    refine framed_fixed h 0 ?_ rfl
    cases h
    cases order <;> rfl
  | listHosts =>
    cases h
    refine iff_true_intro (Iff.mpr (framed_singleton_iff 0 32 0 ?_ ?_ ?_ List.nil_prefix)
      ⟨rfl, rfl⟩)
    · cases order <;> rfl
    · cases order <;> rfl
    · cases order <;> rfl
  | queryBestSize width height =>
    refine framed_fixed h 0 ?_ rfl
    cases h
    cases order <;> rfl
  | getPointerMapping =>
    cases h
    refine iff_true_intro (Iff.mpr (framed_singleton_iff 1 36 3 ?_ ?_ ?_ ?_) ⟨rfl, rfl⟩)
    · cases order <;> rfl
    · cases order <;> rfl
    · cases order <;> rfl
    · cases order <;> exact List.prefix_append [1, 2, 3] [0]
  | getModifierMapping =>
    cases h
    refine iff_true_intro (Iff.mpr (framed_singleton_iff 0 32 0 ?_ ?_ ?_ List.nil_prefix)
      ⟨rfl, rfl⟩)
    · cases order <;> rfl
    · cases order <;> rfl
    · cases order <;> rfl
  | getModifierMappingWithKeycodes keycodesPerModifier keycodes =>
    cases h
    exact framed_getModifierMappingWithKeycodes keycodesPerModifier keycodes

end

/-! ## Setup -/

section

variable {order : ClientByteOrder}

theorem take_reasonLen (reason : List UInt8) :
    reason.take (min reason.length 255) = reason.take 255 := by
  rw [Nat.min_comm, ← List.take_eq_take_min]

/-- The text is read where the length should be. -/
theorem readU16_setupFailed (reason : List UInt8) :
    readU16 order (writeSetupFailed order reason) 6 = readU16 order reason 0 := by
  have hbyte {i : Nat} (hi : i < 255) :
      byteAt (writeSetupFailed order reason) (6 + i) = byteAt reason i := by
    have hfront : ([0, UInt8.ofNat (min reason.length 255)] ++ writeU16 order 11 ++
        writeU16 order 0).length = 6 := by cases order <;> rfl
    rw [writeSetupFailed, padVec4, List.append_assoc, ← hfront, byteAt_append, pad4, byteAt_zeros,
      take_reasonLen, byteAt_take reason hi]
  have hfirst : byteAt (writeSetupFailed order reason) 6 = byteAt reason 0 :=
    hbyte (i := 0) (by omega)
  have hsecond : byteAt (writeSetupFailed order reason) (6 + 1) = byteAt reason (0 + 1) :=
    hbyte (i := 1) (by omega)
  cases order with
  | littleEndian => rw [readU16, readU16, readU16Le, readU16Le, hfirst, hsecond]
  | bigEndian => rw [readU16, readU16, hfirst, hsecond]

theorem framed_setupFailed (reason : List UInt8) :
    Framed order setupFrame (setupFailedCounts reason) (writeSetupFailed order reason) ↔
      (ServerReply.setupFailed reason).FramedWhen order := by
  have hsize : (writeSetupFailed order reason).length = (min reason.length 255 + 9) / 4 * 4 := by
    rw [writeSetupFailed, length_padVec4, List.length_append, List.length_take_of_le (by omega)]
    simp [length_writeU16]
    omega
  have hunits : readField order (writeSetupFailed order reason) 6 CARD16 =
      readU16 order reason 0 := readU16_setupFailed reason
  rw [ServerReply.FramedWhen]
  constructor
  · intro h
    have hlength : (writeSetupFailed order reason).length =
        8 + 4 * readField order (writeSetupFailed order reason) 6 CARD16 := h.length
    rw [hsize, hunits] at hlength
    omega
  · intro hreason
    refine ⟨?_, ?_, ?_⟩
    · show (writeSetupFailed order reason).length =
        8 + 4 * readField order (writeSetupFailed order reason) 6 CARD16
      rw [hsize, hunits]
      omega
    · rw [setupFailedCounts, List.forall_mem_singleton]
      have hcount : readField order (writeSetupFailed order reason) 1 CARD8 =
          (UInt8.ofNat (min reason.length 255)).toNat := by cases order <;> rfl
      rw [hcount, length_singles, List.length_take, Nat.mul_one,
        UInt8.toNat_ofNat_of_lt' (by show _ < 2 ^ 8; omega), Nat.min_comm]
    · rw [setupFailedCounts, List.forall_mem_singleton, flatten_singles, ← take_reasonLen]
      cases order <;> exact List.prefix_append ..

/-- What follows the vendor in a setup reply. -/
def setupTail (order : ClientByteOrder) (setup : SetupSuccess) : List UInt8 :=
  pixmapFormats.flatMap writePixmapFormat ++ writeScreen order setup.root

theorem readU16_of_drop {bytes tail : List UInt8} {start : Nat} (h : bytes.drop start = tail)
    (i : Nat) : readU16 order bytes (start + i) = readU16 order tail i := by
  rw [← h]
  cases order with
  | littleEndian =>
    rw [readU16, readU16, readU16Le, readU16Le, byteAt_drop, byteAt_drop, Nat.add_assoc]
  | bigEndian => rw [readU16, readU16, byteAt_drop, byteAt_drop, Nat.add_assoc]

section SetupSuccess

variable {setup : SetupSuccess} {bytes : List UInt8}

theorem drop_setupVendor (h : bytes.drop 8 = setupExtra order setup) :
    bytes.drop 40 = padVec4 setup.vendor ++ setupTail order setup := by
  rw [show 40 = 8 + 32 from rfl, ← List.drop_drop, h]
  simp only [setupExtra, setupTail, List.append_assoc]
  cases order <;> rfl

theorem drop_setupTail (h : bytes.drop 8 = setupExtra order setup) :
    bytes.drop (40 + (padVec4 setup.vendor).length) = setupTail order setup := by
  rw [← List.drop_drop, drop_setupVendor h, List.drop_left]

theorem setupSuccess_counted (h : bytes.drop 8 = setupExtra order setup) :
    (∀ c ∈ setupSuccessCounts order setup,
      readField order bytes c.offset c.field * c.groups = c.items.length) ↔
      setup.vendor.length < 2 ^ 16 := by
  have hvendor : readU16 order bytes 24 = (UInt16.ofNat setup.vendor.length).toNat := by
    rw [readU16_of_drop h 16]
    refine readU16_of_slice ?_
    simp only [setupExtra, List.append_assoc]
    cases order <;> rfl
  have hroots : byteAt bytes 28 = 1 := by
    rw [show 28 = 8 + 20 from rfl, ← byteAt_drop, h]
    simp only [setupExtra, List.append_assoc]
    cases order <;> rfl
  have hformats : byteAt bytes 29 = 7 := by
    rw [show 29 = 8 + 21 from rfl, ← byteAt_drop, h]
    simp only [setupExtra, List.append_assoc]
    cases order <;> rfl
  have htail := drop_setupTail h
  have hdepths : byteAt (setupTail order setup) 95 = 5 := by
    simp only [setupTail, writeScreen, writeScreenHead, List.append_assoc]
    cases order <;> rfl
  have hvisuals : [98, 106, 114, 122, 154].map (readU16 order (setupTail order setup)) =
      [0, 0, 0, 1, 1] := by
    simp only [setupTail, writeScreen, writeScreenHead, writeDepth, writeVisual, List.append_assoc]
    cases order <;> rfl
  simp only [List.map_cons, List.map_nil, List.cons.injEq, and_true] at hvisuals
  obtain ⟨h1, h4, h8, h24, h32⟩ := hvisuals
  simp only [setupSuccessCounts, List.forall_mem_cons, List.not_mem_nil, false_implies,
    implies_true, and_true, readField, Nat.mul_one, length_singles]
  constructor
  · intro hcounted
    have hcount := hvendor.symm.trans hcounted.1
    rw [← hcount]
    exact UInt16.toNat_lt _
  · intro hlt
    refine ⟨?_, hformats, hroots, ?_, ?_, ?_, ?_, ?_, ?_⟩
    · rw [hvendor, UInt16.toNat_ofNat_of_lt' hlt]
    · rw [← htail, byteAt_drop] at hdepths
      exact hdepths
    · exact (readU16_of_drop htail 98).trans h1
    · exact (readU16_of_drop htail 106).trans h4
    · exact (readU16_of_drop htail 114).trans h8
    · exact (readU16_of_drop htail 122).trans h24
    · exact (readU16_of_drop htail 154).trans h32

theorem drop_setupScreen (order : ClientByteOrder) (setup : SetupSuccess) :
    (setupTail order setup).drop 56 = writeScreen order setup.root :=
  List.drop_left' (by decide)

theorem drop_setupDepths (order : ClientByteOrder) (setup : SetupSuccess) :
    (setupTail order setup).drop 96 =
      [writeDepth order 1 0, writeDepth order 4 0, writeDepth order 8 0,
        writeDepth order 24 1 ++ writeVisual order setup.root.rootVisual 0,
        writeDepth order 32 1 ++ writeVisual order setup.root.argbVisual 0xff000000].flatten := by
  simp only [setupTail, writeScreen, writeScreenHead, List.flatten_cons, List.flatten_nil,
    List.append_assoc, List.append_nil]
  cases order <;> rfl

theorem drop_rootVisual (order : ClientByteOrder) (setup : SetupSuccess) :
    (setupTail order setup).drop 128 =
      writeVisual order setup.root.rootVisual 0 ++ (setupTail order setup).drop 152 := by
  simp only [setupTail, writeScreen, writeScreenHead, writeDepth, writeVisual, List.append_assoc]
  cases order <;> rfl

theorem drop_argbVisual (order : ClientByteOrder) (setup : SetupSuccess) :
    (setupTail order setup).drop 160 = writeVisual order setup.root.argbVisual 0xff000000 := by
  simp only [setupTail, writeScreen, writeScreenHead, writeDepth, writeVisual, List.append_assoc]
  cases order <;> rfl

theorem setupSuccess_placed (h : bytes.drop 8 = setupExtra order setup) :
    ∀ c ∈ setupSuccessCounts order setup, c.items.flatten <+: bytes.drop c.start := by
  have hvendor := drop_setupVendor h
  have htail := drop_setupTail h
  have hafter (i : Nat) : bytes.drop (40 + (padVec4 setup.vendor).length + i) =
      (setupTail order setup).drop i := by
    rw [← List.drop_drop, htail]
  simp only [setupSuccessCounts, List.forall_mem_cons, List.not_mem_nil, false_implies,
    implies_true, and_true, List.flatten_nil, List.nil_prefix, true_and, flatten_singles]
  refine ⟨?_, ?_, ?_, ?_, ?_, ?_⟩
  · rw [hvendor, padVec4, List.append_assoc]
    exact List.prefix_append ..
  · rw [htail]
    exact List.prefix_append ..
  · rw [hafter 56, drop_setupScreen]
    simp
  · have hdepths := (hafter 96).trans (drop_setupDepths order setup)
    exact hdepths ▸ List.prefix_rfl
  · have hroot := (hafter 128).trans (drop_rootVisual order setup)
    rw [List.flatten_singleton]
    exact hroot ▸ List.prefix_append ..
  · have hargb := (hafter 160).trans (drop_argbVisual order setup)
    rw [List.flatten_singleton]
    exact hargb ▸ List.prefix_rfl

theorem framed_setupSuccess (h : writeSetupSuccess order setup = some bytes) :
    Framed order setupFrame (setupSuccessCounts order setup) bytes ↔
      (ServerReply.setupSuccess setup).FramedWhen order := by
  rw [writeSetupSuccess] at h
  cases hunits : checkedUnits (setupExtra order setup).length with
  | none => simp [hunits] at h
  | some units =>
    obtain ⟨hextra, hfits⟩ := eq_of_checkedUnits hunits
    simp only [hunits] at h
    have hsize : bytes.length = 8 + 4 * units.toNat := by
      rw [← hextra]
      cases h
      cases order <;> exact List.length_append
    have hread : readU16 order bytes 6 = units.toUInt16.toNat := by
      cases h
      exact readU16_of_slice (by cases order <;> rfl)
    have hlength : bytes.length = 8 + 4 * readU16 order bytes 6 := by
      rw [hsize, hread, UInt32.toNat_toUInt16, Nat.mod_eq_of_lt hfits]
    have hbody : bytes.drop 8 = setupExtra order setup := by
      cases h
      cases order <;> rfl
    rw [ServerReply.FramedWhen, ← setupSuccess_counted hbody]
    exact ⟨fun h => h.counted, fun hcounted =>
      ⟨hlength, hcounted, setupSuccess_placed hbody⟩⟩

end SetupSuccess

end

/-- The length and the counts in a reply are those of what is written exactly
for these arguments. -/
theorem ServerReply.framed_iff {order : ClientByteOrder} {sequence : UInt16} {reply : ServerReply}
    {bytes : List UInt8} (h : reply.write order sequence = some bytes) :
    Framed order reply.frame (reply.counts order) bytes ↔ reply.FramedWhen order := by
  cases reply with
  | core reply => exact CoreReply.framed_iff_framedWhen h
  | setupFailed reason =>
    cases h
    exact framed_setupFailed reason
  | setupSuccess setup => exact framed_setupSuccess h

/-- "WM_NAME" -/
def wmName : List UInt8 :=
  [0x57, 0x4d, 0x5f, 0x4e, 0x41, 0x4d, 0x45]

/-- The seven letters of a name and one byte of padding, for a big-endian client. -/
theorem ServerReply.getAtomName_framed :
    (core (.getAtomName wmName)).write .bigEndian 3 = some
      ([1, 0, 0, 3, 0, 0, 0, 2, 0, 7] ++ List.replicate 22 0 ++ wmName ++ [0]) ∧
    Framed .bigEndian coreFrame ((core (.getAtomName wmName)).counts .bigEndian)
      ([1, 0, 0, 3, 0, 0, 0, 2, 0, 7] ++ List.replicate 22 0 ++ wmName ++ [0]) := by
  have hwrite : (core (.getAtomName wmName)).write .bigEndian 3 = some
      ([1, 0, 0, 3, 0, 0, 0, 2, 0, 7] ++ List.replicate 22 0 ++ wmName ++ [0]) := by decide
  exact ⟨hwrite, (ServerReply.framed_iff hwrite).mpr (show 7 < 2 ^ 16 by decide)⟩

/-- "ynest exhausted resource ID space" -/
def exhaustedReason : List UInt8 :=
  [0x79, 0x6e, 0x65, 0x73, 0x74, 0x20, 0x65, 0x78, 0x68, 0x61, 0x75, 0x73, 0x74, 0x65, 0x64, 0x20,
    0x72, 0x65, 0x73, 0x6f, 0x75, 0x72, 0x63, 0x65, 0x20, 0x49, 0x44, 0x20, 0x73, 0x70, 0x61, 0x63,
    0x65]

/-- The refusal that the server sends when it has no resource IDs left has 40
bytes, and the first two letters of the text for its length. -/
theorem ServerReply.setupFailed_unframed :
    (writeSetupFailed .littleEndian exhaustedReason).length = 40 ∧
      readField .littleEndian (writeSetupFailed .littleEndian exhaustedReason) 6 CARD16 = 0x6e79 ∧
      ¬ Framed .littleEndian setupFrame (setupFailedCounts exhaustedReason)
        (writeSetupFailed .littleEndian exhaustedReason) := by
  refine ⟨by decide, by decide, fun h => ?_⟩
  have hlength := h.length
  revert hlength
  decide

end X12

import X12.Lib.Pieces
import X12.Protocol.ReplyLayout
import X12.Verify.Wire

/-! # Replies in both byte orders

Each writer is cut into pieces along the layout of its reply. A piece that does
not follow the byte order of the client shows in the reply unless its bytes read
the same both ways. -/

namespace X12

open Layout (Field Item Piece message swapFields)
open Proto

/-! ## Writers -/

/-- The writer fills the layout piece by piece, and what it writes regardless of
the byte order does no harm exactly under the condition. -/
def Writes (writer : ClientByteOrder → List UInt8) (layout : List Field) (neutral : Prop) :
    Prop :=
  ∃ pieces : List Piece, (∀ order, writer order = message order pieces) ∧
    pieces.map Piece.field = layout ∧ (∀ p ∈ pieces, p.Fills) ∧
    ((∀ p ∈ pieces, p.Neutral) ↔ neutral)

namespace Writes

variable {writer writer' : ClientByteOrder → List UInt8} {layout layout' : List Field}
  {neutral neutral' : Prop} {α : Type}

theorem length_eq (h : Writes writer layout neutral) (order : ClientByteOrder) :
    (writer order).length = (layout.map Field.size).sum := by
  obtain ⟨pieces, hwriter, rfl, hfills, -⟩ := h
  rw [hwriter, Layout.length_message hfills]

theorem equivariant_iff (h : Writes writer layout neutral) :
    swapFields layout (writer .littleEndian) = writer .bigEndian ↔ neutral := by
  obtain ⟨pieces, hwriter, rfl, hfills, hneutral⟩ := h
  rw [hwriter, hwriter, Layout.swapFields_message_iff hfills, hneutral]

theorem congr_neutral (h : Writes writer layout neutral) (hiff : neutral ↔ neutral') :
    Writes writer layout neutral' := by
  obtain ⟨pieces, hwriter, hlayout, hfills, hneutral⟩ := h
  exact ⟨pieces, hwriter, hlayout, hfills, hneutral.trans hiff⟩

/-- A writer of values in the byte order of the client. -/
theorem items (items : List Item) (h : ∀ order, writer order = Layout.bytes order items) :
    Writes writer (items.map Item.field) True := by
  refine ⟨items.map .ordered, fun order => ?_, ?_, ?_, ?_⟩
  · rw [h, message, List.flatMap_map]
    rfl
  · rw [List.map_map]
    rfl
  · simp [Piece.Fills]
  · simp [Piece.Neutral]

theorem empty : Writes (fun _ => []) [] True :=
  items [] fun _ => rfl

theorem append (h : Writes writer layout neutral) (h' : Writes writer' layout' neutral') :
    Writes (fun order => writer order ++ writer' order) (layout ++ layout')
      (neutral ∧ neutral') := by
  obtain ⟨pieces, hwriter, rfl, hfills, hneutral⟩ := h
  obtain ⟨pieces', hwriter', rfl, hfills', hneutral'⟩ := h'
  refine ⟨pieces ++ pieces', fun order => ?_, List.map_append, ?_, ?_⟩
  · simp only [hwriter, hwriter', message, List.flatMap_append]
  · exact List.forall_mem_append.mpr ⟨hfills, hfills'⟩
  · rw [List.forall_mem_append, hneutral, hneutral']

/-- What is written after a part that follows the byte order. -/
theorem after (h : Writes writer layout True) (h' : Writes writer' layout' neutral') :
    Writes (fun order => writer order ++ writer' order) (layout ++ layout') neutral' :=
  (h.append h').congr_neutral (iff_of_eq (true_and _))

theorem flatMap {write : ClientByteOrder → α → List UInt8} {field : α → List Field}
    {neutral : α → Prop} (h : ∀ a, Writes (write · a) (field a) (neutral a)) (as : List α) :
    Writes (fun order => as.flatMap (write order)) (as.flatMap field) (∀ a ∈ as, neutral a) := by
  induction as with
  | nil => exact empty.congr_neutral (by simp)
  | cons a as ih =>
    simp only [List.flatMap_cons]
    exact ((h a).append ih).congr_neutral List.forall_mem_cons.symm

theorem flatMap_ordered {write : ClientByteOrder → α → List UInt8} {field : α → List Field}
    (h : ∀ a, Writes (write · a) (field a) True) (as : List α) :
    Writes (fun order => as.flatMap (write order)) (as.flatMap field) True :=
  (flatMap h as).congr_neutral (by simp)

/-- Bytes that are no halves and no words. -/
theorem text (written : List UInt8) : Writes (fun _ => written) [.pad written.length] True := by
  refine ⟨[.fixed (.pad written.length) written], fun order => ?_, rfl, ?_, ?_⟩
  · exact (List.append_nil written).symm
  · simp [Piece.Fills, Field.size]
  · simp [Piece.Neutral, Field.Typed]

/-- A half or a word that is written as it is. -/
theorem fixed {f : Field} (hf : f.Typed) {written : List UInt8} (hlen : written.length = f.size) :
    Writes (fun _ => written) [f] (written.reverse = written) := by
  refine ⟨[.fixed f written], fun order => ?_, rfl, ?_, ?_⟩
  · exact (List.append_nil written).symm
  · simpa [Piece.Fills] using hlen
  · simp [Piece.Neutral, hf]

end Writes

/-- The first bytes of a list in groups of one size. -/
def chunks (size : Nat) : Nat → List UInt8 → List (List UInt8)
  | 0, _ => []
  | count + 1, written => written.take size :: chunks size count (written.drop size)

/-- Halves or words that are written as they are. -/
theorem Writes.chunks {f : Field} (hf : f.Typed) {count : Nat} {written : List UInt8}
    (hlen : count * f.size ≤ written.length) :
    Writes (fun _ => written.take (count * f.size)) (List.replicate count f)
      (∀ chunk ∈ chunks f.size count written, chunk.reverse = chunk) := by
  induction count generalizing written with
  | zero =>
    rw [Nat.zero_mul, List.take_zero]
    exact Writes.empty.congr_neutral (by simp [X12.chunks])
  | succ count ih =>
    rw [Nat.add_mul, Nat.one_mul] at hlen
    have hfirst : (written.take f.size).length = f.size := List.length_take_of_le (by omega)
    have hroom : count * f.size ≤ (written.drop f.size).length := by
      rw [List.length_drop]
      omega
    have hrest := ih hroom
    have hsplit : written.take ((count + 1) * f.size) =
        written.take f.size ++ (written.drop f.size).take (count * f.size) := by
      rw [← List.take_add, Nat.add_mul, Nat.one_mul, Nat.add_comm]
    rw [hsplit, List.replicate_succ, X12.chunks]
    refine ((Writes.fixed hf hfirst).append hrest).congr_neutral ?_
    rw [List.forall_mem_cons]

/-! ## Replies that do not follow the byte order -/

def Palindrome (written : List UInt8) : Prop :=
  written.reverse = written

instance (written : List UInt8) : Decidable (Palindrome written) :=
  inferInstanceAs (Decidable (_ = _))

/-- The halves or the words of the value read the same both ways. -/
def ValueNeutral (format : UInt8) (value : List UInt8) : Prop :=
  if format = 16 then ∀ chunk ∈ chunks 2 (value.length / 2) value, Palindrome chunk
  else if format = 32 then ∀ chunk ∈ chunks 4 (value.length / 4) value, Palindrome chunk
  else True

/-- Each of the six fields reads the same both ways. -/
def CharInfo.Neutral (info : CharInfo) : Prop :=
  ∀ half ∈ [info.leftSideBearing.toUInt16, info.rightSideBearing.toUInt16,
    info.characterWidth.toUInt16, info.ascent.toUInt16, info.descent.toUInt16, info.attributes],
    Palindrome (u16LeBytes half)

/-- The bounds and the properties of the font read the same both ways. -/
def FontMetrics.Neutral (metrics : FontMetrics) : Prop :=
  metrics.minBounds.Neutral ∧ metrics.maxBounds.Neutral ∧
    ∀ chunk ∈ chunks 4 (metrics.properties.length / 8 * 2) metrics.properties, Palindrome chunk

/-- What a reply writes regardless of the byte order does no harm. -/
def CoreReply.Neutral : CoreReply → Prop
  | getProperty reply =>
    (padVec4 reply.value).length / 4 < 2 ^ 32 → ValueNeutral reply.format reply.value
  | listProperties atoms =>
    ∀ atom ∈ atoms.take (min atoms.length (2 ^ 16 - 1)), Palindrome (u32LeBytes atom)
  | geQueryVersion => False
  | getKeyboardMapping _ keycodeCount keysymsPerKeycode =>
    keycodeCount = 0 ∨ keysymsPerKeycode = 0
  | queryFont metrics => metrics.Neutral ∧ ∀ info ∈ metrics.charInfos, info.Neutral
  | listFontsWithInfo metrics _ _ => metrics.Neutral
  | _ => True

/-! ## The writers -/

section Writers
variable (sequence : UInt16)

theorem writes_fixedReply (data : UInt8) (length : UInt32) :
    Writes (fixedReply · sequence data length) replyHead True :=
  .items [.byte 1, .byte data, .half sequence, .word length] fun order => by cases order <;> rfl

theorem writes_words (words : List UInt32) :
    Writes (fun order => words.flatMap (writeU32 order)) (List.replicate words.length .word)
      True := by
  have hword (v : UInt32) : Writes (writeU32 · v) [CARD32] True :=
    .items [.word v] fun order => by cases order <;> rfl
  have h := Writes.flatMap_ordered hword words
  rwa [← List.map_eq_flatMap, List.map_const'] at h

/-- A text and the zeros behind it. -/
theorem writes_padVec4 (written : List UInt8) :
    Writes (fun _ => padVec4 written) ([.pad written.length] ++ paddingLayout written.length)
      True :=
  (Writes.text written).after (Writes.text (pad4 written.length))

theorem writes_getWindowAttributes (a : WindowAttributes) :
    Writes (writeGetWindowAttributesReply · sequence a)
      (CoreReply.getWindowAttributes a).layout True :=
  .items [.byte 1, .byte a.backingStore, .half sequence, .word 3, .word a.visual,
      .half a.windowClass, .byte a.bitGravity, .byte a.winGravity, .word a.backingPlanes,
      .word a.backingPixel, .byte a.saveUnder.toUInt8, .byte a.mapIsInstalled.toUInt8,
      .byte a.mapState, .byte a.overrideRedirect.toUInt8, .word a.colormap,
      .word a.allEventMasks, .word a.yourEventMask, .half a.doNotPropagateMask, .pad 2]
    fun order => by
      have hpad : writeU16 order 0 = [0, 0] := by cases order <;> rfl
      simp [writeGetWindowAttributesReply, fixedReply, hpad]

theorem writes_getGeometry (g : Geometry) :
    Writes (writeGetGeometryReply · sequence g) (CoreReply.getGeometry g).layout True :=
  .items [.byte 1, .byte g.depth, .half sequence, .word 0, .word g.root, .half g.x.toUInt16,
      .half g.y.toUInt16, .half g.width, .half g.height, .half g.borderWidth, .pad 10]
    fun order => by cases order <;> rfl

theorem writes_queryTree (root parent : UInt32) (children : List UInt32) :
    Writes (writeQueryTreeReply · sequence root parent children)
      (CoreReply.queryTree root parent children).layout True :=
  (Writes.items [.byte 1, .byte 0, .half sequence, .word (UInt32.ofNat children.length),
      .word root, .word parent, .half (UInt16.ofNat children.length), .pad 14]
    fun order => by cases order <;> rfl).after (writes_words children)

theorem writes_getAtomName (name : List UInt8) (units : UInt32) :
    Writes (fun order => fixedReply order sequence 0 units ++
        writeU16 order (UInt16.ofNat name.length) ++ List.replicate 22 0 ++ padVec4 name)
      (CoreReply.getAtomName name).layout True := by
  rw [CoreReply.layout, List.append_assoc]
  exact (Writes.items [.byte 1, .byte 0, .half sequence, .word units,
      .half (UInt16.ofNat name.length), .pad 22]
    fun order => by cases order <;> rfl).after (writes_padVec4 name)

theorem writes_value (format : UInt8) (value : List UInt8) :
    Writes (fun _ => value) (valueLayout format value.length) (ValueNeutral format value) := by
  have hunits {f : Field} (hf : f.Typed) (hpos : 0 < f.size) :
      Writes (fun _ => value)
        (List.replicate (value.length / f.size) f ++ [.pad (value.length % f.size)])
        (∀ chunk ∈ chunks f.size (value.length / f.size) value, Palindrome chunk) := by
    have hle : value.length / f.size * f.size ≤ value.length := Nat.div_mul_le_self ..
    have hrest := Writes.text (value.drop (value.length / f.size * f.size))
    have hlen : (value.drop (value.length / f.size * f.size)).length = value.length % f.size := by
      rw [List.length_drop, Nat.mod_eq_sub_div_mul]
    rw [hlen] at hrest
    have hall := (Writes.chunks hf hle).append hrest
    simp only [List.take_append_drop] at hall
    exact hall.congr_neutral (iff_of_eq (and_true _))
  rw [valueLayout, ValueNeutral]
  split
  · exact hunits (.inl rfl) (by decide)
  split
  · exact hunits (.inr rfl) (by decide)
  · exact .text value

theorem writes_getProperty (reply : GetPropertyReply) (units : UInt32) :
    Writes (fun order => fixedReply order sequence reply.format units ++
        writeU32 order reply.type ++ writeU32 order reply.bytesAfter ++
        writeU32 order reply.valueLen ++ List.replicate 12 0 ++ padVec4 reply.value)
      (CoreReply.getProperty reply).layout (ValueNeutral reply.format reply.value) := by
  have hvalue := (writes_value reply.format reply.value).append
    (Writes.text (pad4 reply.value.length))
  rw [CoreReply.layout, List.append_assoc]
  exact (Writes.items [.byte 1, .byte reply.format, .half sequence, .word units,
      .word reply.type, .word reply.bytesAfter, .word reply.valueLen, .pad 12]
    fun order => by cases order <;> rfl).after (hvalue.congr_neutral (iff_of_eq (and_true _)))

theorem writes_listProperties (atoms : List UInt32) :
    Writes (writeListPropertiesReply · sequence atoms) (CoreReply.listProperties atoms).layout
      (CoreReply.listProperties atoms).Neutral := by
  have hcount : (if atoms.length < 2 ^ 16 then atoms.length else 2 ^ 16 - 1) =
      min atoms.length (2 ^ 16 - 1) := by
    split <;> omega
  have hatom (atom : UInt32) :
      Writes (fun _ => u32LeBytes atom) [ATOM] (Palindrome (u32LeBytes atom)) :=
    .fixed (.inr rfl) rfl
  have hatoms := Writes.flatMap hatom (atoms.take (min atoms.length (2 ^ 16 - 1)))
  rw [← List.map_eq_flatMap, List.map_const', List.length_take,
    Nat.min_eq_left (Nat.min_le_left ..)] at hatoms
  simp only [writeListPropertiesReply, hcount]
  exact (Writes.items [.byte 1, .byte 0, .half sequence, .word (UInt32.ofNat _),
      .half (UInt16.ofNat _), .pad 22] fun order => by cases order <;> rfl).after hatoms

theorem writes_getImage (request : GetImageRequest) (visualId : UInt32) :
    Writes (writeGetImageReply · sequence request visualId)
      (CoreReply.getImage request visualId).layout True := by
  have himage := Writes.text (List.replicate request.dataBytes.toNat 0)
  rw [List.length_replicate] at himage
  exact (Writes.items [.byte 1, .byte 24, .half sequence, .word (request.dataBytes / 4),
      .word visualId, .pad 20] fun order => by cases order <;> rfl).after himage

theorem writes_pixelColor (pixel : UInt32) :
    Writes (writePixelColor · pixel) [CARD16, CARD16, CARD16, UNUSED 2] True :=
  .items [.half (((pixel >>> 16) &&& 0xff).toUInt16 * 257),
      .half (((pixel >>> 8) &&& 0xff).toUInt16 * 257), .half ((pixel &&& 0xff).toUInt16 * 257),
      .pad 2] fun order => by cases order <;> rfl

theorem writes_queryColors (pixels : List UInt32) :
    Writes (writeQueryColorsReply · sequence pixels) (CoreReply.queryColors pixels).layout True :=
  (Writes.items [.byte 1, .byte 0, .half sequence, .word (UInt32.ofNat (pixels.length * 2)),
      .half (UInt16.ofNat pixels.length), .pad 22] fun order => by cases order <;> rfl).after
    (Writes.flatMap_ordered writes_pixelColor pixels)

/-- The constant bytes of the version are those of a little-endian 1. -/
theorem writes_geQueryVersion :
    Writes (writeGeQueryVersionReply · sequence) CoreReply.geQueryVersion.layout False := by
  have hmajor : Writes (fun _ => [1, 0]) [CARD16] (Palindrome [1, 0]) := .fixed (.inl rfl) rfl
  have hminor : Writes (fun _ => [0, 0] ++ List.replicate 20 0) [CARD16, UNUSED 20] True :=
    .items [.half 0, .pad 20] fun order => by cases order <;> rfl
  have hversion := hmajor.append hminor
  have hnever : Palindrome [1, 0] ∧ True ↔ False := by decide
  have hall := (writes_fixedReply sequence 0 0).after (hversion.congr_neutral hnever)
  simp only [← List.append_assoc] at hall
  exact hall

theorem length_strings (names : List (List UInt8)) :
    ((names.flatMap fun name => [CARD8, STRING8 name.length]).map Field.size).sum =
      (names.flatMap fun name => UInt8.ofNat name.length :: name).length := by
  induction names with
  | nil => rfl
  | cons name names ih =>
    rw [List.flatMap_cons, List.map_append, List.sum_append, ih, List.flatMap_cons,
      List.length_append]
    simp [Field.size]
    omega

theorem writes_listExtensions (names : List (List UInt8)) (units : UInt32) :
    Writes (fun order => fixedReply order sequence (UInt8.ofNat names.length) units ++
        List.replicate 24 0 ++ padVec4 (names.flatMap fun name => UInt8.ofNat name.length :: name))
      (CoreReply.listExtensions names).layout True := by
  have hlength (name : List UInt8) : Writes (fun _ => [UInt8.ofNat name.length]) [CARD8] True :=
    .items [.byte (UInt8.ofNat name.length)] fun order => by cases order <;> rfl
  have hstring (name : List UInt8) : Writes (fun _ => UInt8.ofNat name.length :: name)
      [CARD8, STRING8 name.length] True :=
    (hlength name).after (.text name)
  have hstrings := Writes.flatMap_ordered hstring names
  rw [CoreReply.layout, length_strings, List.append_assoc]
  exact (Writes.items [.byte 1, .byte (UInt8.ofNat names.length), .half sequence, .word units,
      .pad 24] fun order => by cases order <;> rfl).after (hstrings.after (Writes.text (pad4 _)))

theorem keysymCount_le (keycodeCount keysymsPerKeycode : UInt8) :
    keycodeCount.toNat * keysymsPerKeycode.toNat ≤ 255 * 255 :=
  Nat.mul_le_mul (by have := keycodeCount.toNat_lt; omega)
    (by have := keysymsPerKeycode.toNat_lt; omega)

theorem toNat_keysymCount (keycodeCount keysymsPerKeycode : UInt8) :
    (keycodeCount.toUInt32 * keysymsPerKeycode.toUInt32).toNat =
      keycodeCount.toNat * keysymsPerKeycode.toNat := by
  have hle := keysymCount_le keycodeCount keysymsPerKeycode
  rw [UInt32.toNat_mul, UInt8.toNat_toUInt32, UInt8.toNat_toUInt32, Nat.mod_eq_of_lt (by omega)]

/-- The length field of at most 255 times 255 keysyms. -/
theorem palindrome_keysymCount {keycodeCount keysymsPerKeycode : UInt8} :
    Palindrome (u32LeBytes (keycodeCount.toUInt32 * keysymsPerKeycode.toUInt32)) ↔
      keycodeCount = 0 ∨ keysymsPerKeycode = 0 := by
  have hvalue := toNat_keysymCount keycodeCount keysymsPerKeycode
  have hsmall : (keycodeCount.toUInt32 * keysymsPerKeycode.toUInt32).toNat < 2 ^ 16 := by
    rw [hvalue]
    have hle := keysymCount_le keycodeCount keysymsPerKeycode
    omega
  have hzero : keycodeCount.toUInt32 * keysymsPerKeycode.toUInt32 = 0 ↔
      keycodeCount = 0 ∨ keysymsPerKeycode = 0 := by
    rw [← UInt32.toNat_inj, hvalue, UInt32.toNat_zero, Nat.mul_eq_zero, ← UInt8.toNat_inj,
      ← UInt8.toNat_inj, UInt8.toNat_zero]
  rw [← hzero]
  generalize keycodeCount.toUInt32 * keysymsPerKeycode.toUInt32 = v at hsmall
  constructor
  · intro h
    obtain ⟨h3, h2, -⟩ : (v >>> 24).toUInt8 = v.toUInt8 ∧ (v >>> 16).toUInt8 = (v >>> 8).toUInt8 ∧
        _ := by simpa [Palindrome, u32LeBytes] using h
    obtain ⟨h16, h24⟩ := highBytes_eq_zero hsmall
    have hbytes := toNat_bytes v
    rw [← h3, ← h2, h16, h24] at hbytes
    exact UInt32.toNat_inj.mp hbytes.symm
  · rintro rfl
    rfl

theorem writes_keycodeKeysyms (keysymsPerKeycode keycode : UInt8) :
    Writes (writeKeycodeKeysyms · keysymsPerKeycode keycode)
      (List.replicate (max 1 keysymsPerKeycode.toNat) CARD32) True := by
  have hone (v : UInt32) : Writes (writeU32 · v) (List.replicate 1 CARD32) True :=
    .items [.word v] fun order => by cases order <;> rfl
  have hrest := writes_words (List.replicate (keysymsPerKeycode.toNat - 2) 0)
  rw [List.length_replicate] at hrest
  by_cases hshifted : keysymsPerKeycode > 1
  · have hlt : 1 < keysymsPerKeycode.toNat := UInt8.lt_iff_toNat_lt.mp hshifted
    have hall := ((hone (keysymsForKeycode keycode).1).after
      (hone (keysymsForKeycode keycode).2)).after hrest
    rw [← List.replicate_add, ← List.replicate_add] at hall
    simp only [writeKeycodeKeysyms, if_pos hshifted]
    rwa [show max 1 keysymsPerKeycode.toNat = 1 + 1 + (keysymsPerKeycode.toNat - 2) by omega]
  · have hle : keysymsPerKeycode.toNat ≤ 1 := Nat.not_lt.mp fun h =>
      hshifted (UInt8.lt_iff_toNat_lt.mpr h)
    have hall := ((hone (keysymsForKeycode keycode).1).after .empty).after hrest
    rw [List.append_nil, ← List.replicate_add] at hall
    simp only [writeKeycodeKeysyms, if_neg hshifted]
    rwa [show max 1 keysymsPerKeycode.toNat = 1 + (keysymsPerKeycode.toNat - 2) by omega]

theorem writes_getKeyboardMapping (firstKeycode keycodeCount keysymsPerKeycode : UInt8) :
    Writes (writeGetKeyboardMappingReply · sequence firstKeycode keycodeCount keysymsPerKeycode)
      (CoreReply.getKeyboardMapping firstKeycode keycodeCount keysymsPerKeycode).layout
      (CoreReply.getKeyboardMapping firstKeycode keycodeCount keysymsPerKeycode).Neutral := by
  have hkeysyms := Writes.flatMap_ordered (fun offset => writes_keycodeKeysyms keysymsPerKeycode
    (firstKeycode + UInt8.ofNat offset)) (List.range keycodeCount.toNat)
  have hstart : Writes (fun order => (fixedReply order sequence keysymsPerKeycode
      keysymsPerKeycode.toUInt32).take 4) [CARD8, CARD8, CARD16] True :=
    .items [.byte 1, .byte keysymsPerKeycode, .half sequence] fun order => by cases order <;> rfl
  have hcount : Writes (fun _ => u32LeBytes (keycodeCount.toUInt32 * keysymsPerKeycode.toUInt32))
      [CARD32] (Palindrome (u32LeBytes (keycodeCount.toUInt32 * keysymsPerKeycode.toUInt32))) :=
    .fixed (.inr rfl) rfl
  have hpad : Writes (fun _ => List.replicate 24 0) [UNUSED 24] True :=
    .items [.pad 24] fun order => by cases order <;> rfl
  have hlayout : ((List.range keycodeCount.toNat).flatMap fun _ =>
      List.replicate (max 1 keysymsPerKeycode.toNat) CARD32) =
      List.replicate (keycodeCount.toNat * max 1 keysymsPerKeycode.toNat) CARD32 := by
    rw [List.flatMap_def, List.map_const', List.flatten_replicate_replicate, List.length_range]
  rw [hlayout] at hkeysyms
  have hall := ((hstart.after hcount).append hpad).append hkeysyms
  refine hall.congr_neutral ?_
  rw [and_true, and_true]
  exact palindrome_keysymCount

theorem writes_modifierMappingWithKeycodes (keycodesPerModifier : UInt8)
    (keycodes : List UInt8) :
    Writes (writeGetModifierMappingReplyWithKeycodes · sequence keycodesPerModifier keycodes)
      (CoreReply.getModifierMappingWithKeycodes keycodesPerModifier keycodes).layout True :=
  (Writes.items [.byte 1, .byte keycodesPerModifier, .half sequence,
      .word (8 * keycodesPerModifier.toUInt32 / 4), .pad 24]
    fun order => by cases order <;> rfl).after (Writes.text keycodes)

/-- A CHARINFO is written in little-endian order. -/
theorem writes_fullCharInfo (info : CharInfo) :
    Writes (fun _ => writeFullCharInfo info) charInfoLayout info.Neutral := by
  have hhalf (v : UInt16) : Writes (fun _ => u16LeBytes v) [.half] (Palindrome (u16LeBytes v)) :=
    .fixed (.inl rfl) rfl
  have hall := (((((hhalf info.leftSideBearing.toUInt16).append
    (hhalf info.rightSideBearing.toUInt16)).append (hhalf info.characterWidth.toUInt16)).append
    (hhalf info.ascent.toUInt16)).append (hhalf info.descent.toUInt16)).append
    (hhalf info.attributes)
  refine hall.congr_neutral ?_
  simp [CharInfo.Neutral, and_assoc]

/-- The font metrics, the word behind them and the properties. -/
theorem writes_fontMetrics (metrics : FontMetrics) (last : UInt32) :
    Writes (fun order => writeFontMetrics order metrics ++ writeU32 order last ++
        metrics.properties.take (metrics.properties.length / 8 * 8))
      (fontLayout ++ List.replicate (metrics.properties.length / 8 * 2) CARD32)
      metrics.Neutral := by
  have hpad : Writes (fun _ => List.replicate 4 0) [UNUSED 4] True :=
    .items [.pad 4] fun order => by cases order <;> rfl
  have hfields : Writes (fun order => writeU16 order metrics.minCharOrByte2 ++
      writeU16 order metrics.maxCharOrByte2 ++ writeU16 order metrics.defaultChar ++
      writeU16 order (u16OrZero (metrics.properties.length / 8)) ++
      [metrics.drawDirection, metrics.minByte1, metrics.maxByte1, metrics.allCharsExist.toUInt8] ++
      writeI16 order metrics.fontAscent ++ writeI16 order metrics.fontDescent ++
      writeU32 order last) [CARD16, CARD16, CARD16, CARD16, CARD8, CARD8, CARD8, BOOL, INT16,
        INT16, CARD32] True :=
    .items [.half metrics.minCharOrByte2, .half metrics.maxCharOrByte2,
      .half metrics.defaultChar, .half (u16OrZero (metrics.properties.length / 8)),
      .byte metrics.drawDirection, .byte metrics.minByte1, .byte metrics.maxByte1,
      .byte metrics.allCharsExist.toUInt8, .half metrics.fontAscent.toUInt16,
      .half metrics.fontDescent.toUInt16, .word last] fun order => by cases order <;> rfl
  have hroom : metrics.properties.length / 8 * 2 * CARD32.size ≤ metrics.properties.length := by
    rw [Field.size]
    omega
  have hproperties := Writes.chunks (.inr rfl) hroom
  have htake : metrics.properties.length / 8 * 2 * CARD32.size =
      metrics.properties.length / 8 * 8 := by
    rw [Field.size]
    omega
  rw [htake] at hproperties
  have hall := (((((writes_fullCharInfo metrics.minBounds).append hpad).append
    (writes_fullCharInfo metrics.maxBounds)).append hpad).append hfields).append hproperties
  simp only [← List.append_assoc] at hall
  refine (show Writes _ _ _ from hall).congr_neutral ?_
  rw [FontMetrics.Neutral, and_true, and_true, and_true]
  exact and_assoc

theorem writes_queryFont (metrics : FontMetrics) :
    Writes (writeQueryFontReply · sequence metrics) (CoreReply.queryFont metrics).layout
      (CoreReply.queryFont metrics).Neutral := by
  have hinfos := Writes.flatMap writes_fullCharInfo metrics.charInfos
  have hall := ((writes_fixedReply sequence 0 (7 + 2 * u32OrZero (metrics.properties.length / 8) +
    3 * u32OrZero metrics.charInfos.length)).after (writes_fontMetrics metrics
      (u32OrZero metrics.charInfos.length))).append hinfos
  simp only [← List.append_assoc] at hall
  exact hall

theorem writes_listFontsWithInfo (metrics : FontMetrics) (name : List UInt8)
    (remaining : UInt32) :
    Writes (writeListFontsWithInfoReply · sequence metrics name remaining)
      (CoreReply.listFontsWithInfo metrics name remaining).layout metrics.Neutral := by
  have hname := writes_padVec4 name
  have hall := ((writes_fixedReply sequence
    (if name.length < 2 ^ 8 then UInt8.ofNat name.length else 255)
    (u32OrZero ((28 + 8 * (metrics.properties.length / 8) + name.length +
      (pad4 name.length).length) / 4))).after (writes_fontMetrics metrics remaining)).append hname
  simp only [padVec4, ← List.append_assoc] at hall
  exact hall.congr_neutral (iff_of_eq (and_true _))

end Writers

/-! ## Every reply -/

/-- A reply is written along its layout or, too large for its length field, not
at all. -/
def CoreReply.Written (r : CoreReply) (sequence : UInt16) : Prop :=
  (∃ writer : ClientByteOrder → List UInt8, (∀ order, r.write order sequence =
    some (writer order)) ∧ Writes writer r.layout r.Neutral) ∨
  ((∀ order, r.write order sequence = none) ∧ r.Neutral)

theorem CoreReply.written (r : CoreReply) (sequence : UInt16) : r.Written sequence := by
  have items {r : CoreReply} {writer : ClientByteOrder → List UInt8}
      (h : Writes writer r.layout r.Neutral)
      (hwrite : ∀ order, r.write order sequence = some (writer order)) : r.Written sequence :=
    .inl ⟨writer, hwrite, h⟩
  cases r with
  | getWindowAttributes a => exact items (writes_getWindowAttributes sequence a) fun _ => rfl
  | getGeometry g => exact items (writes_getGeometry sequence g) fun _ => rfl
  | queryTree root parent children =>
    exact items (writes_queryTree sequence root parent children) fun _ => rfl
  | internAtom atom =>
    exact items (.items [.byte 1, .byte 0, .half sequence, .word 0, .word atom, .pad 20]
      fun order => by cases order <;> rfl) fun _ => rfl
  | getAtomName name =>
    cases hunits : checkedUnits (padVec4 name).length with
    | none => exact .inr ⟨fun order => by simp [write, writeGetAtomNameReply, hunits], trivial⟩
    | some units =>
      exact items (writes_getAtomName sequence name units) fun order => by
        simp [write, writeGetAtomNameReply, hunits]
  | getProperty reply =>
    by_cases hfits : (padVec4 reply.value).length / 4 < 2 ^ 32
    · refine items ((writes_getProperty sequence reply
        (UInt32.ofNat ((padVec4 reply.value).length / 4))).congr_neutral ?_) fun order => ?_
      · exact ⟨fun h _ => h, fun h => h hfits⟩
      · rw [write, writeGetPropertyReply, if_pos hfits]
    · refine .inr ⟨fun order => ?_, fun h => absurd h hfits⟩
      rw [write, writeGetPropertyReply, if_neg hfits]
  | listProperties atoms => exact items (writes_listProperties sequence atoms) fun _ => rfl
  | getSelectionOwner owner =>
    exact items (.items [.byte 1, .byte 0, .half sequence, .word 0, .word owner, .pad 20]
      fun order => by cases order <;> rfl) fun _ => rfl
  | grab status =>
    exact items (.items [.byte 1, .byte status, .half sequence, .word 0, .pad 24]
      fun order => by cases order <;> rfl) fun _ => rfl
  | queryPointer reply =>
    exact items (.items [.byte 1, .byte 1, .half sequence, .word 0, .word reply.root,
        .word reply.child, .half reply.rootX.toUInt16, .half reply.rootY.toUInt16,
        .half reply.winX.toUInt16, .half reply.winY.toUInt16, .half reply.mask, .pad 6]
      fun order => by cases order <;> rfl) fun _ => rfl
  | translateCoordinates child dstX dstY =>
    exact items (.items [.byte 1, .byte 1, .half sequence, .word 0, .word child,
        .half dstX.toUInt16, .half dstY.toUInt16, .pad 16]
      fun order => by cases order <;> rfl) fun _ => rfl
  | getInputFocus focus revertTo =>
    exact items (.items [.byte 1, .byte revertTo, .half sequence, .word 0, .word focus, .pad 20]
      fun order => by cases order <;> rfl) fun _ => rfl
  | queryKeymap =>
    exact items (.items [.byte 1, .byte 0, .half sequence, .word 2, .pad 32]
      fun order => by cases order <;> rfl) fun _ => rfl
  | allocColor color =>
    exact items (.items [.byte 1, .byte 0, .half sequence, .word 0, .half color.red,
        .half color.green, .half color.blue, .pad 2, .word (rgb16ToPixel color), .pad 12]
      fun order => by cases order <;> rfl) fun _ => rfl
  | lookupColor color =>
    exact items (.items [.byte 1, .byte 0, .half sequence, .word 0, .half color.red,
        .half color.green, .half color.blue, .half color.red, .half color.green,
        .half color.blue, .pad 12]
      fun order => by cases order <;> rfl) fun _ => rfl
  | allocNamedColor color =>
    exact items (.items [.byte 1, .byte 0, .half sequence, .word 0, .word (rgb16ToPixel color),
        .half color.red, .half color.green, .half color.blue, .half color.red,
        .half color.green, .half color.blue, .pad 8]
      fun order => by cases order <;> rfl) fun _ => rfl
  | getImage request visualId =>
    exact items (writes_getImage sequence request visualId) fun _ => rfl
  | queryColors pixels => exact items (writes_queryColors sequence pixels) fun _ => rfl
  | queryExtension present majorOpcode firstEvent firstError =>
    exact items (.items [.byte 1, .byte 0, .half sequence, .word 0, .byte present.toUInt8,
        .byte majorOpcode, .byte firstEvent, .byte firstError, .pad 20]
      fun order => by cases order <;> rfl) fun _ => rfl
  | geQueryVersion => exact items (writes_geQueryVersion sequence) fun _ => rfl
  | bigRequestsEnable maxRequestLength =>
    exact items (.items [.byte 1, .byte 0, .half sequence, .word 0, .word maxRequestLength,
        .pad 20] fun order => by cases order <;> rfl) fun _ => rfl
  | listExtensions names =>
    cases hunits : checkedUnits
        (padVec4 (names.flatMap fun name => UInt8.ofNat name.length :: name)).length with
    | none => exact .inr ⟨fun order => by simp [write, writeListExtensionsReply, hunits], trivial⟩
    | some units =>
      exact items (writes_listExtensions sequence names units) fun order => by
        simp [write, writeListExtensionsReply, hunits]
  | getKeyboardMapping firstKeycode keycodeCount keysymsPerKeycode =>
    exact items (writes_getKeyboardMapping sequence firstKeycode keycodeCount
      keysymsPerKeycode) fun _ => rfl
  | getKeyboardMappingFromKeysyms keysymsPerKeycode keysyms =>
    exact items ((Writes.items [.byte 1, .byte keysymsPerKeycode, .half sequence,
        .word (if keysyms.length < 2 ^ 32 then UInt32.ofNat keysyms.length else 0), .pad 24]
      fun order => by cases order <;> rfl).after (writes_words keysyms)) fun _ => rfl
  | queryFont metrics => exact items (writes_queryFont sequence metrics) fun _ => rfl
  | listFontsWithInfo metrics name remaining =>
    exact items (writes_listFontsWithInfo sequence metrics name remaining) fun _ => rfl
  | listFontsWithInfoTerminator =>
    exact items (.items [.byte 1, .byte 0, .half sequence, .word 7, .pad 52]
      fun order => by cases order <;> rfl) fun _ => rfl
  | queryTextExtents extents =>
    exact items (.items [.byte 1, .byte extents.drawDirection, .half sequence, .word 0,
        .half extents.fontAscent.toUInt16, .half extents.fontDescent.toUInt16,
        .half extents.overallAscent.toUInt16, .half extents.overallDescent.toUInt16,
        .word extents.overallWidth.toUInt32, .word extents.overallLeft.toUInt32,
        .word extents.overallRight.toUInt32, .pad 4]
      fun order => by cases order <;> rfl) fun _ => rfl
  | listHosts =>
    exact items (.items [.byte 1, .byte 0, .half sequence, .word 0, .half 0, .pad 22]
      fun order => by cases order <;> rfl) fun _ => rfl
  | queryBestSize width height =>
    exact items (.items [.byte 1, .byte 0, .half sequence, .word 0, .half width, .half height,
        .pad 20] fun order => by cases order <;> rfl) fun _ => rfl
  | getPointerMapping =>
    exact items ((Writes.items [.byte 1, .byte 3, .half sequence, .word 1, .pad 24]
      fun order => by cases order <;> rfl).after (Writes.text [1, 2, 3, 0])) fun _ => rfl
  | getModifierMapping =>
    exact items (.items [.byte 1, .byte 0, .half sequence, .word 0, .pad 24]
      fun order => by cases order <;> rfl) fun _ => rfl
  | getModifierMappingWithKeycodes keycodesPerModifier keycodes =>
    exact items (writes_modifierMappingWithKeycodes sequence keycodesPerModifier keycodes)
      fun _ => rfl

/-- The reply for a big-endian client is the one for a little-endian client with
each half and each word of the layout reversed, exactly when the reply is
neutral; and what is written has the length of the layout. -/
theorem CoreReply.swapped_iff_neutral (r : CoreReply) (sequence : UInt16) :
    ((r.write .littleEndian sequence).map (swapFields r.layout) = r.write .bigEndian sequence ↔
      r.Neutral) ∧
    ∀ order written, r.write order sequence = some written →
      written.length = (r.layout.map Field.size).sum := by
  rcases r.written sequence with ⟨writer, hwrite, h⟩ | ⟨hnone, hneutral⟩
  · refine ⟨?_, fun order written hwritten => ?_⟩
    · rw [hwrite, hwrite, Option.map_some, Option.some_inj, h.equivariant_iff]
    · rw [hwrite, Option.some_inj] at hwritten
      rw [← hwritten, h.length_eq]
  · refine ⟨?_, fun order written hwritten => ?_⟩
    · rw [hnone, hnone]
      exact iff_of_true rfl hneutral
    · rw [hnone] at hwritten
      cases hwritten

/-- The atoms of the list come in little-endian order. -/
theorem CoreReply.listProperties_unswapped :
    ((listProperties [39]).write .littleEndian 7).map (swapFields (listProperties [39]).layout) ≠
        (listProperties [39]).write .bigEndian 7 ∧
      ((listProperties [39]).write .bigEndian 7).map (List.drop 32) = some [39, 0, 0, 0] ∧
      ((geQueryVersion).write .bigEndian 7).map (fun reply => (reply.drop 8).take 2) =
        some [1, 0] := by
  decide

end X12

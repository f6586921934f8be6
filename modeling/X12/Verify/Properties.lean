import X12.Core.Properties
import X12.Verify.RequestSwap
import X12.Verify.Wire
import Mathlib.Data.List.GetD

/-! # Property values and byte orders

The data of a property are kept as they were sent. What one client has written
and another one reads is compared value by value. -/

namespace X12

open Layout (Field Item Matches)

/-! ## Requests in either byte order -/

/-- A head of words, in the little-endian order that the handlers read, and the
rest of the body as it was sent. -/
theorem swapRequestBody_head {opcode : UInt8} (data : UInt8) (hcore : opcode < 128)
    {entries rest : List FieldEntry} (htable : coreRequestSwapTable opcode = some entries)
    (fields : List Field) {items : List Item} (hafter : afterHead fields 0 entries = some rest)
    (hleft : rest.all FieldEntry.isOpaque) (hadmits : List.Forall₂ Field.Admits fields items)
    {order : ClientByteOrder} {body : List UInt8} {tail : List (Option UInt8)}
    (hbody : Matches body (Layout.encode order items ++ tail)) :
    ∃ head back, swapRequestBody opcode data order body = head ++ back ∧
      Matches head (Layout.encode .littleEndian items) ∧ Matches back tail := by
  obtain ⟨bytes, back, rfl, hbytes, hback⟩ := hbody.split
  cases order with
  | littleEndian => exact ⟨bytes, back, rfl, hbytes, hback⟩
  | bigEndian =>
    obtain ⟨head, hhead, hrun⟩ := afterHead_sound hafter hadmits [] rfl hbytes
    refine ⟨head, back, ?_, hhead, hback⟩
    have hquiet := applyEntries_opaque hleft (head ++ back)
    rw [swapRequestBody_core hcore htable]
    exact (hrun back).trans hquiet

theorem readU32Le_append (front back : List UInt8) (v : UInt32) :
    readU32Le (front ++ (u32LeBytes v ++ back)) front.length = v.toNat := by
  have hslice : ((front ++ (u32LeBytes v ++ back)).drop front.length).take 4 =
      writeU32 .littleEndian v := by
    rw [List.drop_left]
    rfl
  exact readU32_of_slice hslice

section Head
variable {before after : List Item} {head : List UInt8} {offset : Nat}

/-- The word behind the given items of a head. -/
theorem u32At_head (before : List Item) {v : UInt32}
    (h : Matches head (Layout.encode .littleEndian (before ++ .word v :: after)))
    (hoffset : (Layout.encode .littleEndian before).length = offset) (back : List UInt8) :
    u32At (head ++ back) offset = some v := by
  rw [Layout.encode, List.flatMap_append, List.flatMap_cons] at h
  obtain ⟨front, seg, rfl, hfront, hseg⟩ := h.split
  obtain ⟨seg, rest, rfl, hseg, -⟩ := hseg.split
  obtain rfl : seg = u32LeBytes v := by
    simpa [Item.encode, Item.littleBytes, u32LeBytes] using hseg
  obtain rfl : front.length = offset := hfront.length_eq.trans hoffset
  rw [List.append_assoc, List.append_assoc, u32At, if_pos (by simp [u32LeBytes]),
    readU32Le_append, UInt32.ofNat_toNat]

/-- The byte behind the given items of a head. -/
theorem byte_head (before : List Item) {b : UInt8}
    (h : Matches head (Layout.encode .littleEndian (before ++ .byte b :: after)))
    (hoffset : (Layout.encode .littleEndian before).length = offset) (back : List UInt8) :
    (head ++ back)[offset]? = some b := by
  rw [Layout.encode, List.flatMap_append, List.flatMap_cons] at h
  obtain ⟨front, seg, rfl, hfront, hseg⟩ := h.split
  obtain ⟨seg, rest, rfl, hseg, -⟩ := hseg.split
  obtain rfl : seg = [b] := by
    simpa [Item.encode, Item.littleBytes] using hseg
  obtain rfl : front.length = offset := hfront.length_eq.trans hoffset
  simp

end Head

/-! ## Values -/

namespace PropertyFormat

/-- The field that one value of the format fills. -/
def field : PropertyFormat → Field
  | .F8 => .byte
  | .F16 => .half
  | .F32 => .word

theorem fromProtocol_protocolValue (f : PropertyFormat) :
    fromProtocol f.protocolValue = some f := by
  cases f <;> rfl

theorem field_size (f : PropertyFormat) : f.field.size = f.bytes := by
  cases f <;> rfl

theorem valued_of_admits {f : PropertyFormat} {i : Item} (h : f.field.Admits i) : i.Valued := by
  rcases i.valued_or_pad with hv | ⟨n, rfl⟩
  · exact hv
  · cases f <;> cases h

theorem bytes_pos (f : PropertyFormat) : 0 < f.bytes := by
  cases f <;> decide

end PropertyFormat

theorem ChangeMode.fromProtocol_protocolValue (m : ChangeMode) :
    fromProtocol m.protocolValue = some m := by
  cases m <;> rfl

/-- The bytes of values, each sent in an order of its own. -/
def itemData (parts : List (ClientByteOrder × Item)) : List UInt8 :=
  parts.flatMap fun part => part.2.bytes part.1

theorem itemData_append (first second : List (ClientByteOrder × Item)) :
    itemData (first ++ second) = itemData first ++ itemData second :=
  List.flatMap_append

theorem length_itemData {f : PropertyFormat} {parts : List (ClientByteOrder × Item)}
    (hadmits : ∀ part ∈ parts, f.field.Admits part.2) :
    (itemData parts).length = parts.length * f.bytes := by
  induction parts with
  | nil => rw [itemData, List.flatMap_nil, List.length_nil, List.length_nil, Nat.zero_mul]
  | cons part parts ih =>
    obtain ⟨hpart, hrest⟩ := List.forall_mem_cons.mp hadmits
    rw [itemData, List.flatMap_cons, List.length_append, Item.length_bytes, hpart.length,
      PropertyFormat.field_size]
    rw [List.length_cons, Nat.add_mul, Nat.one_mul, Nat.add_comm]
    exact congrArg (· + f.bytes) (ih hrest)

/-- Values as they are stored: with each goes the order of the client that has
written it. -/
structure StoredProperty where
  type : AtomId
  format : PropertyFormat
  parts : List (ClientByteOrder × Item)
  admits : ∀ part ∈ parts, format.field.Admits part.2
  fits : (itemData parts).length ≤ MAX_PROPERTY_BYTES

namespace StoredProperty

variable (p : StoredProperty)

def data : List UInt8 := itemData p.parts

def value : PropertyValue := ⟨p.type, p.format, p.data⟩

theorem length_data : p.data.length = p.parts.length * p.format.bytes :=
  length_itemData p.admits

/-- Stored values read in one order: exact where they were written in it, or
where it does not matter. -/
theorem matches_data_iff (order : ClientByteOrder) :
    Matches p.data (Layout.encode order (p.parts.map Prod.snd)) ↔
      ∀ part ∈ p.parts, part.1 = order ∨ part.2.Symmetric := by
  have hwire : Layout.encode order (p.parts.map Prod.snd) =
      p.parts.flatMap fun part => part.2.encode order := by
    rw [Layout.encode, List.flatMap_map]
  have hdata : p.data = (p.parts.map fun part => part.2.bytes part.1).flatten := by
    rw [data, itemData, List.flatMap_def]
  rw [hwire, hdata, Layout.matches_flatMap_iff]
  · rw [List.forall₂_map_left_iff, List.forall₂_same]
    exact forall₂_congr fun part _ => Item.matches_bytes_iff
  · rw [List.forall₂_map_left_iff, List.forall₂_same]
    intro part _
    rw [Item.length_bytes, Item.length_encode]

end StoredProperty

/-- A ChangeProperty of a client with the given byte order. -/
structure PropertyWrite (window : ResourceId) (property : AtomId) where
  order : ClientByteOrder
  mode : ChangeMode
  type : AtomId
  format : PropertyFormat
  values : List Item
  admits : ∀ value ∈ values, format.field.Admits value
  countFits : values.length < 2 ^ 32
  padding : Nat
  body : List UInt8
  spells : Matches body
    (Layout.encode order [.word window, .word property, .word type, .byte format.protocolValue,
        .pad 3, .word (UInt32.ofNat values.length)] ++
      (Layout.encode order values ++ List.replicate padding none))

namespace PropertyWrite

variable {window : ResourceId} {property : AtomId} (w : PropertyWrite window property)

def parts : List (ClientByteOrder × Item) :=
  w.values.map (w.order, ·)

theorem parts_admits : ∀ part ∈ w.parts, w.format.field.Admits part.2 := by
  intro part hpart
  obtain ⟨value, hvalue, rfl⟩ := List.mem_map.mp hpart
  exact w.admits value hvalue

/-- The request that a client sends for the given values. -/
def send (order : ClientByteOrder) (mode : ChangeMode) (type : AtomId) (format : PropertyFormat)
    (values : List Item) (admits : ∀ value ∈ values, format.field.Admits value)
    (countFits : values.length < 2 ^ 32) : PropertyWrite window property where
  order := order
  mode := mode
  type := type
  format := format
  values := values
  admits := admits
  countFits := countFits
  padding := (pad4 (values.length * format.bytes)).length
  body :=
    Layout.bytes order [.word window, .word property, .word type, .byte format.protocolValue,
        .pad 3, .word (UInt32.ofNat values.length)] ++
      (Layout.bytes order values ++ pad4 (values.length * format.bytes))
  spells :=
    (Layout.matches_bytes order _).append
      ((Layout.matches_bytes order _).append (Layout.matches_replicate_none rfl))

/-- New values in place of the old ones, unless they are too many. -/
def store (old : Option StoredProperty) (parts : List (ClientByteOrder × Item))
    (hadmits : ∀ part ∈ parts, w.format.field.Admits part.2) : Option StoredProperty :=
  if hfits : (itemData parts).length ≤ MAX_PROPERTY_BYTES then
    some ⟨w.type, w.format, parts, hadmits, hfits⟩
  else old

/-- What the property holds after the request. Values are only put in front of
or behind values of the same type and format. -/
def applied : Option StoredProperty → Option StoredProperty
  | none => w.store none w.parts w.parts_admits
  | some p =>
    match w.mode with
    | .Replace => w.store (some p) w.parts w.parts_admits
    | .Prepend =>
      if h : p.type = w.type ∧ p.format = w.format then
        w.store (some p) (w.parts ++ p.parts)
          (List.forall_mem_append.mpr ⟨w.parts_admits, h.2 ▸ p.admits⟩)
      else some p
    | .Append =>
      if h : p.type = w.type ∧ p.format = w.format then
        w.store (some p) (p.parts ++ w.parts)
          (List.forall_mem_append.mpr ⟨h.2 ▸ p.admits, w.parts_admits⟩)
      else some p

/-- The request as the client sends it. -/
def receive (s : PropertyState) : PropertyState × Option Refusal :=
  s.receiveChangeProperty w.order w.mode.protocolValue w.body

theorem itemData_parts : itemData w.parts = Layout.bytes w.order w.values := by
  rw [itemData, parts, List.flatMap_map, Layout.bytes]

theorem length_toNat : (UInt32.ofNat w.values.length).toNat = w.values.length :=
  UInt32.toNat_ofNat_of_lt' w.countFits

/-- The bytes of the values in the body. -/
theorem eq_itemData {values : List UInt8} (h : Matches values (Layout.encode w.order w.values)) :
    values = itemData w.parts := by
  rw [w.itemData_parts]
  refine h.unique (Layout.matches_bytes w.order w.values) fun b hb => ?_
  obtain ⟨i, hi, hb⟩ := List.mem_flatMap.mp hb
  have hvalued := PropertyFormat.valued_of_admits (w.admits i hi)
  revert hb
  cases w.order with
  | littleEndian => exact hvalued b
  | bigEndian => exact fun hb => hvalued b (List.mem_reverse.mp hb)

theorem changePropertyRequest_eq : ∃ body,
    swapRequestBody 18 w.mode.protocolValue w.order w.body = body ∧
      changePropertyRequest w.mode.protocolValue body =
        some ⟨w.mode.protocolValue, window, property, w.type, w.format.protocolValue,
          itemData w.parts, UInt32.ofNat w.values.length⟩ := by
  obtain ⟨head, back, hbody, hhead, hback⟩ := swapRequestBody_head w.mode.protocolValue
    (by decide : (18 : UInt8) < 128) rfl
    [.word, .word, .word, .byte, .pad 3, .word] rfl rfl
    (by simp [Field.Admits]) w.spells
  refine ⟨_, hbody, ?_⟩
  obtain ⟨values, padding, rfl, hvalues, -⟩ := hback.split
  obtain rfl := w.eq_itemData hvalues
  have hdata : (itemData w.parts).length = w.values.length * w.format.bytes := by
    rw [length_itemData w.parts_admits, parts, List.length_map]
  have hlen : head.length = 20 := hhead.length_eq
  generalize hrest : itemData w.parts ++ padding = rest
  have hwindow : u32At (head ++ rest) 0 = some window := u32At_head [] hhead rfl _
  have hproperty : u32At (head ++ rest) 4 = some property := u32At_head [_] hhead rfl _
  have htype : u32At (head ++ rest) 8 = some w.type := u32At_head [_, _] hhead rfl _
  have hformat : (head ++ rest)[12]? = some w.format.protocolValue :=
    byte_head [_, _, _] hhead rfl _
  have hcount : u32At (head ++ rest) 16 = some (UInt32.ofNat w.values.length) :=
    u32At_head [_, _, _, _, _] hhead rfl _
  have hroom : 20 + w.values.length * w.format.bytes ≤ (head ++ rest).length := by
    rw [← hrest, List.length_append, List.length_append]
    omega
  simp only [changePropertyRequest, hwindow, hproperty, htype, hformat, hcount,
    Option.bind_eq_bind, Option.bind_some, PropertyFormat.fromProtocol_protocolValue,
    w.length_toNat, if_pos hroom, Option.pure_def]
  rw [List.drop_left' hlen, ← hrest, List.take_left' hdata]

/-- The value after a change, or the old one if the change is refused. -/
def keep (old : Option PropertyValue) : Except ChangePropertyError PropertyValue →
    Option PropertyValue
  | .ok value => some value
  | .error _ => old

theorem keep_store (old : Option StoredProperty) {parts : List (ClientByteOrder × Item)}
    (hadmits : ∀ part ∈ parts, w.format.field.Admits part.2) :
    (w.store old parts hadmits).map StoredProperty.value =
      keep (old.map StoredProperty.value)
        (if (itemData parts).length > MAX_PROPERTY_BYTES then .error .BadAlloc
          else .ok ⟨w.type, w.format, itemData parts⟩) := by
  rw [store]
  split
  case isTrue hfits => rw [if_neg (Nat.not_lt.mpr hfits)]; rfl
  case isFalse hfits => rw [if_pos (Nat.lt_of_not_le hfits)]; rfl

theorem applied_value (old : Option StoredProperty) :
    (w.applied old).map StoredProperty.value =
      keep (old.map StoredProperty.value)
        (applyChange (old.map StoredProperty.value) w.mode w.type w.format
          (itemData w.parts)) := by
  cases old with
  | none =>
    rw [applied, keep_store]
    cases w.mode <;> rfl
  | some p =>
    rw [applied]
    cases w.mode with
    | Replace => exact w.keep_store _ _
    | Prepend =>
      by_cases hsame : p.type = w.type ∧ p.format = w.format
      · simp only [dif_pos hsame, keep_store, itemData_append]
        simp [applyChange, StoredProperty.value, hsame, StoredProperty.data]
      · simp only [dif_neg hsame]
        simp [applyChange, StoredProperty.value, Classical.not_and_iff_not_or_not.mp hsame, keep]
    | Append =>
      by_cases hsame : p.type = w.type ∧ p.format = w.format
      · simp only [dif_pos hsame, keep_store, itemData_append]
        simp [applyChange, StoredProperty.value, hsame, StoredProperty.data]
      · simp only [dif_neg hsame]
        simp [applyChange, StoredProperty.value, Classical.not_and_iff_not_or_not.mp hsame, keep]

end PropertyWrite

/-! ## The store -/

namespace PropertyState

/-- Only the properties differ. -/
structure SameWindows (s s' : PropertyState) : Prop where
  resources : s'.resources = s.resources
  atomNames : s'.atomNames = s.atomNames
  byteOrders : s'.byteOrders = s.byteOrders

variable {s s' s'' : PropertyState} {window : ResourceId} {atom : AtomId}

theorem SameWindows.refl : SameWindows s s := ⟨rfl, rfl, rfl⟩

theorem SameWindows.trans (h : SameWindows s s') (h' : SameWindows s' s'') : SameWindows s s'' :=
  ⟨h'.resources.trans h.resources, h'.atomNames.trans h.atomNames,
    h'.byteOrders.trans h.byteOrders⟩

theorem SameWindows.atomExists (h : SameWindows s s') (a : AtomId) :
    s'.atomExists a = s.atomExists a := by
  rw [PropertyState.atomExists, PropertyState.atomExists, h.atomNames]

theorem sameWindows_setWindowProperty (value : PropertyValue) :
    SameWindows s (s.setWindowProperty window atom value) := by
  rw [setWindowProperty]
  split
  · exact ⟨rfl, rfl, rfl⟩
  · exact .refl

theorem windowProperty_setWindowProperty (hwindow : s.resources.windows.contains window = true)
    (value : PropertyValue) :
    (s.setWindowProperty window atom value).windowProperty window atom = some value := by
  simp [setWindowProperty, windowProperty, windowProperties, hwindow]

end PropertyState

namespace PropertyWrite

variable {window : ResourceId} {property : AtomId} (w : PropertyWrite window property)
  {s : PropertyState} {old : Option StoredProperty}

/-- A ChangeProperty of known atoms on a window does to the property what was
asked for, and changes nothing else. -/
theorem receive_spec (hwindow : s.resources.windows.contains window = true)
    (hproperty : s.atomExists property = true) (htype : s.atomExists w.type = true)
    (hold : s.windowProperty window property = old.map StoredProperty.value) :
    s.SameWindows (w.receive s).1 ∧
      (w.receive s).1.windowProperty window property =
        (w.applied old).map StoredProperty.value := by
  obtain ⟨body, hbody, hparse⟩ := w.changePropertyRequest_eq
  have hlen : (UInt32.ofNat w.values.length).toNat * w.format.bytes =
      (itemData w.parts).length := by
    rw [w.length_toNat, length_itemData w.parts_admits, parts, List.length_map]
  rw [receive, PropertyState.receiveChangeProperty, hbody, PropertyState.handleChangeProperty,
    hparse]
  simp only [ChangeMode.fromProtocol_protocolValue, PropertyFormat.fromProtocol_protocolValue,
    hlen, hwindow, hproperty, htype, hold, ne_eq, not_true_eq_false, if_false, Bool.not_true,
    Bool.false_eq_true]
  rw [w.applied_value old]
  cases applyChange (old.map StoredProperty.value) w.mode w.type w.format (itemData w.parts) with
  | ok value =>
    exact ⟨PropertyState.sameWindows_setWindowProperty value,
      PropertyState.windowProperty_setWindowProperty hwindow value⟩
  | error e => cases e <;> exact ⟨.refl, hold⟩

end PropertyWrite

namespace PropertyState

variable {s : PropertyState} {window : ResourceId} {property : AtomId}

def runWrites (s : PropertyState) (writes : List (PropertyWrite window property)) :
    PropertyState :=
  writes.foldl (fun s w => (w.receive s).1) s

/-- What a property holds after writes by any clients. -/
def written (start : Option StoredProperty) (writes : List (PropertyWrite window property)) :
    Option StoredProperty :=
  writes.foldl (fun old w => w.applied old) start

theorem runWrites_spec {writes : List (PropertyWrite window property)}
    {start : Option StoredProperty} (hwindow : s.resources.windows.contains window = true)
    (hproperty : s.atomExists property = true) (htypes : ∀ w ∈ writes, s.atomExists w.type = true)
    (hstart : s.windowProperty window property = start.map StoredProperty.value) :
    s.SameWindows (s.runWrites writes) ∧
      (s.runWrites writes).windowProperty window property =
        (written start writes).map StoredProperty.value := by
  induction writes generalizing s start with
  | nil => exact ⟨.refl, hstart⟩
  | cons w writes ih =>
    obtain ⟨htype, htypes⟩ := List.forall_mem_cons.mp htypes
    obtain ⟨hsame, hvalue⟩ := w.receive_spec hwindow hproperty htype hstart
    obtain ⟨hsame', hvalue'⟩ := ih (by rwa [hsame.resources]) (by rwa [hsame.atomExists])
      (fun w' hw' => (hsame.atomExists _).trans (htypes w' hw')) hvalue
    exact ⟨hsame.trans hsame', hvalue'⟩

end PropertyState

/-! ## Reading -/

/-- A GetProperty, from its start, of a client with the given byte order. -/
structure PropertyRead (window : ResourceId) (property : AtomId) where
  client : ClientId
  order : ClientByteOrder
  sequence : UInt16
  delete : UInt8
  type : AtomId
  longLength : UInt32
  body : List UInt8
  spells : Matches body
    (Layout.encode order [.word window, .word property, .word type, .word 0, .word longLength])

namespace StoredProperty

variable (p : StoredProperty)

/-- The padding behind the values in a reply. -/
def replyPadding : Nat := (4 - p.data.length % 4) % 4

/-- The reply that tells a client with the given byte order the whole of the
values. -/
def replyWire (order : ClientByteOrder) (sequence : UInt16) : List (Option UInt8) :=
  Layout.encode order
      [.byte 1, .byte p.format.protocolValue, .half sequence,
        .word (UInt32.ofNat ((p.data.length + p.replyPadding) / 4)), .word p.type, .word 0,
        .word (UInt32.ofNat p.parts.length), .pad 12] ++
    (Layout.encode order (p.parts.map Prod.snd) ++ List.replicate p.replyPadding none)

theorem length_wire (order : ClientByteOrder) :
    p.data.length = (Layout.encode order (p.parts.map Prod.snd)).length := by
  rw [data, itemData, Layout.encode, List.length_flatMap, List.length_flatMap, List.map_map]
  congr 1
  apply List.map_congr_left
  intro part _
  rw [Function.comp_apply, Item.length_bytes, Item.length_encode]

/-- The reply with the stored bytes says what was written exactly where each
value was written in the order of the reader or does not depend on it. -/
theorem writeGetPropertyReply_iff (order : ClientByteOrder) (sequence : UInt16) :
    ∃ reply, writeGetPropertyReply order sequence
        ⟨p.format.protocolValue, p.type, 0, UInt32.ofNat p.parts.length, p.data⟩ = some reply ∧
      (Matches reply (p.replyWire order sequence) ↔
        ∀ part ∈ p.parts, part.1 = order ∨ part.2.Symmetric) := by
  have hmax : p.data.length ≤ 64 * 1024 * 1024 := p.fits
  have hpadded : (padVec4 p.data).length = p.data.length + p.replyPadding := by
    rw [padVec4, List.length_append, pad4, List.length_replicate, replyPadding]
  have hpad : p.replyPadding ≤ 3 := by
    rw [replyPadding]
    omega
  rw [writeGetPropertyReply, if_pos (by rw [hpadded]; omega)]
  refine ⟨_, rfl, ?_⟩
  have hhead : fixedReply order sequence p.format.protocolValue
        (UInt32.ofNat ((p.data.length + p.replyPadding) / 4)) ++ writeU32 order p.type ++
      writeU32 order 0 ++ writeU32 order (UInt32.ofNat p.parts.length) ++ List.replicate 12 0 =
      Layout.bytes order
        [.byte 1, .byte p.format.protocolValue, .half sequence,
          .word (UInt32.ofNat ((p.data.length + p.replyPadding) / 4)), .word p.type, .word 0,
          .word (UInt32.ofNat p.parts.length), .pad 12] := by
    cases order <;> rfl
  have hpadding : (pad4 p.data.length).length = p.replyPadding := List.length_replicate
  rw [hpadded, hhead, replyWire, padVec4,
    Layout.matches_append_iff (Layout.matches_bytes order _).length_eq,
    and_iff_right (Layout.matches_bytes order _), ← p.matches_data_iff order]
  exact Layout.matches_append_replicate_iff (p.length_wire order) hpadding

/-- A GetProperty that asks for enough gets all of the stored bytes. -/
theorem sliceForGet_whole {requestedType : AtomId} (htype : requestedType = 0 ∨
      requestedType = p.type) {longLength : UInt32} (hwhole : p.data.length ≤ 4 * longLength.toNat) :
    sliceForGet (some p.value) requestedType 0 longLength =
      .ok ⟨p.type, p.format.protocolValue, 0, p.data⟩ := by
  have hmatch : ¬ (requestedType ≠ 0 ∧ requestedType ≠ p.type) := by tauto
  have hall : min p.data.length (longLength.toNat * 4) = p.data.length := by omega
  have hunits : p.data.length % p.format.bytes = 0 := by
    rw [p.length_data]
    exact Nat.mul_mod_left ..
  simp only [sliceForGet, value, if_neg hmatch, UInt32.toNat_zero, Nat.zero_mul, Nat.not_lt_zero,
    gt_iff_lt, if_false, Nat.sub_zero, hall, hunits, Nat.sub_self, List.drop_zero,
    List.take_length]
  rfl

theorem valueLen_eq : UInt32.ofNat p.data.length / (p.format.protocolValue / 8).toUInt32 =
    UInt32.ofNat p.parts.length := by
  have hmax : p.data.length ≤ 64 * 1024 * 1024 := p.fits
  have hlen := p.length_data
  have hpos := p.format.bytes_pos
  have hcount : p.parts.length ≤ p.data.length := by
    rw [hlen]
    exact Nat.le_mul_of_pos_right _ hpos
  have hunit : (p.format.protocolValue / 8).toUInt32.toNat = p.format.bytes := by
    cases p.format <;> rfl
  apply UInt32.toNat_inj.mp
  rw [UInt32.toNat_div, hunit, UInt32.toNat_ofNat_of_lt' (by simp [UInt32.size]; omega),
    UInt32.toNat_ofNat_of_lt' (by simp [UInt32.size]; omega), hlen, Nat.mul_div_cancel _ hpos]

end StoredProperty

namespace PropertyRead

variable {window : ResourceId} {property : AtomId} (r : PropertyRead window property)
  {s : PropertyState}

def send (client : ClientId) (order : ClientByteOrder) (sequence : UInt16) (delete : UInt8)
    (type : AtomId) (longLength : UInt32) : PropertyRead window property where
  client := client
  order := order
  sequence := sequence
  delete := delete
  type := type
  longLength := longLength
  body :=
    Layout.bytes order [.word window, .word property, .word type, .word 0, .word longLength]
  spells := Layout.matches_bytes order _

/-- The request as the client sends it. -/
def receive (s : PropertyState) : PropertyState.GetPropertyOutcome :=
  s.receiveGetProperty r.client r.order r.sequence r.delete r.body

theorem getPropertyRequest_eq :
    getPropertyRequest r.delete (swapRequestBody 20 r.delete r.order r.body) =
      some ⟨r.delete ≠ 0, window, property, r.type, 0, r.longLength⟩ := by
  have hspells := r.spells
  rw [← List.append_nil (Layout.encode _ _)] at hspells
  obtain ⟨head, back, hbody, hhead, -⟩ := swapRequestBody_head r.delete
    (by decide : (20 : UInt8) < 128) rfl [.word, .word, .word, .word, .word] rfl rfl
    (by simp [Field.Admits]) hspells
  have hwindow : u32At (head ++ back) 0 = some window := u32At_head [] hhead rfl _
  have hproperty : u32At (head ++ back) 4 = some property := u32At_head [_] hhead rfl _
  have htype : u32At (head ++ back) 8 = some r.type := u32At_head [_, _] hhead rfl _
  have hoffset : u32At (head ++ back) 12 = some 0 := u32At_head [_, _, _] hhead rfl _
  have hlength : u32At (head ++ back) 16 = some r.longLength :=
    u32At_head [_, _, _, _] hhead rfl _
  simp only [hbody, getPropertyRequest, hwindow, hproperty, htype, hoffset, hlength,
    Option.bind_eq_bind, Option.bind_some, Option.pure_def]

theorem receive_iff {p : StoredProperty}
    (hwindow : s.resources.windows.contains window = true)
    (hproperty : s.atomExists property = true)
    (hvalue : s.windowProperty window property = some p.value)
    (horder : s.byteOrders[r.client]? = some r.order)
    (htype : r.type = 0 ∨ r.type = p.type ∧ s.atomExists p.type)
    (hwhole : p.data.length ≤ 4 * r.longLength.toNat) :
    ∃ reply, (r.receive s).reply = some reply ∧
      (Matches reply (p.replyWire r.order r.sequence) ↔
        ∀ part ∈ p.parts, part.1 = r.order ∨ part.2.Symmetric) := by
  have hpasses : s.getPropertyRefusal
      ⟨r.delete ≠ 0, window, property, r.type, 0, r.longLength⟩ = none := by
    rcases htype with htype | ⟨htype, hexists⟩
    · simp [PropertyState.getPropertyRefusal, hwindow, hproperty, htype]
    · simp [PropertyState.getPropertyRefusal, hwindow, hproperty, htype, hexists]
  have hclient : s.byteOrders.contains r.client = true := by
    rw [Std.ExtTreeMap.contains_eq_isSome_getElem?, horder]
    rfl
  have hformat : p.format.protocolValue ≠ 0 := by cases p.format <;> decide
  obtain ⟨reply, hreply, hiff⟩ := p.writeGetPropertyReply_iff r.order r.sequence
  refine ⟨reply, ?_, hiff⟩
  simp only [receive, PropertyState.receiveGetProperty, PropertyState.handleGetProperty,
    r.getPropertyRequest_eq, hpasses, hvalue, p.sliceForGet_whole (htype.imp_right And.left) hwhole,
    horder, Option.getD_some, if_neg hformat, p.valueLen_eq]
  rw [hreply]
  simp only [hclient, if_true]

end PropertyRead

namespace PropertyState

variable {window : ResourceId} {property : AtomId}

/-- After any writes by any clients, a client that reads the whole property is
told exactly what was written if and only if each value was written in its own
byte order or reads the same in both. -/
theorem getProperty_exact_iff (s : PropertyState) (start : Option StoredProperty)
    (writes : List (PropertyWrite window property)) (read : PropertyRead window property)
    (stored : StoredProperty) (hwindow : s.resources.windows.contains window = true)
    (hproperty : s.atomExists property = true) (htypes : ∀ w ∈ writes, s.atomExists w.type = true)
    (hstart : s.windowProperty window property = start.map StoredProperty.value)
    (hwritten : written start writes = some stored)
    (horder : s.byteOrders[read.client]? = some read.order)
    (htype : read.type = 0 ∨ read.type = stored.type ∧ s.atomExists stored.type)
    (hwhole : stored.data.length ≤ 4 * read.longLength.toNat) :
    ∃ reply, (read.receive (s.runWrites writes)).reply = some reply ∧
      (Matches reply (stored.replyWire read.order read.sequence) ↔
        ∀ part ∈ stored.parts, part.1 = read.order ∨ part.2.Symmetric) := by
  obtain ⟨hsame, hvalue⟩ := runWrites_spec hwindow hproperty htypes hstart
  rw [hwritten] at hvalue
  refine read.receive_iff ?_ ?_ hvalue ?_ ?_ hwhole
  · rwa [hsame.resources]
  · rwa [hsame.atomExists]
  · rwa [hsame.byteOrders]
  · rwa [hsame.atomExists]

/-- Client 1 is big-endian, client 2 little-endian. -/
def mixedOrders : PropertyState where
  resources := ServerState.new.resources
  atomNames := ∅
  byteOrders := ((∅ : Std.ExtTreeMap ClientId ClientByteOrder).insert 1 .bigEndian).insert 2
    .littleEndian
  properties := ∅

/-- A big-endian client replaces the values of a property of the root. -/
def replaced (v : UInt16) : PropertyWrite ROOT_WINDOW 23 :=
  .send .bigEndian .Replace 6 .F16 [.half v] (by simp [PropertyFormat.field, Field.Admits])
    (Nat.one_lt_two_pow (by decide))

/-- A little-endian client appends one value. -/
def appended (v : UInt16) : PropertyWrite ROOT_WINDOW 23 :=
  .send .littleEndian .Append 6 .F16 [.half v] (by simp [PropertyFormat.field, Field.Admits])
    (Nat.one_lt_two_pow (by decide))

/-- The little-endian client reads the property. -/
def readAll : PropertyRead ROOT_WINDOW 23 := .send 2 .littleEndian 7 0 0 100

/-- What is stored after the two writes. -/
def bothStored (v w : UInt16) : StoredProperty where
  type := 6
  format := .F16
  parts := [(.bigEndian, .half v), (.littleEndian, .half w)]
  admits := by simp [PropertyFormat.field, Field.Admits]
  fits := by simp [itemData, -bytes_half, Item.length_bytes, Item.littleBytes, MAX_PROPERTY_BYTES]

theorem getProperty_exact_symmetric :
    ∃ reply, (readAll.receive (mixedOrders.runWrites [replaced 0x0101, appended 2])).reply =
        some reply ∧
      (Matches reply ((bothStored 0x0101 2).replyWire .littleEndian 7) ↔
        ∀ part ∈ (bothStored 0x0101 2).parts, part.1 = .littleEndian ∨ part.2.Symmetric) :=
  getProperty_exact_iff mixedOrders none [replaced 0x0101, appended 2] readAll _ (by decide)
    (by decide) (by decide) rfl rfl (by decide) (.inl rfl) (by decide)

/-- The reader is told 256 for a 1. -/
theorem getProperty_swapped :
    written none [replaced 1, appended 2] = some (bothStored 1 2) ∧
      ∃ reply, (readAll.receive (mixedOrders.runWrites [replaced 1, appended 2])).reply =
          some reply ∧
        ¬ Matches reply ((bothStored 1 2).replyWire .littleEndian 7) ∧
        Matches (reply.drop 32) (Layout.encode .littleEndian [.half 256, .half 2]) :=
  ⟨rfl, _, rfl, by decide, by decide⟩

end PropertyState

end X12

import Mathlib.Data.UInt
import X12.Core.SendEvent
import X12.Lib.Pieces
import X12.Protocol.EventLayout
import X12.Verify.RequestSwap

/-! # Events in the byte order of their receivers

A table that lists the halves and the words of a layout turns one byte order
into the other, so the two swaps of the fanout carry the fields of a record from
the sender to the receiver. The data of a ClientMessage is in no table. -/

namespace X12

open Layout (Field Item Matches swapFields)

/-! ## Tables -/

/-- Walking the table of some fields swaps just these fields. -/
theorem applyEntries_fieldEntries (fields : List Field) (front bytes back : List UInt8)
    (hlen : bytes.length = (fields.map Field.size).sum) :
    applyEntries (fieldEntries front.length fields) (front ++ (bytes ++ back)) =
      front ++ (swapFields fields bytes ++ back) := by
  induction fields generalizing front bytes with
  | nil => rfl
  | cons f fields ih =>
    rw [List.map_cons, List.sum_cons] at hlen
    obtain ⟨seg, bytes, rfl, hseg⟩ : ∃ seg rest, bytes = seg ++ rest ∧ seg.length = f.size :=
      ⟨bytes.take f.size, bytes.drop f.size, (List.take_append_drop ..).symm,
        List.length_take_of_le (by omega)⟩
    have hrest : bytes.length = (fields.map Field.size).sum := by
      rw [List.length_append, hseg] at hlen
      omega
    -- what is left to do once the bytes of the first field are in place
    have hnext (seg' : List UInt8) (hseg' : seg'.length = f.size) :
        applyEntries (fieldEntries (front.length + f.size) fields)
            (front ++ (seg' ++ (bytes ++ back))) =
          front ++ (seg' ++ (swapFields fields bytes ++ back)) := by
      have h := ih (front ++ seg') bytes hrest
      rw [List.length_append, hseg'] at h
      simpa only [List.append_assoc] using h
    rw [swapFields, List.take_left' hseg, List.drop_left' hseg, List.append_assoc,
      List.append_assoc]
    cases f with
    | half =>
      have hkind : seg.length = FieldKind.U16.size := hseg
      rw [fieldEntries, applyEntries_segment hkind, if_pos (.inl rfl)]
      exact hnext seg.reverse (by rw [List.length_reverse, hseg])
    | word =>
      have hkind : seg.length = FieldKind.U32.size := hseg
      rw [fieldEntries, applyEntries_segment hkind, if_pos (.inr rfl)]
      exact hnext seg.reverse (by rw [List.length_reverse, hseg])
    | byte | literal b | pad n =>
      rw [if_neg (by simp [Field.Typed])]
      exact hnext seg hseg

/-- Swapping by the table of a record goes from the given byte order to
little-endian and back. -/
theorem swapInPlace_fieldEntries {fields : List Field} {items : List Item}
    (hadmits : List.Forall₂ Field.Admits fields items) {sent read order : ClientByteOrder}
    (horders : sent = order ∧ read = .littleEndian ∨ sent = .littleEndian ∧ read = order)
    {bytes : List UInt8} (h : Matches bytes (Layout.encode sent items)) (back : List UInt8) :
    ∃ bytes', Matches bytes' (Layout.encode read items) ∧
      swapInPlace (fieldEntries 0 fields) order (bytes ++ back) = bytes' ++ back := by
  cases order with
  | littleEndian =>
    obtain rfl : sent = read := by rcases horders with ⟨rfl, rfl⟩ | ⟨rfl, rfl⟩ <;> rfl
    exact ⟨bytes, h, rfl⟩
  | bigEndian =>
    have horder : sent ≠ read := by rcases horders with ⟨rfl, rfl⟩ | ⟨rfl, rfl⟩ <;> decide
    have hlen : bytes.length = (fields.map Field.size).sum := by
      rw [h.length_eq, Layout.length_encode hadmits]
    exact ⟨swapFields fields bytes, Layout.matches_swapFields horder hadmits h,
      applyEntries_fieldEntries fields [] bytes back hlen⟩

/-- Each table lists the fields of the layout up to the data of a ClientMessage. -/
theorem coreEventSwapTable_eq {type detail : UInt8} {layout : List Field × List Field}
    (h : eventLayout type detail = some layout) :
    coreEventSwapTable type = fieldEntries 0 (eventHeadLayout ++ layout.1) := by
  unfold eventLayout at h
  split at h
  case h_31 => -- ClientMessage
    have hfields : layout.1 = [Proto.XID, Proto.ATOM] := by
      split_ifs at h <;> exact Option.some.inj h ▸ rfl
    rw [hfields]
    rfl
  case h_33 => cases h
  all_goals
    rw [← Option.some.inj h]
    rfl

/-! ## One receiver -/

namespace EventRecord

variable {r : EventRecord}

/-- All of the record that the tables know. -/
def front (r : EventRecord) : List Item :=
  .byte r.code :: .byte r.detail :: .half r.sequence :: r.fields

theorem items_eq (r : EventRecord) : r.items = r.front ++ r.data := rfl

theorem admits_front {layout : List Field × List Field}
    (h : List.Forall₂ Field.Admits layout.1 r.fields) :
    List.Forall₂ Field.Admits (eventHeadLayout ++ layout.1) r.front :=
  .cons trivial (.cons trivial (.cons trivial h))

theorem encode_eq (order : ClientByteOrder) (r : EventRecord) :
    r.encode order = Layout.encode order r.front ++ Layout.encode order r.data := by
  rw [encode, items_eq, Layout.encode_append]

end EventRecord

/-- Overwriting the third and the fourth byte of a record replaces its sequence number. -/
theorem set_sequence {order : ClientByteOrder} {code detail : UInt8} {old : UInt16}
    {fields : List Item} {bytes : List UInt8}
    (h : Matches bytes (Layout.encode order (.byte code :: .byte detail :: .half old :: fields)))
    (sequence : UInt16) (back : List UInt8) :
    ∃ bytes', ((bytes ++ back).set 2 ((writeU16 order sequence).getD 0 0)).set 3
        ((writeU16 order sequence).getD 1 0) = bytes' ++ back ∧
      Matches bytes'
        (Layout.encode order (.byte code :: .byte detail :: .half sequence :: fields)) := by
  have hcut (v : UInt16) := Layout.encode_append order [.byte code, .byte detail, .half v] fields
  simp only [List.cons_append, List.nil_append] at hcut
  rw [hcut] at h ⊢
  obtain ⟨head, rest, rfl, hhead, hrest⟩ := h.split
  have hnew : Matches ([code, detail] ++ writeU16 order sequence)
      (Layout.encode order [.byte code, .byte detail, .half sequence]) := by
    cases order <;> simp [Layout.encode, Item.encode, Item.littleBytes, writeU16, u16LeBytes]
  refine ⟨[code, detail] ++ writeU16 order sequence ++ rest, ?_, hnew.append hrest⟩
  cases order <;> simp [Layout.encode, Item.encode, Item.littleBytes] at hhead <;>
    obtain rfl := hhead <;> rfl

/-- The code of a record is the first byte of its event. -/
theorem code_eq {r : EventRecord} {order : ClientByteOrder} {event : Vector UInt8 32}
    (h : Matches event.toList (r.encode order)) : event.toList[0]? = some r.code := by
  have hbyte : r.encode order = some r.code :: Layout.encode order
      (.byte r.detail :: .half r.sequence :: (r.fields ++ r.data)) := by
    cases order <;> rfl
  rw [hbyte, Layout.matches_cons_some_iff] at h
  obtain ⟨rest, hevent, -⟩ := h
  rw [hevent]
  rfl

/-- What a receiver gets: all but the data in its own byte order and with its own
sequence number, then the data as the sender wrote it. -/
theorem rawEventFor_eq {r : EventRecord} (hr : r.WellFormed) {sender : ClientByteOrder}
    {event : Vector UInt8 32} (hevent : Matches event.toList (r.encode sender))
    (client : EventClient) :
    ∃ front, front.length ≤ 32 ∧
      rawEventFor client event sender = front ++ event.toList.drop front.length ∧
      Matches front (Layout.encode client.byteOrder
        { r with sequence := client.lastSequence }.front) ∧
      Matches (event.toList.drop front.length) (Layout.encode sender r.data) := by
  obtain ⟨layout, hlayout, hfields, -⟩ := hr
  have hadmits (r' : EventRecord) (h : r'.fields = r.fields) :=
    EventRecord.admits_front (r := r') (h ▸ hfields)
  rw [r.encode_eq] at hevent
  have hcode : event[0] = r.code := by simpa using code_eq (r.encode_eq sender ▸ hevent)
  have hentries : coreEventSwapTable (event[0] &&& 0x7f) =
      fieldEntries 0 (eventHeadLayout ++ layout.1) := by
    rw [hcode]
    exact coreEventSwapTable_eq hlayout
  obtain ⟨old, data, hsplit, hold, hdata⟩ := hevent.split
  obtain ⟨little, hlittle, hfirst⟩ :=
    swapInPlace_fieldEntries (hadmits r rfl) (.inl ⟨rfl, rfl⟩) hold data
  obtain ⟨turned, hturned, hsecond⟩ :=
    swapInPlace_fieldEntries (hadmits r rfl) (.inr ⟨rfl, Eq.refl client.byteOrder⟩) hlittle data
  obtain ⟨front, hset, hfront⟩ := set_sequence hturned client.lastSequence data
  have hlen : front.length = old.length := by
    rw [hfront.length_eq, hold.length_eq, Layout.length_encode (hadmits r rfl)]
    exact Layout.length_encode (hadmits { r with sequence := client.lastSequence } rfl)
  have hdrop : event.toList.drop front.length = data := by
    rw [hsplit, hlen, List.drop_left]
  have hle : front.length ≤ 32 := by
    have hsize := event.length_toList
    rw [hsplit, List.length_append] at hsize
    omega
  refine ⟨front, hle, ?_, hfront, hdrop ▸ hdata⟩
  simp only [rawEventFor, hentries, hdrop]
  simp only [hsplit, hfirst, hsecond, hset]

/-- The receiver reads the record of the sender, unless there is data of more
than one byte that the two read differently. -/
theorem rawEventFor_matches_iff {r : EventRecord} (hr : r.WellFormed) {sender : ClientByteOrder}
    {event : Vector UInt8 32} (hevent : Matches event.toList (r.encode sender))
    (client : EventClient) :
    Matches (rawEventFor client event sender)
        ({ r with sequence := client.lastSequence }.encode client.byteOrder) ↔
      sender = client.byteOrder ∨ ∀ i ∈ r.data, i.Symmetric := by
  obtain ⟨front, -, heq, hfront, hdata⟩ := rawEventFor_eq hr hevent client
  rw [heq, EventRecord.encode_eq, Layout.matches_append_iff hfront.length_eq,
    and_iff_right hfront]
  exact Layout.matches_items_iff hdata

/-! ## The request -/

theorem and_sent (code : UInt8) : (code ||| 0x80) &&& 0x7f = code &&& 0x7f := by
  apply UInt8.toBitVec_inj.mp
  have hbits : (0x80 : BitVec 8) &&& 0x7f = 0#8 := by decide
  have hsplit : (code.toBitVec ||| 0x80) &&& 0x7f =
      (code.toBitVec &&& 0x7f) ||| (0x80 &&& 0x7f) := BitVec.and_or_distrib_right
  rw [hbits, BitVec.or_zero] at hsplit
  exact hsplit

/-- The record with the bit that says it was sent. -/
def EventRecord.sent (r : EventRecord) : EventRecord :=
  { r with code := r.code ||| 0x80 }

theorem EventRecord.WellFormed.sent {r : EventRecord} (h : r.WellFormed) : r.sent.WellFormed := by
  obtain ⟨layout, hlayout, hadmits⟩ := h
  refine ⟨layout, ?_, hadmits⟩
  rw [EventRecord.type, EventRecord.sent, and_sent]
  exact hlayout

theorem matches_sent {r : EventRecord} {order : ClientByteOrder} {event : Vector UInt8 32}
    (h : Matches event.toList (r.encode order)) :
    Matches (event.toList.set 0 (r.code ||| 0x80)) (r.sent.encode order) := by
  have hbyte (r : EventRecord) : r.encode order = some r.code :: Layout.encode order
      (.byte r.detail :: .half r.sequence :: (r.fields ++ r.data)) := by
    cases order <;> rfl
  rw [hbyte, Layout.matches_cons_some_iff] at h
  obtain ⟨rest, hevent, hrest⟩ := h
  rw [hbyte, Layout.matches_cons_some_iff]
  refine ⟨rest, ?_, hrest⟩
  rw [hevent]
  rfl

namespace EventState

variable {s : EventState} {event : Vector UInt8 32} {order : ClientByteOrder}

/-- The clients that have been served already are left alone. -/
theorem foldl_fanoutStep_get (clientIds seen : List ClientId) (target : ClientId) :
    ((clientIds.foldl (fanoutStep event order) (s, seen)).1).clients[target]? =
      s.clients[target]?.map fun c =>
        if target ∈ clientIds ∧ target ∉ seen then
          { c with queued := c.queued ++ rawEventFor c event order }
        else c := by
  induction clientIds generalizing s seen with
  | nil => simp
  | cons cid clientIds ih =>
    rw [List.foldl_cons, fanoutStep]
    split
    case isTrue hseen =>
      rw [ih]
      have hmem : target ∈ cid :: clientIds ∧ target ∉ seen ↔
          target ∈ clientIds ∧ target ∉ seen := by
        rw [List.mem_cons]
        refine ⟨fun ⟨h, hnew⟩ => ⟨h.resolve_left ?_, hnew⟩, fun ⟨h, hnew⟩ => ⟨.inr h, hnew⟩⟩
        rintro rfl
        exact hnew hseen
      simp only [hmem]
    case isFalse hseen =>
      rw [ih, ResourceMap.get_modify]
      by_cases htarget : target = cid
      · subst htarget
        rw [if_pos rfl, Option.map_map]
        congr 1
        funext c
        simp [hseen]
      · rw [if_neg htarget]
        simp [htarget]

/-- Each receiver gets the event once and nobody else gets it. -/
theorem fanoutRawEventToClients_get (clientIds : List ClientId) (target : ClientId) :
    (s.fanoutRawEventToClients clientIds event order).clients[target]? =
      s.clients[target]?.map fun c =>
        if target ∈ clientIds then { c with queued := c.queued ++ rawEventFor c event order }
        else c := by
  rw [fanoutRawEventToClients, foldl_fanoutStep_get]
  simp

end EventState

/-! ## Encoders -/

/-- The table lists exactly the halves and the words that an encoder writes. -/
def TableAgrees (encode : ClientByteOrder → List UInt8) : Prop :=
  ∃ items : List Item, (∀ order, encode order = Layout.bytes order items) ∧
    ((items.map Item.field).map Field.size).sum = 32 ∧
    ∀ order, coreEventSwapTable ((encode order).headD 0 &&& 0x7f) =
      fieldEntries 0 (items.map Item.field)

theorem TableAgrees.of_items {encode : ClientByteOrder → List UInt8} (code : UInt8)
    (items : List Item)
    (hbytes : ∀ order, encode order = Layout.bytes order (.byte code :: items))
    (hsize : (((Item.byte code :: items).map Item.field).map Field.size).sum = 32)
    (htable : coreEventSwapTable (code &&& 0x7f) =
      fieldEntries 0 ((Item.byte code :: items).map Item.field)) : TableAgrees encode := by
  refine ⟨.byte code :: items, hbytes, hsize, fun order => ?_⟩
  have hhead : (encode order).headD 0 = code := by
    rw [hbytes]
    cases order <;> rfl
  rw [hhead, htable]

theorem tableAgrees_pointer {code : UInt8} (e : PointerEvent)
    (hcode : coreEventSwapTable (code &&& 0x7f) = coreEventSwapTable 4) :
    TableAgrees (encodePointerEvent code · e) :=
  .of_items code [.byte e.detail, .half e.sequence, .word e.time, .word e.root, .word e.event,
    .word e.child, .half e.rootX.toUInt16, .half e.rootY.toUInt16, .half e.eventX.toUInt16,
    .half e.eventY.toUInt16, .half e.state, .byte 1, .byte 0]
    (fun order => by simp [encodePointerEvent, writeI16]) (by simp [Item.field, Field.size]) hcode

theorem tableAgrees_crossing {code : UInt8} (e : CrossingEvent)
    (hcode : coreEventSwapTable (code &&& 0x7f) = coreEventSwapTable 7) :
    TableAgrees (encodeCrossingEvent code · e) :=
  .of_items code [.byte e.detail, .half e.sequence, .word e.time, .word e.root, .word e.event,
    .word e.child, .half e.rootX.toUInt16, .half e.rootY.toUInt16, .half e.eventX.toUInt16,
    .half e.eventY.toUInt16, .half e.state, .byte e.mode, .byte 3]
    (fun order => by simp [encodeCrossingEvent, writeI16]) (by simp [Item.field, Field.size]) hcode

theorem bytes_map_byte (order : ClientByteOrder) (data : List UInt8) :
    Layout.bytes order (data.map Item.byte) = data := by
  induction data with
  | nil => rfl
  | cons b data ih =>
    have hcons : Layout.bytes order (Item.byte b :: data.map Item.byte) =
        b :: Layout.bytes order (data.map Item.byte) := by cases order <;> rfl
    rw [List.map_cons, hcons, ih]

theorem fieldEntries_append_bytes (fields : List Field) (offset count : Nat) :
    fieldEntries offset (fields ++ List.replicate count .byte) = fieldEntries offset fields := by
  induction fields generalizing offset with
  | nil =>
    induction count generalizing offset with
    | zero => rfl
    | succ count ih => exact ih (offset + 1)
  | cons f fields ih =>
    cases f <;> simp only [List.cons_append, fieldEntries, ih]

theorem tableAgrees_clientMessage (e : ClientMessageEvent) :
    TableAgrees (encodeClientMessageEvent · e) := by
  have hdata : (e.data.toList.map Item.byte).map Item.field = List.replicate 20 .byte := by
    rw [List.map_map]
    exact (List.map_const' ..).trans (by simp)
  have hcode : coreEventSwapTable ((33 ||| if e.sendEvent then 0x80 else 0) &&& 0x7f) =
      coreEventSwapTable 33 := by
    cases e.sendEvent <;> rfl
  let head : List Item := [.byte e.format, .half e.sequence, .word e.window, .word e.type]
  refine .of_items (33 ||| if e.sendEvent then 0x80 else 0) (head ++ e.data.toList.map .byte)
    (fun order => ?_) ?_ ?_
  · rw [← List.cons_append, Layout.bytes, List.flatMap_append]
    refine Eq.trans ?_ (congrArg _ (bytes_map_byte order e.data.toList).symm)
    cases order <;> rfl
  · rw [← List.cons_append, List.map_append, hdata]
    rfl
  · rw [← List.cons_append, List.map_append, hdata, fieldEntries_append_bytes]
    exact hcode

section Encoders
variable (sequence : UInt16)

theorem tableAgrees_key (e : KeyEvent) : TableAgrees (encodeKeyEvent · e) := by
  have hcode : coreEventSwapTable ((if e.pressed then 2 else 3) &&& 0x7f) =
      coreEventSwapTable 2 := by
    cases e.pressed <;> rfl
  exact .of_items (if e.pressed then 2 else 3) [.byte e.keycode, .half e.sequence, .word e.time,
    .word e.root, .word e.event, .word 0, .half e.rootX.toUInt16, .half e.rootY.toUInt16,
    .half e.eventX.toUInt16, .half e.eventY.toUInt16, .half e.state, .byte 1, .byte 0]
    (fun order => by simp [encodeKeyEvent, writeI16]) (by simp [Item.field, Field.size]) hcode

theorem tableAgrees_focus (focusIn : Bool) (window : UInt32) (mode detail : UInt8) :
    TableAgrees (encodeFocusEventWithModeDetail sequence · focusIn window mode detail) := by
  have hcode : coreEventSwapTable ((if focusIn then 9 else 10) &&& 0x7f) =
      coreEventSwapTable 9 := by
    cases focusIn <;> rfl
  exact .of_items (if focusIn then 9 else 10) [.byte detail, .half sequence, .word window,
    .byte mode, .pad 23]
    (fun order => by simp [encodeFocusEventWithModeDetail, eventHead])
    (by simp [Item.field, Field.size]) hcode

theorem tableAgrees_expose (window : UInt32) (x y width height count : UInt16) :
    TableAgrees (encodeExposeEvent sequence · window x y width height count) :=
  .of_items 12 [.byte 0, .half sequence, .word window, .half x, .half y, .half width,
    .half height, .half count, .pad 14]
    (fun order => by simp [encodeExposeEvent, eventHead]) (by simp [Item.field, Field.size]) rfl

theorem tableAgrees_graphicsExpose (drawable : UInt32)
    (x y width height minorOpcode count : UInt16) (majorOpcode : UInt8) :
    TableAgrees (encodeGraphicsExposeEvent sequence · drawable x y width height minorOpcode count
      majorOpcode) :=
  .of_items 13 [.byte 0, .half sequence, .word drawable, .half x, .half y, .half width,
    .half height, .half minorOpcode, .half count, .byte majorOpcode, .pad 11]
    (fun order => by simp [encodeGraphicsExposeEvent, eventHead])
    (by simp [Item.field, Field.size]) rfl

theorem tableAgrees_noExposure (drawable : UInt32) (minorOpcode : UInt16) (majorOpcode : UInt8) :
    TableAgrees (encodeNoExposureEvent sequence · drawable minorOpcode majorOpcode) :=
  .of_items 14 [.byte 0, .half sequence, .word drawable, .half minorOpcode,
    .byte majorOpcode, .pad 21]
    (fun order => by simp [encodeNoExposureEvent, eventHead]) (by simp [Item.field, Field.size]) rfl

theorem tableAgrees_visibilityNotify (window : UInt32) (state : UInt8) :
    TableAgrees (encodeVisibilityNotifyEvent sequence · window state) :=
  .of_items 15 [.byte 0, .half sequence, .word window, .byte state, .pad 23]
    (fun order => by simp [encodeVisibilityNotifyEvent, eventHead])
    (by simp [Item.field, Field.size]) rfl

theorem tableAgrees_createNotify (parent window : UInt32) (g : Geometry)
    (overrideRedirect : Bool) :
    TableAgrees (encodeCreateNotifyEvent sequence · parent window g overrideRedirect) :=
  .of_items 16 [.byte 0, .half sequence, .word parent, .word window, .half g.x.toUInt16,
    .half g.y.toUInt16, .half g.width, .half g.height, .half g.borderWidth,
    .byte overrideRedirect.toUInt8, .pad 9]
    (fun order => by simp [encodeCreateNotifyEvent, eventHead, writeI16])
    (by simp [Item.field, Field.size]) rfl

theorem tableAgrees_destroyNotify (eventWindow window : UInt32) :
    TableAgrees (encodeDestroyNotifyEvent sequence · eventWindow window) :=
  .of_items 17 [.byte 0, .half sequence, .word eventWindow, .word window, .pad 20]
    (fun order => by simp [encodeDestroyNotifyEvent, eventHead])
    (by simp [Item.field, Field.size]) rfl

theorem tableAgrees_unmapNotify (eventWindow window : UInt32) (fromConfigure : Bool) :
    TableAgrees (encodeUnmapNotifyEvent sequence · eventWindow window fromConfigure) :=
  .of_items 18 [.byte 0, .half sequence, .word eventWindow, .word window,
    .byte fromConfigure.toUInt8, .pad 19]
    (fun order => by simp [encodeUnmapNotifyEvent, eventHead])
    (by simp [Item.field, Field.size]) rfl

theorem tableAgrees_mapNotify (eventWindow window : UInt32) (overrideRedirect : Bool) :
    TableAgrees (encodeMapNotifyEvent sequence · eventWindow window overrideRedirect) :=
  .of_items 19 [.byte 0, .half sequence, .word eventWindow, .word window,
    .byte overrideRedirect.toUInt8, .pad 19]
    (fun order => by simp [encodeMapNotifyEvent, eventHead]) (by simp [Item.field, Field.size]) rfl

theorem tableAgrees_mapRequest (parent window : UInt32) :
    TableAgrees (encodeMapRequestEvent sequence · parent window) :=
  .of_items 20 [.byte 0, .half sequence, .word parent, .word window, .pad 20]
    (fun order => by simp [encodeMapRequestEvent, eventHead]) (by simp [Item.field, Field.size]) rfl

theorem tableAgrees_reparentNotify (eventWindow window parent : UInt32) (x y : Int16)
    (overrideRedirect : Bool) :
    TableAgrees (encodeReparentNotifyEvent sequence · eventWindow window parent x y
      overrideRedirect) :=
  .of_items 21 [.byte 0, .half sequence, .word eventWindow, .word window, .word parent,
    .half x.toUInt16, .half y.toUInt16, .byte overrideRedirect.toUInt8, .pad 11]
    (fun order => by simp [encodeReparentNotifyEvent, eventHead, writeI16])
    (by simp [Item.field, Field.size]) rfl

theorem tableAgrees_configureNotify (eventWindow window : UInt32) (aboveSibling : Option UInt32)
    (g : Geometry) (overrideRedirect : Bool) :
    TableAgrees (encodeConfigureNotifyEvent sequence · eventWindow window aboveSibling g
      overrideRedirect) :=
  .of_items 22 [.byte 0, .half sequence, .word eventWindow, .word window,
    .word (aboveSibling.getD 0), .half g.x.toUInt16, .half g.y.toUInt16, .half g.width,
    .half g.height, .half g.borderWidth, .byte overrideRedirect.toUInt8, .pad 5]
    (fun order => by simp [encodeConfigureNotifyEvent, eventHead, writeI16])
    (by simp [Item.field, Field.size]) rfl

theorem tableAgrees_configureRequest (parent window : UInt32) (r : ConfigureRequestValues) :
    TableAgrees (encodeConfigureRequestEvent sequence · parent window r) :=
  .of_items 23 [.byte (r.stackMode.getD 0), .half sequence, .word parent, .word window,
    .word (r.sibling.getD 0), .half (r.x.getD 0).toUInt16, .half (r.y.getD 0).toUInt16,
    .half (r.width.getD 0), .half (r.height.getD 0), .half (r.borderWidth.getD 0),
    .half r.valueMask, .pad 4]
    (fun order => by simp [encodeConfigureRequestEvent, eventHead, writeI16])
    (by simp [Item.field, Field.size]) rfl

theorem tableAgrees_circulateNotify (eventWindow window : UInt32) (place : UInt8) :
    TableAgrees (writeCirculateNotifyEvent sequence · eventWindow window place) :=
  .of_items 26 [.byte 0, .half sequence, .word eventWindow, .word window, .pad 4,
    .byte place, .pad 15]
    (fun order => by simp [writeCirculateNotifyEvent, eventHead])
    (by simp [Item.field, Field.size]) rfl

theorem tableAgrees_circulateRequest (parent window : UInt32) (place : UInt8) :
    TableAgrees (writeCirculateRequestEvent sequence · parent window place) :=
  .of_items 27 [.byte 0, .half sequence, .word parent, .word window, .pad 4,
    .byte place, .pad 15]
    (fun order => by simp [writeCirculateRequestEvent, eventHead])
    (by simp [Item.field, Field.size]) rfl

theorem tableAgrees_propertyNotify (window atom timestamp : UInt32) (deleted : Bool) :
    TableAgrees (encodePropertyNotifyEvent sequence · window atom timestamp deleted) :=
  .of_items 28 [.byte 0, .half sequence, .word window, .word atom, .word timestamp,
    .byte deleted.toUInt8, .pad 15]
    (fun order => by simp [encodePropertyNotifyEvent, eventHead])
    (by simp [Item.field, Field.size]) rfl

theorem tableAgrees_selectionClear (time owner selection : UInt32) :
    TableAgrees (encodeSelectionClearEvent sequence · time owner selection) :=
  .of_items 29 [.byte 0, .half sequence, .word time, .word owner, .word selection,
    .pad 16]
    (fun order => by simp [encodeSelectionClearEvent, eventHead])
    (by simp [Item.field, Field.size]) rfl

theorem tableAgrees_selectionRequest (time owner requestor selection target property : UInt32) :
    TableAgrees (encodeSelectionRequestEvent sequence · time owner requestor selection target
      property) :=
  .of_items 30 [.byte 0, .half sequence, .word time, .word owner, .word requestor,
    .word selection, .word target, .word property, .pad 4]
    (fun order => by simp [encodeSelectionRequestEvent, eventHead])
    (by simp [Item.field, Field.size]) rfl

theorem tableAgrees_colormapNotify (window colormap : UInt32) (new installed : Bool) :
    TableAgrees (encodeColormapNotifyEvent sequence · window colormap new installed) :=
  .of_items 32 [.byte 0, .half sequence, .word window, .word colormap, .byte new.toUInt8,
    .byte installed.toUInt8, .pad 18]
    (fun order => by simp [encodeColormapNotifyEvent, eventHead])
    (by simp [Item.field, Field.size]) rfl

theorem tableAgrees_mappingNotify (request firstKeycode count : UInt8) :
    TableAgrees (writeMappingNotifyEvent sequence · request firstKeycode count) :=
  .of_items 34 [.byte 0, .half sequence, .byte request, .byte firstKeycode, .byte count,
    .pad 25]
    (fun order => by simp [writeMappingNotifyEvent, eventHead])
    (by simp [Item.field, Field.size]) rfl

theorem CoreEvent.tableAgrees (e : CoreEvent) : TableAgrees (e.encode sequence) := by
  cases e with
  | key => exact tableAgrees_key ..
  | buttonPress e => exact tableAgrees_pointer e rfl
  | buttonRelease e => exact tableAgrees_pointer e rfl
  | motionNotify e => exact tableAgrees_pointer e rfl
  | enterNotify e => exact tableAgrees_crossing e rfl
  | leaveNotify e => exact tableAgrees_crossing e rfl
  | focus => exact tableAgrees_focus ..
  | expose => exact tableAgrees_expose ..
  | graphicsExpose => exact tableAgrees_graphicsExpose ..
  | noExposure => exact tableAgrees_noExposure ..
  | visibilityNotify => exact tableAgrees_visibilityNotify ..
  | createNotify => exact tableAgrees_createNotify ..
  | destroyNotify => exact tableAgrees_destroyNotify ..
  | unmapNotify => exact tableAgrees_unmapNotify ..
  | mapNotify => exact tableAgrees_mapNotify ..
  | mapRequest => exact tableAgrees_mapRequest ..
  | reparentNotify => exact tableAgrees_reparentNotify ..
  | configureNotify => exact tableAgrees_configureNotify ..
  | configureRequest => exact tableAgrees_configureRequest ..
  | circulateNotify => exact tableAgrees_circulateNotify ..
  | circulateRequest => exact tableAgrees_circulateRequest ..
  | propertyNotify => exact tableAgrees_propertyNotify ..
  | selectionClear => exact tableAgrees_selectionClear ..
  | selectionRequest => exact tableAgrees_selectionRequest ..
  | colormapNotify => exact tableAgrees_colormapNotify ..
  | clientMessage => exact tableAgrees_clientMessage ..
  | mappingNotify => exact tableAgrees_mappingNotify ..

end Encoders

/-- The template of the event for a failed conversion. -/
theorem selectionNotifyTemplate_items (time requestor selection target : UInt32) :
    ∃ items : List Item,
      selectionNotifyTemplate time requestor selection target =
        Layout.bytes .littleEndian items ∧
      coreEventSwapTable 31 = fieldEntries 0 (items.map Item.field) :=
  ⟨[.byte 31, .byte 0, .half 0, .word time, .word requestor, .word selection, .word target,
    .word 0, .pad 8], rfl, rfl⟩

/-! ## SendEvent -/

namespace EventState

/-- What reaches a receiver, 32 bytes: the record up to its data in the byte order of the
receiver, with its sequence number and the bit of a sent event, and the data as
it stands in the event. The whole reads as the record unless there is data whose
bytes the two read in different orders. -/
def Delivers (r : EventRecord) (event : Vector UInt8 32) (sender : ClientByteOrder)
    (receiver : EventClient) (sent : List UInt8) : Prop :=
  let delivered := r.delivered receiver.lastSequence
  sent.length = 32 ∧
  (∃ front, sent = front ++ event.toList.drop front.length ∧
    Matches front (Layout.encode receiver.byteOrder delivered.front) ∧
    Matches (event.toList.drop front.length) (Layout.encode sender r.data)) ∧
  (Matches sent (delivered.encode receiver.byteOrder) ↔
    sender = receiver.byteOrder ∨ ∀ i ∈ r.data, i.Symmetric)

/-- `sent` is the event with the bit that says so. -/
theorem rawEventFor_delivers {r : EventRecord} (hr : r.WellFormed) {sender : ClientByteOrder}
    {event sent : Vector UInt8 32} (hevent : Matches event.toList (r.encode sender))
    (hset : sent.toList = event.toList.set 0 (r.code ||| 0x80)) (receiver : EventClient) :
    Delivers r event sender receiver (rawEventFor receiver sent sender) := by
  have hsent : Matches sent.toList (r.sent.encode sender) := hset ▸ matches_sent hevent
  obtain ⟨front, hle, heq, hfront, hdata⟩ := rawEventFor_eq hr.sent hsent receiver
  -- the bit is in the first byte, which is not in the data
  have hpos : 0 < front.length := by
    rw [hfront.length_eq]
    cases receiver.byteOrder <;> exact Nat.succ_pos _
  rw [hset, List.drop_set_of_lt hpos] at heq hdata
  refine ⟨?_, ⟨front, heq, hfront, hdata⟩, rawEventFor_matches_iff hr.sent hsent receiver⟩
  rw [heq, List.length_append, List.length_drop, event.length_toList]
  omega

/-- For every event other than KeymapNotify, a SendEvent hands each receiver one
event that carries the record of the sender, and nothing to anybody else. The
tables agree with the encoders of the server. -/
theorem handleSendEvent_transparent :
    (∀ (s : EventState) (client : ClientId) (sender : EventClient) (propagate : UInt8)
        (body : List UInt8) (req : SendEventRequest) (r : EventRecord) (target : ClientId)
        (receiver : EventClient),
      s.clients[client]? = some sender → sendEventRequest propagate body = some req →
      r.WellFormed → Matches req.event.toList (r.encode sender.byteOrder) →
      s.clients[target]? = some receiver →
      ∃ sent, Delivers r req.event sender.byteOrder receiver sent ∧
        (s.handleSendEvent client propagate body).clients[target]? =
          some (if target ∈ s.sendEventTargets req then
            { receiver with queued := receiver.queued ++ sent } else receiver)) ∧
    (∀ (sequence : UInt16) (e : CoreEvent), TableAgrees (e.encode sequence)) ∧
    ∀ time requestor selection target : UInt32, ∃ items : List Item,
      selectionNotifyTemplate time requestor selection target =
        Layout.bytes .littleEndian items ∧
      coreEventSwapTable 31 = fieldEntries 0 (items.map Item.field) := by
  refine ⟨fun s client sender propagate body req r target receiver hsender hreq hr hevent
    htarget => ?_, CoreEvent.tableAgrees, selectionNotifyTemplate_items⟩
  have hset : (req.event.set 0 (req.event[0] ||| 0x80)).toList =
      req.event.toList.set 0 (r.code ||| 0x80) := by
    have hcode : req.event[0] = r.code := by simpa using code_eq hevent
    rw [Vector.toList_set, hcode]
  refine ⟨_, rawEventFor_delivers hr hevent hset receiver, ?_⟩
  simp only [handleSendEvent, hreq, hsender, Option.elim_some]
  rw [fanoutRawEventToClients_get, htarget]
  rfl

/-- A little-endian client with the first id and a big-endian one with the second, that
wants the events of the root window. -/
def twoClients : EventState where
  resources := .default
  clients := ((∅ : Std.ExtTreeMap ClientId EventClient).insert 1
    ⟨.littleEndian, 7, ∅, [], []⟩).insert 2 ⟨.bigEndian, 9, (∅ : ResourceMap UInt32).insert
      ROOT_WINDOW 1, [], []⟩

/-- A ClientMessage to all that want the events of the root window. -/
def clientMessageBody (format : UInt8) : List UInt8 :=
  u32LeBytes 0xffffffff ++ u32LeBytes 1 ++
    [33, format, 0, 0] ++ u32LeBytes 0x200001 ++ u32LeBytes 300 ++ u32LeBytes 1 ++
    List.replicate 16 0

def clientMessageEvent (format : UInt8) : Vector UInt8 32 :=
  ⟨(((clientMessageBody format).drop 8).take 32).toArray, rfl⟩

def clientMessageRequest (format : UInt8) : SendEventRequest :=
  ⟨false, 0xffffffff, 1, clientMessageEvent format⟩

theorem handleSendEvent_transparent_bytes :
    ∃ sent, Delivers ⟨33, 8, 0, [.word 0x200001, .word 300],
        .byte 1 :: List.replicate 19 (.byte 0)⟩ (clientMessageEvent 8) .littleEndian
        ⟨.bigEndian, 9, (∅ : ResourceMap UInt32).insert ROOT_WINDOW 1, [], []⟩ sent ∧
      (twoClients.handleSendEvent 1 0 (clientMessageBody 8)).clients[(2 : ClientId)]? =
        some (if 2 ∈ twoClients.sendEventTargets (clientMessageRequest 8) then
          ⟨.bigEndian, 9, (∅ : ResourceMap UInt32).insert ROOT_WINDOW 1, [], [] ++ sent⟩
        else ⟨.bigEndian, 9, (∅ : ResourceMap UInt32).insert ROOT_WINDOW 1, [], []⟩) :=
  handleSendEvent_transparent.1 twoClients 1 ⟨.littleEndian, 7, ∅, [], []⟩ 0
    (clientMessageBody 8) (clientMessageRequest 8) _ 2 _ rfl rfl
    ⟨_, rfl, by simp [Field.Admits], by simp [Field.Admits]⟩ (by decide) rfl

/-- The first word of the data, a one, comes as one of 2 ^ 24. -/
theorem clientMessage_word_swapped :
    ∃ r : EventRecord, r.WellFormed ∧
      Matches (clientMessageEvent 32).toList (r.encode .littleEndian) ∧
      sendEventRequest 0 (clientMessageBody 32) = some (clientMessageRequest 32) ∧
      twoClients.sendEventTargets (clientMessageRequest 32) = [2] ∧
      ∃ sent, (twoClients.handleSendEvent 1 0 (clientMessageBody 32)).clients[(2 : ClientId)]?.map
          (·.queued) = some sent ∧
        ¬ Matches sent ((r.delivered 9).encode .bigEndian) ∧
        Matches sent (({ r with data := .word (2 ^ 24) :: r.data.tail }.delivered 9).encode
          .bigEndian) :=
  ⟨⟨33, 32, 0, [.word 0x200001, .word 300], .word 1 :: List.replicate 4 (.word 0)⟩,
    ⟨_, rfl, by simp [Field.Admits], by simp [Field.Admits]⟩, by decide, rfl, by decide,
    _, rfl, by decide, by decide⟩

end EventState

end X12

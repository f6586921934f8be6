import X12.Protocol.Events
import X12.Protocol.RequestLayout

/-! # The layouts of core events

The fields of each core event as the protocol gives them, and the records that a
client fills them with. KeymapNotify has no sequence number and is left out. -/

namespace X12

open Layout (Field Item)

open Proto in
/-- The fields after the sequence number, and those of the data of a
ClientMessage, whose width is the format in its second byte. -/
def eventLayout (type detail : UInt8) : Option (List Field × List Field) :=
  match type with
  | 2 | 3 | 4 | 5 | 6 => -- keys, buttons and motion
    some ([TIMESTAMP, XID, XID, XID, INT16, INT16, INT16, INT16, CARD16, BOOL, UNUSED 1], [])
  | 7 | 8 => -- EnterNotify, LeaveNotify
    some ([TIMESTAMP, XID, XID, XID, INT16, INT16, INT16, INT16, CARD16, CARD8, CARD8], [])
  | 9 | 10 => -- FocusIn, FocusOut
    some ([XID, CARD8, UNUSED 23], [])
  | 12 => -- Expose
    some ([XID, CARD16, CARD16, CARD16, CARD16, CARD16, UNUSED 14], [])
  | 13 => -- GraphicsExposure
    some ([XID, CARD16, CARD16, CARD16, CARD16, CARD16, CARD16, CARD8, UNUSED 11], [])
  | 14 => -- NoExposure
    some ([XID, CARD16, CARD8, UNUSED 21], [])
  | 15 => -- VisibilityNotify
    some ([XID, CARD8, UNUSED 23], [])
  | 16 => -- CreateNotify
    some ([XID, XID, INT16, INT16, CARD16, CARD16, CARD16, BOOL, UNUSED 9], [])
  | 17 | 20 => -- DestroyNotify, MapRequest
    some ([XID, XID, UNUSED 20], [])
  | 18 | 19 => -- UnmapNotify, MapNotify
    some ([XID, XID, BOOL, UNUSED 19], [])
  | 21 => -- ReparentNotify
    some ([XID, XID, XID, INT16, INT16, BOOL, UNUSED 11], [])
  | 22 => -- ConfigureNotify
    some ([XID, XID, XID, INT16, INT16, CARD16, CARD16, CARD16, BOOL, UNUSED 5], [])
  | 23 => -- ConfigureRequest
    some ([XID, XID, XID, INT16, INT16, CARD16, CARD16, CARD16, CARD16, UNUSED 4], [])
  | 24 => -- GravityNotify
    some ([XID, XID, INT16, INT16, UNUSED 16], [])
  | 25 => -- ResizeRequest
    some ([XID, CARD16, CARD16, UNUSED 20], [])
  | 26 | 27 => -- CirculateNotify, CirculateRequest
    some ([XID, XID, UNUSED 4, CARD8, UNUSED 15], [])
  | 28 => -- PropertyNotify
    some ([XID, ATOM, TIMESTAMP, CARD8, UNUSED 15], [])
  | 29 => -- SelectionClear
    some ([TIMESTAMP, XID, ATOM, UNUSED 16], [])
  | 30 => -- SelectionRequest
    some ([TIMESTAMP, XID, XID, ATOM, ATOM, ATOM, UNUSED 4], [])
  | 31 => -- SelectionNotify
    some ([TIMESTAMP, XID, ATOM, ATOM, ATOM, UNUSED 8], [])
  | 32 => -- ColormapNotify
    some ([XID, XID, BOOL, CARD8, UNUSED 18], [])
  | 33 => -- ClientMessage
    if detail = 8 then some ([XID, ATOM], List.replicate 20 CARD8)
    else if detail = 16 then some ([XID, ATOM], List.replicate 10 CARD16)
    else if detail = 32 then some ([XID, ATOM], List.replicate 5 CARD32)
    else none
  | 34 => -- MappingNotify
    some ([CARD8, CARD8, CARD8, UNUSED 25], [])
  | _ => none

/-- The code, the byte behind it and the sequence number. -/
def eventHeadLayout : List Field :=
  [Proto.CARD8, Proto.CARD8, Proto.CARD16]

/-- The table of the halves and the words among the fields. -/
def fieldEntries : Nat → List Field → List FieldEntry
  | _, [] => []
  | offset, .half :: fields => .fixed offset .U16 :: fieldEntries (offset + 2) fields
  | offset, .word :: fields => .fixed offset .U32 :: fieldEntries (offset + 4) fields
  | offset, f :: fields => fieldEntries (offset + f.size) fields

/-- An event as a client means it. The highest bit of the code says that the
event was sent by a client. -/
structure EventRecord where
  code : UInt8
  detail : UInt8
  sequence : UInt16
  fields : List Item
  data : List Item

namespace EventRecord

def type (r : EventRecord) : UInt8 :=
  r.code &&& 0x7f

def items (r : EventRecord) : List Item :=
  .byte r.code :: .byte r.detail :: .half r.sequence :: (r.fields ++ r.data)

def encode (order : ClientByteOrder) (r : EventRecord) : List (Option UInt8) :=
  Layout.encode order r.items

/-- The record has the fields of its type. -/
def WellFormed (r : EventRecord) : Prop :=
  ∃ layout, eventLayout r.type r.detail = some layout ∧
    List.Forall₂ Field.Admits layout.1 r.fields ∧ List.Forall₂ Field.Admits layout.2 r.data

/-- The record with the bit of a sent event and another sequence number. -/
def delivered (sequence : UInt16) (r : EventRecord) : EventRecord :=
  { r with code := r.code ||| 0x80, sequence := sequence }

end EventRecord

end X12

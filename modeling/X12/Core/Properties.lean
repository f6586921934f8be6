import X12.Core.Create
import X12.Protocol.Replies
import X12.Protocol.RequestSwap

/-! # Window properties

ChangeProperty and GetProperty, from the bytes that a client sends to the bytes
that it gets back. -/

namespace X12

def MAX_PROPERTY_BYTES : Nat := 64 * 1024 * 1024

inductive PropertyFormat where
  | F8 | F16 | F32
  deriving DecidableEq, Repr

namespace PropertyFormat

def fromProtocol (v : UInt8) : Option PropertyFormat :=
  if v = 8 then some .F8 else if v = 16 then some .F16 else if v = 32 then some .F32 else none

def bytes : PropertyFormat → Nat
  | .F8 => 1
  | .F16 => 2
  | .F32 => 4

def protocolValue : PropertyFormat → UInt8
  | .F8 => 8
  | .F16 => 16
  | .F32 => 32

end PropertyFormat

structure PropertyValue where
  type : AtomId
  format : PropertyFormat
  data : List UInt8
  deriving DecidableEq, Repr

inductive ChangeMode where
  | Replace | Prepend | Append
  deriving DecidableEq, Repr

namespace ChangeMode

def fromProtocol (v : UInt8) : Option ChangeMode :=
  if v = 0 then some .Replace else if v = 1 then some .Prepend else if v = 2 then some .Append
  else none

def protocolValue : ChangeMode → UInt8
  | .Replace => 0
  | .Prepend => 1
  | .Append => 2

end ChangeMode

inductive ChangePropertyError where
  | BadValue | BadMatch | BadAlloc
  deriving DecidableEq, Repr

/-- The new value of a property. -/
def applyChange (existing : Option PropertyValue) (mode : ChangeMode) (newType : AtomId)
    (format : PropertyFormat) (data : List UInt8) : Except ChangePropertyError PropertyValue :=
  let fits (combined : List UInt8) : Except ChangePropertyError PropertyValue :=
    if combined.length > MAX_PROPERTY_BYTES then .error .BadAlloc
    else .ok ⟨newType, format, combined⟩
  match mode, existing with
  | .Replace, _ => fits data
  | _, none => fits data
  | .Prepend, some v =>
    if v.type ≠ newType ∨ v.format ≠ format then .error .BadMatch else fits (data ++ v.data)
  | .Append, some v =>
    if v.type ≠ newType ∨ v.format ≠ format then .error .BadMatch else fits (v.data ++ data)

structure GetPropertySlice where
  type : AtomId
  format : UInt8
  bytesAfter : UInt32
  value : List UInt8
  deriving DecidableEq, Repr

/-- The part of a value that a GetProperty asks for, offset and length counted
in four bytes. -/
def sliceForGet (property : Option PropertyValue) (requestedType : AtomId)
    (longOffset longLength : UInt32) : Except ChangePropertyError GetPropertySlice :=
  match property with
  | none => .ok ⟨0, 0, 0, []⟩
  | some p =>
    let total := p.data.length
    if requestedType ≠ 0 ∧ requestedType ≠ p.type then
      .ok ⟨p.type, p.format.protocolValue, UInt32.ofNat total, []⟩
    else
      let offsetBytes := longOffset.toNat * 4
      if offsetBytes > total then .error .BadValue
      else
        let remaining := total - offsetBytes
        let wanted := min remaining (longLength.toNat * 4)
        let lenToReturn := wanted - wanted % p.format.bytes
        .ok ⟨p.type, p.format.protocolValue, UInt32.ofNat (remaining - lenToReturn),
          (p.data.drop offsetBytes).take lenToReturn⟩

/-! ## Requests -/

def u32At (body : List UInt8) (i : Nat) : Option UInt32 :=
  if i + 4 ≤ body.length then some (UInt32.ofNat (readU32Le body i)) else none

structure ChangePropertyRequest where
  mode : UInt8
  window : ResourceId
  property : AtomId
  type : AtomId
  format : UInt8
  data : List UInt8
  length : UInt32
  deriving DecidableEq, Repr

/-- The data of an invalid format is whatever is left of the body. -/
def changePropertyRequest (headerData : UInt8) (body : List UInt8) :
    Option ChangePropertyRequest := do
  let window ← u32At body 0
  let property ← u32At body 4
  let type ← u32At body 8
  let format ← body[12]?
  let length ← u32At body 16
  let data ←
    match PropertyFormat.fromProtocol format with
    | some f =>
      if 20 + length.toNat * f.bytes ≤ body.length then
        some ((body.drop 20).take (length.toNat * f.bytes))
      else none
    | none => some (body.drop 20)
  return ⟨headerData, window, property, type, format, data, length⟩

structure DeletePropertyRequest where
  window : ResourceId
  property : AtomId
  deriving DecidableEq, Repr

def deletePropertyRequest (body : List UInt8) : Option DeletePropertyRequest := do
  let window ← u32At body 0
  let property ← u32At body 4
  return ⟨window, property⟩

structure GetPropertyRequest where
  delete : Bool
  window : ResourceId
  property : AtomId
  type : AtomId
  longOffset : UInt32
  longLength : UInt32
  deriving DecidableEq, Repr

def getPropertyRequest (headerData : UInt8) (body : List UInt8) : Option GetPropertyRequest := do
  let window ← u32At body 0
  let property ← u32At body 4
  let type ← u32At body 8
  let longOffset ← u32At body 12
  let longLength ← u32At body 16
  return ⟨headerData ≠ 0, window, property, type, longOffset, longLength⟩

/-! ## The state -/

/-- The windows, the interned atoms, the byte order of each client and the
properties of each window. -/
structure PropertyState where
  resources : ResourceTable
  atomNames : Std.ExtTreeMap AtomId String
  byteOrders : Std.ExtTreeMap ClientId ClientByteOrder
  properties : ResourceMap (Std.ExtTreeMap AtomId PropertyValue)

namespace PropertyState

/-- The atoms up to 68 have predefined names. -/
def atomExists (s : PropertyState) (atom : AtomId) : Bool :=
  atom ≠ 0 && (atom ≤ 68 || s.atomNames.contains atom)

def windowProperties (s : PropertyState) (window : ResourceId) :
    Std.ExtTreeMap AtomId PropertyValue :=
  (s.properties[window]?).getD ∅

def windowProperty (s : PropertyState) (window : ResourceId) (atom : AtomId) :
    Option PropertyValue :=
  if s.resources.windows.contains window then (s.windowProperties window)[atom]? else none

def setWindowProperty (s : PropertyState) (window : ResourceId) (atom : AtomId)
    (value : PropertyValue) : PropertyState :=
  if s.resources.windows.contains window then
    { s with properties :=
        s.properties.insert window ((s.windowProperties window).insert atom value) }
  else s

def deleteWindowProperty (s : PropertyState) (window : ResourceId) (atom : AtomId) :
    PropertyState :=
  if s.resources.windows.contains window then
    { s with properties := s.properties.insert window ((s.windowProperties window).erase atom) }
  else s

/-! ## Handlers -/

def handleChangeProperty (s : PropertyState) (headerData : UInt8) (body : List UInt8) :
    PropertyState × Option Refusal :=
  match changePropertyRequest headerData body with
  | none => (s, emitX11Error BAD_LENGTH 0 18)
  | some req =>
    match ChangeMode.fromProtocol req.mode, PropertyFormat.fromProtocol req.format with
    | none, _ => (s, emitX11Error BAD_VALUE req.mode.toUInt32 18)
    | some _, none => (s, emitX11Error BAD_VALUE req.format.toUInt32 18)
    | some mode, some format =>
      if req.length.toNat * format.bytes ≠ req.data.length then (s, emitX11Error BAD_LENGTH 0 18)
      else if !s.resources.windows.contains req.window then
        (s, emitX11Error BAD_WINDOW req.window 18)
      else if !s.atomExists req.property then (s, emitX11Error BAD_ATOM req.property 18)
      else if !s.atomExists req.type then (s, emitX11Error BAD_ATOM req.type 18)
      else
        match applyChange (s.windowProperty req.window req.property) mode req.type format
          req.data with
        | .error .BadMatch => (s, emitX11Error BAD_MATCH req.window 18)
        | .error .BadAlloc => (s, emitX11Error BAD_ALLOC 0 18)
        | .error .BadValue => (s, emitX11Error BAD_VALUE 0 18)
        | .ok value => (s.setWindowProperty req.window req.property value, none)

def handleDeleteProperty (s : PropertyState) (body : List UInt8) :
    PropertyState × Option Refusal :=
  match deletePropertyRequest body with
  | none => (s, emitX11Error BAD_LENGTH 0 19)
  | some req =>
    if !s.resources.windows.contains req.window then (s, emitX11Error BAD_WINDOW req.window 19)
    else (s.deleteWindowProperty req.window req.property, none)

/-- The state after a GetProperty, the reply and how it was turned away if it was. -/
structure GetPropertyOutcome where
  state : PropertyState
  reply : Option (List UInt8)
  refusal : Option Refusal

/-- The checks of `handle_get_property` before the value is looked up. -/
def getPropertyRefusal (s : PropertyState) (req : GetPropertyRequest) : Option Refusal :=
  if !s.resources.windows.contains req.window then emitX11Error BAD_WINDOW req.window 20
  else if !s.atomExists req.property then emitX11Error BAD_ATOM req.property 20
  else if req.type ≠ 0 && !s.atomExists req.type then emitX11Error BAD_ATOM req.type 20
  else none

/-- The property is deleted when its last bytes have been read. -/
def deleteAfterGet (s : PropertyState) (req : GetPropertyRequest) (bytesAfter : UInt32) :
    PropertyState :=
  match s.windowProperty req.window req.property with
  | none => s
  | some p =>
    if req.delete ∧ (req.type = 0 ∨ req.type = p.type) ∧ bytesAfter = 0 then
      s.deleteWindowProperty req.window req.property
    else s

def handleGetProperty (s : PropertyState) (client : ClientId) (sequence : UInt16)
    (headerData : UInt8) (body : List UInt8) : GetPropertyOutcome :=
  let byteOrder := (s.byteOrders[client]?).getD .littleEndian
  match getPropertyRequest headerData body with
  | none => ⟨s, none, emitX11Error BAD_LENGTH 0 20⟩
  | some req =>
    match s.getPropertyRefusal req with
    | some refusal => ⟨s, none, some refusal⟩
    | none =>
      match sliceForGet (s.windowProperty req.window req.property) req.type req.longOffset
        req.longLength with
      | .error _ => ⟨s, none, emitX11Error BAD_VALUE req.longOffset 20⟩
      | .ok slice =>
        let valueLen :=
          if slice.format = 0 then 0
          else UInt32.ofNat slice.value.length / (slice.format / 8).toUInt32
        match writeGetPropertyReply byteOrder sequence
          ⟨slice.format, slice.type, slice.bytesAfter, valueLen, slice.value⟩ with
        | none => ⟨s, none, none⟩
        | some reply =>
          ⟨s.deleteAfterGet req slice.bytesAfter,
            if s.byteOrders.contains client then some reply else none, none⟩

/-- A request as it comes from a client: the reader of the client brings the
body into the order that the handlers expect. -/
def receiveChangeProperty (s : PropertyState) (byteOrder : ClientByteOrder) (mode : UInt8)
    (body : List UInt8) : PropertyState × Option Refusal :=
  s.handleChangeProperty mode (swapRequestBody 18 mode byteOrder body)

def receiveGetProperty (s : PropertyState) (client : ClientId) (byteOrder : ClientByteOrder)
    (sequence : UInt16) (delete : UInt8) (body : List UInt8) : GetPropertyOutcome :=
  s.handleGetProperty client sequence delete (swapRequestBody 20 delete byteOrder body)

end PropertyState

end X12
